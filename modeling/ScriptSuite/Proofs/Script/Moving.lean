import ScriptSuite.Script.Parser

set_option autoImplicit false

namespace ScriptSuite.Script

class Movable (α : Type) where
  moved : Nat → α → α

variable {α β σ : Type}

section

variable [Movable α] [Movable β] [Movable σ]

instance : Movable Nat := ⟨fun distance offset => offset + distance⟩

instance : Movable Bool := ⟨fun _ value => value⟩

instance : Movable String := ⟨fun _ value => value⟩

instance : Movable Unit := ⟨fun _ value => value⟩

instance : Movable Context := ⟨fun _ value => value⟩

instance : Movable MethodKind := ⟨fun _ value => value⟩

instance : Movable MethodModifiers := ⟨fun _ value => value⟩

instance : Movable ImportSpecifier := ⟨fun _ value => value⟩

instance : Movable Span := ⟨Span.shift⟩

instance : Movable (List α) := ⟨fun distance values => values.map (Movable.moved distance)⟩

instance : Movable (Option α) := ⟨fun distance value => value.map (Movable.moved distance)⟩

instance : Movable (α × β) := ⟨fun distance value => (Movable.moved distance value.1, Movable.moved distance value.2)⟩

instance : Movable (Spanned α) := ⟨fun distance value => ⟨Movable.moved distance value.node, value.span.shift distance⟩⟩

def Round.moved (distance : Nat) : Round σ α → Round σ α
  | .again state => .again (Movable.moved distance state)
  | .done result => .done (Movable.moved distance result)

instance : Movable (Round σ α) := ⟨Round.moved⟩

end

def TemplatePart.moved (distance : Nat) : TemplatePart → TemplatePart
  | .text value => .text value
  | .substitution source offset => .substitution source (offset + distance)

instance : Movable TemplatePart := ⟨TemplatePart.moved⟩

def TokenKind.moved (distance : Nat) : TokenKind → TokenKind
  | .template parts => .template (Movable.moved distance parts)
  | kind => kind

instance : Movable TokenKind := ⟨TokenKind.moved⟩

def Token.moved (distance : Nat) (token : Token) : Token :=
  ⟨token.kind.moved distance, token.span.shift distance, token.newlineBefore⟩

instance : Movable Token := ⟨Token.moved⟩

def Fault.moved (distance : Nat) : Fault → Fault
  | .unexpected wanted found => .unexpected wanted (found.moved distance)
  | fault => fault

def SyntaxError.moved (distance : Nat) (error : SyntaxError) : SyntaxError :=
  ⟨error.fault.moved distance, error.span.shift distance⟩

instance : Movable SyntaxError := ⟨SyntaxError.moved⟩

mutual

def Statement.moved (distance : Nat) : Statement → Statement
  | .var decl => .var (decl.moved distance)
  | .function function => .function (function.moved distance)
  | .classDecl decl => .classDecl (decl.moved distance)
  | .expr value => .expr (movedExpr distance value)
  | .block body => .block (movedBody distance body)
  | .conditional condition yes no =>
      .conditional (movedExpr distance condition) (movedStatement distance yes) (movedStatement? distance no)
  | .forLoop init test update body =>
      .forLoop (movedForInit? distance init) (movedExpr? distance test) (movedExpr? distance update)
        (movedStatement distance body)
  | .forEach left ofKeys right body =>
      .forEach (left.moved distance) ofKeys (movedExpr distance right) (movedStatement distance body)
  | .whileLoop condition body => .whileLoop (movedExpr distance condition) (movedStatement distance body)
  | .doWhile condition body => .doWhile (movedExpr distance condition) (movedStatement distance body)
  | .within object body => .within (movedExpr distance object) (movedStatement distance body)
  | .returns value => .returns (movedExpr? distance value)
  | .throws value => .throws (movedExpr distance value)
  | .tries block handler finalizer =>
      .tries (movedBody distance block) (movedCatchClause? distance handler) (movedBody? distance finalizer)
  | .switch discriminant cases => .switch (movedExpr distance discriminant) (movedCases distance cases)
  | .breaks label => .breaks label
  | .continues label => .continues label
  | .labeled label body => .labeled label (movedStatement distance body)
  | .imports specifiers source => .imports specifiers source
  | .exportsDeclaration declaration => .exportsDeclaration (movedStatement distance declaration)
  | .exportsDefault value => .exportsDefault (movedExpr distance value)
  | .exportsNamed names source => .exportsNamed names source
  | .exportsAll renamed source => .exportsAll renamed source
  | .debugger => .debugger
  | .empty => .empty
termination_by structural statement => statement

def VarDecl.moved (distance : Nat) : VarDecl → VarDecl
  | ⟨kind, declarators⟩ => ⟨kind, movedDeclarators distance declarators⟩
termination_by structural decl => decl

def Declarator.moved (distance : Nat) : Declarator → Declarator
  | ⟨target, init⟩ => ⟨movedPattern distance target, movedExpr? distance init⟩
termination_by structural decl => decl

def ForInit.moved (distance : Nat) : ForInit → ForInit
  | .var decl => .var (decl.moved distance)
  | .expr value => .expr (movedExpr distance value)
termination_by structural init => init

def CatchClause.moved (distance : Nat) : CatchClause → CatchClause
  | ⟨param, body⟩ => ⟨movedPattern? distance param, movedBody distance body⟩
termination_by structural clause => clause

def SwitchCase.moved (distance : Nat) : SwitchCase → SwitchCase
  | ⟨test, body⟩ => ⟨movedExpr? distance test, movedBody distance body⟩
termination_by structural clause => clause

def Pattern.moved (distance : Nat) : Pattern → Pattern
  | .ident name => .ident name
  | .object props => .object (movedPatternProps distance props)
  | .array items => .array (movedPatternItems distance items)
  | .withDefault target value => .withDefault (movedPattern distance target) (movedExpr distance value)
  | .rest target => .rest (movedPattern distance target)
termination_by structural pattern => pattern

def PatternProp.moved (distance : Nat) : PatternProp → PatternProp
  | .keyValue key value => .keyValue (key.moved distance) (movedPattern distance value)
  | .rest target => .rest (movedPattern distance target)
termination_by structural prop => prop

def Function.moved (distance : Nat) : Function → Function
  | ⟨name, params, body, isAsync, isGenerator⟩ =>
      ⟨name, movedPatterns distance params, movedBody distance body, isAsync, isGenerator⟩
termination_by structural function => function

def ArrowBody.moved (distance : Nat) : ArrowBody → ArrowBody
  | .expr value => .expr (movedExpr distance value)
  | .block body => .block (movedBody distance body)
termination_by structural body => body

def Class.moved (distance : Nat) : Class → Class
  | ⟨name, heritage, members⟩ => ⟨name, movedExpr? distance heritage, movedMembers distance members⟩
termination_by structural decl => decl

def ClassMember.moved (distance : Nat) : ClassMember → ClassMember
  | .method key kind isStatic function => .method (key.moved distance) kind isStatic (function.moved distance)
  | .field key isStatic value => .field (key.moved distance) isStatic (movedExpr? distance value)
  | .staticBlock body => .staticBlock (movedBody distance body)
termination_by structural member => member

def Expr.moved (distance : Nat) : Expr → Expr
  | .ident name => .ident name
  | .literal value => .literal value
  | .template template => .template (template.moved distance)
  | .tagged tag template => .tagged (movedExpr distance tag) (template.moved distance)
  | .array items => .array (movedItems distance items)
  | .object props => .object (movedProperties distance props)
  | .function function => .function (function.moved distance)
  | .arrow params body isAsync => .arrow (movedPatterns distance params) (body.moved distance) isAsync
  | .classExpr decl => .classExpr (decl.moved distance)
  | .unary op operand => .unary op (movedExpr distance operand)
  | .update op isPrefix target => .update op isPrefix (movedExpr distance target)
  | .binary left op right => .binary (movedExpr distance left) op (movedExpr distance right)
  | .assign target op value => .assign (movedExpr distance target) op (movedExpr distance value)
  | .conditional test consequent alternate =>
      .conditional (movedExpr distance test) (movedExpr distance consequent) (movedExpr distance alternate)
  | .call callee args optional => .call (movedExpr distance callee) (movedExprs distance args) optional
  | .new callee args => .new (movedExpr distance callee) (movedExprs distance args)
  | .member object property optional => .member (movedExpr distance object) (property.moved distance) optional
  | .sequence items => .sequence (movedExprs distance items)
  | .spread value => .spread (movedExpr distance value)
  | .await value => .await (movedExpr distance value)
  | .yield argument delegate => .yield (movedExpr? distance argument) delegate
  | .paren value => .paren (movedExpr distance value)
  | .this => .this
  | .super => .super
  | .metaProperty object property => .metaProperty object property
termination_by structural expr => expr

def Template.moved (distance : Nat) : Template → Template
  | ⟨quasis, exprs⟩ => ⟨quasis, movedExprs distance exprs⟩
termination_by structural template => template

def MemberProp.moved (distance : Nat) : MemberProp → MemberProp
  | .ident name => .ident name
  | .computed value => .computed (movedExpr distance value)
termination_by structural property => property

def Property.moved (distance : Nat) : Property → Property
  | .keyValue key value => .keyValue (key.moved distance) (movedExpr distance value)
  | .shorthand name => .shorthand name
  | .method key kind function => .method (key.moved distance) kind (function.moved distance)
  | .spread value => .spread (movedExpr distance value)
termination_by structural property => property

def PropKey.moved (distance : Nat) : PropKey → PropKey
  | .ident name => .ident name
  | .string value => .string value
  | .number value => .number value
  | .computed value => .computed (movedExpr distance value)
termination_by structural key => key

def movedStatement (distance : Nat) : Spanned Statement → Spanned Statement
  | ⟨statement, span⟩ => ⟨statement.moved distance, span.shift distance⟩
termination_by structural statement => statement

def movedStatement? (distance : Nat) : Option (Spanned Statement) → Option (Spanned Statement)
  | none => none
  | some statement => some (movedStatement distance statement)
termination_by structural statement => statement

def movedBody (distance : Nat) : List (Spanned Statement) → List (Spanned Statement)
  | [] => []
  | statement :: rest => movedStatement distance statement :: movedBody distance rest
termination_by structural body => body

def movedBody? (distance : Nat) : Option (List (Spanned Statement)) → Option (List (Spanned Statement))
  | none => none
  | some body => some (movedBody distance body)
termination_by structural body => body

def movedForInit? (distance : Nat) : Option ForInit → Option ForInit
  | none => none
  | some init => some (init.moved distance)
termination_by structural init => init

def movedCatchClause? (distance : Nat) : Option CatchClause → Option CatchClause
  | none => none
  | some clause => some (clause.moved distance)
termination_by structural clause => clause

def movedCases (distance : Nat) : List SwitchCase → List SwitchCase
  | [] => []
  | clause :: rest => clause.moved distance :: movedCases distance rest
termination_by structural cases => cases

def movedDeclarators (distance : Nat) : List Declarator → List Declarator
  | [] => []
  | decl :: rest => decl.moved distance :: movedDeclarators distance rest
termination_by structural declarators => declarators

def movedPattern (distance : Nat) : Spanned Pattern → Spanned Pattern
  | ⟨pattern, span⟩ => ⟨pattern.moved distance, span.shift distance⟩
termination_by structural pattern => pattern

def movedPattern? (distance : Nat) : Option (Spanned Pattern) → Option (Spanned Pattern)
  | none => none
  | some pattern => some (movedPattern distance pattern)
termination_by structural pattern => pattern

def movedPatterns (distance : Nat) : List (Spanned Pattern) → List (Spanned Pattern)
  | [] => []
  | pattern :: rest => movedPattern distance pattern :: movedPatterns distance rest
termination_by structural patterns => patterns

def movedPatternItems (distance : Nat) : List (Option (Spanned Pattern)) → List (Option (Spanned Pattern))
  | [] => []
  | item :: rest => movedPattern? distance item :: movedPatternItems distance rest
termination_by structural items => items

def movedPatternProps (distance : Nat) : List PatternProp → List PatternProp
  | [] => []
  | prop :: rest => prop.moved distance :: movedPatternProps distance rest
termination_by structural props => props

def movedMember (distance : Nat) : Spanned ClassMember → Spanned ClassMember
  | ⟨member, span⟩ => ⟨member.moved distance, span.shift distance⟩
termination_by structural member => member

def movedMembers (distance : Nat) : List (Spanned ClassMember) → List (Spanned ClassMember)
  | [] => []
  | member :: rest => movedMember distance member :: movedMembers distance rest
termination_by structural members => members

def movedExpr (distance : Nat) : Spanned Expr → Spanned Expr
  | ⟨expr, span⟩ => ⟨expr.moved distance, span.shift distance⟩
termination_by structural expr => expr

def movedExpr? (distance : Nat) : Option (Spanned Expr) → Option (Spanned Expr)
  | none => none
  | some expr => some (movedExpr distance expr)
termination_by structural expr => expr

def movedExprs (distance : Nat) : List (Spanned Expr) → List (Spanned Expr)
  | [] => []
  | expr :: rest => movedExpr distance expr :: movedExprs distance rest
termination_by structural exprs => exprs

def movedItems (distance : Nat) : List (Option (Spanned Expr)) → List (Option (Spanned Expr))
  | [] => []
  | item :: rest => movedExpr? distance item :: movedItems distance rest
termination_by structural items => items

def movedProperties (distance : Nat) : List Property → List Property
  | [] => []
  | property :: rest => property.moved distance :: movedProperties distance rest
termination_by structural properties => properties

end

instance : Movable Statement := ⟨Statement.moved⟩

instance : Movable VarDecl := ⟨VarDecl.moved⟩

instance : Movable Declarator := ⟨Declarator.moved⟩

instance : Movable ForInit := ⟨ForInit.moved⟩

instance : Movable CatchClause := ⟨CatchClause.moved⟩

instance : Movable SwitchCase := ⟨SwitchCase.moved⟩

instance : Movable Pattern := ⟨Pattern.moved⟩

instance : Movable PatternProp := ⟨PatternProp.moved⟩

instance : Movable Function := ⟨Function.moved⟩

instance : Movable ArrowBody := ⟨ArrowBody.moved⟩

instance : Movable Class := ⟨Class.moved⟩

instance : Movable ClassMember := ⟨ClassMember.moved⟩

instance : Movable Expr := ⟨Expr.moved⟩

instance : Movable Template := ⟨Template.moved⟩

instance : Movable MemberProp := ⟨MemberProp.moved⟩

instance : Movable Property := ⟨Property.moved⟩

instance : Movable PropKey := ⟨PropKey.moved⟩

def State.moved (distance : Nat) (state : State) : State :=
  ⟨Movable.moved distance state.rest, state.lastEnd + distance, Movable.moved distance state.recovered⟩

def Outcome.moved [Movable α] (distance : Nat) : Outcome α → Outcome α
  | .ok value state => .ok (Movable.moved distance value) (state.moved distance)
  | .error failure state => .error (failure.moved distance) (state.moved distance)

def Program.moved (distance : Nat) (program : Program) : Program :=
  ⟨Movable.moved distance program.body, Movable.moved distance program.recovered⟩

section

variable (distance : Nat)

@[simp] theorem moved_nat (offset : Nat) : Movable.moved distance offset = offset + distance := rfl

@[simp] theorem moved_bool (value : Bool) : Movable.moved distance value = value := rfl

@[simp] theorem moved_string (value : String) : Movable.moved distance value = value := rfl

@[simp] theorem moved_unit (value : Unit) : Movable.moved distance value = value := rfl

@[simp] theorem moved_context (value : Context) : Movable.moved distance value = value := rfl

@[simp] theorem moved_extent (value : Span) : Movable.moved distance value = value.shift distance := rfl

@[simp] theorem moved_token (value : Token) : Movable.moved distance value = value.moved distance := rfl

@[simp] theorem moved_import_specifier (value : ImportSpecifier) : Movable.moved distance value = value := rfl

@[simp] theorem moved_modifiers (value : MethodModifiers) : Movable.moved distance value = value := rfl

@[simp] theorem moved_method_kind (value : MethodKind) : Movable.moved distance value = value := rfl

@[simp] theorem moved_statement (value : Statement) : Movable.moved distance value = value.moved distance := rfl

@[simp] theorem moved_var_decl (value : VarDecl) : Movable.moved distance value = value.moved distance := rfl

@[simp] theorem moved_declarator (value : Declarator) : Movable.moved distance value = value.moved distance := rfl

@[simp] theorem moved_for_init (value : ForInit) : Movable.moved distance value = value.moved distance := rfl

@[simp] theorem moved_catch_clause (value : CatchClause) : Movable.moved distance value = value.moved distance := rfl

@[simp] theorem moved_switch_case (value : SwitchCase) : Movable.moved distance value = value.moved distance := rfl

@[simp] theorem moved_pattern (value : Pattern) : Movable.moved distance value = value.moved distance := rfl

@[simp] theorem moved_pattern_prop (value : PatternProp) : Movable.moved distance value = value.moved distance := rfl

@[simp] theorem moved_function (value : Function) : Movable.moved distance value = value.moved distance := rfl

@[simp] theorem moved_arrow_body (value : ArrowBody) : Movable.moved distance value = value.moved distance := rfl

@[simp] theorem moved_class (value : Class) : Movable.moved distance value = value.moved distance := rfl

@[simp] theorem moved_class_member (value : ClassMember) : Movable.moved distance value = value.moved distance := rfl

@[simp] theorem moved_expr (value : Expr) : Movable.moved distance value = value.moved distance := rfl

@[simp] theorem moved_template (value : Template) : Movable.moved distance value = value.moved distance := rfl

@[simp] theorem moved_member_prop (value : MemberProp) : Movable.moved distance value = value.moved distance := rfl

@[simp] theorem moved_property (value : Property) : Movable.moved distance value = value.moved distance := rfl

@[simp] theorem moved_prop_key (value : PropKey) : Movable.moved distance value = value.moved distance := rfl

variable [Movable α] [Movable β] [Movable σ]

@[simp] theorem moved_nil : Movable.moved distance ([] : List α) = [] := rfl

@[simp] theorem moved_cons (value : α) (rest : List α) :
    Movable.moved distance (value :: rest) = Movable.moved distance value :: Movable.moved distance rest := rfl

@[simp] theorem moved_append (left right : List α) :
    Movable.moved distance (left ++ right) = Movable.moved distance left ++ Movable.moved distance right :=
  List.map_append

@[simp] theorem moved_reverse (values : List α) :
    Movable.moved distance values.reverse = (Movable.moved distance values).reverse :=
  List.map_reverse

@[simp] theorem moved_length (values : List α) : (Movable.moved distance values).length = values.length :=
  List.length_map _

@[simp] theorem moved_none : Movable.moved distance (none : Option α) = none := rfl

@[simp] theorem moved_some (value : α) : Movable.moved distance (some value) = some (Movable.moved distance value) := rfl

@[simp] theorem moved_pair (left : α) (right : β) :
    Movable.moved distance (left, right) = (Movable.moved distance left, Movable.moved distance right) := rfl

@[simp] theorem moved_spanned (node : α) (span : Span) :
    Movable.moved distance (⟨node, span⟩ : Spanned α) = ⟨Movable.moved distance node, span.shift distance⟩ := rfl

@[simp] theorem moved_again (state : σ) :
    Movable.moved distance (.again state : Round σ α) = .again (Movable.moved distance state) := rfl

@[simp] theorem moved_done (result : α) :
    Movable.moved distance (.done result : Round σ α) = .done (Movable.moved distance result) := rfl

end

section

variable (distance : Nat)

@[simp] theorem moved_optional_string (value : Option String) : Movable.moved distance value = value := by
  cases value <;> rfl

@[simp] theorem moved_import_specifiers (values : List ImportSpecifier) : Movable.moved distance values = values :=
  List.map_id _

@[simp] theorem moved_names (values : List (String × String)) : Movable.moved distance values = values :=
  List.map_id _

end

section

variable (distance : Nat)

@[simp] theorem moved_expr_eq (expr : Spanned Expr) : movedExpr distance expr = Movable.moved distance expr := by
  cases expr
  rfl

@[simp] theorem moved_statement_eq (statement : Spanned Statement) :
    movedStatement distance statement = Movable.moved distance statement := by
  cases statement
  rfl

@[simp] theorem moved_pattern_eq (pattern : Spanned Pattern) :
    movedPattern distance pattern = Movable.moved distance pattern := by
  cases pattern
  rfl

@[simp] theorem moved_member_eq (member : Spanned ClassMember) :
    movedMember distance member = Movable.moved distance member := by
  cases member
  rfl

@[simp] theorem moved_optional_expr_eq (value : Option (Spanned Expr)) : movedExpr? distance value = Movable.moved distance value := by
  cases value <;> simp [movedExpr?]

@[simp] theorem moved_optional_statement_eq (value : Option (Spanned Statement)) :
    movedStatement? distance value = Movable.moved distance value := by
  cases value <;> simp [movedStatement?]

@[simp] theorem moved_optional_pattern_eq (value : Option (Spanned Pattern)) :
    movedPattern? distance value = Movable.moved distance value := by
  cases value <;> simp [movedPattern?]

@[simp] theorem moved_optional_for_init_eq (value : Option ForInit) : movedForInit? distance value = Movable.moved distance value := by
  cases value <;> simp [movedForInit?]

@[simp] theorem moved_optional_catch_clause_eq (value : Option CatchClause) :
    movedCatchClause? distance value = Movable.moved distance value := by
  cases value <;> simp [movedCatchClause?]

@[simp] theorem moved_body_eq (values : List (Spanned Statement)) : movedBody distance values = Movable.moved distance values := by
  induction values with
  | nil => rfl
  | cons value rest ih => simp [movedBody, ih]

@[simp] theorem moved_exprs_eq (values : List (Spanned Expr)) : movedExprs distance values = Movable.moved distance values := by
  induction values with
  | nil => rfl
  | cons value rest ih => simp [movedExprs, ih]

@[simp] theorem moved_patterns_eq (values : List (Spanned Pattern)) : movedPatterns distance values = Movable.moved distance values := by
  induction values with
  | nil => rfl
  | cons value rest ih => simp [movedPatterns, ih]

@[simp] theorem moved_members_eq (values : List (Spanned ClassMember)) : movedMembers distance values = Movable.moved distance values := by
  induction values with
  | nil => rfl
  | cons value rest ih => simp [movedMembers, ih]

@[simp] theorem moved_items_eq (values : List (Option (Spanned Expr))) : movedItems distance values = Movable.moved distance values := by
  induction values with
  | nil => rfl
  | cons value rest ih => simp [movedItems, ih]

@[simp] theorem moved_pattern_items_eq (values : List (Option (Spanned Pattern))) :
    movedPatternItems distance values = Movable.moved distance values := by
  induction values with
  | nil => rfl
  | cons value rest ih => simp [movedPatternItems, ih]

@[simp] theorem moved_pattern_props_eq (values : List PatternProp) : movedPatternProps distance values = Movable.moved distance values := by
  induction values with
  | nil => rfl
  | cons value rest ih => simp [movedPatternProps, ih]

@[simp] theorem moved_properties_eq (values : List Property) : movedProperties distance values = Movable.moved distance values := by
  induction values with
  | nil => rfl
  | cons value rest ih => simp [movedProperties, ih]

@[simp] theorem moved_cases_eq (values : List SwitchCase) : movedCases distance values = Movable.moved distance values := by
  induction values with
  | nil => rfl
  | cons value rest ih => simp [movedCases, ih]

@[simp] theorem moved_declarators_eq (values : List Declarator) : movedDeclarators distance values = Movable.moved distance values := by
  induction values with
  | nil => rfl
  | cons value rest ih => simp [movedDeclarators, ih]

@[simp] theorem moved_optional_body_eq (value : Option (List (Spanned Statement))) :
    movedBody? distance value = Movable.moved distance value := by
  cases value <;> simp [movedBody?]

end

attribute [simp] Statement.moved VarDecl.moved Declarator.moved ForInit.moved CatchClause.moved SwitchCase.moved
  Pattern.moved PatternProp.moved Function.moved ArrowBody.moved Class.moved ClassMember.moved Expr.moved Template.moved
  MemberProp.moved Property.moved PropKey.moved

theorem moved_merge (distance : Nat) (one two : Span) :
    (one.shift distance).merge (two.shift distance) = (one.merge two).shift distance := by
  simp only [Span.merge, Span.shift, Span.mk.injEq]
  omega

theorem moved_message (distance : Nat) (error : SyntaxError) : (error.moved distance).message = error.message := by
  obtain ⟨fault, span⟩ := error
  cases fault with
  | unexpected wanted found => cases found <;> rfl
  | _ => rfl

end ScriptSuite.Script
