import ScriptSuite.Script.Parser

set_option autoImplicit false

namespace ScriptSuite.Script

class Spanless (α : Type) where
  bare : α → α

variable {α β σ : Type}

-- The same but for the places in the text.
def Alike [Spanless α] (one other : α) : Prop :=
  Spanless.bare one = Spanless.bare other

section

variable [Spanless α] [Spanless β] [Spanless σ]

instance : Spanless Nat := ⟨fun _ => 0⟩

instance : Spanless Bool := ⟨id⟩

instance : Spanless String := ⟨id⟩

instance : Spanless Unit := ⟨id⟩

instance : Spanless Context := ⟨id⟩

instance : Spanless MethodKind := ⟨id⟩

instance : Spanless MethodModifiers := ⟨id⟩

instance : Spanless ImportSpecifier := ⟨id⟩

instance : Spanless Span := ⟨fun _ => ⟨0, 0⟩⟩

instance : Spanless Token := ⟨fun token => { token with span := ⟨0, 0⟩ }⟩

instance : Spanless (List α) := ⟨fun values => values.map Spanless.bare⟩

instance : Spanless (Option α) := ⟨fun value => value.map Spanless.bare⟩

instance : Spanless (α × β) := ⟨fun value => (Spanless.bare value.1, Spanless.bare value.2)⟩

instance : Spanless (Spanned α) := ⟨fun value => ⟨Spanless.bare value.node, ⟨0, 0⟩⟩⟩

def Round.bare : Round σ α → Round σ α
  | .again state => .again (Spanless.bare state)
  | .done result => .done (Spanless.bare result)

instance : Spanless (Round σ α) := ⟨Round.bare⟩

end

mutual

def Statement.bare : Statement → Statement
  | .var decl => .var decl.bare
  | .function function => .function function.bare
  | .classDecl decl => .classDecl decl.bare
  | .expr value => .expr (bareExpr value)
  | .block body => .block (bareBody body)
  | .conditional condition yes no => .conditional (bareExpr condition) (bareStatement yes) (bareStatement? no)
  | .forLoop init test update body => .forLoop (bareForInit? init) (bareExpr? test) (bareExpr? update)
        (bareStatement body)
  | .forEach left ofKeys right body => .forEach left.bare ofKeys (bareExpr right) (bareStatement body)
  | .whileLoop condition body => .whileLoop (bareExpr condition) (bareStatement body)
  | .doWhile condition body => .doWhile (bareExpr condition) (bareStatement body)
  | .within object body => .within (bareExpr object) (bareStatement body)
  | .returns value => .returns (bareExpr? value)
  | .throws value => .throws (bareExpr value)
  | .tries block handler finalizer => .tries (bareBody block) (bareCatchClause? handler) (bareBody? finalizer)
  | .switch discriminant cases => .switch (bareExpr discriminant) (bareCases cases)
  | .breaks label => .breaks label
  | .continues label => .continues label
  | .labeled label body => .labeled label (bareStatement body)
  | .imports specifiers source => .imports specifiers source
  | .exportsDeclaration declaration => .exportsDeclaration (bareStatement declaration)
  | .exportsDefault value => .exportsDefault (bareExpr value)
  | .exportsNamed names source => .exportsNamed names source
  | .exportsAll renamed source => .exportsAll renamed source
  | .debugger => .debugger
  | .empty => .empty
termination_by structural statement => statement

def VarDecl.bare : VarDecl → VarDecl
  | ⟨kind, declarators⟩ => ⟨kind, bareDeclarators declarators⟩
termination_by structural decl => decl

def Declarator.bare : Declarator → Declarator
  | ⟨target, init⟩ => ⟨barePattern target, bareExpr? init⟩
termination_by structural decl => decl

def ForInit.bare : ForInit → ForInit
  | .var decl => .var decl.bare
  | .expr value => .expr (bareExpr value)
termination_by structural init => init

def CatchClause.bare : CatchClause → CatchClause
  | ⟨param, body⟩ => ⟨barePattern? param, bareBody body⟩
termination_by structural clause => clause

def SwitchCase.bare : SwitchCase → SwitchCase
  | ⟨test, body⟩ => ⟨bareExpr? test, bareBody body⟩
termination_by structural clause => clause

def Pattern.bare : Pattern → Pattern
  | .ident name => .ident name
  | .object props => .object (barePatternProps props)
  | .array items => .array (barePatternItems items)
  | .withDefault target value => .withDefault (barePattern target) (bareExpr value)
  | .rest target => .rest (barePattern target)
termination_by structural pattern => pattern

def PatternProp.bare : PatternProp → PatternProp
  | .keyValue key value => .keyValue key.bare (barePattern value)
  | .rest target => .rest (barePattern target)
termination_by structural prop => prop

def Function.bare : Function → Function
  | ⟨name, params, body, isAsync, isGenerator⟩ =>
      ⟨name, barePatterns params, bareBody body, isAsync, isGenerator⟩
termination_by structural function => function

def ArrowBody.bare : ArrowBody → ArrowBody
  | .expr value => .expr (bareExpr value)
  | .block body => .block (bareBody body)
termination_by structural body => body

def Class.bare : Class → Class
  | ⟨name, heritage, members⟩ => ⟨name, bareExpr? heritage, bareMembers members⟩
termination_by structural decl => decl

def ClassMember.bare : ClassMember → ClassMember
  | .method key kind isStatic function => .method key.bare kind isStatic function.bare
  | .field key isStatic value => .field key.bare isStatic (bareExpr? value)
  | .staticBlock body => .staticBlock (bareBody body)
termination_by structural member => member

def Expr.bare : Expr → Expr
  | .ident name => .ident name
  | .literal value => .literal value
  | .template template => .template template.bare
  | .tagged tag template => .tagged (bareExpr tag) template.bare
  | .array items => .array (bareItems items)
  | .object props => .object (bareProperties props)
  | .function function => .function function.bare
  | .arrow params body isAsync => .arrow (barePatterns params) body.bare isAsync
  | .classExpr decl => .classExpr decl.bare
  | .unary op operand => .unary op (bareExpr operand)
  | .update op isPrefix target => .update op isPrefix (bareExpr target)
  | .binary left op right => .binary (bareExpr left) op (bareExpr right)
  | .assign target op value => .assign (bareExpr target) op (bareExpr value)
  | .conditional test consequent alternate =>
      .conditional (bareExpr test) (bareExpr consequent) (bareExpr alternate)
  | .call callee args optional => .call (bareExpr callee) (bareExprs args) optional
  | .new callee args => .new (bareExpr callee) (bareExprs args)
  | .member object property optional => .member (bareExpr object) property.bare optional
  | .sequence items => .sequence (bareExprs items)
  | .spread value => .spread (bareExpr value)
  | .await value => .await (bareExpr value)
  | .yield argument delegate => .yield (bareExpr? argument) delegate
  | .paren value => .paren (bareExpr value)
  | .this => .this
  | .super => .super
  | .metaProperty object property => .metaProperty object property
termination_by structural expr => expr

def Template.bare : Template → Template
  | ⟨quasis, exprs⟩ => ⟨quasis, bareExprs exprs⟩
termination_by structural template => template

def MemberProp.bare : MemberProp → MemberProp
  | .ident name => .ident name
  | .computed value => .computed (bareExpr value)
termination_by structural property => property

def Property.bare : Property → Property
  | .keyValue key value => .keyValue key.bare (bareExpr value)
  | .shorthand name => .shorthand name
  | .method key kind function => .method key.bare kind function.bare
  | .spread value => .spread (bareExpr value)
termination_by structural property => property

def PropKey.bare : PropKey → PropKey
  | .ident name => .ident name
  | .string value => .string value
  | .number value => .number value
  | .computed value => .computed (bareExpr value)
termination_by structural key => key

def bareStatement : Spanned Statement → Spanned Statement
  | ⟨statement, _⟩ => ⟨statement.bare, ⟨0, 0⟩⟩
termination_by structural statement => statement

def bareStatement? : Option (Spanned Statement) → Option (Spanned Statement)
  | none => none
  | some statement => some (bareStatement statement)
termination_by structural statement => statement

def bareBody : List (Spanned Statement) → List (Spanned Statement)
  | [] => []
  | statement :: rest => bareStatement statement :: bareBody rest
termination_by structural body => body

def bareBody? : Option (List (Spanned Statement)) → Option (List (Spanned Statement))
  | none => none
  | some body => some (bareBody body)
termination_by structural body => body

def bareForInit? : Option ForInit → Option ForInit
  | none => none
  | some init => some init.bare
termination_by structural init => init

def bareCatchClause? : Option CatchClause → Option CatchClause
  | none => none
  | some clause => some clause.bare
termination_by structural clause => clause

def bareCases : List SwitchCase → List SwitchCase
  | [] => []
  | clause :: rest => clause.bare :: bareCases rest
termination_by structural cases => cases

def bareDeclarators : List Declarator → List Declarator
  | [] => []
  | decl :: rest => decl.bare :: bareDeclarators rest
termination_by structural declarators => declarators

def barePattern : Spanned Pattern → Spanned Pattern
  | ⟨pattern, _⟩ => ⟨pattern.bare, ⟨0, 0⟩⟩
termination_by structural pattern => pattern

def barePattern? : Option (Spanned Pattern) → Option (Spanned Pattern)
  | none => none
  | some pattern => some (barePattern pattern)
termination_by structural pattern => pattern

def barePatterns : List (Spanned Pattern) → List (Spanned Pattern)
  | [] => []
  | pattern :: rest => barePattern pattern :: barePatterns rest
termination_by structural patterns => patterns

def barePatternItems : List (Option (Spanned Pattern)) → List (Option (Spanned Pattern))
  | [] => []
  | item :: rest => barePattern? item :: barePatternItems rest
termination_by structural items => items

def barePatternProps : List PatternProp → List PatternProp
  | [] => []
  | prop :: rest => prop.bare :: barePatternProps rest
termination_by structural props => props

def bareMember : Spanned ClassMember → Spanned ClassMember
  | ⟨member, _⟩ => ⟨member.bare, ⟨0, 0⟩⟩
termination_by structural member => member

def bareMembers : List (Spanned ClassMember) → List (Spanned ClassMember)
  | [] => []
  | member :: rest => bareMember member :: bareMembers rest
termination_by structural members => members

def bareExpr : Spanned Expr → Spanned Expr
  | ⟨expr, _⟩ => ⟨expr.bare, ⟨0, 0⟩⟩
termination_by structural expr => expr

def bareExpr? : Option (Spanned Expr) → Option (Spanned Expr)
  | none => none
  | some expr => some (bareExpr expr)
termination_by structural expr => expr

def bareExprs : List (Spanned Expr) → List (Spanned Expr)
  | [] => []
  | expr :: rest => bareExpr expr :: bareExprs rest
termination_by structural exprs => exprs

def bareItems : List (Option (Spanned Expr)) → List (Option (Spanned Expr))
  | [] => []
  | item :: rest => bareExpr? item :: bareItems rest
termination_by structural items => items

def bareProperties : List Property → List Property
  | [] => []
  | property :: rest => property.bare :: bareProperties rest
termination_by structural properties => properties

end

instance : Spanless Statement := ⟨Statement.bare⟩

instance : Spanless VarDecl := ⟨VarDecl.bare⟩

instance : Spanless Declarator := ⟨Declarator.bare⟩

instance : Spanless ForInit := ⟨ForInit.bare⟩

instance : Spanless CatchClause := ⟨CatchClause.bare⟩

instance : Spanless SwitchCase := ⟨SwitchCase.bare⟩

instance : Spanless Pattern := ⟨Pattern.bare⟩

instance : Spanless PatternProp := ⟨PatternProp.bare⟩

instance : Spanless Function := ⟨Function.bare⟩

instance : Spanless ArrowBody := ⟨ArrowBody.bare⟩

instance : Spanless Class := ⟨Class.bare⟩

instance : Spanless ClassMember := ⟨ClassMember.bare⟩

instance : Spanless Expr := ⟨Expr.bare⟩

instance : Spanless Template := ⟨Template.bare⟩

instance : Spanless MemberProp := ⟨MemberProp.bare⟩

instance : Spanless Property := ⟨Property.bare⟩

instance : Spanless PropKey := ⟨PropKey.bare⟩

section

@[simp] theorem bare_nat (offset : Nat) : Spanless.bare offset = 0 := rfl

@[simp] theorem bare_bool (value : Bool) : Spanless.bare value = value := rfl

@[simp] theorem bare_context (value : Context) : Spanless.bare value = value := rfl

@[simp] theorem bare_modifiers (value : MethodModifiers) : Spanless.bare value = value := rfl

@[simp] theorem bare_extent (value : Span) : Spanless.bare value = ⟨0, 0⟩ := rfl

@[simp] theorem bare_statement (value : Statement) : Spanless.bare value = value.bare := rfl

@[simp] theorem bare_var_decl (value : VarDecl) : Spanless.bare value = value.bare := rfl

@[simp] theorem bare_declarator (value : Declarator) : Spanless.bare value = value.bare := rfl

@[simp] theorem bare_for_init (value : ForInit) : Spanless.bare value = value.bare := rfl

@[simp] theorem bare_catch_clause (value : CatchClause) : Spanless.bare value = value.bare := rfl

@[simp] theorem bare_switch_case (value : SwitchCase) : Spanless.bare value = value.bare := rfl

@[simp] theorem bare_pattern (value : Pattern) : Spanless.bare value = value.bare := rfl

@[simp] theorem bare_pattern_prop (value : PatternProp) : Spanless.bare value = value.bare := rfl

@[simp] theorem bare_function (value : Function) : Spanless.bare value = value.bare := rfl

@[simp] theorem bare_arrow_body (value : ArrowBody) : Spanless.bare value = value.bare := rfl

@[simp] theorem bare_class (value : Class) : Spanless.bare value = value.bare := rfl

@[simp] theorem bare_class_member (value : ClassMember) : Spanless.bare value = value.bare := rfl

@[simp] theorem bare_expr (value : Expr) : Spanless.bare value = value.bare := rfl

@[simp] theorem bare_template (value : Template) : Spanless.bare value = value.bare := rfl

@[simp] theorem bare_member_prop (value : MemberProp) : Spanless.bare value = value.bare := rfl

@[simp] theorem bare_property (value : Property) : Spanless.bare value = value.bare := rfl

@[simp] theorem bare_prop_key (value : PropKey) : Spanless.bare value = value.bare := rfl

variable [Spanless α] [Spanless β] [Spanless σ]

@[simp] theorem bare_nil : Spanless.bare ([] : List α) = [] := rfl

@[simp] theorem bare_cons (value : α) (rest : List α) :
    Spanless.bare (value :: rest) = Spanless.bare value :: Spanless.bare rest := rfl

@[simp] theorem bare_append (left right : List α) :
    Spanless.bare (left ++ right) = Spanless.bare left ++ Spanless.bare right :=
  List.map_append

@[simp] theorem bare_reverse (values : List α) : Spanless.bare values.reverse = (Spanless.bare values).reverse :=
  List.map_reverse

@[simp] theorem bare_none : Spanless.bare (none : Option α) = none := rfl

@[simp] theorem bare_some (value : α) : Spanless.bare (some value) = some (Spanless.bare value) := rfl

@[simp] theorem bare_pair (left : α) (right : β) :
    Spanless.bare (left, right) = (Spanless.bare left, Spanless.bare right) := rfl

@[simp] theorem bare_spanned (node : α) (span : Span) :
    Spanless.bare (⟨node, span⟩ : Spanned α) = ⟨Spanless.bare node, ⟨0, 0⟩⟩ := rfl

@[simp] theorem bare_done (result : α) : Spanless.bare (.done result : Round σ α) = .done (Spanless.bare result) := rfl

end

section

@[simp] theorem bare_optional_string (value : Option String) : Spanless.bare value = value := by
  cases value <;> rfl

@[simp] theorem bare_import_specifiers (values : List ImportSpecifier) : Spanless.bare values = values :=
  List.map_id _

@[simp] theorem bare_names (values : List (String × String)) : Spanless.bare values = values :=
  List.map_id _

end

section

@[simp] theorem bare_expr_eq (expr : Spanned Expr) : bareExpr expr = Spanless.bare expr := by
  cases expr
  rfl

@[simp] theorem bare_statement_eq (statement : Spanned Statement) : bareStatement statement = Spanless.bare statement := by
  cases statement
  rfl

@[simp] theorem bare_pattern_eq (pattern : Spanned Pattern) : barePattern pattern = Spanless.bare pattern := by
  cases pattern
  rfl

@[simp] theorem bare_member_eq (member : Spanned ClassMember) : bareMember member = Spanless.bare member := by
  cases member
  rfl

@[simp] theorem bare_optional_expr_eq (value : Option (Spanned Expr)) : bareExpr? value = Spanless.bare value := by
  cases value <;> simp [bareExpr?]

@[simp] theorem bare_optional_statement_eq (value : Option (Spanned Statement)) : bareStatement? value = Spanless.bare value := by
  cases value <;> simp [bareStatement?]

@[simp] theorem bare_optional_pattern_eq (value : Option (Spanned Pattern)) : barePattern? value = Spanless.bare value := by
  cases value <;> simp [barePattern?]

@[simp] theorem bare_optional_for_init_eq (value : Option ForInit) : bareForInit? value = Spanless.bare value := by
  cases value <;> simp [bareForInit?]

@[simp] theorem bare_optional_catch_clause_eq (value : Option CatchClause) : bareCatchClause? value = Spanless.bare value := by
  cases value <;> simp [bareCatchClause?]

@[simp] theorem bare_body_eq (values : List (Spanned Statement)) : bareBody values = Spanless.bare values := by
  induction values with
  | nil => rfl
  | cons value rest ih => simp [bareBody, ih]

@[simp] theorem bare_exprs_eq (values : List (Spanned Expr)) : bareExprs values = Spanless.bare values := by
  induction values with
  | nil => rfl
  | cons value rest ih => simp [bareExprs, ih]

@[simp] theorem bare_patterns_eq (values : List (Spanned Pattern)) : barePatterns values = Spanless.bare values := by
  induction values with
  | nil => rfl
  | cons value rest ih => simp [barePatterns, ih]

@[simp] theorem bare_members_eq (values : List (Spanned ClassMember)) : bareMembers values = Spanless.bare values := by
  induction values with
  | nil => rfl
  | cons value rest ih => simp [bareMembers, ih]

@[simp] theorem bare_items_eq (values : List (Option (Spanned Expr))) : bareItems values = Spanless.bare values := by
  induction values with
  | nil => rfl
  | cons value rest ih => simp [bareItems, ih]

@[simp] theorem bare_pattern_items_eq (values : List (Option (Spanned Pattern))) : barePatternItems values = Spanless.bare values := by
  induction values with
  | nil => rfl
  | cons value rest ih => simp [barePatternItems, ih]

@[simp] theorem bare_pattern_props_eq (values : List PatternProp) : barePatternProps values = Spanless.bare values := by
  induction values with
  | nil => rfl
  | cons value rest ih => simp [barePatternProps, ih]

@[simp] theorem bare_properties_eq (values : List Property) : bareProperties values = Spanless.bare values := by
  induction values with
  | nil => rfl
  | cons value rest ih => simp [bareProperties, ih]

@[simp] theorem bare_cases_eq (values : List SwitchCase) : bareCases values = Spanless.bare values := by
  induction values with
  | nil => rfl
  | cons value rest ih => simp [bareCases, ih]

@[simp] theorem bare_declarators_eq (values : List Declarator) : bareDeclarators values = Spanless.bare values := by
  induction values with
  | nil => rfl
  | cons value rest ih => simp [bareDeclarators, ih]

@[simp] theorem bare_optional_body_eq (value : Option (List (Spanned Statement))) : bareBody? value = Spanless.bare value := by
  cases value <;> simp [bareBody?]

end

attribute [simp] Statement.bare VarDecl.bare Declarator.bare ForInit.bare CatchClause.bare SwitchCase.bare Pattern.bare
  PatternProp.bare Function.bare ArrowBody.bare Class.bare ClassMember.bare Expr.bare Template.bare MemberProp.bare
  Property.bare PropKey.bare

end ScriptSuite.Script
