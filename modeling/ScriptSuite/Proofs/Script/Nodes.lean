import ScriptSuite.Script.Syntax

set_option autoImplicit false

namespace ScriptSuite.Script

inductive Node where
  | statement (value : Spanned Statement)
  | expr (value : Spanned Expr)
  | pattern (value : Spanned Pattern)
  | member (value : Spanned ClassMember)

def Node.span : Node → Span
  | .statement value => value.span
  | .expr value => value.span
  | .pattern value => value.span
  | .member value => value.span

section

variable {α : Type}

def optionalNodes (wrap : α → Node) (value : Option α) : List Node :=
  value.toList.map wrap

def PropKey.nodes : PropKey → List Node
  | .computed value => [.expr value]
  | _ => []

def MemberProp.nodes : MemberProp → List Node
  | .computed value => [.expr value]
  | .ident _ => []

def Template.nodes (template : Template) : List Node :=
  template.exprs.map .expr

def Function.nodes (function : Function) : List Node :=
  function.params.map .pattern ++ function.body.map .statement

def ArrowBody.nodes : ArrowBody → List Node
  | .expr value => [.expr value]
  | .block body => body.map .statement

def Property.nodes : Property → List Node
  | .keyValue key value => key.nodes ++ [.expr value]
  | .shorthand _ => []
  | .method key _ function => key.nodes ++ function.nodes
  | .spread value => [.expr value]

def PatternProp.nodes : PatternProp → List Node
  | .keyValue key value => key.nodes ++ [.pattern value]
  | .rest target => [.pattern target]

def Declarator.nodes (decl : Declarator) : List Node :=
  [.pattern decl.target] ++ optionalNodes .expr decl.init

def VarDecl.nodes (decl : VarDecl) : List Node :=
  decl.declarators.flatMap Declarator.nodes

def ForInit.nodes : ForInit → List Node
  | .var decl => decl.nodes
  | .expr value => [.expr value]

def CatchClause.nodes (clause : CatchClause) : List Node :=
  optionalNodes .pattern clause.param ++ clause.body.map .statement

def SwitchCase.nodes (clause : SwitchCase) : List Node :=
  optionalNodes .expr clause.test ++ clause.body.map .statement

-- Without the heritage, which stands before them.
def Class.nodes (decl : Class) : List Node :=
  decl.members.map .member

end

-- The expression that a node begins with where both are read at the same level, and nothing closes around it.
def Statement.head? : Statement → Option (Spanned Expr)
  | .classDecl decl => decl.heritage
  | _ => none

def Expr.head? : Expr → Option (Spanned Expr)
  | .classExpr decl => decl.heritage
  | .tagged tag _ => some tag
  | .call callee _ _ => some callee
  | .new callee _ => some callee
  | .member owner _ _ => some owner
  | _ => none

def Statement.nodes : Statement → List Node
  | .var decl => decl.nodes
  | .function decl => decl.nodes
  | .classDecl decl => decl.nodes
  | .expr value => [.expr value]
  | .block body => body.map .statement
  | .conditional condition yes no => [.expr condition, .statement yes] ++ optionalNodes .statement no
  | .forLoop init test update body =>
      (init.map ForInit.nodes).getD [] ++ optionalNodes .expr test ++ optionalNodes .expr update ++ [.statement body]
  | .forEach left _ right body => left.nodes ++ [.expr right] ++ [.statement body]
  | .whileLoop condition body => [.expr condition, .statement body]
  | .doWhile condition body => [.statement body, .expr condition]
  | .within object body => [.expr object, .statement body]
  | .returns value => optionalNodes .expr value
  | .throws value => [.expr value]
  | .tries attempted handler finalizer =>
      attempted.map .statement ++ (handler.map CatchClause.nodes).getD [] ++
        (finalizer.map fun body => body.map Node.statement).getD []
  | .switch discriminant cases => [.expr discriminant] ++ cases.flatMap SwitchCase.nodes
  | .labeled _ body => [.statement body]
  | .exportsDeclaration declaration => [.statement declaration]
  | .exportsDefault value => [.expr value]
  | .breaks _ | .continues _ | .imports _ _ | .exportsNamed _ _ | .exportsAll _ _ | .debugger | .empty => []

def Expr.nodes : Expr → List Node
  | .template parts => parts.nodes
  | .tagged _ parts => parts.nodes
  | .array items => items.flatMap (optionalNodes .expr)
  | .object props => props.flatMap Property.nodes
  | .function decl => decl.nodes
  | .arrow params body _ => params.map .pattern ++ body.nodes
  | .classExpr decl => decl.nodes
  | .unary _ operand => [.expr operand]
  | .update _ _ target => [.expr target]
  | .binary left _ right => [.expr left, .expr right]
  | .assign target _ value => [.expr target, .expr value]
  | .conditional test consequent alternate => [.expr test, .expr consequent, .expr alternate]
  | .call _ args _ => args.map .expr
  | .new _ args => args.map .expr
  | .member _ property _ => property.nodes
  | .sequence items => items.map .expr
  | .spread value => [.expr value]
  | .await value => [.expr value]
  | .yield argument _ => optionalNodes .expr argument
  | .paren value => [.expr value]
  | .ident _ | .literal _ | .this | .super | .metaProperty _ _ => []

def Pattern.nodes : Pattern → List Node
  | .ident _ => []
  | .object props => props.flatMap PatternProp.nodes
  | .array items => items.flatMap (optionalNodes .pattern)
  | .withDefault target value => [.pattern target, .expr value]
  | .rest target => [.pattern target]

def ClassMember.nodes : ClassMember → List Node
  | .method key _ _ function => key.nodes ++ function.nodes
  | .field key _ value => key.nodes ++ optionalNodes .expr value
  | .staticBlock body => body.map .statement

namespace Node

def head? : Node → Option (Spanned Expr)
  | .statement value => value.node.head?
  | .expr value => value.node.head?
  | .pattern _ | .member _ => none

def nodes : Node → List Node
  | .statement value => value.node.nodes
  | .expr value => value.node.nodes
  | .pattern value => value.node.nodes
  | .member value => value.node.nodes

def children (node : Node) : List Node :=
  optionalNodes .expr node.head? ++ node.nodes

def isClass : Node → Bool
  | .statement ⟨.classDecl _, _⟩ => true
  | .expr ⟨.classExpr _, _⟩ => true
  | _ => false

-- Statements, and the expressions that may hold statements or expressions of any kind.
def counts : Node → Bool
  | .statement _ => true
  | .expr value =>
      match value.node with
      | .array _ | .object _ | .paren _ | .function _ | .arrow _ _ _ | .classExpr _ | .unary _ _ | .await _ => true
      | _ => false
  | .pattern _ | .member _ => false

end Node

-- A node on the way down a tree; it is inherited if it stands at the head of the heritage of a class.
structure Visit where
  node : Node
  inherited : Bool

namespace Visit

def visits (visit : Visit) : List Visit :=
  (visit.node.head?.toList.map fun head => ⟨.expr head, visit.inherited || visit.node.isClass⟩) ++
    visit.node.nodes.map (⟨·, false⟩)

def counts (visit : Visit) : Bool :=
  visit.node.counts

def isInheritedClass (visit : Visit) : Bool :=
  visit.inherited && visit.node.isClass

end Visit

-- What stands in a program, at any depth.
inductive Program.Has (program : Program) : Node → Prop where
  | top {statement : Spanned Statement} (inside : statement ∈ program.body) : Has program (.statement statement)
  | child {node child : Node} (has : Has program node) (inside : child ∈ node.children) : Has program child

inductive Visit.Path : Visit → List Visit → Prop where
  | last (visit : Visit) : Path visit [visit]
  | step {visit next : Visit} {path : List Visit} (inside : next ∈ visit.visits) (onward : Path next path) :
      Path visit (visit :: path)

def Program.Path (program : Program) (path : List Visit) : Prop :=
  ∃ statement ∈ program.body, Visit.Path ⟨.statement statement, false⟩ path

theorem visits_nodes (visit : Visit) : visit.visits.map (·.node) = visit.node.children := by
  unfold Visit.visits Node.children optionalNodes
  rw [List.map_append, List.map_map, List.map_map]
  congr 1
  exact List.map_id _

end ScriptSuite.Script
