import ScriptSuite.Discovery.CallPattern
import ScriptSuite.Script.Parser

set_option autoImplicit false

namespace ScriptSuite.Discovery

open Text Script

def unparen : Expr → Expr
  | .paren ⟨inner, _⟩ => unparen inner
  | expr => expr

def literalText? (expr : Expr) : Option String :=
  match unparen expr with
  | .literal (.string value) => some value
  | .template template => template.plain?
  | _ => none

def memberName? : MemberProp → Option String
  | .ident name => some name
  | .computed ⟨key, _⟩ => literalText? key

def spellsPath : List String → Expr → Bool
  | [], _ => false
  | [only], expr =>
      match unparen expr with
      | .ident name => name == only
      | _ => false
  | last :: rest, expr =>
      match unparen expr with
      | .member ⟨object, _⟩ property _ => memberName? property == some last && spellsPath rest object
      | _ => false

def declaredName? (pattern : CallPattern) (expr : Expr) : Option String :=
  match unparen expr with
  | .call ⟨callee, _⟩ args _ =>
      if spellsPath pattern.path.reverse callee then
        match args[pattern.argumentIndex]? with
        | some ⟨argument, _⟩ => (literalText? argument).filter fun name => !isAllBlank name.toList
        | none => none
      else none
  | _ => none

structure Declaration where
  name : String
  position : Position
  span : Span
deriving DecidableEq, Repr

def declarationOf? (text : List Char) (pattern : CallPattern) (statement : Spanned Statement) :
    Option Declaration :=
  match statement.node with
  | .expr value =>
      (declaredName? pattern value.node).map fun name =>
        ⟨name, positionIn text statement.span.start, statement.span⟩
  | _ => none

def declarations (source : String) (pattern : CallPattern) (program : Program) : List Declaration :=
  program.body.filterMap (declarationOf? source.toList pattern)

end ScriptSuite.Discovery
