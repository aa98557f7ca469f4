import ScriptSuite.Script.Parser.Binding

set_option autoImplicit false

namespace ScriptSuite.Script

def functionTail (g : Grammar) (isAsync isGenerator : Bool) : Parser (List (Spanned Pattern) × Body) :=
  inFunction isAsync isGenerator do
    let params ← formalParams g
    let (body, _) ← g.block
    return (params, body)

def declaredName (required : Bool) (wanted : Expectation) : Parser (Option String) := do
  match (← peek).kind with
  | .identifier _ => return some (← identifier)
  | _ => if required then unexpected wanted else return none

def functionFrom (g : Grammar) (isAsync requireName : Bool) : Parser Function := do
  let _ ← expectKeyword .functionWord
  let isGenerator ← acceptPunct .star
  let name ← declaredName requireName .functionName
  let (params, body) ← functionTail g isAsync isGenerator
  return ⟨name, params, body, isAsync, isGenerator⟩

def nextEndsMember : Parser Bool := do
  match (← peekAt 1).kind with
  | .punct mark => return mark ∈ [.lParen, .eq, .semi, .rBrace, .comma, .colon]
  | _ => return false

structure MethodModifiers where
  isAsync : Bool
  isGenerator : Bool
  kind : MethodKind
deriving DecidableEq, Repr

def asyncModifier : Parser Bool := do
  if (← checkWord "async") && !(← nextEndsMember) && !(← peekAt 1).newlineBefore then
    let _ ← advance
    return true
  return false

def accessorModifier : Parser MethodKind := do
  if ← acceptWord "get" then return .getter
  if ← acceptWord "set" then return .setter
  return .method

def methodModifiers : Parser MethodModifiers := do
  let isAsync ← asyncModifier
  let isGenerator ← acceptPunct .star
  if isAsync || isGenerator || (← nextEndsMember) then return ⟨isAsync, isGenerator, .method⟩
  return ⟨isAsync, isGenerator, ← accessorModifier⟩

def methodFunction (g : Grammar) (modifiers : MethodModifiers) : Parser Function := do
  let (params, body) ← functionTail g modifiers.isAsync modifiers.isGenerator
  return ⟨none, params, body, modifiers.isAsync, modifiers.isGenerator⟩

def keyedMember (g : Grammar) (isStatic : Bool) : Parser ClassMember := do
  let modifiers ← methodModifiers
  let key ← propertyKey g
  if ← checkPunct .lParen then
    return .method key modifiers.kind isStatic (← methodFunction g modifiers)
  let value ←
    if ← acceptPunct .eq then do
      let value ← inFunction false false g.assignment
      pure (some value)
    else pure none
  consumeSemicolon
  return .field key isStatic value

def classMember (g : Grammar) : Parser (Spanned ClassMember) := do
  let start ← startOffset
  if (← checkWord "static") && !(← nextEndsMember) then
    let _ ← advance
    if ← checkPunct .lBrace then
      let (body, _) ← inFunction false false g.block
      spannedFrom start (.staticBlock body)
    else
      let member ← keyedMember g true
      spannedFrom start member
  else
    let member ← keyedMember g false
    spannedFrom start member

def classMemberRound (g : Grammar) (brace : Span) (members : List (Spanned ClassMember)) :
    Parser (Round (List (Spanned ClassMember)) (List (Spanned ClassMember))) := do
  if ← acceptPunct .rBrace then return .done members.reverse
  if ← atEnd then Parser.fail ⟨.unclosedClassBody, brace⟩
  if ← acceptPunct .semi then return .again members
  return .again ((← classMember g) :: members)

def classFrom (g : Grammar) (heritage : Parser (Spanned Expr)) (requireName : Bool) : Parser Class := do
  let _ ← expectKeyword .classWord
  let name ← declaredName requireName .className
  let parent ←
    if ← acceptKeyword .extendsWord then do
      let parent ← heritage
      pure (some parent)
    else pure none
  let brace ← expectPunct .lBrace
  let members ← repeatRounds (classMemberRound g brace.span) []
  return ⟨name, parent, members⟩

def asyncFunctionAhead : Parser Bool := do
  let next ← peekAt 1
  return next.kind == .keyword .functionWord && !next.newlineBefore

end ScriptSuite.Script
