import ScriptSuite.Script.Parser.Basic

set_option autoImplicit false

namespace ScriptSuite.Script

def propertyKey (g : Grammar) : Parser PropKey := do
  match (← peek).kind with
  | .identifier _ | .keyword _ | .privateName _ => return .ident (← identifierName)
  | .string value =>
      let _ ← advance
      return .string value
  | .number value =>
      let _ ← advance
      return .number value
  | .bigint literal =>
      let _ ← advance
      return .string literal
  | .punct .lBracket =>
      let _ ← advance
      let key ← allowingIn g.assignment
      let _ ← expectPunct .rBracket
      return .computed key
  | _ => unexpected .propertyName

def bindingElement (g : Grammar) : Parser (Spanned Pattern) := do
  let start ← startOffset
  let target ← g.bindingTarget
  if ← acceptPunct .eq then
    let value ← allowingIn g.assignment
    spannedFrom start (.withDefault target value)
  else return target

def restElement (g : Grammar) : Parser (Spanned Pattern) := do
  let start ← startOffset
  let _ ← expectPunct .ellipsis
  let target ← g.bindingTarget
  spannedFrom start (.rest target)

def bindingOrRest (g : Grammar) : Parser (Spanned Pattern) := do
  if ← checkPunct .ellipsis then restElement g else bindingElement g

def patternProp (g : Grammar) : Parser PatternProp := do
  if ← acceptPunct .ellipsis then return .rest (← g.bindingTarget)
  let start ← startOffset
  let key ← propertyKey g
  if ← acceptPunct .colon then return .keyValue key (← bindingElement g)
  match key with
  | .ident name =>
      let target ← spannedFrom start (Pattern.ident name)
      if ← acceptPunct .eq then
        let value ← allowingIn g.assignment
        return .keyValue key (← spannedFrom start (.withDefault target value))
      else return .keyValue key target
  | _ => unexpected (.mark .colon)

def objectPattern (g : Grammar) : Parser Pattern := do
  let _ ← expectPunct .lBrace
  let props ← commaList .rBrace (patternProp g)
  let _ ← expectPunct .rBrace
  return .object props

def arrayPattern (g : Grammar) : Parser Pattern := do
  let _ ← expectPunct .lBracket
  let items ← holedList .rBracket (bindingOrRest g)
  let _ ← expectPunct .rBracket
  return .array items

def bindingPattern (g : Grammar) : Parser Pattern := do
  match (← peek).kind with
  | .identifier _ => return .ident (← identifier)
  | .punct .lBrace => objectPattern g
  | .punct .lBracket => arrayPattern g
  | _ => unexpected .bindingTarget

def bindingTargetBody (g : Grammar) : Parser (Spanned Pattern) := do
  let start ← startOffset
  let pattern ← bindingPattern g
  spannedFrom start pattern

def formalParams (g : Grammar) : Parser (List (Spanned Pattern)) := do
  let _ ← expectPunct .lParen
  let params ← commaList .rParen (bindingOrRest g)
  let _ ← expectPunct .rParen
  return params

def declarator (g : Grammar) : Parser Declarator := do
  let target ← g.bindingTarget
  if ← acceptPunct .eq then return ⟨target, some (← g.assignment)⟩
  return ⟨target, none⟩

def declaratorRound (g : Grammar) (declarators : List Declarator) :
    Parser (Round (List Declarator) (List Declarator)) := do
  let next ← declarator g
  if ← acceptPunct .comma then return .again (next :: declarators)
  return .done (next :: declarators).reverse

def varDeclarations (g : Grammar) (kind : VarKind) : Parser VarDecl := do
  return ⟨kind, ← repeatRounds (declaratorRound g) []⟩

end ScriptSuite.Script
