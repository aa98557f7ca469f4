import ScriptSuite.Script.Parser.Expression

set_option autoImplicit false

namespace ScriptSuite.Script

def moduleName : Parser String := do
  match (← peek).kind with
  | .string name =>
      let _ ← advance
      return name
  | _ => identifierName

def namesRound {α : Type} (item : Parser α) (items : List α) : Parser (Round (List α) (List α)) := do
  if ← acceptPunct .rBrace then return .done items.reverse
  let value ← item
  if ← checkPunct .rBrace then return .again (value :: items)
  let _ ← expectPunct .comma
  return .again (value :: items)

def namesList {α : Type} (item : Parser α) : Parser (List α) :=
  repeatRounds (namesRound item) []

def importedName : Parser ImportSpecifier := do
  let imported ← moduleName
  if ← acceptWord "as" then return .named imported (← identifier)
  return .named imported imported

def importedNames : Parser (List ImportSpecifier) := do
  if ← acceptPunct .star then
    let _ ← expectWord "as"
    return [.all (← identifier)]
  if ← acceptPunct .lBrace then namesList importedName
  else unexpected .importSpecifier

def importSpecifiers : Parser (List ImportSpecifier) := do
  match (← peek).kind with
  | .identifier _ =>
      let name ← identifier
      if ← acceptPunct .comma then return .default name :: (← importedNames)
      return [.default name]
  | _ => importedNames

def importDeclaration : Parser Statement := do
  let _ ← expectKeyword .importWord
  match (← peek).kind with
  | .string source =>
      let _ ← advance
      consumeSemicolon
      return .imports [] source
  | _ =>
      let specifiers ← importSpecifiers
      let _ ← expectWord "from"
      let source ← stringLiteral
      consumeSemicolon
      return .imports specifiers source

def exportedDefault (g : Grammar) : Parser (Spanned Expr) := do
  let start ← startOffset
  if (← checkKeyword .functionWord) || ((← checkWord "async") && (← asyncFunctionAhead)) then
    let isAsync ← acceptWord "async"
    let function ← functionFrom g isAsync false
    spannedFrom start (.function function)
  else if ← checkKeyword .classWord then
    let decl ← classFrom g (callMember g) false
    spannedFrom start (.classExpr decl)
  else
    let value ← allowingIn g.assignment
    consumeSemicolon
    return value

def exportedAlias : Parser (Option String) := do
  if ← acceptWord "as" then return some (← moduleName)
  return none

def exportedAll : Parser Statement := do
  let renamed ← exportedAlias
  let _ ← expectWord "from"
  let source ← stringLiteral
  consumeSemicolon
  return .exportsAll renamed source

def exportedName : Parser (String × String) := do
  let name ← moduleName
  if ← acceptWord "as" then return (name, ← moduleName)
  return (name, name)

def exportedSource : Parser (Option String) := do
  if ← acceptWord "from" then return some (← stringLiteral)
  return none

def exportedNames : Parser Statement := do
  let names ← namesList exportedName
  let source ← exportedSource
  consumeSemicolon
  return .exportsNamed names source

def letDeclares : Parser Bool := do
  match (← peekAt 1).kind with
  | .identifier _ => return true
  | .punct mark => return mark ∈ [.lBracket, .lBrace]
  | _ => return false

def declarationAhead : Parser Bool := do
  match (← peek).kind with
  | .keyword word => return word ∈ [.varWord, .constWord, .functionWord, .classWord]
  | .identifier "let" => letDeclares
  | .identifier "async" => asyncFunctionAhead
  | _ => return false

def exportDeclaration (g : Grammar) : Parser Statement := do
  let _ ← expectKeyword .exportWord
  if ← acceptKeyword .defaultWord then return .exportsDefault (← exportedDefault g)
  if ← acceptPunct .star then return (← exportedAll)
  if ← acceptPunct .lBrace then return (← exportedNames)
  if ← declarationAhead then return .exportsDeclaration (← g.statement)
  unexpected .exportedDeclaration

end ScriptSuite.Script
