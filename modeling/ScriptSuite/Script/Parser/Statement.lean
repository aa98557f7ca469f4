import ScriptSuite.Script.Parser.Module

set_option autoImplicit false

namespace ScriptSuite.Script

def varStatement (g : Grammar) (kind : VarKind) : Parser Statement := do
  let _ ← advance
  let decl ← varDeclarations g kind
  consumeSemicolon
  return .var decl

def parenExpression (g : Grammar) : Parser (Spanned Expr) := do
  let _ ← expectPunct .lParen
  let value ← allowingIn (expression g)
  let _ ← expectPunct .rParen
  return value

def ifStatement (g : Grammar) : Parser Statement := do
  let _ ← expectKeyword .ifWord
  let condition ← parenExpression g
  let yes ← g.statement
  if ← acceptKeyword .elseWord then return .conditional condition yes (some (← g.statement))
  return .conditional condition yes none

def whileStatement (g : Grammar) : Parser Statement := do
  let _ ← advance
  let condition ← parenExpression g
  return .whileLoop condition (← g.statement)

def doStatement (g : Grammar) : Parser Statement := do
  let _ ← advance
  let body ← g.statement
  let _ ← expectKeyword .whileWord
  let condition ← parenExpression g
  let _ ← acceptPunct .semi
  return .doWhile condition body

def withStatement (g : Grammar) : Parser Statement := do
  let _ ← advance
  let object ← parenExpression g
  return .within object (← g.statement)

def statementEnds (token : Token) : Bool :=
  token.newlineBefore || token.kind == .punct .semi || token.kind == .punct .rBrace || token.kind == .endOfFile

def returnStatement (g : Grammar) : Parser Statement := do
  let _ ← advance
  if statementEnds (← peek) then
    consumeSemicolon
    return .returns none
  else
    let value ← expression g
    consumeSemicolon
    return .returns (some value)

def throwStatement (g : Grammar) : Parser Statement := do
  let _ ← advance
  let next ← peek
  if next.newlineBefore then Parser.fail ⟨.newlineAfterThrow, next.span⟩
  let value ← expression g
  consumeSemicolon
  return .throws value

def catchParam (g : Grammar) : Parser (Option (Spanned Pattern)) := do
  if ← acceptPunct .lParen then
    let param ← g.bindingTarget
    let _ ← expectPunct .rParen
    return some param
  return none

def catchClause (g : Grammar) : Parser (Option CatchClause) := do
  if ← acceptKeyword .catchWord then
    let param ← catchParam g
    let (body, _) ← g.block
    return some ⟨param, body⟩
  return none

def finallyClause (g : Grammar) : Parser (Option Body) := do
  if ← acceptKeyword .finallyWord then
    let (body, _) ← g.block
    return some body
  return none

def tryStatement (g : Grammar) : Parser Statement := do
  let keyword ← expectKeyword .tryWord
  let (block, _) ← g.block
  let handler ← catchClause g
  let finalizer ← finallyClause g
  if handler.isNone && finalizer.isNone then Parser.fail ⟨.tryWithoutHandler, keyword.span⟩
  return .tries block handler finalizer

def caseTest (g : Grammar) : Parser (Option (Spanned Expr)) := do
  if ← acceptKeyword .caseWord then return some (← allowingIn (expression g))
  let _ ← expect (.keyword .defaultWord) .switchLabel
  return none

def caseBodyRound (g : Grammar) (body : Body) : Parser (Round Body Body) := do
  if (← checkKeyword .caseWord) || (← checkKeyword .defaultWord) || (← checkPunct .rBrace) then
    return .done body.reverse
  if ← atEnd then unexpected (.mark .rBrace)
  return .again ((← g.statement) :: body)

def switchCase (g : Grammar) : Parser SwitchCase := do
  let test ← caseTest g
  let _ ← expectPunct .colon
  let body ← repeatRounds (caseBodyRound g) []
  return ⟨test, body⟩

def switchRound (g : Grammar) (cases : List SwitchCase) : Parser (Round (List SwitchCase) (List SwitchCase)) := do
  if ← acceptPunct .rBrace then return .done cases.reverse
  return .again ((← switchCase g) :: cases)

def switchStatement (g : Grammar) : Parser Statement := do
  let _ ← expectKeyword .switchWord
  let discriminant ← parenExpression g
  let _ ← expectPunct .lBrace
  let cases ← repeatRounds (switchRound g) []
  return .switch discriminant cases

def jumpLabel : Parser (Option String) := do
  let next ← peek
  match next.kind with
  | .identifier name =>
      if next.newlineBefore then
        consumeSemicolon
        return none
      else
        let _ ← advance
        consumeSemicolon
        return some name
  | _ =>
      consumeSemicolon
      return none

def forInit (g : Grammar) : Parser ForInit := do
  if ← acceptKeyword .varWord then return .var (← varDeclarations g .var)
  if ← acceptKeyword .constWord then return .var (← varDeclarations g .const)
  if (← checkWord "let") && (← letDeclares) then
    let _ ← advance
    return .var (← varDeclarations g .«let»)
  return .expr (← expression g)

def optionalExpression (g : Grammar) (close : Punct) : Parser (Option (Spanned Expr)) := do
  if ← checkPunct close then return none
  return some (← allowingIn (expression g))

def forTail (g : Grammar) (init : Option ForInit) : Parser Statement := do
  let _ ← expectPunct .semi
  let test ← optionalExpression g .semi
  let _ ← expectPunct .semi
  let update ← optionalExpression g .rParen
  let _ ← expectPunct .rParen
  return .forLoop init test update (← g.statement)

def forEachTail (g : Grammar) (left : ForInit) (ofKeys : Bool) : Parser Statement := do
  let _ ← advance
  let right ← if ofKeys then allowingIn (expression g) else allowingIn g.assignment
  let _ ← expectPunct .rParen
  return .forEach left ofKeys right (← g.statement)

def forStatement (g : Grammar) : Parser Statement := do
  let _ ← expectKeyword .forWord
  let _ ← acceptWord "await"
  let _ ← expectPunct .lParen
  if ← checkPunct .semi then forTail g none
  else
    let init ← forbiddingIn (forInit g)
    if ← checkWord "of" then forEachTail g init false
    else if ← checkKeyword .inWord then forEachTail g init true
    else forTail g (some init)

def expressionStatement (g : Grammar) : Parser Statement := do
  let value ← expression g
  consumeSemicolon
  return .expr value

def labeledStatement (g : Grammar) (label : String) : Parser Statement := do
  let _ ← advance
  let _ ← advance
  return .labeled label (← g.statement)

def namedStatement (g : Grammar) (name : String) : Parser Statement := do
  if name == "let" && (← letDeclares) then varStatement g .«let»
  else if name == "async" && (← asyncFunctionAhead) then
    let _ ← advance
    return .function (← functionFrom g true true)
  else if (← peekAt 1).kind == .punct .colon then labeledStatement g name
  else expressionStatement g

def importStatement (g : Grammar) : Parser Statement := do
  match (← peekAt 1).kind with
  | .punct .lParen | .punct .dot => expressionStatement g
  | _ => importDeclaration

def emptyStatement : Parser Statement := do
  let _ ← advance
  return .empty

def debuggerStatement : Parser Statement := do
  let _ ← advance
  consumeSemicolon
  return .debugger

def breakStatement : Parser Statement := do
  let _ ← advance
  return .breaks (← jumpLabel)

def continueStatement : Parser Statement := do
  let _ ← advance
  return .continues (← jumpLabel)

def plainStatement (g : Grammar) (first : TokenKind) : Parser Statement :=
  match first with
  | .punct .semi => emptyStatement
  | .identifier name => namedStatement g name
  | .keyword .varWord => varStatement g .var
  | .keyword .constWord => varStatement g .const
  | .keyword .functionWord => do return .function (← functionFrom g false true)
  | .keyword .classWord => do return .classDecl (← classFrom g (callMember g) true)
  | .keyword .ifWord => ifStatement g
  | .keyword .forWord => forStatement g
  | .keyword .whileWord => whileStatement g
  | .keyword .doWord => doStatement g
  | .keyword .withWord => withStatement g
  | .keyword .returnWord => returnStatement g
  | .keyword .throwWord => throwStatement g
  | .keyword .tryWord => tryStatement g
  | .keyword .switchWord => switchStatement g
  | .keyword .breakWord => breakStatement
  | .keyword .continueWord => continueStatement
  | .keyword .debuggerWord => debuggerStatement
  | .keyword .importWord => importStatement g
  | .keyword .exportWord => exportDeclaration g
  | _ => expressionStatement g

def statementBody (g : Grammar) : Parser (Spanned Statement) := do
  let token ← peek
  if token.kind = .punct .lBrace then
    let (body, span) ← g.block
    return ⟨.block body, span⟩
  else
    let statement ← plainStatement g token.kind
    spannedFrom token.span.start statement

def startsStatement : TokenKind → Bool
  | .keyword word =>
      word ∈ [.varWord, .constWord, .functionWord, .classWord, .ifWord, .forWord, .whileWord, .returnWord, .tryWord]
  | _ => false

-- Skips to the next statement boundary of the block: behind a semicolon, before a statement word on a new line,
-- or before the brace that closes the block. Brackets opened on the way are skipped with their content.
def skipToBoundary (depth lastEnd : Nat) : List Token → List Token × Nat
  | [] => ([], lastEnd)
  | token :: rest =>
      if token.kind = .endOfFile then (token :: rest, lastEnd)
      else if isOpening token.kind then skipToBoundary (depth + 1) token.span.stop rest
      else if token.kind = .punct .rBrace ∧ depth = 0 then (token :: rest, lastEnd)
      else if isClosing token.kind then skipToBoundary (depth - 1) token.span.stop rest
      else if token.kind = .punct .semi ∧ depth = 0 then (rest, token.span.stop)
      else if depth = 0 ∧ token.newlineBefore ∧ startsStatement token.kind then (token :: rest, lastEnd)
      else skipToBoundary depth token.span.stop rest

def synchronize : Parser Unit :=
  fun _ state =>
    let (rest, lastEnd) := skipToBoundary 0 state.lastEnd state.rest
    .ok () { state with rest, lastEnd }

-- After a failed statement that began at the tokens `before`: records the error and moves to the next boundary, by
-- one token at least. At the end of the file the error stands.
def recover (before : List Token) (error : SyntaxError) : Parser Unit := do
  if ← atEnd then Parser.fail error
  recordError error
  synchronize
  if (← upcoming).length == before.length && !(← checkPunct .rBrace) then
    let _ ← advance

def blockRound (g : Grammar) (brace : Span) (body : Body) : Parser (Round Body (Body × Span)) := do
  if ← checkPunct .rBrace then
    let close ← advance
    return .done (body.reverse, brace.merge close.span)
  if ← atEnd then Parser.fail ⟨.unclosedBlock, brace⟩
  let before ← upcoming
  match ← Parser.attempt g.statement with
  | .ok statement => return .again (statement :: body)
  | .error error =>
      recover before error
      return .again body

def blockBody (g : Grammar) : Parser (Body × Span) := do
  let brace ← expectPunct .lBrace
  repeatRounds (blockRound g brace.span) []

end ScriptSuite.Script
