import ScriptSuite.Script.Lexer
import ScriptSuite.Script.Parser.Function

set_option autoImplicit false

namespace ScriptSuite.Script

def sequenceRound (g : Grammar) (items : List (Spanned Expr)) :
    Parser (Round (List (Spanned Expr)) (List (Spanned Expr))) := do
  if ← acceptPunct .comma then return .again ((← g.assignment) :: items)
  return .done items.reverse

def expression (g : Grammar) : Parser (Spanned Expr) := do
  let first ← g.assignment
  if ← checkPunct .comma then
    let items ← repeatRounds (sequenceRound g) [first]
    spannedFrom first.span.start (.sequence items)
  else return first

def assignOp? : TokenKind → Option AssignOp
  | .punct .eq => some .assign
  | .punct .plusEq => some .add
  | .punct .minusEq => some .sub
  | .punct .starEq => some .mul
  | .punct .slashEq => some .div
  | .punct .percentEq => some .mod
  | .punct .starStarEq => some .pow
  | .punct .shlEq => some .shl
  | .punct .shrEq => some .shr
  | .punct .uShrEq => some .uShr
  | .punct .ampEq => some .bitAnd
  | .punct .pipeEq => some .bitOr
  | .punct .caretEq => some .bitXor
  | .punct .ampAmpEq => some .and
  | .punct .pipePipeEq => some .or
  | .punct .questionQuestionEq => some .nullish
  | _ => none

def isOpening : TokenKind → Bool
  | .punct mark => mark ∈ [.lParen, .lBracket, .lBrace]
  | _ => false

def isClosing : TokenKind → Bool
  | .punct mark => mark ∈ [.rParen, .rBracket, .rBrace]
  | _ => false

def startsWithArrow : List Token → Bool
  | token :: _ => token.kind == .punct .arrow && !token.newlineBefore
  | [] => false

def arrowAfterClosing (depth : Nat) : List Token → Bool
  | [] => false
  | token :: rest =>
      if isOpening token.kind then arrowAfterClosing (depth + 1) rest
      else if isClosing token.kind then
        if depth ≤ 1 then startsWithArrow rest else arrowAfterClosing (depth - 1) rest
      else if token.kind = .endOfFile then false
      else arrowAfterClosing depth rest

def arrowHead : List Token → Bool
  | [] => false
  | token :: rest =>
      match token.kind with
      | .identifier _ => startsWithArrow rest
      | .punct .lParen => arrowAfterClosing 1 rest
      | _ => false

def startsParams : TokenKind → Bool
  | .identifier _ | .punct .lParen => true
  | _ => false

def arrowAhead (tokens : List Token) : Bool :=
  match tokens with
  | first :: second :: rest =>
      if first.kind == .identifier "async" && !second.newlineBefore && startsParams second.kind then
        arrowHead (second :: rest)
      else arrowHead tokens
  | _ => arrowHead tokens

def isArrowAhead : Parser Bool :=
  fun _ state => .ok (arrowAhead state.rest) state

def arrowParams (g : Grammar) (isAsync : Bool) : Parser (List (Spanned Pattern)) := do
  match (← peek).kind with
  | .identifier _ =>
      let start ← startOffset
      let name ← identifier
      return [← spannedFrom start (.ident name)]
  | _ => inFunction isAsync false (formalParams g)

def arrowBody (g : Grammar) (isAsync : Bool) : Parser ArrowBody := do
  if ← checkPunct .lBrace then
    let (body, _) ← inFunction isAsync false g.block
    return .block body
  else
    let value ← inFunction isAsync false g.assignment
    return .expr value

def arrowFunction (g : Grammar) : Parser (Spanned Expr) := do
  let start ← startOffset
  let isAsync := (← checkWord "async") && startsParams (← peekAt 1).kind
  if isAsync then
    let _ ← advance
  let params ← arrowParams g isAsync
  let _ ← expectPunct .arrow
  let body ← arrowBody g isAsync
  spannedFrom start (.arrow params body isAsync)

def yieldsOperand (token : Token) : Bool :=
  !token.newlineBefore &&
    match token.kind with
    | .punct mark => mark ∉ [.rParen, .rBracket, .rBrace, .comma, .semi, .colon]
    | .endOfFile => false
    | _ => true

def yieldDelegate : Parser Bool := do
  if (← peek).newlineBefore then return false
  acceptPunct .star

def yieldExpression (g : Grammar) : Parser (Spanned Expr) := do
  let start ← startOffset
  let _ ← advance
  let delegate ← yieldDelegate
  if delegate || yieldsOperand (← peek) then
    let argument ← g.assignment
    spannedFrom start (.yield (some argument) delegate)
  else spannedFrom start (.yield none delegate)

def binaryOp? (noIn : Bool) : TokenKind → Option (BinaryOp × Nat)
  | .punct .questionQuestion => some (.nullish, 1)
  | .punct .pipePipe => some (.or, 2)
  | .punct .ampAmp => some (.and, 3)
  | .punct .pipe => some (.bitOr, 4)
  | .punct .caret => some (.bitXor, 5)
  | .punct .amp => some (.bitAnd, 6)
  | .punct .eqEq => some (.eq, 7)
  | .punct .notEq => some (.notEq, 7)
  | .punct .eqEqEq => some (.strictEq, 7)
  | .punct .notEqEq => some (.strictNotEq, 7)
  | .punct .lt => some (.lt, 8)
  | .punct .gt => some (.gt, 8)
  | .punct .ltEq => some (.ltEq, 8)
  | .punct .gtEq => some (.gtEq, 8)
  | .keyword .inWord => if noIn then none else some (.isIn, 8)
  | .keyword .instanceOfWord => some (.instanceOf, 8)
  | .punct .shl => some (.shl, 9)
  | .punct .shr => some (.shr, 9)
  | .punct .uShr => some (.uShr, 9)
  | .punct .plus => some (.add, 10)
  | .punct .minus => some (.sub, 10)
  | .punct .star => some (.mul, 11)
  | .punct .slash => some (.div, 11)
  | .punct .percent => some (.mod, 11)
  | .punct .starStar => some (.pow, 12)
  | _ => none

def rightPrecedence (op : BinaryOp) (precedence : Nat) : Nat :=
  if op = .pow then precedence else precedence + 1

def binaryRound (g : Grammar) (start minPrecedence : Nat) (left : Spanned Expr) :
    Parser (Round (Spanned Expr) (Spanned Expr)) := do
  let context ← Parser.context
  match binaryOp? context.noIn (← peek).kind with
  | some (op, precedence) =>
      if precedence < minPrecedence then return .done left
      let _ ← advance
      let right ← g.binary (rightPrecedence op precedence)
      return .again (← spannedFrom start (.binary left op right))
  | none => return .done left

def binaryFrom (g : Grammar) (minPrecedence : Nat) : Parser (Spanned Expr) := do
  let start ← startOffset
  let left ← g.unary
  repeatRounds (binaryRound g start minPrecedence) left

def conditional (g : Grammar) : Parser (Spanned Expr) := do
  let start ← startOffset
  let test ← binaryFrom g 1
  if ← acceptPunct .question then
    let consequent ← allowingIn g.assignment
    let _ ← expectPunct .colon
    let alternate ← g.assignment
    spannedFrom start (.conditional test consequent alternate)
  else return test

def assignmentTail (g : Grammar) : Parser (Spanned Expr) := do
  let start ← startOffset
  let target ← conditional g
  match assignOp? (← peek).kind with
  | some op =>
      let _ ← advance
      let value ← g.assignment
      spannedFrom start (.assign target op value)
  | none => return target

def assignmentBody (g : Grammar) : Parser (Spanned Expr) := do
  if ← isArrowAhead then arrowFunction g
  else if (← Parser.context).inGenerator && (← checkWord "yield") then yieldExpression g
  else assignmentTail g

def unaryOp? : TokenKind → Option UnaryOp
  | .punct .bang => some .not
  | .punct .minus => some .neg
  | .punct .plus => some .plus
  | .punct .tilde => some .bitNot
  | .keyword .typeOfWord => some .typeOf
  | .keyword .voidWord => some .void
  | .keyword .deleteWord => some .delete
  | _ => none

def updateOp? : TokenKind → Option UpdateOp
  | .punct .plusPlus => some .increment
  | .punct .minusMinus => some .decrement
  | _ => none

def awaitsOperand (token : Token) : Bool :=
  !token.newlineBefore &&
    match token.kind with
    | .identifier _ => true
    | .keyword word => word ∈ [.newWord, .thisWord, .functionWord]
    | .punct mark => mark ∈ [.lParen, .lBracket]
    | _ => false

def awaitAhead : Parser Bool := do
  if ← checkWord "await" then
    return (← Parser.context).inAsync || awaitsOperand (← peekAt 1)
  return false

def computedProperty (g : Grammar) : Parser (Spanned Expr) := do
  let _ ← expectPunct .lBracket
  let property ← allowingIn (expression g)
  let _ ← expectPunct .rBracket
  return property

def spreadOrAssignment (g : Grammar) : Parser (Spanned Expr) := do
  let start ← startOffset
  if ← acceptPunct .ellipsis then
    let value ← g.assignment
    spannedFrom start (.spread value)
  else g.assignment

def arguments (g : Grammar) : Parser (List (Spanned Expr)) := do
  let _ ← expectPunct .lParen
  allowingIn do
    let args ← commaList .rParen (spreadOrAssignment g)
    let _ ← expectPunct .rParen
    return args

def arrayLiteral (g : Grammar) : Parser (List (Option (Spanned Expr))) := do
  let _ ← expectPunct .lBracket
  allowingIn do
    let items ← holedList .rBracket (spreadOrAssignment g)
    let _ ← expectPunct .rBracket
    return items

-- A name alone, or with the default value that it has as an assignment target; the default is not kept.
def shorthandProperty (g : Grammar) (name : String) : Parser Property := do
  if ← acceptPunct .eq then
    let _ ← g.assignment
  return .shorthand name

def keyedProperty (g : Grammar) : Parser Property := do
  let modifiers ← methodModifiers
  let keyToken ← peek
  let key ← propertyKey g
  if ← checkPunct .lParen then
    return .method key modifiers.kind (← methodFunction g modifiers)
  if ← acceptPunct .colon then
    return .keyValue key (← g.assignment)
  match keyToken.kind, key with
  | .identifier _, .ident name => shorthandProperty g name
  | _, _ => unexpected (.mark .colon)

def property (g : Grammar) : Parser Property := do
  if ← acceptPunct .ellipsis then return .spread (← g.assignment)
  keyedProperty g

def objectLiteral (g : Grammar) : Parser (List Property) := do
  let _ ← expectPunct .lBrace
  allowingIn do
    let props ← commaList .rBrace (property g)
    let _ ← expectPunct .rBrace
    return props

-- Runs `parser` on the tokens of a substitution, which it must read to their end. Errors it skipped are kept
-- only if it succeeds.
def onFragment {α : Type} (parser : Parser α) (tokens : List Token) : Parser α :=
  fun context state =>
    let firstEnd := (tokens.head?.map (·.span.stop)).getD 0
    match parser { context with noIn := false } ⟨tokens, firstEnd, []⟩ with
    | .error error _ => .error error state
    | .ok value after =>
        if after.atEnd then .ok value { state with recovered := state.recovered ++ after.recovered }
        else .error ⟨.unexpected (.mark .rBrace) after.peek.kind, after.peek.span⟩ state

def substitution (g : Grammar) (source : String) (offset : Nat) : Parser (Spanned Expr) :=
  match lexFragment source offset with
  | .error error => Parser.fail error
  | .ok tokens => onFragment (expression g) tokens

def templateFrom (g : Grammar) (text : String) : List TemplatePart → Parser Template
  | [] => return ⟨[text], []⟩
  | .text more :: rest => templateFrom g (text ++ more) rest
  | .substitution source offset :: rest => do
      let value ← substitution g source offset
      let tail ← templateFrom g "" rest
      return ⟨text :: tail.quasis, value :: tail.exprs⟩

def template (g : Grammar) (parts : List TemplatePart) : Parser Template :=
  templateFrom g "" parts

def importExpression (g : Grammar) (keyword : Token) : Parser Expr := do
  if ← acceptPunct .dot then return .metaProperty "import" (← identifier)
  let args ← arguments g
  return .call ⟨.ident "import", keyword.span⟩ args false

def parenthesized (g : Grammar) : Parser Expr := do
  let inner ← allowingIn (expression g)
  let _ ← expectPunct .rParen
  return .paren inner

def nameOrAsyncFunction (g : Grammar) (name : String) : Parser Expr := do
  if name == "async" && (← asyncFunctionAhead) then
    let _ ← advance
    return .function (← functionFrom g true false)
  else
    let _ ← advance
    return .ident name

def consuming (value : Expr) : Parser Expr := do
  let _ ← advance
  return value

def primaryExpr (g : Grammar) (heritage : Parser (Spanned Expr)) (token : Token) : Parser Expr :=
  match token.kind with
  | .identifier name => nameOrAsyncFunction g name
  | .number value => consuming (.literal (.number value))
  | .bigint literal => consuming (.literal (.bigint literal))
  | .string value => consuming (.literal (.string value))
  | .regex pattern flags => consuming (.literal (.regex pattern flags))
  | .template parts => do
      let _ ← advance
      return .template (← template g parts)
  | .keyword .trueWord => consuming (.literal (.bool true))
  | .keyword .falseWord => consuming (.literal (.bool false))
  | .keyword .nullWord => consuming (.literal .null)
  | .keyword .thisWord => consuming .this
  | .keyword .superWord => consuming .super
  | .keyword .functionWord => do return .function (← functionFrom g false false)
  | .keyword .classWord => do return .classExpr (← classFrom g heritage false)
  | .keyword .importWord => do
      let keyword ← advance
      importExpression g keyword
  | .punct .lParen => do
      let _ ← advance
      parenthesized g
  | .punct .lBracket => do return .array (← arrayLiteral g)
  | .punct .lBrace => do return .object (← objectLiteral g)
  | _ => unexpected .expression

def primary (g : Grammar) (heritage : Parser (Spanned Expr)) : Parser (Spanned Expr) := do
  let token ← peek
  let expr ← primaryExpr g heritage token
  spannedFrom token.span.start expr

def memberRound (g : Grammar) (start : Nat) (object : Spanned Expr) :
    Parser (Round (Spanned Expr) (Spanned Expr)) := do
  if ← acceptPunct .dot then
    let name ← identifierName
    return .again (← spannedFrom start (.member object (.ident name) false))
  if ← checkPunct .lBracket then
    let property ← computedProperty g
    return .again (← spannedFrom start (.member object (.computed property) false))
  return .done object

def memberOnly (g : Grammar) (heritage : Parser (Spanned Expr)) : Parser (Spanned Expr) := do
  let start ← startOffset
  let object ← primary g heritage
  repeatRounds (memberRound g start) object

def newFrom (g : Grammar) (heritage : Parser (Spanned Expr)) : Parser (Spanned Expr) := do
  let start ← startOffset
  let _ ← expectKeyword .newWord
  if ← acceptPunct .dot then
    let name ← identifier
    spannedFrom start (.metaProperty "new" name)
  else
    let callee ← if ← checkKeyword .newWord then g.newExpression else memberOnly g heritage
    let args ← if ← checkPunct .lParen then arguments g else pure []
    spannedFrom start (.new callee args)

def optionalLink (g : Grammar) (object : Spanned Expr) : Parser Expr := do
  if ← checkPunct .lParen then return .call object (← arguments g) true
  if ← checkPunct .lBracket then return .member object (.computed (← computedProperty g)) true
  return .member object (.ident (← identifierName)) true

def chainLink (g : Grammar) (object : Spanned Expr) : Parser (Option Expr) := do
  match (← peek).kind with
  | .punct .dot =>
      let _ ← advance
      return some (.member object (.ident (← identifierName)) false)
  | .punct .questionDot =>
      let _ ← advance
      return some (← optionalLink g object)
  | .punct .lBracket => return some (.member object (.computed (← computedProperty g)) false)
  | .punct .lParen => return some (.call object (← arguments g) false)
  | .template parts =>
      let _ ← advance
      return some (.tagged object (← template g parts))
  | _ => return none

def chainRound (g : Grammar) (start : Nat) (object : Spanned Expr) :
    Parser (Round (Spanned Expr) (Spanned Expr)) := do
  match ← chainLink g object with
  | some node => return .again (← spannedFrom start node)
  | none => return .done object

def callMemberWith (g : Grammar) (heritage : Parser (Spanned Expr)) : Parser (Spanned Expr) := do
  let start ← startOffset
  let head ← if ← checkKeyword .newWord then newFrom g heritage else primary g heritage
  repeatRounds (chainRound g start) head

-- Calls and members, with class heritages nested inside one another at most as deep as there are tokens in the
-- fuel. Each of them reads a token of its own first, so the tokens to come are enough.
def callMemberFrom (g : Grammar) : List Token → Parser (Spanned Expr)
  | [] => unexpected .expression
  | _ :: fuel => callMemberWith g (callMemberFrom g fuel)

def callMember (g : Grammar) : Parser (Spanned Expr) := do
  callMemberFrom g (← upcoming)

def newExpressionBody (g : Grammar) : Parser (Spanned Expr) :=
  newFrom g (callMember g)

def postfixUpdate (g : Grammar) (start : Nat) : Parser (Spanned Expr) := do
  let target ← callMember g
  let next ← peek
  match updateOp? next.kind with
  | some op =>
      if next.newlineBefore then return target
      let _ ← advance
      spannedFrom start (.update op false target)
  | none => return target

def unaryBody (g : Grammar) : Parser (Spanned Expr) := do
  let start ← startOffset
  let kind := (← peek).kind
  match unaryOp? kind, updateOp? kind with
  | some op, _ =>
      let _ ← advance
      let operand ← g.unary
      spannedFrom start (.unary op operand)
  | none, some op =>
      let _ ← advance
      let target ← g.unary
      spannedFrom start (.update op true target)
  | none, none =>
      if ← awaitAhead then
        let _ ← advance
        let value ← g.unary
        spannedFrom start (.await value)
      else postfixUpdate g start

end ScriptSuite.Script
