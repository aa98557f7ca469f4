import ScriptSuite.Script.Syntax

/-!
Parsers over token streams. A failing parser reports where it stopped, because a block goes on from there; what
it was told by its context is not part of the state, so that it cannot leak out of a failed construct.
-/
set_option autoImplicit false

namespace ScriptSuite.Script

structure Context where
  noIn : Bool
  inAsync : Bool
  inGenerator : Bool
deriving DecidableEq, Repr

structure State where
  rest : List Token
  lastEnd : Nat
  recovered : List SyntaxError
deriving DecidableEq, Repr

inductive Outcome (α : Type) where
  | ok (value : α) (state : State)
  | error (error : SyntaxError) (state : State)
deriving DecidableEq

def Parser (α : Type) : Type := Context → State → Outcome α

namespace Parser

@[inline] def pure {α : Type} (value : α) : Parser α :=
  fun _ state => .ok value state

@[inline] def bind {α β : Type} (first : Parser α) (second : α → Parser β) : Parser β :=
  fun context state =>
    match first context state with
    | .ok value after => second value context after
    | .error error after => .error error after

instance : Monad Parser where
  pure := Parser.pure
  bind := Parser.bind

def fail {α : Type} (error : SyntaxError) : Parser α :=
  fun _ state => .error error state

def attempt {α : Type} (parser : Parser α) : Parser (Except SyntaxError α) :=
  fun context state =>
    match parser context state with
    | .ok value after => .ok (.ok value) after
    | .error error after => .ok (.error error) after

def context : Parser Context :=
  fun context state => .ok context state

def within {α : Type} (change : Context → Context) (parser : Parser α) : Parser α :=
  fun context state => parser (change context) state

end Parser

open ScriptSuite.Script.Parser

def allowingIn {α : Type} : Parser α → Parser α :=
  within fun context => { context with noIn := false }

def forbiddingIn {α : Type} : Parser α → Parser α :=
  within fun context => { context with noIn := true }

def inFunction {α : Type} (isAsync isGenerator : Bool) : Parser α → Parser α :=
  within fun _ => ⟨false, isAsync, isGenerator⟩

namespace State

-- The token at the cursor. A stream ends in an end-of-file token that is never consumed; a list without one is
-- read as if it had one.
def peekAt (state : State) (distance : Nat) : Token :=
  (state.rest[distance]?).getD ⟨.endOfFile, ⟨state.lastEnd, state.lastEnd⟩, false⟩

def peek (state : State) : Token :=
  state.peekAt 0

def atEnd (state : State) : Bool :=
  state.peek.kind == .endOfFile

def advance (state : State) : State :=
  match state.rest with
  | [] => state
  | token :: rest =>
      if token.kind = .endOfFile then state else { state with rest, lastEnd := token.span.stop }

end State

def peekAt (distance : Nat) : Parser Token :=
  fun _ state => .ok (state.peekAt distance) state

def peek : Parser Token :=
  peekAt 0

def atEnd : Parser Bool :=
  fun _ state => .ok state.atEnd state

def upcoming : Parser (List Token) :=
  fun _ state => .ok state.rest state

def advance : Parser Token :=
  fun _ state => .ok state.peek state.advance

def recordError (error : SyntaxError) : Parser Unit :=
  fun _ state => .ok () { state with recovered := state.recovered ++ [error] }

def spanFrom (start : Nat) : Parser Span :=
  fun _ state => .ok ⟨start, max state.lastEnd start⟩ state

def spannedFrom {α : Type} (start : Nat) (node : α) : Parser (Spanned α) := do
  let span ← spanFrom start
  return ⟨node, span⟩

def startOffset : Parser Nat := do
  return (← peek).span.start

def unexpected {α : Type} (wanted : Expectation) : Parser α := do
  let token ← peek
  fail ⟨.unexpected wanted token.kind, token.span⟩

def check (kind : TokenKind) : Parser Bool := do
  return (← peek).kind == kind

def checkPunct (mark : Punct) : Parser Bool :=
  check (.punct mark)

def checkKeyword (word : Keyword) : Parser Bool :=
  check (.keyword word)

def checkWord (word : String) : Parser Bool :=
  check (.identifier word)

def accept (kind : TokenKind) : Parser Bool := do
  if ← check kind then
    let _ ← advance
    return true
  else return false

def acceptPunct (mark : Punct) : Parser Bool :=
  accept (.punct mark)

def acceptKeyword (word : Keyword) : Parser Bool :=
  accept (.keyword word)

def acceptWord (word : String) : Parser Bool :=
  accept (.identifier word)

def expect (kind : TokenKind) (wanted : Expectation) : Parser Token := do
  if ← check kind then advance else unexpected wanted

def expectPunct (mark : Punct) : Parser Token :=
  expect (.punct mark) (.mark mark)

def expectKeyword (word : Keyword) : Parser Token :=
  expect (.keyword word) (.word word.spelling)

def expectWord (word : String) : Parser Token :=
  expect (.identifier word) (.word word)

def identifier : Parser String := do
  match (← peek).kind with
  | .identifier name =>
      let _ ← advance
      return name
  | _ => unexpected .identifier

def identifierName : Parser String := do
  match (← peek).kind with
  | .identifier name =>
      let _ ← advance
      return name
  | .keyword word =>
      let _ ← advance
      return word.spelling
  | .privateName name =>
      let _ ← advance
      return "#" ++ name
  | _ => unexpected .propertyName

def stringLiteral : Parser String := do
  match (← peek).kind with
  | .string value =>
      let _ ← advance
      return value
  | _ => unexpected .stringLiteral

def consumeSemicolon : Parser Unit := do
  if ← acceptPunct .semi then return ()
  let next ← peek
  if next.newlineBefore || next.kind == .endOfFile || next.kind == .punct .rBrace then return ()
  unexpected (.mark .semi)

inductive Round (σ α : Type) where
  | again (state : σ)
  | done (result : α)

def repeatFrom {σ α : Type} (round : σ → Parser (Round σ α)) : List Token → σ → Parser α
  | [], state => do
      match ← round state with
      | .again _ => unexpected .expression
      | .done result => return result
  | _ :: fuel, state => do
      match ← round state with
      | .again next => repeatFrom round fuel next
      | .done result => return result

-- Repeats `round` until it is done. A round that asks for another one has read a token, so that the tokens to
-- come are always enough fuel.
def repeatRounds {σ α : Type} (round : σ → Parser (Round σ α)) (start : σ) : Parser α := do
  repeatFrom round (← upcoming) start

def commaRound {α : Type} (close : Punct) (item : Parser α) (items : List α) :
    Parser (Round (List α) (List α)) := do
  if ← checkPunct close then return .done items.reverse
  let value ← item
  if ← acceptPunct .comma then return .again (value :: items)
  return .done (value :: items).reverse

def commaList {α : Type} (close : Punct) (item : Parser α) : Parser (List α) :=
  repeatRounds (commaRound close item) []

def holedRound {α : Type} (close : Punct) (item : Parser α) (items : List (Option α)) :
    Parser (Round (List (Option α)) (List (Option α))) := do
  if ← checkPunct close then return .done items.reverse
  if ← acceptPunct .comma then return .again (none :: items)
  let value ← item
  if ← acceptPunct .comma then return .again (some value :: items)
  return .done (some value :: items).reverse

def holedList {α : Type} (close : Punct) (item : Parser α) : Parser (List (Option α)) :=
  repeatRounds (holedRound close item) []

-- Deepest nesting of statements, expressions and patterns.
def maxNesting : Nat := 160

structure Grammar where
  statement : Parser (Spanned Statement)
  block : Parser (Body × Span)
  bindingTarget : Parser (Spanned Pattern)
  assignment : Parser (Spanned Expr)
  binary : Nat → Parser (Spanned Expr)
  unary : Parser (Spanned Expr)
  newExpression : Parser (Spanned Expr)

def tooDeep {α : Type} : Parser α := do
  fail ⟨.nestingTooDeep, (← peek).span⟩

def Grammar.exhausted : Grammar :=
  ⟨tooDeep, tooDeep, tooDeep, tooDeep, fun _ => tooDeep, tooDeep, tooDeep⟩

end ScriptSuite.Script
