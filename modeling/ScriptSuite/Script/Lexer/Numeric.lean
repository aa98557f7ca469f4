import ScriptSuite.Script.Lexer.Cursor

set_option autoImplicit false

namespace ScriptSuite.Script

open Text Number

def digitRun (radix : Nat) : List Char → List Char
  | [] => []
  | c :: rest =>
      if isDigitOf radix c || (c == '_' && rest.head?.any (isDigitOf radix)) then c :: digitRun radix rest
      else []

def dropSeparators (text : List Char) : List Char :=
  text.filter (· != '_')

def fractionPart : List Char → List Char
  | '.' :: rest => '.' :: digitRun 10 rest
  | _ => []

def exponentPart (text : List Char) : List Char :=
  match text with
  | mark :: rest =>
      if mark == 'e' || mark == 'E' then
        match rest with
        | sign :: digits =>
            if isAsciiDigit sign then mark :: digitRun 10 rest
            else if (sign == '+' || sign == '-') && digits.head?.any isAsciiDigit then
              mark :: sign :: digitRun 10 digits
            else []
        | [] => []
      else []
  | [] => []

def decimalText (text : List Char) : List Char :=
  let whole := digitRun 10 text
  let fraction := fractionPart (text.drop whole.length)
  let exponent := exponentPart (text.drop (whole.length + fraction.length))
  whole ++ fraction ++ exponent

def scanDecimal (cursor : Cursor) : Scan (TokenKind × Cursor) :=
  let whole := digitRun 10 cursor.rest
  let afterWhole := cursor.advance whole
  if afterWhole.peek? == some 'n' then
    .ok (.bigint (String.ofList (dropSeparators whole)), afterWhole.next)
  else
    let literal := decimalText cursor.rest
    let after := cursor.advance literal
    let digits := dropSeparators literal
    match Double.ofText? digits with
    | none => .error ⟨.invalidNumber (String.ofList digits), after⟩
    | some value =>
        if after.peek?.any isIdentifierStart then .error ⟨.nameAfterNumber, after.next⟩
        else .ok (.number value, after)

def scanRadix (start : Cursor) (radix : Nat) : Scan (TokenKind × Cursor) :=
  let first := start.next.next
  let run := digitRun radix first.rest
  let after := first.advance run
  let digits := dropSeparators run
  if digits.isEmpty then .error ⟨.missingRadixDigits, after⟩
  else if after.peek? == some 'n' then
    .ok (.bigint (String.ofList (start.rest.take (run.length + 2))), after.next)
  else .ok (.number (Double.ofDigits radix (digits.filterMap (digitValue? radix))), after)

def radixOfPrefix? : List Char → Option Nat
  | '0' :: mark :: _ =>
      if mark == 'x' || mark == 'X' then some 16
      else if mark == 'o' || mark == 'O' then some 8
      else if mark == 'b' || mark == 'B' then some 2
      else none
  | _ => none

def scanNumber (cursor : Cursor) : Scan (TokenKind × Cursor) :=
  match radixOfPrefix? cursor.rest with
  | some radix => scanRadix cursor radix
  | none => scanDecimal cursor

end ScriptSuite.Script
