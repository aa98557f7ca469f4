import ScriptSuite.Script.Lexer.Numeric
import ScriptSuite.Script.Lexer.Quoted

/-!
From source text to tokens. A stream ends in its only end-of-file token; a lexical error ends the reading.
Whether a slash divides or opens a regular expression is decided by the token before it.
-/
set_option autoImplicit false

namespace ScriptSuite.Script

open Text

def regexAllowed (previous : Option TokenKind) : Bool :=
  match previous with
  | none => true
  | some kind => !kind.endsOperand

def scanPunct (cursor : Cursor) : Scan (TokenKind × Cursor) :=
  match Punct.longest? cursor.rest with
  | none =>
      let c := cursor.rest.headD ' '
      .error ⟨.unexpectedCharacter c, cursor.next⟩
  | some .questionDot =>
      -- Before a digit the point belongs to a number, as in `a?.5:b`.
      if (cursor.rest.drop 2).head?.any isAsciiDigit then .ok (.punct .question, cursor.next)
      else .ok (.punct .questionDot, cursor.next.next)
  | some mark => .ok (.punct mark, cursor.advance mark.spelling)

def scanWord (cursor : Cursor) : TokenKind × Cursor :=
  let (text, after) := cursor.takeWhile isIdentifierPart
  let name := String.ofList text
  match Keyword.ofName? name with
  | some word => (.keyword word, after)
  | none => (.identifier name, after)

def scanPrivateName (cursor : Cursor) : Scan (TokenKind × Cursor) :=
  let first := cursor.next
  if first.peek?.any isIdentifierStart then
    let (text, after) := first.takeWhile isIdentifierPart
    .ok (.privateName (String.ofList text), after)
  else .error ⟨.unexpectedCharacter '#', first⟩

def scanKind (base : Nat) (previous : Option TokenKind) (c : Char) (cursor : Cursor) : Scan (TokenKind × Cursor) :=
  if c = '"' || c = '\'' then scanString cursor c
  else if c = '`' then scanTemplate base cursor
  else if isAsciiDigit c then scanNumber cursor
  else if c = '.' && cursor.next.peek?.any isAsciiDigit then scanNumber cursor
  else if c = '/' && regexAllowed previous then scanRegex cursor
  else if c = '#' then scanPrivateName cursor
  else if isIdentifierStart c then .ok (scanWord cursor)
  else scanPunct cursor

def endToken (base : Nat) (newline : Bool) (stop : Cursor) : Token :=
  ⟨.endOfFile, ⟨base + stop.offset, base + stop.offset⟩, newline⟩

-- The tokens from the cursor on, with spans moved by `base`. Every token takes a character, so the number of
-- characters to come is enough `fuel`.
def lexFrom (base : Nat) : Nat → Option TokenKind → Cursor → Except SyntaxError (List Token)
  | 0, _, cursor => do
      let (newline, start) ← skipTrivia base cursor
      return [endToken base newline start]
  | fuel + 1, previous, cursor => do
      let (newline, start) ← skipTrivia base cursor
      match start.rest with
      | [] => return [endToken base newline start]
      | c :: _ =>
          match scanKind base previous c start with
          | .error halt => .error ⟨halt.fault, ⟨base + start.offset, base + halt.stop.offset⟩⟩
          | .ok (kind, after) =>
              let rest ← lexFrom base fuel (some kind) after
              return ⟨kind, ⟨base + start.offset, base + after.offset⟩, newline⟩ :: rest

-- A first line that begins with `#!` is skipped in a file, not in a fragment of one.
def startCursor (base : Nat) (source : List Char) : Cursor :=
  let first : Cursor := ⟨source, 0⟩
  if base = 0 && ['#', '!'].isPrefixOf source then skipLine first else first

def lexFragment (source : String) (base : Nat) : Except SyntaxError (List Token) :=
  let text := source.toList
  lexFrom base text.length none (startCursor base text)

def lex (source : String) : Except SyntaxError (List Token) :=
  lexFragment source 0

end ScriptSuite.Script
