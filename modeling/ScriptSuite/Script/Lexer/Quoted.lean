import ScriptSuite.Script.Lexer.Trivia

set_option autoImplicit false

namespace ScriptSuite.Script

open Text

inductive Escape where
  | character (c : Char)
  | lineContinuation
  | endOfText
deriving DecidableEq, Repr

def replacement : Char := '\uFFFD'

def scalar? (code : Nat) : Option Char :=
  if valid : code.isValidChar then some (Char.ofNatAux code valid) else none

def scanHexEscape (letter : Char) (count : Nat) (cursor : Cursor) : Escape × Cursor :=
  let digits := cursor.rest.take count
  if digits.length = count && digits.all isHexDigit then
    (.character ((scalar? (natOfDigits 16 digits)).getD replacement), cursor.advance digits)
  else (.character letter, cursor)

def scanBracedEscape (cursor : Cursor) : Escape × Cursor :=
  let (digits, after) := cursor.takeWhile isHexDigit
  match after.rest with
  | '}' :: _ =>
      let value := if digits.isEmpty then none else scalar? (natOfDigits 16 digits)
      (.character (value.getD replacement), after.next)
  | _ => (.character 'u', after)

def scanEscape (cursor : Cursor) : Escape × Cursor :=
  match cursor.rest with
  | [] => (.endOfText, cursor)
  | c :: rest =>
      let after := cursor.next
      match c with
      | 'n' => (.character '\n', after)
      | 't' => (.character '\t', after)
      | 'r' => (.character '\r', after)
      | 'b' => (.character '\x08', after)
      | 'f' => (.character '\x0c', after)
      | 'v' => (.character '\x0b', after)
      | '0' => if rest.head?.any isAsciiDigit then (.character '0', after) else (.character '\x00', after)
      | 'x' => scanHexEscape 'x' 2 after
      | 'u' => if rest.head? = some '{' then scanBracedEscape after.next else scanHexEscape 'u' 4 after
      | '\r' => (.lineContinuation, if rest.head? = some '\n' then after.next else after)
      | c => if isLineTerminator c then (.lineContinuation, after) else (.character c, after)

-- The value of a string literal up to its closing quote; the opening quote is already read. Every step takes a
-- character, so the characters to come are themselves enough `fuel`.
def scanStringBody (quote : Char) : List Char → Cursor → Scan (List Char × Cursor)
  | [], cursor => .error ⟨.unterminatedString, cursor⟩
  | _ :: fuel, cursor =>
      match cursor.rest with
      | [] => .error ⟨.unterminatedString, cursor⟩
      | c :: _ =>
          if c = quote then .ok ([], cursor.next)
          else if c = '\\' then
            match scanEscape cursor.next with
            | (.character value, after) => do
                let (text, stop) ← scanStringBody quote fuel after
                return (value :: text, stop)
            | (.lineContinuation, after) => scanStringBody quote fuel after
            | (.endOfText, after) => .error ⟨.unterminatedString, after⟩
          else if c = '\n' || c = '\r' then .error ⟨.unterminatedString, cursor.next⟩
          else do
            let (text, stop) ← scanStringBody quote fuel cursor.next
            return (c :: text, stop)

def scanString (cursor : Cursor) (quote : Char) : Scan (TokenKind × Cursor) := do
  let (text, stop) ← scanStringBody quote cursor.next.rest cursor.next
  return (.string (String.ofList text), stop)

def skipRawString (quote : Char) (offset : Nat) : List Char → Scan (Unit × Cursor)
  | [] => .error ⟨.unterminatedString, ⟨[], offset⟩⟩
  | '\\' :: c :: rest => skipRawString quote (offset + 1 + c.utf8Size) rest
  | c :: rest =>
      if c = quote then .ok ((), ⟨rest, offset + c.utf8Size⟩)
      else skipRawString quote (offset + c.utf8Size) rest

inductive Enclosure where
  | substitution (braces : Nat)
  | template
deriving DecidableEq, Repr

-- To behind the brace that closes the outermost enclosure. Strings, comments and nested templates are skipped;
-- regular expressions are not recognised. The characters to come are enough fuel.
def skipSubstitution : List Char → List Enclosure → Cursor → Scan (Unit × Cursor)
  | _, [], cursor => .ok ((), cursor)
  | [], _, cursor => .error ⟨.unterminatedTemplate, cursor⟩
  | _ :: fuel, .template :: outer, cursor =>
      match cursor.rest with
      | [] => .error ⟨.unterminatedTemplate, cursor⟩
      | '\\' :: _ => skipSubstitution fuel (.template :: outer) cursor.next.next
      | '`' :: _ => skipSubstitution fuel outer cursor.next
      | '$' :: '{' :: _ => skipSubstitution fuel (.substitution 0 :: .template :: outer) cursor.next.next
      | _ :: _ => skipSubstitution fuel (.template :: outer) cursor.next
  | _ :: fuel, .substitution braces :: outer, cursor =>
      match cursor.rest with
      | [] => .error ⟨.unterminatedTemplate, cursor⟩
      | '{' :: _ => skipSubstitution fuel (.substitution (braces + 1) :: outer) cursor.next
      | '}' :: _ =>
          match braces with
          | 0 => skipSubstitution fuel outer cursor.next
          | depth + 1 => skipSubstitution fuel (.substitution depth :: outer) cursor.next
      | '`' :: _ => skipSubstitution fuel (.template :: .substitution braces :: outer) cursor.next
      | '/' :: '/' :: _ => skipSubstitution fuel (.substitution braces :: outer) (skipLine cursor)
      | '/' :: '*' :: rest => do
          let (_, after) ← skipBlockComment false (cursor.offset + 2) rest
          skipSubstitution fuel (.substitution braces :: outer) after
      | c :: rest =>
          if c = '"' || c = '\'' then do
            let ((), after) ← skipRawString c (cursor.offset + 1) rest
            skipSubstitution fuel (.substitution braces :: outer) after
          else skipSubstitution fuel (.substitution braces :: outer) cursor.next

def scanTemplateBody (base : Nat) : List Char → List Char → Cursor → Scan (List TemplatePart × Cursor)
  | [], _, cursor => .error ⟨.unterminatedTemplate, cursor⟩
  | _ :: fuel, literal, cursor =>
      match cursor.rest with
      | [] => .error ⟨.unterminatedTemplate, cursor⟩
      | '`' :: _ => .ok ([.text (String.ofList literal.reverse)], cursor.next)
      | '\\' :: _ =>
          match scanEscape cursor.next with
          | (.character value, after) => scanTemplateBody base fuel (value :: literal) after
          | (.lineContinuation, after) => scanTemplateBody base fuel literal after
          | (.endOfText, after) => .error ⟨.unterminatedTemplate, after⟩
      | '$' :: '{' :: _ => do
          let first := cursor.next.next
          let ((), after) ← skipSubstitution first.rest [.substitution 0] first
          let source := (first.upTo after).dropLast
          let (parts, stop) ← scanTemplateBody base fuel [] after
          return (.text (String.ofList literal.reverse)
            :: .substitution (String.ofList source) (base + first.offset) :: parts, stop)
      | c :: _ => scanTemplateBody base fuel (c :: literal) cursor.next

def scanTemplate (base : Nat) (cursor : Cursor) : Scan (TokenKind × Cursor) := do
  let (parts, stop) ← scanTemplateBody base cursor.next.rest [] cursor.next
  return (.template parts, stop)

def skipRegexBody (inClass : Bool) (offset : Nat) : List Char → Scan (Unit × Cursor)
  | [] => .error ⟨.unterminatedRegex, ⟨[], offset⟩⟩
  | ['\\'] => .error ⟨.unterminatedRegex, ⟨[], offset + 1⟩⟩
  | '\\' :: c :: rest =>
      if isLineTerminator c then .error ⟨.unterminatedRegex, ⟨rest, offset + 1 + c.utf8Size⟩⟩
      else skipRegexBody inClass (offset + 1 + c.utf8Size) rest
  | c :: rest =>
      let after := offset + c.utf8Size
      if c = '[' then skipRegexBody true after rest
      else if c = ']' then skipRegexBody false after rest
      else if c = '/' && !inClass then .ok ((), ⟨rest, after⟩)
      else if isLineTerminator c then .error ⟨.unterminatedRegex, ⟨rest, after⟩⟩
      else skipRegexBody inClass after rest

def scanRegex (cursor : Cursor) : Scan (TokenKind × Cursor) := do
  let first := cursor.next
  let ((), after) ← skipRegexBody false first.offset first.rest
  let (flags, stop) := after.takeWhile isIdentifierPart
  return (.regex (String.ofList (first.upTo after).dropLast) (String.ofList flags), stop)

end ScriptSuite.Script
