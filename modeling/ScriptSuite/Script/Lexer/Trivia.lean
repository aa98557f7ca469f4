import ScriptSuite.Script.Lexer.Cursor

set_option autoImplicit false

namespace ScriptSuite.Script

open Text

def skipLine (cursor : Cursor) : Cursor :=
  cursor.skipWhile fun c => !isLineTerminator c

def skipBlockComment (newline : Bool) (offset : Nat) : List Char → Scan (Bool × Cursor)
  | [] => .error ⟨.unterminatedComment, ⟨[], offset⟩⟩
  | '*' :: '/' :: rest => .ok (newline, ⟨rest, offset + 2⟩)
  | c :: rest => skipBlockComment (newline || isLineTerminator c) (offset + c.utf8Size) rest

inductive Surroundings where
  | blanks
  | lineComment
  | blockComment (start : Nat)
deriving DecidableEq, Repr

def skipTriviaFrom (base : Nat) (surroundings : Surroundings) (newline : Bool) (offset : Nat) :
    List Char → Except SyntaxError (Bool × Cursor)
  | [] =>
      match surroundings with
      | .blockComment start => .error ⟨.unterminatedComment, ⟨base + start, base + offset⟩⟩
      | _ => .ok (newline, ⟨[], offset⟩)
  | c :: rest =>
      let after := offset + c.utf8Size
      match surroundings, c, rest with
      | .blockComment _, '*', '/' :: rest => skipTriviaFrom base .blanks newline (after + 1) rest
      | .blockComment start, c, rest =>
          skipTriviaFrom base (.blockComment start) (newline || isLineTerminator c) after rest
      | .lineComment, c, rest =>
          if isLineTerminator c then skipTriviaFrom base .blanks true after rest
          else skipTriviaFrom base .lineComment newline after rest
      | .blanks, '/', '/' :: rest => skipTriviaFrom base .lineComment newline (after + 1) rest
      | .blanks, '/', '*' :: rest => skipTriviaFrom base (.blockComment offset) newline (after + 1) rest
      | .blanks, c, rest =>
          if isLineTerminator c then skipTriviaFrom base .blanks true after rest
          else if isBlank c || c == byteOrderMark then skipTriviaFrom base .blanks newline after rest
          else .ok (newline, ⟨c :: rest, offset⟩)

def skipTrivia (base : Nat) (cursor : Cursor) : Except SyntaxError (Bool × Cursor) :=
  skipTriviaFrom base .blanks false cursor.offset cursor.rest

end ScriptSuite.Script
