import ScriptSuite.Text.Letter
import ScriptSuite.Text.Blank
import ScriptSuite.Script.Fault

set_option autoImplicit false

namespace ScriptSuite.Script

open Text

structure Cursor where
  rest : List Char
  offset : Nat
deriving DecidableEq, Repr

def takeBytes (size : Nat) : List Char → List Char
  | [] => []
  | c :: rest => if size = 0 then [] else c :: takeBytes (size - c.utf8Size) rest

namespace Cursor

def advance (cursor : Cursor) (taken : List Char) : Cursor :=
  ⟨cursor.rest.drop taken.length, cursor.offset + byteLength taken⟩

def next (cursor : Cursor) : Cursor :=
  match cursor.rest with
  | [] => cursor
  | c :: rest => ⟨rest, cursor.offset + c.utf8Size⟩

def peek? (cursor : Cursor) : Option Char :=
  cursor.rest.head?

def takeWhile (cursor : Cursor) (accepts : Char → Bool) : List Char × Cursor :=
  let taken := cursor.rest.takeWhile accepts
  (taken, cursor.advance taken)

def skipWhile (cursor : Cursor) (accepts : Char → Bool) : Cursor :=
  (cursor.takeWhile accepts).2

def upTo (first last : Cursor) : List Char :=
  takeBytes (last.offset - first.offset) first.rest

end Cursor

structure Halt where
  fault : Fault
  stop : Cursor
deriving DecidableEq, Repr

abbrev Scan := Except Halt

def isIdentifierStart (c : Char) : Bool :=
  c == '$' || c == '_' || isAlphabetic c

-- Names may continue with the zero-width joiner and non-joiner.
def isIdentifierPart (c : Char) : Bool :=
  c == '$' || c == '_' || c == '\u200c' || c == '\u200d' || isAlphanumeric c

end ScriptSuite.Script
