import ScriptSuite.Script.Fault
import ScriptSuite.Script.LineIndex

set_option autoImplicit false

namespace ScriptSuite.Script

structure ParseError where
  position : Position
  description : String
  span : Span
deriving DecidableEq, Repr

namespace ParseError

def message (error : ParseError) : String :=
  "line " ++ toString error.position.line ++ ": " ++ error.description

def reportMessage (error : ParseError) : String :=
  "syntax error: " ++ error.description

-- Offset and length of the text that a report underlines: at least one byte, and inside the source unless the
-- error is at its end.
def label (error : ParseError) (source : String) : Nat × Nat :=
  let size := source.utf8ByteSize
  let start := min error.span.start size
  let length := max (error.span.stop - error.span.start) 1
  (start, min length (max (size - start) 1))

end ParseError

def locate (source description : String) (span : Span) : ParseError :=
  ⟨positionAt source span.start, description, span⟩

def SyntaxError.locate (error : SyntaxError) (source : String) : ParseError :=
  Script.locate source error.message error.span

end ScriptSuite.Script
