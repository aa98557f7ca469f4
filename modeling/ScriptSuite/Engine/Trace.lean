import ScriptSuite.FileSystem.Disk
import ScriptSuite.Text.Utf8

/-!
What an engine and its children do while they run. Times are milliseconds since the start of the engine.
-/
set_option autoImplicit false

namespace ScriptSuite.Engine

open FileSystem Text

inductive Action where
  | output (bytes : List UInt8)
  | errors (bytes : List UInt8)
  | closeOutput
  | wait (wake : Nat) (disk : Disk)
  | child (stop : Nat) (holdsOutput holdsErrors : Bool)

structure Event where
  time : Nat
  action : Action

structure Trace where
  events : List Event
  ended : Nat
  -- Absent when a signal ends the engine.
  code : Option Int
  disk : Disk

inductive Happening where
  | line (text : String)
  | outputClosed
  | exited (code : Option Int)
deriving DecidableEq, Repr

def splitLines : List UInt8 → List (List UInt8)
  | [] => [[]]
  | byte :: rest =>
      if byte = 10 then [] :: splitLines rest
      else
        match splitLines rest with
        | first :: others => (byte :: first) :: others
        | [] => [[byte]]

def lineText (bytes : List UInt8) : String :=
  let text := (Utf8.decodeLossy bytes).toList
  match text.reverse with
  | '\r' :: rest => String.ofList rest.reverse
  | _ => String.ofList text

def lineHappenings (now : Nat) (lines : List (List UInt8)) : List (Nat × Happening) :=
  lines.map fun line => (now, .line (lineText line))

-- The lines with the times at which they are complete, from the beginning of a line on. What is left when the
-- output is closed is a line too, unless it is empty.
def linesFrom (closed : Nat) (partialLine : List UInt8) : List Event → List (Nat × Happening)
  | [] => if partialLine.isEmpty then [] else lineHappenings closed [partialLine]
  | ⟨now, .output bytes⟩ :: rest =>
      let pieces := splitLines (partialLine ++ bytes)
      lineHappenings now pieces.dropLast ++ linesFrom closed (pieces.getLast?.getD []) rest
  | _ :: rest => linesFrom closed partialLine rest

namespace Trace

def ownOutputEnd (trace : Trace) : Nat :=
  (trace.events.findSome? fun event =>
    match event.action with
    | .closeOutput => some event.time
    | _ => none).getD trace.ended

def outputEnd (trace : Trace) : Nat :=
  trace.events.foldl (fun latest event =>
    match event.action with
    | .child stop true _ => max latest stop
    | _ => latest) trace.ownOutputEnd

def finished (trace : Trace) : Nat :=
  max trace.ended trace.outputEnd

def happenings (trace : Trace) : List (Nat × Happening) :=
  linesFrom trace.outputEnd [] trace.events
    ++ [(trace.outputEnd, .outputClosed), (trace.finished, .exited trace.code)]

def errorsBefore (trace : Trace) (limit : Option Nat) : List UInt8 :=
  trace.events.flatMap fun event =>
    match event.action with
    | .errors bytes => if limit.all (event.time < ·) then bytes else []
    | _ => []

def holdsErrors (trace : Trace) (now limit : Nat) : Bool :=
  trace.events.any fun event =>
    match event.action with
    | .child stop _ true => event.time ≤ now && limit < stop
    | _ => false

def diskAt (trace : Trace) (kill : Nat) : Disk :=
  (trace.events.findSome? fun event =>
    match event.action with
    | .wait wake disk => if kill ≤ wake then some disk else none
    | _ => none).getD trace.disk

def codeAt (trace : Trace) (kill : Nat) : Option Int :=
  if trace.ended < kill then trace.code else none

end Trace

end ScriptSuite.Engine
