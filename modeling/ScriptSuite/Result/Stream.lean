import ScriptSuite.Protocol
import ScriptSuite.Result.TestResult

set_option autoImplicit false

namespace ScriptSuite.Result

open Discovery

inductive StreamEvent where
  | started (testCase : TestCase)
  | finished (result : TestResult)
deriving DecidableEq, Repr

structure StreamState where
  current : Option TestResult
  errorLines : List String
deriving DecidableEq, Repr

structure StreamEnd where
  lastResult : Option TestResult
  executionError : Option String
deriving DecidableEq, Repr

namespace StreamState

def initial : StreamState :=
  ⟨none, []⟩

def inError (state : StreamState) : Bool :=
  !state.errorLines.isEmpty

def caseNamed? (cases : List TestCase) (name : String) : Option TestCase :=
  cases.reverse.find? fun testCase => testCase.displayName == name

def mark (cases : List TestCase) (state : StreamState) (name line : String) : StreamState × List StreamEvent :=
  let closing := (state.current.map StreamEvent.finished).toList
  match caseNamed? cases name with
  | some testCase =>
      ({ state with current := some (.started testCase line) }, closing ++ [.started testCase])
  | none => ({ state with current := none }, closing)

def feedLine (protocol : Protocol) (cases : List TestCase) (state : StreamState) (line : String) :
    StreamState × List StreamEvent :=
  if state.inError || protocol.isFatal line then ({ state with errorLines := state.errorLines ++ [line] }, [])
  else
    match protocol.markedName? line with
    | some name => mark cases state name line
    | none =>
        let current := state.current.map fun result => result.extend line (protocol.isFailure line)
        ({ state with current }, [])

def feed (protocol : Protocol) (cases : List TestCase) (state : StreamState) (line : String) :
    StreamState × List StreamEvent :=
  state.feedLine protocol cases (Protocol.dropReturn line)

def finish (state : StreamState) : StreamEnd :=
  ⟨state.current, if state.inError then some (String.intercalate "\n" state.errorLines) else none⟩

end StreamState

end ScriptSuite.Result
