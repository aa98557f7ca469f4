import ScriptSuite.Result.Stream

set_option autoImplicit false

namespace ScriptSuite.Run

open Discovery Result

inductive Level where
  | informational | warning | error
deriving DecidableEq, Repr

inductive Report where
  | started (testCase : TestCase)
  | result (result : TestResult)
  | message (level : Level) (text : String)
deriving DecidableEq, Repr

def Report.ofEvent : StreamEvent → Report
  | .started testCase => .started testCase
  | .finished ended => .result ended

def results (reports : List Report) : List TestResult :=
  reports.filterMap fun report =>
    match report with
    | .result result => some result
    | _ => none

def passedCount (reports : List Report) : Nat :=
  ((results reports).filter (·.passed)).length

def failedCount (reports : List Report) : Nat :=
  ((results reports).filter (!·.passed)).length

end ScriptSuite.Run
