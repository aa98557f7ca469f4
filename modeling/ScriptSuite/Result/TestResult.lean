import ScriptSuite.Discovery.TestCase

set_option autoImplicit false

namespace ScriptSuite.Result

open Discovery

inductive Outcome where
  | passed | failed
deriving DecidableEq, Repr

def Outcome.text : Outcome → String
  | .passed => "Passed"
  | .failed => "Failed"

structure TestResult where
  testCase : TestCase
  outcome : Outcome
  errorMessage : Option String
  rawLines : List String
deriving DecidableEq, Repr

namespace TestResult

def started (testCase : TestCase) (markerLine : String) : TestResult :=
  ⟨testCase, .passed, none, [markerLine]⟩

def passed (result : TestResult) : Bool :=
  result.outcome = .passed

def interrupted (result : TestResult) (message : String) : TestResult :=
  { result with outcome := .failed, errorMessage := some message }

def extend (result : TestResult) (line : String) (isFailure : Bool) : TestResult :=
  if isFailure then ⟨result.testCase, .failed, some line, result.rawLines ++ [line]⟩
  else { result with rawLines := result.rawLines ++ [line] }

end TestResult

end ScriptSuite.Result
