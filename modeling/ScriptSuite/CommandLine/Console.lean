import ScriptSuite.Run.Report
import ScriptSuite.Run.Summary
import ScriptSuite.Text.Quoted

set_option autoImplicit false

namespace ScriptSuite.CommandLine

open Discovery Result Run Text

structure Shown where
  output : String
  errors : String
deriving DecidableEq, Repr

namespace Shown

def nothing : Shown :=
  ⟨"", ""⟩

def append (first second : Shown) : Shown :=
  ⟨first.output ++ second.output, first.errors ++ second.errors⟩

def all (parts : List Shown) : Shown :=
  parts.foldl append nothing

def line (text : String) : Shown :=
  ⟨text ++ "\n", ""⟩

def complaint (text : String) : Shown :=
  ⟨"", text ++ "\n"⟩

end Shown

inductive Style where
  | bold | red | green | yellow | boldRed | boldGreen
deriving DecidableEq, Repr

def Style.code : Style → String
  | .bold => "1"
  | .red => "31"
  | .green => "32"
  | .yellow => "33"
  | .boldRed => "1;31"
  | .boldGreen => "1;32"

def styled (style : Style) (text : String) : String :=
  "\x1b[" ++ style.code ++ "m" ++ text ++ "\x1b[0m"

def rule : String := "==================="

def framed (text : String) : String :=
  rule ++ " " ++ text ++ " " ++ rule

def shortName (testCase : TestCase) : String :=
  (testCase.sourceFile.fileName?).getD "unknown" ++ "::" ++ testCase.displayName

def sessionStart (count : Nat) : Shown :=
  .all [.line (styled .bold (framed "test session starts")), .line ("collected " ++ toString count ++ " item(s)"),
    .line ""]

def showReport (verbose : Bool) : Report → Shown
  | .started testCase => if verbose then .line (shortName testCase ++ " ...") else .nothing
  | .result result =>
      .line (shortName result.testCase ++ " "
        ++ if result.passed then styled .green "PASSED" else styled .red "FAILED")
  | .message .informational text => if verbose then .line ("    | " ++ text) else .nothing
  | .message .warning text => .complaint (styled .yellow "warning" ++ ": " ++ text)
  | .message .error text => .complaint (styled .red "error" ++ ": " ++ text)

def showFailure (result : TestResult) : Shown :=
  .all ([.line "", .line (styled .bold ("___________ " ++ result.testCase.displayName ++ " ___________"))]
    ++ (match result.errorMessage with
      | some message => [.line "", .line ("    " ++ message)]
      | none => [])
    ++ [.line "",
      .line ("    " ++ result.testCase.sourceFile.text ++ ":" ++ toString result.testCase.position.line)])

def showFailures (failures : List TestResult) : Shown :=
  if failures.isEmpty then .nothing
  else .all ([.line "", .line (styled .boldRed (framed "FAILURES"))] ++ failures.map showFailure)

def counted (count : Nat) (what : String) : List String :=
  if count = 0 then [] else [toString count ++ " " ++ what]

def isError : GroupOutcome → Bool
  | .failed _ | .skipped _ => true
  | _ => false

def summaryParts (summary : Summary) : List String :=
  let count (p : GroupOutcome → Bool) := (summary.groups.filter fun group => p group.outcome).length
  let parts := counted summary.passed "passed" ++ counted summary.failed "failed"
    ++ counted (count isError) "error(s)" ++ counted (count (· = .timedOut)) "timed out"
    ++ (if summary.wasCancelled then ["interrupted"] else [])
  if parts.isEmpty then ["no tests ran"] else parts

def summaryLine (summary : Summary) (seconds : String) : Shown :=
  let style := if summary.hasFailures then Style.boldRed else .boldGreen
  .all [.line "",
    .line (styled style (framed (String.intercalate ", " (summaryParts summary) ++ " in " ++ seconds ++ "s")))]

def showRun (verbose : Bool) (count : Nat) (reports : List Report) (summary : Summary) (seconds : String) : Shown :=
  .all ([sessionStart count] ++ reports.map (showReport verbose)
    ++ [showFailures ((results reports).filter (!·.passed)), summaryLine summary seconds])

def showCase (testCase : TestCase) : Shown :=
  .line (testCase.sourceFile.text ++ ":" ++ toString testCase.position.line ++ ":"
    ++ toString testCase.position.column ++ " " ++ testCase.displayName)

def caseObject (testCase : TestCase) : String :=
  "  \x7b\n    \"id\": " ++ Quoted.quote testCase.id ++ ",\n    \"display_name\": "
    ++ Quoted.quote testCase.displayName ++ ",\n    \"source_file\": " ++ Quoted.quote testCase.sourceFile.text
    ++ ",\n    \"line\": " ++ toString testCase.position.line ++ ",\n    \"column\": "
    ++ toString testCase.position.column ++ "\n  \x7d"

def showCasesAsJson (cases : List TestCase) : Shown :=
  if cases.isEmpty then .line "[]"
  else .line ("[\n" ++ String.intercalate ",\n" (cases.map caseObject) ++ "\n]")

end ScriptSuite.CommandLine
