import ScriptSuite.CommandLine.Console
import ScriptSuite.CommandLine.Parse
import ScriptSuite.Config.Load
import ScriptSuite.Discovery.Collect
import ScriptSuite.Run.Execute

set_option autoImplicit false

namespace ScriptSuite.CommandLine

open Config Discovery Engine FileSystem Run

structure Surroundings where
  disk : Disk
  programDirectory : Path
  launcher : Launcher
  naming : Path → Naming

structure Outcome where
  exitCode : Nat
  shown : String → Shown
  disk : Disk

def versionText : String := "casper-adapter 0.1.0"

def helpText : String :=
  "Discover and run test suites\n\nUsage: casper-adapter [--config <FILE>] <COMMAND>\n\nCommands:\n"
    ++ "  discover  List test declarations\n  run       Run tests through the engine"

namespace Surroundings

def fail (surroundings : Surroundings) (text : String) : Outcome :=
  ⟨1, fun _ => .complaint text, surroundings.disk⟩

def settings (surroundings : Surroundings) (config : Option Path) : Except String Settings :=
  match Config.resolve surroundings.disk config surroundings.disk.currentPath with
  | .ok (settings, _) => .ok settings
  | .error error => .error ("Error: " ++ error.message)

def sources (surroundings : Surroundings) (extensions : List String) (paths : List Path) :
    Except String (List Path) :=
  match paths.find? (!surroundings.disk.isPresent ·) with
  | some missing => .error ("Error: path not found: " ++ missing.text)
  | none =>
      match paths.flatMap (collect surroundings.disk extensions) with
      | [] => .error ("No script files found (extensions: " ++ String.intercalate ", " extensions ++ ")")
      | found => .ok found

end Surroundings

def showDiscoveryError (error : DiscoveryError) : Shown :=
  .complaint ("Error: " ++ error.message)

def filterCases (filter : Option String) (cases : List TestCase) : List TestCase :=
  match filter with
  | some text => cases.filter fun testCase => Protocol.occursIn text.toList testCase.displayName.toList
  | none => cases

def listTests (surroundings : Surroundings) (config : Option Path) (paths : List Path) (json : Bool) :
    Except String Outcome := do
  let settings ← surroundings.settings config
  match settings.discovery.callPattern with
  | .error error => .error ("Error: " ++ error.message)
  | .ok pattern =>
      let sources ← surroundings.sources settings.discovery.extensions paths
      let findings := discover surroundings.disk pattern sources
      let errors := Shown.all (findings.errors.map showDiscoveryError)
      let shown := if json then showCasesAsJson findings.cases else .all (findings.cases.map showCase)
      return ⟨if findings.errors.isEmpty then 0 else 1, fun _ => errors.append shown, surroundings.disk⟩

def runTests (surroundings : Surroundings) (config : Option Path) (request : RunRequest) : Except String Outcome := do
  let loaded ← surroundings.settings config
  match loaded.checked with
  | .error error => .error ("Error: " ++ error.message)
  | .ok settings =>
      match settings.discovery.callPattern with
      | .error error => .error ("Error: " ++ error.message)
      | .ok pattern =>
          let sources ← surroundings.sources settings.discovery.extensions request.paths
          let findings := discover surroundings.disk pattern sources
          let errors := Shown.all (findings.errors.map showDiscoveryError)
          let cases := filterCases request.filter findings.cases
          if cases.isEmpty then
            return ⟨if findings.errors.isEmpty then 0 else 1,
              fun _ => errors.append (.complaint "No tests collected"), surroundings.disk⟩
          let setup : Setup := ⟨settings, surroundings.programDirectory, request.engineArguments,
            surroundings.launcher, surroundings.naming, fun _ => false⟩
          let ended := execute setup cases (Session.begin surroundings.disk false)
          let shown (seconds : String) : Shown := errors.append
            (showRun request.verbose cases.length ended.journal.reports ended.summary seconds)
          if ended.summary.wasCancelled then
            return ⟨130, fun seconds => (shown seconds).append (.complaint "Interrupted"), ended.disk⟩
          else
            return ⟨if ended.summary.hasFailures || !findings.errors.isEmpty then 1 else 0, shown, ended.disk⟩

def carryOut (surroundings : Surroundings) (usage : Usage) : Outcome :=
  let result := match usage.command with
    | .discover paths json => listTests surroundings usage.config paths json
    | .run request => runTests surroundings usage.config request
  match result with
  | .ok outcome => outcome
  | .error text => surroundings.fail text

def perform (surroundings : Surroundings) (arguments : List String) : Outcome :=
  match parse arguments with
  | .ok usage => carryOut surroundings usage
  | .error .versionWanted => ⟨0, fun _ => .line versionText, surroundings.disk⟩
  | .error .helpWanted => ⟨0, fun _ => .line helpText, surroundings.disk⟩
  | .error _ =>
      ⟨2, fun _ => .complaint "error: the command line is not understood; try '--help'", surroundings.disk⟩

end ScriptSuite.CommandLine
