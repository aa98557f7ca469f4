import ScriptSuite.Dependency.Resolve
import ScriptSuite.Engine.Start
import ScriptSuite.Engine.Supervision
import ScriptSuite.Run.Report
import ScriptSuite.Run.Summary
import ScriptSuite.Staging

set_option autoImplicit false

namespace ScriptSuite.Run

open Config Dependency Discovery Engine FileSystem Result Staging Text

structure Setup where
  settings : Settings
  programDirectory : Path
  engineArguments : List String
  launcher : Launcher
  -- How the workspace of a script is called. A script is staged once in a run, so every choice of names is such a rule.
  naming : Path → Naming
  cancelsOn : Report → Bool

namespace Setup

def installDirectory (setup : Setup) : Path :=
  setup.settings.installDirectory setup.programDirectory

def stagingRoot (setup : Setup) : Path :=
  setup.settings.stagingRoot setup.programDirectory

def limits (setup : Setup) : Limits :=
  ⟨setup.settings.engine.timeout, setup.settings.engine.killGrace⟩

end Setup

structure Journal where
  reports : List Report
  cancelled : Bool
deriving DecidableEq, Repr

def Journal.add (journal : Journal) (setup : Setup) (report : Report) : Journal :=
  ⟨journal.reports ++ [report], journal.cancelled || setup.cancelsOn report⟩

def Journal.addAll (journal : Journal) (setup : Setup) (reports : List Report) : Journal :=
  reports.foldl (·.add setup ·) journal

inductive GroupError where
  | resolve (error : ResolveError)
  | staging (error : StagingError)
  | start (error : StartError)

def GroupError.message : GroupError → String
  | .resolve error => error.message
  | .staging error => error.message
  | .start error => error.message

def GroupError.outcome : GroupError → GroupOutcome
  | .resolve (.unparsable path error) => .skipped (ResolveError.unparsable path error).message
  | error => .failed error.message

structure Listening where
  stream : StreamState
  journal : Journal
deriving DecidableEq, Repr

def Listening.hear (setup : Setup) (cases : List TestCase) (listening : Listening) (line : String) : Listening :=
  let (stream, events) := listening.stream.feed setup.settings.protocol cases line
  let spoken := if line = "" then [] else [Report.message .informational line]
  ⟨stream, listening.journal.addAll setup (spoken ++ events.map Report.ofEvent)⟩

def firstLine (text : String) : String :=
  let characters := text.toList
  match characters.dropWhile (· != '\n') with
  | [] => text
  | _ => Protocol.dropReturn (String.ofList (characters.takeWhile (· != '\n')))

def closingReports (ending : StreamEnd) (exit : Exit) : List Report :=
  let last := ending.lastResult.map fun result =>
    match exit.stopped with
    | some reason => result.interrupted reason.message
    | none => result
  (last.map Report.result).toList
    ++ (if isAllBlank exit.stderr.toList then []
      else [.message .warning (String.ofList (trimEnd exit.stderr.toList))])
    ++ (ending.executionError.map (Report.message .error)).toList

def outcomeOf (exit : Exit) (executionError : Option String) (reports : List Report) : GroupOutcome :=
  match exit.stopped, executionError with
  | some .cancelled, _ => .cancelled
  | some .timedOut, _ => .timedOut
  | none, some error => .failed (firstLine error)
  | none, none => .completed (passedCount reports) (failedCount reports)

structure GroupEnd where
  disk : Disk
  journal : Journal
  outcome : Except GroupError GroupOutcome

def runStaged (setup : Setup) (cases : List TestCase) (disk : Disk) (journal : Journal) (staged : Path) : GroupEnd :=
  let command := Command.build setup.settings.engine setup.installDirectory staged setup.engineArguments
  match start setup.launcher disk command with
  | .error error => ⟨disk, journal, .error (.start error)⟩
  | .ok trace =>
      let (listening, aftermath) := supervise setup.limits (Listening.hear setup cases)
        (·.journal.cancelled) ⟨StreamState.initial, ⟨[], journal.cancelled⟩⟩ trace
      let ending := listening.stream.finish
      let own := listening.journal.addAll setup (closingReports ending aftermath.exit)
      ⟨aftermath.disk, ⟨journal.reports ++ own.reports, own.cancelled⟩,
        .ok (outcomeOf aftermath.exit ending.executionError own.reports)⟩

def runGroup (setup : Setup) (source : Path) (cases : List TestCase) (disk : Disk) (journal : Journal) : GroupEnd :=
  match resolve disk setup.settings.resolver source with
  | .error error => ⟨disk, journal, .error (.resolve error)⟩
  | .ok files =>
      match stage (setup.naming source) disk setup.stagingRoot source (files.map (·.path)) with
      | (disk, .error error) => ⟨disk, journal, .error (.staging error)⟩
      | (disk, .ok workspace) =>
          let ended := runStaged setup cases disk journal workspace.entry
          { ended with disk := dispose ended.disk workspace }

end ScriptSuite.Run
