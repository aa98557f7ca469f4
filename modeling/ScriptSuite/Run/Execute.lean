import ScriptSuite.Discovery.Batch
import ScriptSuite.Run.Group

set_option autoImplicit false

namespace ScriptSuite.Run

open Discovery FileSystem

structure Group where
  source : Path
  cases : List TestCase
deriving DecidableEq, Repr

def addToGroups (testCase : TestCase) : List Group → List Group
  | [] => [⟨testCase.sourceFile, [testCase]⟩]
  | group :: rest =>
      if group.source.same testCase.sourceFile then { group with cases := group.cases ++ [testCase] } :: rest
      else group :: addToGroups testCase rest

def groupBySource (cases : List TestCase) : List Group :=
  cases.foldl (fun groups testCase => addToGroups testCase groups) []

structure Session where
  disk : Disk
  journal : Journal
  summary : Summary

def Session.begin (disk : Disk) (cancelled : Bool) : Session :=
  ⟨disk, ⟨[], cancelled⟩, Summary.empty⟩

def runNext (setup : Setup) (session : Session) (group : Group) : Session :=
  if session.journal.cancelled then { session with summary := session.summary.push ⟨group.source, .cancelled⟩ }
  else
    let ended := runGroup setup group.source group.cases session.disk session.journal
    match ended.outcome with
    | .ok outcome => ⟨ended.disk, ended.journal, session.summary.push ⟨group.source, outcome⟩⟩
    | .error error =>
        ⟨ended.disk, ended.journal.add setup (.message .error error.message),
          session.summary.push ⟨group.source, error.outcome⟩⟩

def execute (setup : Setup) (cases : List TestCase) (session : Session) : Session :=
  (groupBySource cases).foldl (runNext setup) session

def sourceIndex (sources : List Path) (source : Path) : Nat :=
  sources.findIdx (·.same source)

def sortBySource (sources : List Path) (groups : List GroupReport) : List GroupReport :=
  groups.mergeSort fun a b => sourceIndex sources a.source ≤ sourceIndex sources b.source

def runSources (setup : Setup) (pattern : CallPattern) (sources : List Path) (session : Session) : Session :=
  let findings := discover session.disk pattern sources
  let journal := session.journal.addAll setup (findings.errors.map fun error => .message .error error.message)
  let ran := execute setup findings.cases { session with journal }
  let skipped := findings.errors.map fun error => (⟨error.path, .skipped error.message⟩ : GroupReport)
  { ran with summary := ⟨sortBySource sources (ran.summary.groups ++ skipped)⟩ }

end ScriptSuite.Run
