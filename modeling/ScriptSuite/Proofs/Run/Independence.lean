import Mathlib.Logic.Function.Iterate
import ScriptSuite.Proofs.Engine.Conduct
import ScriptSuite.Proofs.Run.Accounting
import ScriptSuite.Proofs.Run.Session
import ScriptSuite.Proofs.Staging.Mirroring
import ScriptSuite.Proofs.Staging.Restoring

/-!
The groups of a run do not disturb each other. What one of them leaves behind is at most the staging root, so each runs
as it would alone on a disk with that directory.
-/
set_option autoImplicit false

namespace ScriptSuite.Run

open CommandLine Dependency Discovery Engine FileSystem FileSystem.Disk ScriptSuite.Path Staging

def Setup.starts (setup : Setup) (disk : Disk) (staged : Path) : Except StartError Trace :=
  start setup.launcher disk (.build setup.settings.engine setup.installDirectory staged setup.engineArguments)

/-- An engine that changes nothing outside of its workspace. -/
def Tidy (setup : Setup) : Prop :=
  ∀ (naming : Naming) (disk filled : Disk) (source : Path) (files : List Path) (workspace : Workspace) (trace : Trace),
    naming.Lawful → stage naming disk setup.stagingRoot source files = (filled, .ok workspace) →
    setup.starts filled workspace.entry = .ok trace → ∀ left ∈ trace.disks, dispose left workspace = dispose filled workspace

/-- An engine that does with a script what it does with it in a workspace of another name. -/
def Steady (setup : Setup) : Prop :=
  ∀ (naming other : Naming) (disk filled refilled : Disk) (source : Path) (files : List Path) (workspace again : Workspace),
    naming.Lawful → other.Lawful → stage naming disk setup.stagingRoot source files = (filled, .ok workspace) →
    stage other disk setup.stagingRoot source files = (refilled, .ok again) →
    (setup.starts filled workspace.entry).map Trace.conduct = (setup.starts refilled again.entry).map Trace.conduct

section

variable (setup : Setup)

section

variable {source : Path} {cases : List TestCase} {disk left : Disk} {journal : Journal} {files : List RequiredFile}

theorem run_group_unresolved {error : ResolveError}
    (resolved : resolve disk setup.settings.resolver source = .error error) :
    runGroup setup source cases disk journal = ⟨disk, journal, .error (.resolve error)⟩ := by
  rw [runGroup, resolved]

theorem run_group_unstaged {error : StagingError}
    (resolved : resolve disk setup.settings.resolver source = .ok files)
    (staged : stage (setup.naming source) disk setup.stagingRoot source (paths files) = (left, .error error)) :
    runGroup setup source cases disk journal = ⟨left, journal, .error (.staging error)⟩ := by
  rw [paths] at staged
  rw [runGroup, resolved]
  dsimp only
  rw [staged]

theorem run_group_staged {workspace : Workspace}
    (resolved : resolve disk setup.settings.resolver source = .ok files)
    (staged : stage (setup.naming source) disk setup.stagingRoot source (paths files) = (left, .ok workspace)) :
    runGroup setup source cases disk journal =
      let ended := runStaged setup cases left journal workspace.entry
      ⟨dispose ended.disk workspace, ended.journal, ended.outcome⟩ := by
  rw [paths] at staged
  rw [runGroup, resolved]
  dsimp only
  rw [staged]

end

theorem run_staged_disk (cases : List TestCase) (disk : Disk) (journal : Journal) (staged : Path) :
    (runStaged setup cases disk journal staged).disk = disk ∨
      ∃ trace, setup.starts disk staged = .ok trace ∧ (runStaged setup cases disk journal staged).disk ∈ trace.disks := by
  rw [runStaged, ← Setup.starts]
  cases starts : setup.starts disk staged with
  | error fault => exact .inl rfl
  | ok trace => exact .inr ⟨trace, rfl, aftermath_disk _ trace _⟩

-- What is reported of a script does not depend on what the engine makes of the disk.
theorem run_staged_conduct (cases : List TestCase) (disk other : Disk) (journal : Journal) (staged restaged : Path)
    (same : (setup.starts disk staged).map Trace.conduct = (setup.starts other restaged).map Trace.conduct) :
    (runStaged setup cases disk journal staged).journal = (runStaged setup cases other journal restaged).journal ∧
      (runStaged setup cases disk journal staged).outcome = (runStaged setup cases other journal restaged).outcome := by
  rw [runStaged, runStaged, ← Setup.starts, ← Setup.starts]
  cases starts : setup.starts disk staged with
  | error fault =>
      cases restarts : setup.starts other restaged with
      | error again =>
          rw [starts, restarts] at same
          cases same
          exact ⟨rfl, rfl⟩
      | ok trace =>
          rw [starts, restarts] at same
          cases same
  | ok trace =>
      cases restarts : setup.starts other restaged with
      | error again =>
          rw [starts, restarts] at same
          cases same
      | ok retrace =>
          rw [starts, restarts] at same
          obtain ⟨heard, exit⟩ := conduct_supervised setup.limits (Listening.hear setup cases) (·.journal.cancelled)
            ⟨.initial, ⟨[], journal.cancelled⟩⟩ trace retrace (Except.ok.inj same)
          dsimp only
          rw [heard, exit]
          exact ⟨rfl, rfl⟩

section

variable {setup} (tidy : Tidy setup)

include tidy

theorem run_staged_disposed {naming : Naming} (lawful : naming.Lawful) (disk filled : Disk) (source : Path)
    (files : List Path) (workspace : Workspace) (named : ∀ name ∈ disk.workingDirectory, IsName name)
    (proper : ∀ file ∈ files, Proper file)
    (staged : stage naming disk setup.stagingRoot source files = (filled, .ok workspace)) (cases : List TestCase)
    (journal : Journal) :
    dispose (runStaged setup cases filled journal workspace.entry).disk workspace =
      disk.afterDirectories setup.stagingRoot := by
  rw [← (stage_restores lawful disk filled _ source _ _ named proper staged).2 workspace rfl]
  rcases run_staged_disk setup cases filled journal workspace.entry with same | ⟨trace, starts, left⟩
  · rw [same]
  · exact tidy naming disk filled source files workspace trace lawful staged starts _ left

variable (lawful : ∀ source, (setup.naming source).Lawful)

include lawful

theorem run_group_disk (source : Path) (cases : List TestCase) (disk : Disk) (journal : Journal)
    (named : ∀ name ∈ disk.workingDirectory, IsName name) :
    (runGroup setup source cases disk journal).disk = disk ∨
      (runGroup setup source cases disk journal).disk = disk.afterDirectories setup.stagingRoot := by
  cases resolved : resolve disk setup.settings.resolver source with
  | error fault =>
      rw [run_group_unresolved setup resolved]
      exact .inl rfl
  | ok files =>
      have proper := resolved_proper named source resolved
      cases staged : stage (setup.naming source) disk setup.stagingRoot source (paths files) with
      | mk left result =>
      cases result with
      | error fault =>
          rw [run_group_unstaged setup resolved staged]
          exact .inr ((stage_restores (lawful source) disk left _ source _ _ named proper staged).1 fault rfl)
      | ok workspace =>
          rw [run_group_staged setup resolved staged]
          exact .inr (run_staged_disposed tidy (lawful source) disk left source _ workspace named proper staged cases journal)

theorem run_next_disk (session : Session) (group : Group) (named : ∀ name ∈ session.disk.workingDirectory, IsName name) :
    (runNext setup session group).disk = session.disk ∨
      (runNext setup session group).disk = session.disk.afterDirectories setup.stagingRoot := by
  rw [runNext]
  split
  · exact .inl rfl
  · have left := run_group_disk tidy lawful group.source group.cases session.disk session.journal named
    dsimp only
    split
    · exact left
    · exact left

theorem run_groups_disk (groups : List Group) (session : Session)
    (named : ∀ name ∈ session.disk.workingDirectory, IsName name) :
    ∃ n ≤ groups.length, (groups.foldl (runNext setup) session).disk =
      (fun disk => disk.afterDirectories setup.stagingRoot)^[n] session.disk := by
  induction groups generalizing session with
  | nil => exact ⟨0, Nat.le_refl 0, rfl⟩
  | cons group rest step =>
      rw [List.foldl_cons, List.length_cons]
      rcases run_next_disk tidy lawful session group named with same | made
      · obtain ⟨n, few, left⟩ := step (runNext setup session group) (same ▸ named)
        exact ⟨n, Nat.le_succ_of_le few, same ▸ left⟩
      · have stays := (after_directories_stays session.disk setup.stagingRoot).symm ▸ named
        obtain ⟨n, few, left⟩ := step (runNext setup session group) (made ▸ stays)
        exact ⟨n + 1, Nat.succ_le_succ few, by rw [left, made, Function.iterate_succ_apply]⟩

section

variable (steady : Steady setup) {other : Path → Naming} (otherLawful : ∀ source, (other source).Lawful)

include steady otherLawful

-- It does not matter to a group what the workspaces are called.
theorem run_group_renamed (source : Path) (cases : List TestCase) (disk : Disk) (journal : Journal)
    (named : ∀ name ∈ disk.workingDirectory, IsName name) :
    runGroup { setup with naming := other } source cases disk journal = runGroup setup source cases disk journal := by
  cases resolved : resolve disk setup.settings.resolver source with
  | error fault => rw [run_group_unresolved setup resolved, run_group_unresolved { setup with naming := other } resolved]
  | ok files =>
      obtain ⟨entry, present⟩ := resolved_present disk _ source files resolved
      have proper := resolved_proper named source resolved
      rcases stage_uniform setup.stagingRoot source entry present (resolved_placed named source present resolved) with
        ⟨left, error, fails⟩ | succeeds
      · rw [run_group_unstaged setup resolved (fails _), run_group_unstaged { setup with naming := other } resolved (fails _)]
      · obtain ⟨filled, workspace, staged⟩ := succeeds (setup.naming source) (lawful source)
        obtain ⟨refilled, again, restaged⟩ := succeeds (other source) (otherLawful source)
        have disposed := run_staged_disposed tidy (lawful source) disk filled source _ workspace named proper staged cases
          journal
        have redisposed := run_staged_disposed tidy (otherLawful source) disk refilled source _ again named proper restaged
          cases journal
        obtain ⟨journals, outcomes⟩ := run_staged_conduct setup cases filled refilled journal workspace.entry again.entry
          (steady _ _ disk filled refilled source _ workspace again (lawful source) (otherLawful source) staged restaged)
        have renamed : runStaged { setup with naming := other } = runStaged setup := rfl
        rw [run_group_staged setup resolved staged, run_group_staged { setup with naming := other } resolved restaged,
          renamed]
        dsimp only
        rw [disposed, redisposed, journals, outcomes]

theorem run_next_renamed (session : Session) (group : Group) (named : ∀ name ∈ session.disk.workingDirectory, IsName name) :
    runNext { setup with naming := other } session group = runNext setup session group := by
  rw [runNext, runNext, run_group_renamed tidy lawful steady otherLawful group.source group.cases session.disk session.journal
    named]
  rfl

end

end

theorem iterate_present (disk : Disk) (n : Nat) (stands : disk.isDirectory setup.stagingRoot = true) :
    (fun disk => disk.afterDirectories setup.stagingRoot)^[n] disk = disk :=
  Function.iterate_fixed (after_directories_present _ stands) n

theorem iterate_stays (n : Nat) (disk : Disk) :
    ((fun disk => disk.afterDirectories setup.stagingRoot)^[n] disk).workingDirectory = disk.workingDirectory := by
  induction n generalizing disk with
  | zero => rfl
  | succ n step => rw [Function.iterate_succ_apply, step, after_directories_stays]

theorem cancelled_group_reported (session : Session) (group : Group) (cancelled : session.journal.cancelled = true) :
    runNext setup session group = { session with summary := session.summary.push ⟨group.source, .cancelled⟩ } := by
  rw [runNext, if_pos cancelled]

theorem cancelled_groups_reported (waiting : List Group) (session : Session)
    (cancelled : session.journal.cancelled = true) :
    waiting.foldl (runNext setup) session =
      { session with
        summary := ⟨session.summary.groups ++ waiting.map fun group => ⟨group.source, .cancelled⟩⟩ } := by
  induction waiting generalizing session with
  | nil => rw [List.foldl_nil, List.map_nil, List.append_nil]
  | cons group rest step =>
      rw [List.foldl_cons, cancelled_group_reported setup session group cancelled,
        step ⟨session.disk, session.journal, session.summary.push ⟨group.source, .cancelled⟩⟩ cancelled, Summary.push,
        List.map_cons, List.append_assoc]
      rfl

theorem execute_alone (cases : List TestCase) (group : Group) (member : group ∈ groupBySource cases)
    (session : Session) : execute setup group.cases session = runNext setup session group := by
  rw [execute, group_alone cases group member]
  rfl

/-- Every file is reported once, in the order in which the files appear, and runs with its own cases. Until the run is
cancelled a group does what it does alone on the disk that it finds, whatever its workspace is called then, and there it
finds no more of the groups before it than the staging root, if that was not there from the beginning. Once the run is
cancelled, the groups that wait are only reported. -/
theorem groups_independent (lawful : ∀ source, (setup.naming source).Lawful) (tidy : Tidy setup) (steady : Steady setup)
    (cases : List TestCase) (disk : Disk) (named : ∀ name ∈ disk.workingDirectory, IsName name) :
    groupBySource cases = (sourcesOf cases).map (fun source => ⟨source, casesOf cases source⟩) ∧
      (sourcesOf cases).Pairwise (fun a b => a.same b = false) ∧
      (∀ cancelled, (execute setup cases (.begin disk cancelled)).summary.groups.map (·.source) = sourcesOf cases) ∧
      (∀ before group after, groupBySource cases = before ++ group :: after →
        let found := before.foldl (runNext setup) (.begin disk false)
        found.journal.cancelled = false →
          (∀ naming : Path → Naming, (∀ source, (naming source).Lawful) →
            execute setup cases (.begin disk false) = after.foldl (runNext setup)
              (found.andThen (execute { setup with naming } group.cases (.begin found.disk false)))) ∧
            (∃ n ≤ before.length, found.disk = (fun disk => disk.afterDirectories setup.stagingRoot)^[n] disk) ∧
            (disk.isDirectory setup.stagingRoot = true → found.disk = disk)) ∧
      ∀ (session : Session) (waiting : List Group), session.journal.cancelled = true →
        waiting.foldl (runNext setup) session =
          { session with
            summary := ⟨session.summary.groups ++ waiting.map fun group => ⟨group.source, .cancelled⟩⟩ } := by
  refine ⟨group_by_source cases, sources_distinct cases, fun cancelled => ?_, fun before group after parts => ?_,
    fun session waiting => cancelled_groups_reported setup waiting session⟩
  · rw [execute, run_groups_reported, group_by_source, List.map_map]
    exact List.map_id _
  · dsimp only
    intro going
    obtain ⟨n, few, left⟩ := run_groups_disk tidy lawful before (.begin disk false) named
    refine ⟨fun naming otherLawful => ?_, ⟨n, few, left⟩, fun stands => left.trans (iterate_present setup disk n stands)⟩
    have member : group ∈ groupBySource cases := parts ▸ List.mem_append_right _ (List.mem_cons_self ..)
    have stays : ∀ name ∈ (before.foldl (runNext setup) (.begin disk false)).disk.workingDirectory, IsName name := by
      rw [left]
      exact (iterate_stays setup n disk).symm ▸ named
    rw [execute_alone _ cases group member, run_next_renamed tidy lawful steady otherLawful (.begin _ false) group stays, execute,
      parts, List.foldl_append, List.foldl_cons, run_next_anew, Session.anew, going]

end

section

variable (protocol : Protocol) (output : String) (code : Int) (cancelsOn : Report → Bool)

theorem played_lawful (source : Path) : ((playedSetup protocol output code cancelsOn).naming source).Lawful :=
  numbered_lawful

theorem played_tidy : Tidy (playedSetup protocol output code cancelsOn) := by
  intro naming disk filled source files workspace trace _ _ starts left member
  obtain rfl : playedTrace output code filled = trace := Except.ok.inj starts
  obtain rfl : left = filled := List.mem_singleton.mp member
  rfl

theorem played_steady : Steady (playedSetup protocol output code cancelsOn) :=
  fun _ _ _ _ _ _ _ _ _ _ _ _ _ => rfl

end

def doneSetup : Setup :=
  playedSetup {} "done\n" 0 fun _ => false

def goneCase : TestCase :=
  ⟨"logs out", ⟨"/suite/logout.js"⟩, ⟨1, 0⟩⟩

def lettered : Naming :=
  fun stem entries => numbered (stem ++ "a") entries

-- Alone, the group gets a workspace of another name.
theorem missing_script_leaves_next :
    (∀ source, (doneSetup.naming source).Lawful) ∧ Tidy doneSetup ∧ Steady doneSetup ∧ lettered.Lawful ∧
      (∀ name ∈ suiteDisk.workingDirectory, IsName name) ∧ suiteDisk.isDirectory doneSetup.stagingRoot = true ∧
      execute doneSetup [goneCase, signInCase] (.begin suiteDisk false) =
        (runNext doneSetup (.begin suiteDisk false) ⟨goneCase.sourceFile, [goneCase]⟩).andThen
          (execute { doneSetup with naming := fun _ => lettered } [signInCase] (.begin suiteDisk false)) := by
  have lawful := played_lawful {} "done\n" 0 fun _ => false
  have tidy := played_tidy {} "done\n" 0 fun _ => false
  have steady := played_steady {} "done\n" 0 fun _ => false
  have otherLawful : lettered.Lawful := numbered_lawful.longer "a" (by decide)
  have named : ∀ name ∈ suiteDisk.workingDirectory, IsName name := fun _ inside => absurd inside List.not_mem_nil
  have stands : suiteDisk.isDirectory doneSetup.stagingRoot = true := by decide +kernel
  have parts : groupBySource [goneCase, signInCase] =
      [⟨goneCase.sourceFile, [goneCase]⟩] ++ ⟨signInCase.sourceFile, [signInCase]⟩ :: [] := by decide +kernel
  obtain ⟨_, _, _, alone, _⟩ := groups_independent doneSetup lawful tidy steady [goneCase, signInCase] suiteDisk named
  obtain ⟨whole, _, unchanged⟩ := alone _ _ [] parts (by decide +kernel)
  rw [unchanged stands] at whole
  exact ⟨lawful, tidy, steady, otherLawful, named, stands, whole _ fun _ => otherLawful⟩

def detourCase : TestCase :=
  ⟨"signs up", ⟨"/staging/../signup.js"⟩, ⟨1, 0⟩⟩

def rootlessDisk : Disk where
  entries := [("suite", .directory [("login.js", .file [] 0o644)]), ("signup.js", .file [] 0o644)]
  workingDirectory := []

/-- A script that is looked for through the staging root is not there for the first group of a run, and is there for
the second one. -/
theorem staging_root_shows_script :
    (∀ source, (doneSetup.naming source).Lawful) ∧ Tidy doneSetup ∧ Steady doneSetup ∧
      (∀ name ∈ rootlessDisk.workingDirectory, IsName name) ∧
      (execute doneSetup [signInCase, detourCase] (.begin rootlessDisk false)).journal.cancelled = false ∧
      (execute doneSetup [signInCase, detourCase] (.begin rootlessDisk false)).summary.groups =
        [⟨⟨"/suite/login.js"⟩, .completed 0 0⟩, ⟨⟨"/staging/../signup.js"⟩, .completed 0 0⟩] ∧
      (execute doneSetup [detourCase] (.begin rootlessDisk false)).summary.groups =
        [⟨⟨"/staging/../signup.js"⟩,
          .failed "failed to read /staging/../signup.js: No such file or directory (os error 2)"⟩] :=
  ⟨played_lawful {} "done\n" 0 fun _ => false, played_tidy {} "done\n" 0 fun _ => false,
    played_steady {} "done\n" 0 fun _ => false, fun _ inside => absurd inside List.not_mem_nil, by decide +kernel,
    by decide +kernel, by decide +kernel⟩

end ScriptSuite.Run
