import Mathlib.Logic.Function.Iterate
import ScriptSuite.Proofs.FileSystem.Standing
import ScriptSuite.Proofs.Run.Independence

set_option autoImplicit false

namespace ScriptSuite.Staging

open FileSystem FileSystem.Disk ScriptSuite.Path

/-- What an engine may make of a disk: anything, but that the staging root has to be as it was if the workspace is taken
out of it, and the workspace has to be a directory still, or to be gone. -/
structure Spares (stagingRoot : Path) (workspace : Place) (filled left : Disk) : Prop where
  own : left.kindAt workspace = some .directory ∨ left.at? workspace = none
  others : Undisturbed stagingRoot (filled.remove workspace) (left.remove workspace)

section

variable {ready filled left : Disk} {stagingRoot : Path} {workspace : Workspace} {directory : Place} {name : String}

theorem seated_removed (seated : Seated ready filled stagingRoot workspace directory name) :
    filled.remove (directory ++ [name]) = ready := by
  obtain ⟨inner, rfl, -⟩ := seated.furnished
  obtain ⟨outer, held, absent⟩ := seated.site.free
  exact remove_put _ held absent

theorem seated_located (seated : Seated ready filled stagingRoot workspace directory name) :
    filled.locate workspace.root = .ok (directory ++ [name]) ∧ filled.kindAt (directory ++ [name]) = some .directory := by
  refine ⟨furnished_located seated.site seated.furnished, ?_⟩
  obtain ⟨inner, rfl, -⟩ := seated.furnished
  have stands := furnished_at seated.site inner []
  rw [List.append_nil] at stands
  exact congrArg (Option.map Node.kind) (stands.trans (Node.at_here _))

theorem dispose_undisturbed (seated : Seated ready filled stagingRoot workspace directory name)
    (spares : Spares stagingRoot (directory ++ [name]) filled left) : Undisturbed stagingRoot ready (dispose left workspace) := by
  have others := spares.others
  rw [seated_removed seated] at others
  obtain ⟨outer, held, -⟩ := seated.site.free
  have stands : ready.kindAt directory = some .directory := (kind_at_directory ready directory).mpr ⟨outer, held⟩
  obtain ⟨without, still, -⟩ := others.found _ (List.mem_cons_of_mem _ (List.mem_singleton_self _)) directory seated.located stands
  have keeps := remove_keeps left (directory ++ [name])
  have located := keeps_locate keeps _ without
  have leftStands := keeps.directory directory still
  obtain ⟨entries, leftHeld⟩ := (kind_at_directory left directory).mp leftStands
  have removes : dispose left workspace = left.remove (directory ++ [name]) := by
    rw [dispose, removeTree, seated.spelled]
    rcases spares.own with own | gone
    · have enters : left.Enters directory name := by
        obtain ⟨inner, ownHeld⟩ := (kind_at_directory left _).mp own
        exact ⟨leftStands, fun _ _ => ⟨_, ownHeld, fun _ => Node.noConfusion⟩⟩
      rw [join_located left _ name directory seated.named located enters]
    · have lacks : left.Lacks directory name := ⟨leftStands, seated.named.audible, seated.named.notParent, gone⟩
      obtain ⟨remaining, reached⟩ := join_reaches left _ name directory seated.named located
      rw [follow, walk_lacks name [] lacks] at reached
      have lost : left.locate ((ready.absolute stagingRoot).join ⟨name⟩) = .error .notFound := by
        rw [locate, reached]
        rfl
      rw [lost, remove_absent leftHeld ((at_entry left directory entries name leftHeld).symm.trans gone)]
  rw [removes]
  exact others

end

end ScriptSuite.Staging

namespace ScriptSuite.Run

open Dependency Discovery Engine FileSystem FileSystem.Disk ScriptSuite.Path Staging

/-- An engine that keeps to its workspace as far as the staging root is concerned, whenever it is stopped. -/
def Sparing (setup : Setup) : Prop :=
  ∀ (disk filled : Disk) (source : Path) (files : List RequiredFile) (workspace : Workspace) (place : Place) (trace : Trace),
    (∀ name ∈ disk.workingDirectory, IsName name) → resolve disk setup.settings.resolver source = .ok files →
    stage (setup.naming source) disk setup.stagingRoot source (paths files) = (filled, .ok workspace) →
    filled.locate workspace.root = .ok place → setup.starts filled workspace.entry = .ok trace →
    ∀ left ∈ trace.disks, Spares setup.stagingRoot place filled left

structure Ready (disk : Disk) (stagingRoot : Path) : Prop where
  made : stagingRoot.text = "" ∨ disk.isDirectory stagingRoot = true
  stands : disk.isDirectory (disk.absolute stagingRoot) = true

section

variable {disk other : Disk} {stagingRoot : Path}

theorem ready_after (ready : Ready disk stagingRoot) : disk.afterDirectories stagingRoot = disk := by
  rcases ready.made with none | stands
  · rw [afterDirectories, if_pos none]
  · exact after_directories_present _ stands

theorem ready_undisturbed (ready : Ready disk stagingRoot) (undisturbed : Undisturbed stagingRoot disk other) :
    Ready other stagingRoot := by
  refine ⟨ready.made.imp_right fun stands => ?_, ?_⟩
  · exact (undisturbed_directory undisturbed (List.mem_cons_self ..) stands).1
  · rw [same_absolute undisturbed.workingDirectory]
    exact (undisturbed_directory undisturbed (List.mem_cons_of_mem _ (List.mem_singleton_self _)) ready.stands).1

theorem undisturbed_entries (ready : Ready disk stagingRoot) (undisturbed : Undisturbed stagingRoot disk other) {path : Path}
    (member : path ∈ [stagingRoot, disk.absolute stagingRoot]) (name : String) :
    other.child? path name = disk.child? path name := by
  have directory := fun stands => (undisturbed_directory undisturbed member stands).2 name
  rcases List.mem_cons.mp member with rfl | absolute
  · rcases ready.made with none | stands
    · have lost : ∀ disk : Disk, disk.locate path = .error .notFound := by
        intro disk
        rw [locate, reach, if_pos none]
      rw [child?, child?, lost, lost]
    · exact directory stands
  · exact directory (List.mem_singleton.mp absolute ▸ ready.stands)

end

section

variable (setup : Setup)

def attempted (n : Nat) (disk : Disk) : Disk :=
  (fun disk => disk.afterDirectories setup.stagingRoot)^[n] disk

theorem attempted_succ (n : Nat) (disk : Disk) :
    attempted setup (n + 1) disk = (attempted setup n disk).afterDirectories setup.stagingRoot :=
  Function.iterate_succ_apply' (fun disk : Disk => disk.afterDirectories setup.stagingRoot) n disk

theorem attempted_keeps (n : Nat) (disk : Disk) : Keeps disk (attempted setup n disk) := by
  induction n with
  | zero => exact keeps_refl disk
  | succ n step =>
      rw [attempted_succ]
      exact keeps_trans step (after_directories_keeps _ _)

-- The disk after some groups: once an engine has run, the staging root stands.
def Leaves (disk : Disk) (n : Nat) (left : Disk) : Prop :=
  left = attempted setup n disk ∨
    Ready (attempted setup n disk) setup.stagingRoot ∧ Undisturbed setup.stagingRoot (attempted setup n disk) left

variable {disk : Disk} {n : Nat}

theorem leaves_stays {left : Disk} (leaves : Leaves setup disk n left) : left.workingDirectory = disk.workingDirectory := by
  have kept := (attempted_keeps setup n disk).workingDirectory
  rcases leaves with rfl | ⟨-, undisturbed⟩
  · exact kept
  · exact undisturbed.workingDirectory.trans kept

section

variable {setup} (lawful : ∀ source, (setup.naming source).Lawful) (sparing : Sparing setup)

include lawful sparing

theorem run_group_leaves (source : Path) (cases : List TestCase) (disk : Disk) (journal : Journal)
    (named : ∀ name ∈ disk.workingDirectory, IsName name) :
    let made := disk.afterDirectories setup.stagingRoot
    let left := (runGroup setup source cases disk journal).disk
    left = disk ∨ left = made ∨ Ready made setup.stagingRoot ∧ Undisturbed setup.stagingRoot made left := by
  dsimp only
  cases resolved : resolve disk setup.settings.resolver source with
  | error fault =>
      rw [run_group_unresolved setup resolved]
      exact .inl rfl
  | ok files =>
      have proper := resolved_proper named source resolved
      cases staged : stage (setup.naming source) disk setup.stagingRoot source (paths files) with
      | mk filled result =>
      rcases stage_cases (lawful source) disk filled _ source _ result named proper staged with
        ⟨error, rfl, same⟩ | ⟨workspace, directory, name, rfl, made, seated⟩
      · rw [run_group_unstaged setup resolved staged]
        exact .inr (.inl same)
      · rw [run_group_staged setup resolved staged]
        refine .inr ?_
        dsimp only
        rcases run_staged_disk setup cases filled journal workspace.entry with same | ⟨trace, starts, left⟩
        · rw [same]
          exact .inl (furnished_removed seated.site seated.furnished)
        · have located := (seated_located seated).1
          have spares := sparing disk filled source files workspace _ trace named resolved staged located starts _ left
          obtain ⟨outer, held, -⟩ := seated.site.free
          have ready : Ready (disk.afterDirectories setup.stagingRoot) setup.stagingRoot := by
            refine ⟨?_, (is_directory_iff _).mpr ⟨directory, seated.located, (kind_at_directory _ _).mpr ⟨outer, held⟩⟩⟩
            by_cases none : setup.stagingRoot.text = ""
            · exact .inl none
            · exact .inr (create_directories_stands _ none made)
          exact .inr ⟨ready, dispose_undisturbed seated spares⟩

theorem run_next_leaves (session : Session) (group : Group)
    (named : ∀ name ∈ disk.workingDirectory, IsName name) (leaves : Leaves setup disk n session.disk) :
    ∃ m ≤ n + 1, Leaves setup disk m (runNext setup session group).disk := by
  have goes : ∀ left, left = session.disk ∨ left = session.disk.afterDirectories setup.stagingRoot ∨
      Ready (session.disk.afterDirectories setup.stagingRoot) setup.stagingRoot ∧
        Undisturbed setup.stagingRoot (session.disk.afterDirectories setup.stagingRoot) left →
      ∃ m ≤ n + 1, Leaves setup disk m left := by
    intro left cases
    rcases leaves with start | ⟨ready, undisturbed⟩
    · rw [start, ← attempted_succ] at cases
      rcases cases with same | made | settled
      · exact ⟨n, Nat.le_succ n, .inl same⟩
      · exact ⟨n + 1, Nat.le_refl _, .inl made⟩
      · exact ⟨n + 1, Nat.le_refl _, .inr settled⟩
    · rw [ready_after (ready_undisturbed ready undisturbed)] at cases
      rcases cases with same | same | ⟨-, further⟩
      · exact ⟨n, Nat.le_succ n, .inr ⟨ready, same ▸ undisturbed⟩⟩
      · exact ⟨n, Nat.le_succ n, .inr ⟨ready, same ▸ undisturbed⟩⟩
      · exact ⟨n, Nat.le_succ n, .inr ⟨ready, undisturbed_trans undisturbed further⟩⟩
  have stays := (leaves_stays setup leaves).symm ▸ named
  rw [runNext]
  split
  · exact goes _ (.inl rfl)
  · have left := run_group_leaves lawful sparing group.source group.cases session.disk session.journal stays
    dsimp only
    split
    · exact goes _ left
    · exact goes _ left

theorem run_groups_leave (groups : List Group) (session : Session)
    (named : ∀ name ∈ disk.workingDirectory, IsName name) (leaves : Leaves setup disk n session.disk) :
    ∃ m ≤ n + groups.length, Leaves setup disk m (groups.foldl (runNext setup) session).disk := by
  induction groups generalizing n session with
  | nil => exact ⟨n, Nat.le_refl n, leaves⟩
  | cons group rest step =>
      obtain ⟨between, few, first⟩ := run_next_leaves lawful sparing session group named leaves
      obtain ⟨m, bound, last⟩ := step (runNext setup session group) first
      rw [List.length_cons]
      exact ⟨m, by omega, last⟩

end

end

theorem played_sparing (protocol : Protocol) (output : String) (code : Int) (cancelsOn : Report → Bool) :
    Sparing (playedSetup protocol output code cancelsOn) := by
  intro disk filled source files workspace place trace named resolved staged located starts left member
  obtain rfl : playedTrace output code filled = trace := Except.ok.inj starts
  obtain rfl : left = filled := List.mem_singleton.mp member
  have proper := resolved_proper named source resolved
  rcases stage_cases numbered_lawful disk left _ source _ _ named proper staged with
    ⟨_, failed, -⟩ | ⟨_, directory, name, same, -, seated⟩
  · cases failed
  · obtain rfl := Except.ok.inj same
    obtain ⟨found, stands⟩ := seated_located seated
    obtain rfl := Except.ok.inj (located.symm.trans found)
    exact ⟨.inl stands, undisturbed_refl _ _⟩

def straySetup : Setup :=
  { doneSetup with
    launcher := fun disk _ => .ok (playedTrace "done\n" 0 (disk.put ["staging", "stray"] (.file [] 0o644))) }

end ScriptSuite.Run
