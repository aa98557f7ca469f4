import ScriptSuite.Proofs.Run.Grouping

set_option autoImplicit false

namespace ScriptSuite.Run

open Discovery FileSystem

def Session.andThen (session later : Session) : Session :=
  ⟨later.disk, ⟨session.journal.reports ++ later.journal.reports, later.journal.cancelled⟩,
    ⟨session.summary.groups ++ later.summary.groups⟩⟩

def Session.anew (session : Session) : Session :=
  .begin session.disk session.journal.cancelled

theorem and_then_assoc (first second third : Session) :
    (first.andThen second).andThen third = first.andThen (second.andThen third) := by
  simp [Session.andThen, List.append_assoc]

theorem and_then_anew (session : Session) : session.andThen session.anew = session := by
  simp [Session.andThen, Session.anew, Session.begin, Summary.empty]

section

variable (setup : Setup)

theorem run_staged_anew (cases : List TestCase) (disk : Disk) (journal : Journal) (staged : Path) :
    let alone := runStaged setup cases disk ⟨[], journal.cancelled⟩ staged
    runStaged setup cases disk journal staged =
      ⟨alone.disk, ⟨journal.reports ++ alone.journal.reports, alone.journal.cancelled⟩, alone.outcome⟩ := by
  dsimp only
  unfold runStaged
  dsimp only
  split
  · rw [List.append_nil]
  · rfl

theorem run_group_anew (source : Path) (cases : List TestCase) (disk : Disk) (journal : Journal) :
    let alone := runGroup setup source cases disk ⟨[], journal.cancelled⟩
    runGroup setup source cases disk journal =
      ⟨alone.disk, ⟨journal.reports ++ alone.journal.reports, alone.journal.cancelled⟩, alone.outcome⟩ := by
  dsimp only
  unfold runGroup
  split
  · rw [List.append_nil]
  · split
    · rw [List.append_nil]
    · rw [run_staged_anew]

/-- A group runs as it would run first of all, on the disk that it finds. -/
theorem run_next_anew (session : Session) (group : Group) :
    runNext setup session group = session.andThen (runNext setup session.anew group) := by
  unfold runNext
  rw [Session.anew, Session.begin]
  dsimp only
  by_cases cancelled : session.journal.cancelled = true
  · rw [if_pos cancelled, if_pos cancelled]
    simp [Session.andThen, Summary.push, Summary.empty]
  · rw [if_neg cancelled, if_neg cancelled, run_group_anew]
    cases (runGroup setup group.source group.cases session.disk ⟨[], session.journal.cancelled⟩).outcome with
    | ok outcome => rfl
    | error error => simp [Session.andThen, Summary.push, Summary.empty, Journal.add]

theorem run_next_reports_once (session : Session) (group : Group) :
    ∃ outcome, (runNext setup session group).summary.groups = session.summary.groups ++ [⟨group.source, outcome⟩] := by
  unfold runNext
  split
  · exact ⟨_, rfl⟩
  · dsimp only
    split
    · exact ⟨_, rfl⟩
    · exact ⟨_, rfl⟩

theorem run_groups_reported (session : Session) (groups : List Group) :
    (groups.foldl (runNext setup) session).summary.groups.map (·.source) =
      session.summary.groups.map (·.source) ++ groups.map (·.source) := by
  induction groups generalizing session with
  | nil => exact (List.append_nil _).symm
  | cons group rest step =>
      obtain ⟨outcome, reported⟩ := run_next_reports_once setup session group
      rw [List.foldl_cons, step, reported, List.map_append, List.append_assoc]
      rfl

theorem run_groups_anew (session : Session) (groups : List Group) :
    groups.foldl (runNext setup) session = session.andThen (groups.foldl (runNext setup) session.anew) := by
  induction groups generalizing session with
  | nil => exact (and_then_anew session).symm
  | cons group rest step =>
      have first := run_next_anew setup session group
      have same : (runNext setup session group).anew = (runNext setup session.anew group).anew := by
        rw [first]
        rfl
      rw [List.foldl_cons, step, same, List.foldl_cons, step (runNext setup session.anew group), ← and_then_assoc,
        ← first]

theorem execute_split (session : Session) (before after : List Group) (group : Group) :
    (before ++ group :: after).foldl (runNext setup) session =
      ((before.foldl (runNext setup) session).andThen
        (runNext setup (before.foldl (runNext setup) session).anew group)).andThen
        (after.foldl (runNext setup) (runNext setup (before.foldl (runNext setup) session) group).anew) := by
  rw [List.foldl_append, List.foldl_cons, run_groups_anew, ← run_next_anew]

end

end ScriptSuite.Run
