import ScriptSuite.Engine.Supervision

set_option autoImplicit false

namespace ScriptSuite.Engine

open FileSystem

def Action.disk? : Action → Option Disk
  | .wait _ disk => some disk
  | _ => none

def Trace.disks (trace : Trace) : List Disk :=
  trace.disk :: trace.events.filterMap (·.action.disk?)

theorem disk_at_left (trace : Trace) (kill : Nat) : trace.diskAt kill ∈ trace.disks := by
  rw [Trace.diskAt]
  cases found : trace.events.findSome? (fun event =>
    match event.action with
    | .wait wake disk => if kill ≤ wake then some disk else none
    | _ => none) with
  | none => exact List.mem_cons_self ..
  | some left =>
      obtain ⟨event, listed, hit⟩ := List.exists_of_findSome?_eq_some found
      refine List.mem_cons_of_mem _ (List.mem_filterMap.mpr ⟨event, listed, ?_⟩)
      cases action : event.action with
      | wait wake disk =>
          simp only [action] at hit
          split at hit
          · exact hit
          · cases hit
      | output bytes => simp [action] at hit
      | errors bytes => simp [action] at hit
      | closeOutput => simp [action] at hit
      | child stop holdsOutput holdsErrors => simp [action] at hit

theorem aftermath_disk (limits : Limits) (trace : Trace) (state : Supervision) :
    (aftermath limits trace state).disk ∈ trace.disks := by
  unfold aftermath
  split
  · exact disk_at_left trace _
  · exact List.mem_cons_self ..

def Action.conduct : Action → Action
  | .wait wake _ => .wait wake ⟨[], []⟩
  | action => action

-- All that an engine does, but not what it makes of the disk.
def Trace.conduct (trace : Trace) : Trace :=
  { trace with events := trace.events.map fun event => ⟨event.time, event.action.conduct⟩, disk := ⟨[], []⟩ }

theorem conduct_lines (closed : Nat) (partialLine : List UInt8) (events : List Event) :
    linesFrom closed partialLine (events.map fun event => ⟨event.time, event.action.conduct⟩) =
      linesFrom closed partialLine events := by
  induction events generalizing partialLine with
  | nil => rfl
  | cons event rest step =>
      obtain ⟨time, action⟩ := event
      cases action with
      | output bytes =>
          change linesFrom closed partialLine (⟨time, .output bytes⟩ :: _) = _
          rw [linesFrom, linesFrom, step]
      | errors bytes => exact step partialLine
      | closeOutput => exact step partialLine
      | wait wake disk => exact step partialLine
      | child stop holdsOutput holdsErrors => exact step partialLine

section

variable (trace : Trace)

theorem conduct_output_end : trace.conduct.outputEnd = trace.outputEnd := by
  have own : trace.conduct.ownOutputEnd = trace.ownOutputEnd := by
    rw [Trace.ownOutputEnd, Trace.conduct, List.findSome?_map]
    congr 2
    funext event
    obtain ⟨time, action⟩ := event
    cases action <;> rfl
  rw [Trace.outputEnd, own, Trace.conduct, List.foldl_map, Trace.outputEnd]
  congr 1
  funext latest event
  obtain ⟨time, action⟩ := event
  cases action <;> rfl

theorem conduct_finished : trace.conduct.finished = trace.finished := by
  rw [Trace.finished, conduct_output_end]
  rfl

theorem conduct_happenings : trace.conduct.happenings = trace.happenings := by
  rw [Trace.happenings, conduct_finished, conduct_output_end, Trace.conduct, conduct_lines]
  rfl

theorem conduct_errors (limit : Option Nat) : trace.conduct.errorsBefore limit = trace.errorsBefore limit := by
  rw [Trace.errorsBefore, Trace.conduct, List.flatMap_map]
  congr 1
  funext event
  obtain ⟨time, action⟩ := event
  cases action <;> rfl

theorem conduct_holds (now limit : Nat) : trace.conduct.holdsErrors now limit = trace.holdsErrors now limit := by
  rw [Trace.holdsErrors, Trace.conduct, List.any_map]
  congr 1
  funext event
  obtain ⟨time, action⟩ := event
  cases action <;> rfl

theorem conduct_exit (limits : Limits) (state : Supervision) :
    (aftermath limits trace.conduct state).exit = (aftermath limits trace state).exit := by
  unfold aftermath
  simp only [conduct_holds, conduct_errors, conduct_finished]
  split
  · rfl
  · rfl

end

/-- What is heard of an engine, and how it ends, does not depend on what it makes of the disk. -/
theorem conduct_supervised {σ : Type} (limits : Limits) (onLine : σ → String → σ) (isCancelled : σ → Bool) (consumer : σ)
    (left right : Trace) (same : left.conduct = right.conduct) :
    (supervise limits onLine isCancelled consumer left).1 = (supervise limits onLine isCancelled consumer right).1 ∧
      (supervise limits onLine isCancelled consumer left).2.exit =
        (supervise limits onLine isCancelled consumer right).2.exit := by
  have heard : left.happenings = right.happenings := by rw [← conduct_happenings, same, conduct_happenings]
  simp only [supervise, heard, true_and]
  rw [← conduct_exit, same, conduct_exit]

end ScriptSuite.Engine
