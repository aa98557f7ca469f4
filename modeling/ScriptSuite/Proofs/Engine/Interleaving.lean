import Mathlib.Data.List.Induction
import ScriptSuite.Proofs.Engine.Supervision

set_option autoImplicit false

namespace ScriptSuite.Engine

namespace Supervision

/-- A supervised engine: the lines that are still to be read, and what the supervisor holds. -/
structure Watch where
  unread : List String
  state : Supervision
deriving DecidableEq, Repr

-- What can come next: the lines come in order, and the output ends when all of them have come.
inductive Comes : List String → Notice → List String → Prop where
  | line (text : String) (unread : List String) : Comes (text :: unread) (.happening (.line text)) unread
  | outputClosed : Comes [] (.happening .outputClosed) []
  | exited (code : Option Int) (unread : List String) : Comes unread (.happening (.exited code)) unread
  | cancellation (unread : List String) : Comes unread .cancellation unread
  | deadline (unread : List String) : Comes unread .deadline unread
  | killDue (unread : List String) : Comes unread .killDue unread

structure Step (limits : Limits) (before : Watch) (now : Nat) (notice : Notice) (after : Watch) : Prop where
  comes : Comes before.unread notice after.unread
  taken : before.state.after? limits now notice = some after.state

inductive Reached (limits : Limits) (lines : List String) : List (Nat × Notice) → Watch → Prop where
  | start : Reached limits lines [] ⟨lines, initial⟩
  | step {notices : List (Nat × Notice)} {before after : Watch} {now : Nat} {notice : Notice}
      (reached : Reached limits lines notices before) (step : Step limits before now notice after) :
      Reached limits lines (notices ++ [(now, notice)]) after

def stopReason? : Notice → Option StopReason
  | .cancellation => some .cancelled
  | .deadline => some .timedOut
  | _ => none

-- The first cancellation or deadline among the notices, with its time.
def firstStop? (notices : List (Nat × Notice)) : Option (Nat × StopReason) :=
  notices.findSome? fun noticed => (stopReason? noticed.2).map (noticed.1, ·)

theorem first_stop_append (notices later : List (Nat × Notice)) :
    firstStop? (notices ++ later) = (firstStop? notices).or (firstStop? later) :=
  List.findSome?_append

theorem first_stop_unstopped (notices : List (Nat × Notice)) (now : Nat) (notice : Notice)
    (harmless : stopReason? notice = none) : firstStop? (notices ++ [(now, notice)]) = firstStop? notices := by
  rw [first_stop_append]
  simp [firstStop?, harmless]

section

variable {limits : Limits} {lines : List String} {notices : List (Nat × Notice)} {before after : Watch} {now : Nat}
  {notice : Notice}

/-- All that a step can do. -/
theorem step_cases (step : Step limits before now notice after) :
    before.state.ending = none ∧
      ((∃ text, notice = .happening (.line text) ∧ before.unread = text :: after.unread ∧
          after.state = { before.state with delivered := before.state.delivered ++ [text] }) ∨
        (notice = .happening .outputClosed ∧ after.unread = [] ∧ before.unread = [] ∧
          after.state = { before.state with outputOpen := false }) ∨
        (∃ code, notice = .happening (.exited code) ∧ after.unread = before.unread ∧
          before.state.outputOpen = false ∧ after.state = { before.state with ending := some (.exited code) }) ∨
        (∃ reason, stopReason? notice = some reason ∧ after.unread = before.unread ∧ before.state.stopped = none ∧
          after.state = before.state.stop limits now reason) ∨
        notice = .killDue ∧ after.unread = before.unread ∧ before.state.killAt ≠ none ∧
          after.state = { before.state with ending := some .killed }) := by
  obtain ⟨unread, state⟩ := before
  obtain ⟨left, next⟩ := after
  obtain ⟨comes, taken⟩ := step
  cases comes <;> simp_all [after?, stopReason?, Option.isSome_iff_ne_none]

structure Accounted (limits : Limits) (lines : List String) (notices : List (Nat × Notice)) (watch : Watch) : Prop where
  stopped : watch.state.stopped = (firstStop? notices).map (·.2)
  killAt : watch.state.killAt = (firstStop? notices).map (·.1 + limits.grace)
  heard : watch.state.delivered ++ watch.unread = lines
  closed : watch.state.outputOpen = false → watch.unread = []
  exited : ∀ code, watch.state.ending = some (.exited code) → watch.state.outputOpen = false
  killed : watch.state.ending = some .killed → watch.state.stopped ≠ none

theorem start_accounted (limits : Limits) (lines : List String) : Accounted limits lines [] ⟨lines, initial⟩ :=
  ⟨rfl, rfl, rfl, nofun, nofun, nofun⟩

theorem step_accounted (step : Step limits before now notice after) (accounted : Accounted limits lines notices before) :
    Accounted limits lines (notices ++ [(now, notice)]) after := by
  obtain ⟨stopped, killAt, heard, closed, exited, killed⟩ := accounted
  obtain ⟨running, ⟨text, rfl, read, same⟩ | ⟨rfl, none, empty, same⟩ | ⟨code, rfl, unread, shut, same⟩ |
    ⟨reason, stops, unread, unstopped, same⟩ | ⟨rfl, unread, armed, same⟩⟩ := step_cases step
  · rw [← first_stop_unstopped notices now (.happening (.line text)) rfl] at stopped killAt
    refine ⟨same ▸ stopped, same ▸ killAt, ?_, fun shut => ?_, same ▸ exited, same ▸ killed⟩
    · rw [← heard, read, same]
      exact List.append_assoc ..
    · rw [same] at shut
      exact absurd (read.symm.trans (closed shut)) (List.cons_ne_nil _ _)
  · rw [← first_stop_unstopped notices now (.happening .outputClosed) rfl] at stopped killAt
    exact ⟨same ▸ stopped, same ▸ killAt, by rw [same, none, ← empty, heard], fun _ => none, fun _ _ => by rw [same],
      same ▸ killed⟩
  · rw [← first_stop_unstopped notices now (.happening (.exited code)) rfl] at stopped killAt
    exact ⟨same ▸ stopped, same ▸ killAt, by rw [same, unread, heard], fun _ => by rw [unread, closed shut],
      fun _ _ => by rw [same, shut], by rw [same]; exact nofun⟩
  · have first : firstStop? (notices ++ [(now, notice)]) = some (now, reason) := by
      rw [unstopped] at stopped
      rw [first_stop_append, Option.map_eq_none_iff.mp stopped.symm]
      simp [firstStop?, stops]
    refine ⟨by rw [first, same]; rfl, by rw [first, same]; rfl, by rw [same, unread]; exact heard, ?_, ?_, ?_⟩
    · rw [same, unread]
      exact closed
    · rw [same]
      exact exited
    · rw [same]
      exact fun _ => Option.some_ne_none reason
  · rw [← first_stop_unstopped notices now .killDue rfl] at stopped killAt
    refine ⟨same ▸ stopped, same ▸ killAt, by rw [same, unread, heard], ?_, by rw [same]; exact nofun, fun _ => ?_⟩
    · rw [same, unread]
      exact closed
    · rw [same]
      intro unstopped
      rw [unstopped] at stopped
      exact armed (by rw [killAt, Option.map_eq_none_iff.mp stopped.symm, Option.map_none])

theorem reached_accounted {watch : Watch} (reached : Reached limits lines notices watch) :
    Accounted limits lines notices watch := by
  induction reached with
  | start => exact start_accounted limits lines
  | step reached step accounted => exact step_accounted step accounted

-- Each notice was taken in a state that the notices before it had led to.
theorem reached_through {watch : Watch} {later : List (Nat × Notice)} (reached : Reached limits lines notices watch)
    (front : List (Nat × Notice)) (split : notices = front ++ (now, notice) :: later) :
    ∃ before after, Reached limits lines front before ∧ Step limits before now notice after := by
  induction reached generalizing later with
  | start => exact absurd split (by simp)
  | @step earlier before after time last reached step through =>
      cases later using List.reverseRecOn with
      | nil =>
          obtain ⟨rfl, same⟩ := List.append_inj' split rfl
          cases same
          exact ⟨before, after, reached, step⟩
      | append_singleton others final =>
          rw [← List.cons_append, ← List.append_assoc] at split
          exact through (List.append_inj' split rfl).1

theorem step_enabled (watch : Watch) (running : watch.state.ending = none)
    (closed : watch.state.outputOpen = false → watch.unread = []) :
    ∃ happening after, Step limits watch now (.happening happening) after := by
  obtain ⟨unread, state⟩ := watch
  dsimp only at running closed
  cases opened : state.outputOpen with
  | false => exact ⟨.exited none, ⟨unread, _⟩, .exited none unread, by simp only [after?, running, opened]; rfl⟩
  | true =>
      cases unread with
      | nil => exact ⟨.outputClosed, ⟨[], _⟩, .outputClosed, by simp only [after?, running, opened]; rfl⟩
      | cons text left => exact ⟨.line text, ⟨left, _⟩, .line text left, by simp only [after?, running, opened]; rfl⟩

end

def Reachable (limits : Limits) (lines : List String) (watch : Watch) : Prop :=
  ∃ notices, Reached limits lines notices watch

section

variable {limits : Limits} {lines unread : List String} {state : Supervision}

-- A notice that the supervisor cannot take leaves it where it is.
theorem take_reachable (now : Nat) (notice : Notice) (left : List String) (comes : Comes unread notice left)
    (reachable : Reachable limits lines ⟨unread, state⟩) :
    Reachable limits lines ⟨left, state.take limits now notice⟩ ∨ state.after? limits now notice = none := by
  obtain ⟨notices, reached⟩ := reachable
  unfold take
  cases taken : state.after? limits now notice with
  | none => exact .inr rfl
  | some next => exact .inl ⟨_, .step reached ⟨comes, taken⟩⟩

theorem timer_reachable (now : Nat) (notice : Notice) (comes : Comes unread notice unread)
    (reachable : Reachable limits lines ⟨unread, state⟩) :
    Reachable limits lines ⟨unread, state.take limits now notice⟩ := by
  rcases take_reachable now notice unread comes reachable with taken | refused
  · exact taken
  · rw [take, refused]
    exact reachable

theorem due_reachable (now : Nat) (due : Option Nat) (notice : Notice) (comes : Comes unread notice unread)
    (reachable : Reachable limits lines ⟨unread, state⟩) :
    Reachable limits lines ⟨unread, match due with
      | some time => if time ≤ now then state.take limits time notice else state
      | none => state⟩ := by
  cases due with
  | none => exact reachable
  | some time =>
      dsimp only
      split
      · exact timer_reachable time notice comes reachable
      · exact reachable

theorem pass_time_reachable (now : Nat) (reachable : Reachable limits lines ⟨unread, state⟩) :
    Reachable limits lines ⟨unread, state.passTime limits now⟩ :=
  due_reachable now _ .killDue (.killDue unread) (due_reachable now limits.timeout .deadline (.deadline unread) reachable)

theorem heed_reachable (now : Nat) (cancelled : Bool) (reachable : Reachable limits lines ⟨unread, state⟩) :
    Reachable limits lines ⟨unread, state.heed limits now cancelled⟩ := by
  unfold heed
  split
  · exact timer_reachable now .cancellation (.cancellation unread) reachable
  · exact reachable

theorem happening_reachable (now : Nat) (happening : Happening) (left : List String)
    (comes : Comes unread (.happening happening) left) (running : state.ending = none)
    (ready : state.outputOpen = true ↔ ∀ code, happening ≠ .exited code)
    (reachable : Reachable limits lines ⟨unread, state⟩) :
    Reachable limits lines ⟨left, state.take limits now (.happening happening)⟩ := by
  refine (take_reachable now _ left comes reachable).resolve_right fun refused => ?_
  cases happening <;> simp_all [after?]

variable {σ : Type} {onLine : σ → String → σ} {isCancelled : σ → Bool}

-- One round of the running supervision is a few of the steps.
theorem round_reachable (consumer : σ) (now : Nat) (happening : Happening) (rest : List (Nat × Happening))
    (left : List String) (comes : Comes unread (.happening happening) left)
    (ready : state.outputOpen = true ↔ ∀ code, happening ≠ .exited code)
    (reachable : Reachable limits lines ⟨unread, state⟩)
    (onward : ∀ (listener : σ) (next : Supervision), next.outputOpen = (state.outputOpen && happening != .outputClosed) →
      Reachable limits lines ⟨left, next⟩ →
      ∃ last, Reachable limits lines ⟨last, (run limits onLine isCancelled listener next rest).2⟩) :
    ∃ last, Reachable limits lines
      ⟨last, (run limits onLine isCancelled consumer state ((now, happening) :: rest)).2⟩ := by
  have timed := pass_time_reachable now reachable
  have kept := (pass_time_interrupts limits now state).outputOpen
  rw [run_cons]
  split
  · exact ⟨unread, timed⟩
  · rename_i ended
    have running : (state.passTime limits now).ending = none := by simpa using ended
    have taken := happening_reachable now happening left comes running (by rw [kept]; exact ready) timed
    refine onward _ _ ?_ (heed_reachable now _ taken)
    rw [(heed_interrupts limits now _ _).outputOpen, ← kept]
    cases happening <;> simp_all [take, after?]

theorem run_reachable (consumer : σ) (spoken : List (Nat × Happening)) (closed finished : Nat) (code : Option Int)
    (said : ∀ happening ∈ spoken, isLine happening = true) (opened : state.outputOpen = true)
    (reachable : Reachable limits lines ⟨linesOf spoken, state⟩) :
    ∃ last, Reachable limits lines ⟨last, (run limits onLine isCancelled consumer state
      (spoken ++ [(closed, .outputClosed), (finished, .exited code)])).2⟩ := by
  induction spoken generalizing consumer state with
  | nil =>
      refine round_reachable consumer closed .outputClosed _ [] .outputClosed (by simp [opened]) reachable ?_
      intro listener next shut reachable
      refine round_reachable listener finished (.exited code) [] [] (.exited code []) (by simp [shut]) reachable ?_
      exact fun _ next _ reachable => ⟨[], reachable⟩
  | cons first rest step =>
      obtain ⟨now, happening⟩ := first
      cases happening with
      | outputClosed => exact absurd (said _ (List.mem_cons_self ..)) (by simp [isLine])
      | exited code => exact absurd (said _ (List.mem_cons_self ..)) (by simp [isLine])
      | line text =>
          refine round_reachable consumer now (.line text) _ (linesOf rest) (.line text _) (by simp [opened]) reachable ?_
          intro listener next kept reachable
          refine step listener (fun other inside => said other (List.mem_cons_of_mem _ inside)) ?_ reachable
          rw [kept, opened]
          rfl

theorem final_reachable (consumer : σ) (trace : Trace) :
    ∃ last, Reachable limits trace.lines ⟨last, final limits onLine isCancelled consumer trace⟩ := by
  have start : Reachable limits trace.lines ⟨trace.lines, initial⟩ := ⟨[], .start⟩
  have heeded := heed_reachable 0 (isCancelled consumer) start
  rw [trace_lines] at heeded ⊢
  refine run_reachable consumer _ _ _ trace.code (lines_from_lines _ _ _) ?_ heeded
  exact (heed_interrupts limits 0 (isCancelled consumer) initial).outputOpen

end

/-- What every order of the steps keeps to, for an engine that writes `lines`. -/
structure Supervised (limits : Limits) (lines : List String) (notices : List (Nat × Notice)) (watch : Watch) : Prop where
  -- The first cancellation or deadline decides, and later ones change nothing.
  reason : watch.state.stopped = (firstStop? notices).map (·.2)
  once : ∀ now notice after, Step limits watch now notice after → after.state.stopped ≠ watch.state.stopped →
    watch.state.stopped = none ∧ after.state.stopped = stopReason? notice ∧ stopReason? notice ≠ none
  armed : watch.state.killAt = none ↔ watch.state.stopped = none
  killed : ∀ before now after, notices = before ++ (now, .killDue) :: after → firstStop? before ≠ none
  awaited : watch.state.stopped = none → ∀ ending, watch.state.ending = some ending →
    (∃ code, ending = .exited code) ∧ watch.state.delivered = lines
  heard : watch.state.delivered <+: lines
  whole : watch.state.ending ≠ none → watch.state.ending ≠ some .killed → watch.state.delivered = lines
  enabled : watch.state.ending = none → ∃ now notice after, Step limits watch now notice after

section

variable {limits : Limits} {lines : List String} {notices : List (Nat × Notice)} {watch : Watch}

theorem accounted_whole (accounted : Accounted limits lines notices watch) (ended : watch.state.ending ≠ none)
    (alive : watch.state.ending ≠ some .killed) :
    (∃ code, watch.state.ending = some (.exited code)) ∧ watch.state.delivered = lines := by
  cases ending : watch.state.ending with
  | none => exact absurd ending ended
  | some last =>
      cases last with
      | killed => exact absurd ending alive
      | exited code =>
          have all := accounted.heard
          rw [accounted.closed (accounted.exited code ending), List.append_nil] at all
          exact ⟨⟨code, rfl⟩, all⟩

theorem step_stops (accounted : Accounted limits lines notices watch) {now : Nat} {notice : Notice} {after : Watch}
    (step : Step limits watch now notice after) (changed : after.state.stopped ≠ watch.state.stopped) :
    watch.state.stopped = none ∧ after.state.stopped = stopReason? notice ∧ stopReason? notice ≠ none := by
  have onward := (step_accounted step accounted).stopped
  by_cases harmless : stopReason? notice = none
  · rw [first_stop_unstopped notices now notice harmless, ← accounted.stopped] at onward
    exact absurd onward changed
  · obtain ⟨reason, stops⟩ := Option.ne_none_iff_exists'.mp harmless
    cases first : firstStop? notices with
    | none =>
        rw [first_stop_append, first] at onward
        refine ⟨by rw [accounted.stopped, first]; rfl, ?_, harmless⟩
        rw [onward]
        simp [firstStop?, stops]
    | some stop =>
        rw [first_stop_append, first, Option.some_or, ← first, ← accounted.stopped] at onward
        exact absurd onward changed

theorem reached_supervised (reached : Reached limits lines notices watch) : Supervised limits lines notices watch := by
  have accounted := reached_accounted reached
  have both : watch.state.killAt = none ↔ watch.state.stopped = none := by
    rw [accounted.killAt, accounted.stopped, Option.map_eq_none_iff, Option.map_eq_none_iff]
  refine ⟨accounted.stopped, fun _ _ _ => step_stops accounted, both, ?_, ?_, ⟨_, accounted.heard⟩, ?_, ?_⟩
  · intro before now after split unstopped
    obtain ⟨earlier, next, reachedThere, killed⟩ := reached_through reached before split
    obtain ⟨_, taken⟩ := killed
    have there := reached_accounted reachedThere
    unfold after? at taken
    rw [there.killAt, unstopped] at taken
    split at taken <;> cases taken
  · intro unstopped ending ended
    have alive : watch.state.ending ≠ some .killed := fun killed => accounted.killed killed unstopped
    obtain ⟨⟨code, exited⟩, all⟩ := accounted_whole accounted (by rw [ended]; exact Option.some_ne_none _) alive
    exact ⟨⟨code, Option.some.inj (ended.symm.trans exited)⟩, all⟩
  · exact fun ended alive => (accounted_whole accounted ended alive).2
  · intro running
    obtain ⟨happening, after, step⟩ := step_enabled watch running accounted.closed
    exact ⟨0, .happening happening, after, step⟩

end

/-- Supervision keeps to this in every order of its steps, and the running supervision takes them in one of these orders. -/
theorem supervision_interleaved (limits : Limits) (lines : List String) :
    (∀ notices watch, Reached limits lines notices watch → Supervised limits lines notices watch) ∧
      ∀ {σ : Type} (onLine : σ → String → σ) (isCancelled : σ → Bool) (consumer : σ) (trace : Trace),
        trace.lines = lines → ∃ unread, Reachable limits lines ⟨unread, final limits onLine isCancelled consumer trace⟩ := by
  refine ⟨fun _ _ => reached_supervised, ?_⟩
  rintro σ onLine isCancelled consumer trace rfl
  exact final_reachable consumer trace

-- Cancelled between two lines, with a deadline that comes later, and killed though the output was closed in time.
def lateNotices : List (Nat × Notice) :=
  [(1, .happening (.line "# logs in")), (5, .cancellation), (6, .happening (.line "FAIL")),
    (7, .happening .outputClosed), (15, .killDue)]

def lateWatch : Watch :=
  ⟨[], ⟨false, some .cancelled, some 15, ["# logs in", "FAIL"], some .killed⟩⟩

theorem late_kill_supervised :
    Reached ⟨some 10, 10⟩ ["# logs in", "FAIL"] lateNotices lateWatch ∧
      Supervised ⟨some 10, 10⟩ ["# logs in", "FAIL"] lateNotices lateWatch := by
  have greeted : Step ⟨some 10, 10⟩ ⟨["# logs in", "FAIL"], initial⟩ 1 (.happening (.line "# logs in"))
      ⟨["FAIL"], ⟨true, none, none, ["# logs in"], none⟩⟩ := ⟨.line _ _, rfl⟩
  have cancelled : Step ⟨some 10, 10⟩ ⟨["FAIL"], ⟨true, none, none, ["# logs in"], none⟩⟩ 5 .cancellation
      ⟨["FAIL"], ⟨true, some .cancelled, some 15, ["# logs in"], none⟩⟩ := ⟨.cancellation _, rfl⟩
  have failed : Step ⟨some 10, 10⟩ ⟨["FAIL"], ⟨true, some .cancelled, some 15, ["# logs in"], none⟩⟩ 6
      (.happening (.line "FAIL")) ⟨[], ⟨true, some .cancelled, some 15, ["# logs in", "FAIL"], none⟩⟩ := ⟨.line _ _, rfl⟩
  have closed : Step ⟨some 10, 10⟩ ⟨[], ⟨true, some .cancelled, some 15, ["# logs in", "FAIL"], none⟩⟩ 7
      (.happening .outputClosed) ⟨[], ⟨false, some .cancelled, some 15, ["# logs in", "FAIL"], none⟩⟩ := ⟨.outputClosed, rfl⟩
  have killed : Step ⟨some 10, 10⟩ ⟨[], ⟨false, some .cancelled, some 15, ["# logs in", "FAIL"], none⟩⟩ 15 .killDue
      lateWatch := ⟨.killDue _, rfl⟩
  have reached : Reached ⟨some 10, 10⟩ ["# logs in", "FAIL"] lateNotices lateWatch :=
    ((((Reached.start.step greeted).step cancelled).step failed).step closed).step killed
  exact ⟨reached, (supervision_interleaved _ _).1 _ _ reached⟩

end Supervision

end ScriptSuite.Engine
