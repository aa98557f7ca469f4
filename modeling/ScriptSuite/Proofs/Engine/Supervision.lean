import ScriptSuite.Engine.Supervision

set_option autoImplicit false

namespace ScriptSuite.Engine

def isLine : Nat × Happening → Bool
  | (_, .line _) => true
  | _ => false

def linesOf (happenings : List (Nat × Happening)) : List String :=
  happenings.filterMap fun happening =>
    match happening.2 with
    | .line text => some text
    | _ => none

def Trace.lines (trace : Trace) : List String :=
  linesOf trace.happenings

theorem line_happenings_lines (now : Nat) (lines : List (List UInt8)) :
    ∀ happening ∈ lineHappenings now lines, isLine happening = true := by
  intro happening member
  obtain ⟨line, _, rfl⟩ := List.mem_map.mp member
  rfl

theorem lines_from_lines (closed : Nat) (partialLine : List UInt8) (events : List Event) :
    ∀ happening ∈ linesFrom closed partialLine events, isLine happening = true := by
  fun_induction linesFrom closed partialLine events with
  | case1 partialLine empty => exact fun _ inside => absurd inside List.not_mem_nil
  | case2 partialLine some => exact line_happenings_lines closed [partialLine]
  | case3 partialLine now bytes rest pieces later =>
      intro happening member
      rcases List.mem_append.mp member with here | there
      · exact line_happenings_lines now _ happening here
      · exact later happening there
  | case4 partialLine event rest other later => exact later

namespace Supervision

structure Interrupted (before after : Supervision) : Prop where
  outputOpen : after.outputOpen = before.outputOpen
  delivered : after.delivered = before.delivered
  ending : after.ending = before.ending ∨ after.ending = some .killed

theorem interrupted_refl (state : Supervision) : Interrupted state state :=
  ⟨rfl, rfl, .inl rfl⟩

theorem interrupted_trans {first second third : Supervision} (left : Interrupted first second)
    (right : Interrupted second third) : Interrupted first third := by
  refine ⟨right.outputOpen.trans left.outputOpen, right.delivered.trans left.delivered, ?_⟩
  rcases right.ending with same | killed
  · rw [same]
    exact left.ending
  · exact .inr killed

theorem take_interrupts (limits : Limits) (now : Nat) (state : Supervision) (notice : Notice)
    (outer : ∀ happening, notice ≠ .happening happening) : Interrupted state (state.take limits now notice) := by
  unfold take after?
  by_cases ended : state.ending.isSome = true
  · rw [if_pos ended]
    exact interrupted_refl state
  · rw [if_neg ended]
    cases notice with
    | happening happening => exact absurd rfl (outer happening)
    | cancellation =>
        dsimp only
        split
        · exact ⟨rfl, rfl, .inl rfl⟩
        · exact interrupted_refl state
    | deadline =>
        dsimp only
        split
        · exact ⟨rfl, rfl, .inl rfl⟩
        · exact interrupted_refl state
    | killDue =>
        dsimp only
        split
        · exact ⟨rfl, rfl, .inr rfl⟩
        · exact interrupted_refl state

theorem due_interrupts (limits : Limits) (now : Nat) (due : Option Nat) (state : Supervision) (notice : Notice)
    (outer : ∀ happening, notice ≠ .happening happening) :
    Interrupted state (match due with
      | some time => if time ≤ now then state.take limits time notice else state
      | none => state) := by
  cases due with
  | none => exact interrupted_refl state
  | some time =>
      by_cases reached : time ≤ now
      · simpa only [if_pos reached] using take_interrupts limits time state notice outer
      · simpa only [if_neg reached] using interrupted_refl state

theorem pass_time_interrupts (limits : Limits) (now : Nat) (state : Supervision) :
    Interrupted state (state.passTime limits now) :=
  interrupted_trans (due_interrupts limits now limits.timeout state .deadline nofun)
    (due_interrupts limits now _ _ .killDue nofun)

theorem heed_interrupts (limits : Limits) (now : Nat) (cancelled : Bool) (state : Supervision) :
    Interrupted state (state.heed limits now cancelled) := by
  unfold heed
  split
  · exact take_interrupts limits now state .cancellation nofun
  · exact interrupted_refl state

theorem heed_goes_on (limits : Limits) (now : Nat) (cancelled : Bool) (state : Supervision)
    (running : state.ending = none) : (state.heed limits now cancelled).ending = none := by
  unfold heed
  split
  · simp only [take, after?, running, Option.isSome_none, Bool.false_eq_true, if_false]
    split <;> exact running
  · exact running

section

variable {σ : Type} (limits : Limits) (onLine : σ → String → σ) (isCancelled : σ → Bool)

def heardBy (consumer : σ) : Happening → σ
  | .line text => onLine consumer text
  | _ => consumer

theorem run_cons (consumer : σ) (state : Supervision) (now : Nat) (happening : Happening)
    (rest : List (Nat × Happening)) :
    run limits onLine isCancelled consumer state ((now, happening) :: rest) =
      if (state.passTime limits now).ending.isSome then (consumer, state.passTime limits now)
      else
        run limits onLine isCancelled (heardBy onLine consumer happening)
          (((state.passTime limits now).take limits now (.happening happening)).heed limits now
            (isCancelled (heardBy onLine consumer happening))) rest := by
  cases happening <;> rfl

theorem take_silent (now : Nat) (state : Supervision) (happening : Happening)
    (silent : isLine (now, happening) = false) :
    (state.take limits now (.happening happening)).delivered = state.delivered := by
  unfold take after?
  by_cases ended : state.ending.isSome = true
  · rw [if_pos ended]
    rfl
  · rw [if_neg ended]
    cases happening with
    | line text => exact absurd silent (by simp [isLine])
    | outputClosed =>
        dsimp only
        split <;> rfl
    | exited code =>
        dsimp only
        split <;> rfl

theorem run_silent (consumer : σ) (state : Supervision) (happenings : List (Nat × Happening))
    (silent : ∀ happening ∈ happenings, isLine happening = false) :
    (run limits onLine isCancelled consumer state happenings).1 = consumer ∧
      (run limits onLine isCancelled consumer state happenings).2.delivered = state.delivered := by
  induction happenings generalizing state with
  | nil => exact ⟨rfl, rfl⟩
  | cons first rest step =>
      obtain ⟨now, happening⟩ := first
      have quiet := silent _ (List.mem_cons_self ..)
      have unheard : heardBy onLine consumer happening = consumer := by
        cases happening with
        | line text => exact absurd quiet (by simp [isLine])
        | outputClosed => rfl
        | exited code => rfl
      have timed := pass_time_interrupts limits now state
      rw [run_cons, unheard]
      by_cases ended : (state.passTime limits now).ending.isSome = true
      · rw [if_pos ended]
        exact ⟨rfl, timed.delivered⟩
      · rw [if_neg ended]
        obtain ⟨same, kept⟩ := step (((state.passTime limits now).take limits now (.happening happening)).heed
          limits now (isCancelled consumer)) fun other inside => silent other (List.mem_cons_of_mem _ inside)
        refine ⟨same, ?_⟩
        rw [kept, (heed_interrupts limits now _ _).delivered, take_silent limits now _ happening quiet,
          timed.delivered]

theorem take_line (now : Nat) (state : Supervision) (text : String) (running : state.ending = none)
    (opened : state.outputOpen = true) :
    state.take limits now (.happening (.line text)) = { state with delivered := state.delivered ++ [text] } := by
  simp only [take, after?, running, Option.isSome_none, Bool.false_eq_true, if_false, opened, if_true, Option.getD_some]

theorem run_hears (consumer : σ) (state : Supervision) (running : state.ending = none)
    (opened : state.outputOpen = true) (spoken closing : List (Nat × Happening))
    (lines : ∀ happening ∈ spoken, isLine happening = true)
    (silent : ∀ happening ∈ closing, isLine happening = false) :
    ∃ heard, heard <+: linesOf spoken ∧
      (run limits onLine isCancelled consumer state (spoken ++ closing)).1 = heard.foldl onLine consumer ∧
      (run limits onLine isCancelled consumer state (spoken ++ closing)).2.delivered = state.delivered ++ heard ∧
      ((run limits onLine isCancelled consumer state (spoken ++ closing)).2.ending ≠ some .killed →
        heard = linesOf spoken) := by
  induction spoken generalizing consumer state with
  | nil =>
      obtain ⟨same, kept⟩ := run_silent limits onLine isCancelled consumer state closing silent
      exact ⟨[], List.nil_prefix, same, by rw [List.append_nil]; exact kept, fun _ => rfl⟩
  | cons first rest step =>
      obtain ⟨now, happening⟩ := first
      cases happening with
      | outputClosed => exact absurd (lines _ (List.mem_cons_self ..)) (by simp [isLine])
      | exited code => exact absurd (lines _ (List.mem_cons_self ..)) (by simp [isLine])
      | line text =>
          have timed := pass_time_interrupts limits now state
          rw [List.cons_append, run_cons, heardBy]
          rcases timed.ending with same | killed
          · rw [running] at same
            have stillOpen : (state.passTime limits now).outputOpen = true := timed.outputOpen.trans opened
            rw [same, if_neg (by decide), take_line limits now _ text same stillOpen, timed.delivered]
            generalize listened : ({ state.passTime limits now with
              delivered := state.delivered ++ [text] } : Supervision) = listening
            have heeded := heed_interrupts limits now (isCancelled (onLine consumer text)) listening
            have notEnded := heed_goes_on limits now (isCancelled (onLine consumer text)) listening
              (by rw [← listened]; exact same)
            have opens : (listening.heed limits now (isCancelled (onLine consumer text))).outputOpen = true := by
              rw [heeded.outputOpen, ← listened]
              exact stillOpen
            obtain ⟨heard, within, consumed, delivered, whole⟩ := step (onLine consumer text) _ notEnded opens
              fun other inside => lines other (List.mem_cons_of_mem _ inside)
            refine ⟨text :: heard, List.cons_prefix_cons.mpr ⟨rfl, within⟩, consumed, ?_, fun alive => ?_⟩
            · rw [delivered, heeded.delivered, ← listened, List.append_assoc]
              rfl
            · rw [whole alive]
              rfl
          · rw [killed, if_pos (by rfl)]
            exact ⟨[], List.nil_prefix, rfl, by rw [List.append_nil]; exact timed.delivered,
              fun alive => absurd killed alive⟩

-- The time to kill is set by a stop, and only then can it come.
structure Armed (state : Supervision) : Prop where
  killAt : state.stopped = none → state.killAt = none
  killed : state.ending = some .killed → state.stopped ≠ none

theorem take_armed (now : Nat) (state : Supervision) (notice : Notice) (armed : Armed state) :
    Armed (state.take limits now notice) := by
  unfold take after?
  by_cases ended : state.ending.isSome = true
  · rw [if_pos ended]
    exact armed
  · rw [if_neg ended]
    cases notice with
    | happening happening =>
        cases happening with
        | line text =>
            dsimp only
            split
            · exact ⟨armed.killAt, armed.killed⟩
            · exact armed
        | outputClosed =>
            dsimp only
            split
            · exact ⟨armed.killAt, armed.killed⟩
            · exact armed
        | exited code =>
            dsimp only
            split
            · exact armed
            · exact ⟨armed.killAt, nofun⟩
    | cancellation =>
        dsimp only
        split
        · exact ⟨nofun, fun _ => Option.some_ne_none _⟩
        · exact armed
    | deadline =>
        dsimp only
        split
        · exact ⟨nofun, fun _ => Option.some_ne_none _⟩
        · exact armed
    | killDue =>
        dsimp only
        split
        · rename_i due
          refine ⟨armed.killAt, fun _ running => ?_⟩
          rw [Option.getD_some] at running
          rw [armed.killAt running] at due
          exact absurd due (by decide)
        · exact armed

theorem pass_time_armed (now : Nat) (state : Supervision) (armed : Armed state) :
    Armed (state.passTime limits now) := by
  have due : ∀ (time : Option Nat) (notice : Notice) (state : Supervision), Armed state →
      Armed (match time with
        | some time => if time ≤ now then state.take limits time notice else state
        | none => state) := by
    intro time notice state armed
    cases time with
    | none => exact armed
    | some time =>
        by_cases reached : time ≤ now
        · simpa only [if_pos reached] using take_armed limits time state notice armed
        · simpa only [if_neg reached] using armed
  exact due _ .killDue _ (due limits.timeout .deadline state armed)

theorem heed_armed (now : Nat) (cancelled : Bool) (state : Supervision) (armed : Armed state) :
    Armed (state.heed limits now cancelled) := by
  unfold heed
  split
  · exact take_armed limits now state .cancellation armed
  · exact armed

theorem run_armed (consumer : σ) (state : Supervision) (happenings : List (Nat × Happening)) (armed : Armed state) :
    Armed (run limits onLine isCancelled consumer state happenings).2 := by
  induction happenings generalizing consumer state with
  | nil => exact armed
  | cons first rest step =>
      obtain ⟨now, happening⟩ := first
      have timed := pass_time_armed limits now state armed
      rw [run_cons]
      split
      · exact timed
      · exact step _ _ (heed_armed limits now _ _ (take_armed limits now _ _ timed))

def final (consumer : σ) (trace : Trace) : Supervision :=
  (run limits onLine isCancelled consumer (initial.heed limits 0 (isCancelled consumer)) trace.happenings).2

theorem trace_lines (trace : Trace) : trace.lines = linesOf (linesFrom trace.outputEnd [] trace.events) := by
  rw [Trace.lines, Trace.happenings, linesOf, List.filterMap_append]
  exact List.append_nil _

theorem supervise_hears (consumer : σ) (trace : Trace) :
    let last := final limits onLine isCancelled consumer trace
    supervise limits onLine isCancelled consumer trace =
        (last.delivered.foldl onLine consumer, aftermath limits trace last) ∧
      last.delivered <+: trace.lines ∧ (last.ending ≠ some .killed → last.delivered = trace.lines) := by
  have heeded := heed_interrupts limits 0 (isCancelled consumer) initial
  have running : (initial.heed limits 0 (isCancelled consumer)).ending = none := by
    unfold heed
    split <;> rfl
  obtain ⟨heard, within, consumed, delivered, whole⟩ := run_hears limits onLine isCancelled consumer
    (initial.heed limits 0 (isCancelled consumer)) running heeded.outputOpen
    (linesFrom trace.outputEnd [] trace.events)
    [(trace.outputEnd, .outputClosed), (trace.finished, .exited trace.code)]
    (lines_from_lines _ _ _) (by simp [isLine])
  rw [heeded.delivered] at delivered
  have all : (final limits onLine isCancelled consumer trace).delivered = heard := delivered
  dsimp only
  rw [all, trace_lines]
  refine ⟨?_, within, whole⟩
  rw [supervise]
  exact Prod.ext consumed rfl

-- An engine that nothing stopped was heard to its last line.
theorem unstopped_heard (consumer : σ) (trace : Trace)
    (unstopped : (final limits onLine isCancelled consumer trace).stopped = none) :
    (final limits onLine isCancelled consumer trace).delivered = trace.lines := by
  have armed : Armed (final limits onLine isCancelled consumer trace) :=
    run_armed limits onLine isCancelled consumer _ _ (heed_armed limits 0 _ initial ⟨fun _ => rfl, nofun⟩)
  exact (supervise_hears limits onLine isCancelled consumer trace).2.2 fun killed => armed.killed killed unstopped

end

end Supervision

theorem aftermath_stopped (limits : Limits) (trace : Trace) (state : Supervision) :
    (aftermath limits trace state).exit.stopped = state.stopped := by
  unfold aftermath
  dsimp only
  split <;> rfl

end ScriptSuite.Engine
