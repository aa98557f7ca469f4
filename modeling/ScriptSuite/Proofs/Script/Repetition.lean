import ScriptSuite.Proofs.Script.Reading

set_option autoImplicit false

namespace ScriptSuite.Script

variable {α σ : Type}

def RoundShortens (round : σ → Parser (Round σ α)) : Prop :=
  ∀ start context state next after, round start context state = .ok (.again next) after →
    after.rest.length < state.rest.length

-- What every round keeps holds at the round that is done.
theorem repeat_rounds_invariant {round : σ → Parser (Round σ α)} {context : Context} (invariant : σ → State → Prop)
    (keeps : ∀ start next state after, invariant start state → round start context state = .ok (.again next) after →
      invariant next after)
    {start : σ} {state after : State} {value : α} (success : repeatRounds round start context state = .ok value after)
    (holds : invariant start state) :
    ∃ last final, invariant last final ∧ round last context final = .ok (.done value) after := by
  have runs : ∀ (fuel : List Token) (start : σ) (state : State), invariant start state →
      repeatFrom round fuel start context state = .ok value after →
      ∃ last final, invariant last final ∧ round last context final = .ok (.done value) after := by
    intro fuel
    induction fuel with
    | nil =>
        intro start state holds success
        obtain ⟨step, between, read, finished⟩ := bind_ok success
        cases step with
        | again next => cases finished
        | done result =>
            cases finished
            exact ⟨start, state, holds, read⟩
    | cons _ fuel ih =>
        intro start state holds success
        obtain ⟨step, between, read, finished⟩ := bind_ok success
        cases step with
        | again next => exact ih next between (keeps start next state between holds read) finished
        | done result =>
            cases finished
            exact ⟨start, state, holds, read⟩
  exact runs state.rest start state holds success

inductive Reaches (round : σ → Parser (Round σ α)) (context : Context) : σ → State → σ → State → Prop where
  | here (start : σ) (state : State) : Reaches round context start state start state
  | again {start next last : σ} {state after final : State} (step : round start context state = .ok (.again next) after)
      (onward : Reaches round context next after last final) : Reaches round context start state last final

section

variable {round : σ → Parser (Round σ α)} (shortens : RoundShortens round)
include shortens

theorem repeat_from_step (fuel : List Token) (start : σ) (context : Context) (state : State)
    (enough : state.rest.length ≤ fuel.length) :
    repeatFrom round fuel start context state =
      match round start context state with
      | .ok (.again next) after => repeatFrom round fuel.tail next context after
      | .ok (.done result) after => .ok result after
      | .error error after => .error error after := by
  cases fuel with
  | nil =>
      rw [repeatFrom, bind_run]
      cases step : round start context state with
      | error error after => rfl
      | ok result after =>
          cases result with
          | done value => rfl
          | again next =>
              have shorter := shortens start context state next after step
              have empty : state.rest.length = 0 := Nat.le_zero.mp enough
              omega
  | cons token fuel =>
      rw [repeatFrom, bind_run]
      cases round start context state with
      | error error after => rfl
      | ok result after =>
          cases result with
          | again next => rfl
          | done value => rfl

theorem repeat_from_enough (context : Context) (fuel more : List Token) (start : σ) (state : State)
    (enough : state.rest.length ≤ fuel.length) (enoughMore : state.rest.length ≤ more.length) :
    repeatFrom round fuel start context state = repeatFrom round more start context state := by
  induction size : state.rest.length using Nat.strongRecOn generalizing fuel more start state with
  | _ size ih =>
      rw [repeat_from_step shortens fuel start context state enough,
        repeat_from_step shortens more start context state enoughMore]
      cases step : round start context state with
      | error error after => rfl
      | ok result after =>
          cases result with
          | done value => rfl
          | again next =>
              have shorter := shortens start context state next after step
              exact ih after.rest.length (by omega) fuel.tail more.tail next after
                (by rw [List.length_tail]; omega) (by rw [List.length_tail]; omega) rfl

theorem repeat_rounds_unfold (start : σ) (context : Context) (state : State) :
    repeatRounds round start context state =
      match round start context state with
      | .ok (.again next) after => repeatRounds round next context after
      | .ok (.done result) after => .ok result after
      | .error error after => .error error after := by
  have whole : ∀ (start : σ) (state : State),
      repeatRounds round start context state = repeatFrom round state.rest start context state := fun _ _ => rfl
  rw [whole, repeat_from_step shortens state.rest start context state (Nat.le_refl _)]
  cases step : round start context state with
  | error error after => rfl
  | ok result after =>
      cases result with
      | done value => rfl
      | again next =>
          have shorter := shortens start context state next after step
          dsimp only
          rw [whole]
          exact repeat_from_enough shortens context _ _ next after (by rw [List.length_tail]; omega) (Nat.le_refl _)

omit shortens in
theorem reaches_passes {count : Nat} (closes : ∀ x, RoundCloses count (round x)) {context : Context} {start last : σ}
    {state final : State} (reaches : Reaches round context start state last final) : Passes 0 state final := by
  induction reaches with
  | here start state => exact passes_refl 0 state
  | @again start next last state after final step onward ih =>
      have passed := closes start context state
      rw [step] at passed
      exact passes_trans passed ih

theorem repeat_rounds_reaches {context : Context} {start last : σ} {state final : State}
    (reaches : Reaches round context start state last final) :
    repeatRounds round start context state = repeatRounds round last context final := by
  induction reaches with
  | here start state => rfl
  | again step onward ih =>
      rw [repeat_rounds_unfold shortens, step]
      exact ih

-- Every repetition comes to a round that is done or fails, and its result is that of this round.
theorem repeat_rounds_ends (start : σ) (context : Context) (state : State) :
    ∃ last final, Reaches round context start state last final ∧
      ((∃ result after, round last context final = .ok (.done result) after ∧
          repeatRounds round start context state = .ok result after) ∨
        ∃ error after, round last context final = .error error after ∧
          repeatRounds round start context state = .error error after) := by
  induction size : state.rest.length using Nat.strongRecOn generalizing start state with
  | _ size ih =>
      have unfolded := repeat_rounds_unfold shortens start context state
      cases step : round start context state with
      | error error after =>
          rw [step] at unfolded
          exact ⟨start, state, .here start state, .inr ⟨error, after, step, unfolded⟩⟩
      | ok outcome after =>
          rw [step] at unfolded
          cases outcome with
          | done result => exact ⟨start, state, .here start state, .inl ⟨result, after, step, unfolded⟩⟩
          | again next =>
              have shorter := shortens start context state next after step
              obtain ⟨last, final, reaches, outcome⟩ := ih after.rest.length (by omega) next after rfl
              refine ⟨last, final, .again step reaches, ?_⟩
              rw [unfolded]
              exact outcome

end

end ScriptSuite.Script
