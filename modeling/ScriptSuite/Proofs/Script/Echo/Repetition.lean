import ScriptSuite.Proofs.Script.Echo.Tokens

set_option autoImplicit false

namespace ScriptSuite.Script

variable {α σ : Type}

def rounds (loose : Bool) (count : Nat) : Round σ α → Ending
  | .again _ => ⟨loose, 0⟩
  | .done _ => ⟨false, count⟩

def remaining (count : Nat) : Round σ α → α → Ending
  | .again _, _ => ⟨false, count⟩
  | .done _, _ => inside ()

section

variable [Movable α] [Movable σ] {distance : Nat} {ending : α → Ending} {loose : Bool} {count : Nat}
  {round moved : σ → Parser (Round σ α)}

omit [Movable α] [Movable σ] in
theorem rounds_join {next : Round σ α → Parser α} (again : loose = true → ∀ state, Stuck (next (.again state))) :
    Joins (rounds loose count) (remaining count) next fun _ => ⟨false, count⟩ := by
  refine ⟨fun step _ => ?_, fun step _ => ?_, fun step isLoose => ?_⟩
  · cases step with
    | again state => exact (Nat.zero_add count).symm
    | done result => rfl
  · cases step <;> rfl
  · cases step with
    | again state => exact again isLoose state
    | done result => cases isLoose

theorem echoes_repeat_from
    (each : ∀ start, Echoes distance (rounds loose count) (round start) (moved (Movable.moved distance start)))
    (stuck : loose = true → ∀ start, Stuck (round start)) (fuel more : List Token) (same : fuel.length = more.length)
    (start : σ) :
    Echoes distance (fun _ => ⟨false, count⟩) (repeatFrom round fuel start)
      (repeatFrom moved more (Movable.moved distance start)) := by
  induction fuel generalizing more start with
  | nil =>
      cases more with
      | nil =>
          refine .joined (each start) (remaining count) (fun step => ?_) (rounds_join fun _ _ =>
            stuck_of_reads (reads_unexpected _))
          cases step with
          | again next => exact echoes_unexpected _
          | done result => exact .pure rfl rfl
      | cons token more => cases same
  | cons token fuel ih =>
      cases more with
      | nil => cases same
      | cons other more =>
          refine .joined (each start) (remaining count) (fun step => ?_) (rounds_join fun isLoose next => ?_)
          · cases step with
            | again next => exact ih more (Nat.succ.inj same) next
            | done result => exact .pure rfl rfl
          · cases fuel with
            | nil => exact (stuck isLoose next).bind
            | cons token fuel => exact (stuck isLoose next).bind

-- A parser with the tokens to come for fuel, which are always enough.
theorem Echoes.fuelled {run movedRun : List Token → Parser α}
    (each : ∀ fuel more, fuel.length = more.length → Echoes distance ending (run fuel) (movedRun more))
    (enough : ∀ context state fuel more, state.rest.length ≤ fuel.length → state.rest.length ≤ more.length →
      run fuel context state = run more context state) :
    Echoes distance ending (upcoming >>= run) (upcoming >>= movedRun) := by
  refine fun token => ⟨?_, ?_, ?_⟩
  · intro context state same anchored
    exact (each state.rest _ (moved_length distance state.rest).symm).shifts context state anchored
  · intro context state value after same anchored success clean
    exact (each state.rest state.rest rfl).balances anchored success clean
  · intro context front last lastEnd value after tail remainder head calm success clean
    have fuel : ∀ tokens more, (front ++ tokens).length ≤ more.length →
      (upcoming >>= run) context ⟨front ++ tokens, lastEnd, []⟩ =
        run more context ⟨front ++ tokens, lastEnd, []⟩ :=
      fun tokens more longer => enough context _ (front ++ tokens) more (Nat.le_refl _) longer
    rw [fuel [last] (front ++ last :: tail) (by simp)] at success
    rw [fuel tail (front ++ last :: tail) (by simp)]
    exact (each _ _ rfl).prolongs remainder calm success clean

theorem Echoes.repeatRounds (shortens : RoundShortens round)
    (each : ∀ start, Echoes distance (rounds loose count) (round start) (moved (Movable.moved distance start)))
    (stuck : loose = true → ∀ start, Stuck (round start)) {start movedStart : σ}
    (same : movedStart = Movable.moved distance start) :
    Echoes distance (fun _ => ⟨false, count⟩) (repeatRounds round start) (repeatRounds moved movedStart) := by
  subst same
  exact .fuelled (fun fuel more length => echoes_repeat_from each stuck fuel more length start)
    fun context state fuel more enough enoughMore => repeat_from_enough shortens context fuel more start state enough enoughMore

end

section

variable [Movable α] {distance : Nat} {item movedItem : Parser α}

theorem echoes_comma_round (close : Punct) (echoes : Echoes distance inside item movedItem) (items : List α) :
    Echoes distance (rounds false 0) (commaRound close item items)
      (commaRound close movedItem (Movable.moved distance items)) :=
  .bind (echoes_check _ rfl) fun _ => .ite (.pure (by simp) rfl) (.bind echoes fun _ =>
    .bind (echoes_accept_punct .comma rfl) fun _ => .ite (.pure rfl rfl) (.pure (by simp) rfl))

theorem echoes_comma_list (close : Punct) (closes : Closes 0 item) (echoes : Echoes distance inside item movedItem) :
    Echoes distance inside (commaList close item) (commaList close movedItem) :=
  .repeatRounds (comma_round_shortens close closes) (echoes_comma_round close echoes) (fun isLoose => Bool.noConfusion isLoose)
    rfl

theorem echoes_holed_round (close : Punct) (echoes : Echoes distance inside item movedItem) (items : List (Option α)) :
    Echoes distance (rounds false 0) (holedRound close item items)
      (holedRound close movedItem (Movable.moved distance items)) :=
  .bind (echoes_check _ rfl) fun _ => .ite (.pure (by simp) rfl) (.bind (echoes_accept_punct .comma rfl) fun _ =>
    .ite (.pure rfl rfl) (.bind echoes fun _ => .bind (echoes_accept_punct .comma rfl) fun _ =>
      .ite (.pure rfl rfl) (.pure (by simp) rfl)))

theorem echoes_holed_list (close : Punct) (closes : Closes 0 item) (echoes : Echoes distance inside item movedItem) :
    Echoes distance inside (holedList close item) (holedList close movedItem) :=
  .repeatRounds (holed_round_shortens close closes) (echoes_holed_round close echoes) (fun isLoose => Bool.noConfusion isLoose)
    rfl

theorem echoes_names_round (echoes : Echoes distance inside item movedItem) (items : List α) :
    Echoes distance (rounds false 1) (namesRound item items) (namesRound movedItem (Movable.moved distance items)) :=
  .acceptBrace (.pure (by simp)) (fun _ _ _ ended => by cases ended; rfl) (.bind echoes fun _ =>
    .bind (echoes_check _ rfl) fun _ => .ite (.pure rfl rfl) (.bind (echoes_expect_punct .comma rfl) fun _ => .pure rfl rfl))

theorem echoes_names_list (reads : Reads 0 item) (echoes : Echoes distance inside item movedItem) :
    Echoes distance (fun value => (inside value).deeper) (namesList item) (namesList movedItem) :=
  .repeatRounds (names_round_shortens reads) (echoes_names_round echoes) (fun isLoose => Bool.noConfusion isLoose) rfl

end

end ScriptSuite.Script
