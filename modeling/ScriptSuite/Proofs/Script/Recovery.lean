import ScriptSuite.Proofs.Script.Productions
import ScriptSuite.Proofs.Script.Repetition

set_option autoImplicit false

namespace ScriptSuite.Script

-- Skipping reads whole brackets, and closing brackets that were open before, but no braces among those. It may stop
-- inside brackets at the end of the file only.
structure Skipped (awaited : List Punct) (tokens rest : List Token) : Prop where
  owed : owedBraces tokens ≤ owedBraces rest + awaited.count .rBrace
  exact : (∀ token ∈ rest.head?, token.kind = .endOfFile) ∨
    owedBraces tokens = owedBraces rest + awaited.count .rBrace

theorem skipped_here (tokens : List Token) : Skipped [] tokens tokens :=
  ⟨Nat.le_add_right _ _, .inr rfl⟩

theorem skipped_open (awaited : List Punct) (token : Token) (mark : Punct) (tokens rest : List Token)
    (opened : closer? token.kind = some mark) (skipped : Skipped (mark :: awaited) tokens rest) :
    Skipped awaited (token :: tokens) rest := by
  have owed := skipped.owed
  have exact := skipped.exact
  rw [count_awaited mark awaited] at owed exact
  refine ⟨?_, exact.imp id fun equal => ?_⟩
  · rw [owed_opening token mark tokens opened]
    omega
  · rw [owed_opening token mark tokens opened]
    omega

theorem skipped_plain (awaited : List Punct) (token : Token) (tokens rest : List Token)
    (notOpening : token.kind ≠ .punct .lBrace) (notClosing : token.kind ≠ .punct .rBrace)
    (skipped : Skipped awaited tokens rest) : Skipped awaited (token :: tokens) rest := by
  have plain := owed_plain token tokens notOpening notClosing
  exact ⟨by rw [plain]; exact skipped.owed, skipped.exact.imp id fun equal => by rw [plain]; exact equal⟩

theorem skipped_close (outer : List Punct) (token : Token) (mark : Punct) (tokens rest : List Token)
    (closing : token.kind = .punct mark) (notOpening : token.kind ≠ .punct .lBrace)
    (skipped : Skipped outer tokens rest) : Skipped (mark :: outer) (token :: tokens) rest := by
  have owed := skipped.owed
  refine ⟨?_, skipped.exact.imp id fun equal => ?_⟩
  · rw [owed_closing token mark tokens closing notOpening, count_awaited mark outer]
    omega
  · rw [owed_closing token mark tokens closing notOpening, count_awaited mark outer]
    omega

theorem skip_to_boundary_consumes (depth lastEnd : Nat) (tokens : List Token) :
    Consumes tokens (skipToBoundary depth lastEnd tokens).1 := by
  induction tokens generalizing depth lastEnd with
  | nil => exact consumes_refl _
  | cons token rest ih =>
      unfold skipToBoundary
      split
      · exact consumes_refl _
      · next present =>
          have onward := fun deeper stop => consumes_trans (consumes_token token rest present) (ih deeper stop)
          split
          · exact onward _ _
          · split
            · exact consumes_refl _
            · split
              · exact onward _ _
              · split
                · exact consumes_token token rest present
                · split
                  · exact consumes_refl _
                  · exact onward _ _

theorem skip_to_boundary_skipped (awaited : List Punct) (lastEnd : Nat) (tokens : List Token)
    (fit : bracketsFit awaited tokens) :
    Skipped awaited tokens (skipToBoundary awaited.length lastEnd tokens).1 := by
  induction tokens generalizing awaited lastEnd with
  | nil => exact ⟨Nat.zero_le _, .inl (by simp [skipToBoundary])⟩
  | cons token rest ih =>
      unfold skipToBoundary
      by_cases ended : token.kind = .endOfFile
      · rw [if_pos ended]
        exact ⟨Nat.le_add_right _ _, .inl (by simpa using ended)⟩
      rw [if_neg ended]
      cases opened : closer? token.kind with
      | some mark =>
          have opening : isOpening token.kind = true := by rw [is_opening_closer, opened, Option.isSome_some]
          simp only [bracketsFit, opened] at fit
          rw [if_pos opening]
          exact skipped_open awaited token mark rest _ opened (ih (mark :: awaited) _ fit)
      | none =>
          have notOpening : ¬ isOpening token.kind = true := by simp [is_opening_closer, opened]
          have notBrace := unopening_no_brace token.kind opened
          rw [if_neg notOpening]
          by_cases closing : isClosing token.kind = true
          · cases awaited with
            | nil =>
                by_cases brace : token.kind = .punct .rBrace
                · rw [if_pos ⟨brace, rfl⟩]
                  exact skipped_here _
                · simp only [bracketsFit, opened] at fit
                  rw [if_neg (fun both => brace both.1), if_pos closing]
                  exact skipped_plain [] token rest _ notBrace brace (ih [] _ fit)
            | cons mark outer =>
                simp only [bracketsFit, opened, if_pos closing] at fit
                have deeper : ¬ (mark :: outer).length = 0 := by simp
                rw [if_neg (fun both => deeper both.2), if_pos closing]
                exact skipped_close outer token mark rest _ fit.1 notBrace (ih outer _ fit.2)
          · have notClosing := unclosing_no_brace token.kind closing
            have inner : bracketsFit awaited rest := by
              cases awaited with
              | nil => simpa only [bracketsFit, opened] using fit
              | cons mark outer => simpa only [bracketsFit, opened, if_neg closing] using fit
            rw [if_neg (fun both => notClosing both.1), if_neg closing]
            have onward := skipped_plain awaited token rest _ notBrace notClosing (ih awaited token.span.stop inner)
            split
            · next both =>
                rw [List.length_eq_zero_iff.mp both.2]
                exact skipped_plain [] token rest rest notBrace notClosing (skipped_here rest)
            · split
              · next both =>
                  rw [List.length_eq_zero_iff.mp both.1]
                  exact skipped_here _
              · exact onward

theorem synchronize_run (context : Context) (state : State) :
    synchronize context state = .ok () { state with
      rest := (skipToBoundary 0 state.lastEnd state.rest).1
      lastEnd := (skipToBoundary 0 state.lastEnd state.rest).2 } := rfl

theorem skip_stays_at_boundary (lastEnd : Nat) (token : Token) (rest : List Token)
    (stays : (skipToBoundary 0 lastEnd (token :: rest)).1 = token :: rest) :
    token.kind = .endOfFile ∨ token.kind = .punct .rBrace ∨ startsStatement token.kind = true := by
  have moved : ∀ depth stop, (skipToBoundary depth stop rest).1 ≠ token :: rest := by
    intro depth stop same
    have shorter := (skip_to_boundary_consumes depth stop rest).suffix.length_le
    rw [same, List.length_cons] at shorter
    omega
  unfold skipToBoundary at stays
  split at stays
  · next ended => exact .inl ended
  · split at stays
    · exact absurd stays (moved _ _)
    · split at stays
      · next closing => exact .inr (.inl closing.1)
      · split at stays
        · exact absurd stays (moved _ _)
        · split at stays
          · have same := congrArg List.length stays
            simp at same
          · split at stays
            · next starts => exact .inr (.inr starts.2.2)
            · exact absurd stays (moved _ _)

def State.skipping (state : State) (error : SyntaxError) : State where
  rest := (skipToBoundary 0 state.lastEnd state.rest).1
  lastEnd := (skipToBoundary 0 state.lastEnd state.rest).2
  recovered := state.recovered ++ [error]

def State.resuming (state : State) (before : List Token) (error : SyntaxError) : State :=
  if (state.skipping error).rest.length = before.length ∧ (state.skipping error).peek.kind ≠ .punct .rBrace then
    (state.skipping error).advance
  else state.skipping error

theorem recover_run (before : List Token) (error : SyntaxError) (context : Context) (state : State) :
    recover before error context state =
      if state.peek.kind = .endOfFile then .error error state else .ok () (state.resuming before error) := by
  by_cases ended : state.peek.kind = .endOfFile
  · have atEnd : state.atEnd = true := beq_iff_eq.mpr ended
    rw [if_pos ended]
    unfold recover
    simp only [bind_run, ScriptSuite.Script.atEnd, atEnd, if_true, Parser.fail]
  · have atEnd : state.atEnd = false := beq_eq_false_iff_ne.mpr ended
    rw [if_neg ended]
    unfold recover State.resuming
    simp only [bind_run, ScriptSuite.Script.atEnd, atEnd, Bool.false_eq_true, if_false, recordError, synchronize_run,
      upcoming, checkPunct, check_run]
    have same : (((state.skipping error).rest.length == before.length) &&
        !((state.skipping error).peek.kind == .punct .rBrace)) = true ↔
        (state.skipping error).rest.length = before.length ∧ (state.skipping error).peek.kind ≠ .punct .rBrace := by
      simp
    by_cases stuck : (state.skipping error).rest.length = before.length ∧
        (state.skipping error).peek.kind ≠ .punct .rBrace
    · have moves := same.mpr stuck
      rw [if_pos stuck]
      unfold State.skipping at moves ⊢
      rw [if_pos moves]
      rfl
    · have stays := fun both => stuck (same.mp both)
      rw [if_neg stuck]
      unfold State.skipping at stays ⊢
      rw [if_neg stays]
      rfl

theorem skipping_passes (state : State) (error : SyntaxError) : Passes 0 state (state.skipping error) :=
  ⟨skip_to_boundary_consumes 0 state.lastEnd state.rest, List.prefix_append _ _,
    fun fit => (skip_to_boundary_skipped [] state.lastEnd state.rest fit).owed⟩

theorem resuming_passes (state : State) (before : List Token) (error : SyntaxError) :
    Passes 0 state (state.resuming before error) := by
  unfold State.resuming
  split
  · next stuck => exact passes_trans (skipping_passes state error) (advance_passes _ stuck.2)
  · exact skipping_passes state error

theorem block_round_closes (g : Grammar) (brace : Span) (body : Body) (context : Context) (state : State)
    (closing : state.peek.kind = .punct .rBrace) :
    blockRound g brace body context state = .ok (.done (body.reverse, brace.merge state.peek.span)) state.advance := by
  unfold blockRound checkPunct
  rw [bind_run, check_run, beq_iff_eq.mpr closing]
  rfl

theorem block_round_unclosed (g : Grammar) (brace : Span) (body : Body) (context : Context) (state : State)
    (ended : state.peek.kind = .endOfFile) :
    blockRound g brace body context state = .error ⟨.unclosedBlock, brace⟩ state := by
  have notClosing : state.peek.kind ≠ .punct .rBrace := by simp [ended]
  have atEnd : state.atEnd = true := beq_iff_eq.mpr ended
  unfold blockRound checkPunct
  rw [bind_run, check_run, beq_eq_false_iff_ne.mpr notClosing]
  simp only [Bool.false_eq_true, if_false, bind_run, ScriptSuite.Script.atEnd, atEnd, if_true, Parser.fail]

theorem block_round_attempts (g : Grammar) (brace : Span) (body : Body) (context : Context) (state : State)
    (notClosing : state.peek.kind ≠ .punct .rBrace) (present : state.peek.kind ≠ .endOfFile) :
    blockRound g brace body context state =
      match g.statement context state with
      | .ok statement after => .ok (.again (statement :: body)) after
      | .error error failed =>
          if failed.peek.kind = .endOfFile then .error error failed
          else .ok (.again body) (failed.resuming state.rest error) := by
  have atEnd : state.atEnd = false := beq_eq_false_iff_ne.mpr present
  unfold blockRound checkPunct
  rw [bind_run, check_run, beq_eq_false_iff_ne.mpr notClosing]
  simp only [Bool.false_eq_true, if_false, bind_run, ScriptSuite.Script.atEnd, atEnd, upcoming, Parser.attempt]
  cases g.statement context state with
  | ok statement after => rfl
  | error error failed =>
      dsimp only
      rw [bind_run, recover_run]
      by_cases stuck : failed.peek.kind = .endOfFile
      · rw [if_pos stuck, if_pos stuck]
      · rw [if_neg stuck, if_neg stuck]
        rfl

-- What a round of a block does if it succeeds.
inductive BlockStep (g : Grammar) (brace : Span) (body : Body) (context : Context) (state : State) :
    Round Body (Body × Span) → State → Prop
  | ends (closing : state.peek.kind = .punct .rBrace) :
      BlockStep g brace body context state (.done (body.reverse, brace.merge state.peek.span)) state.advance
  | reads (notClosing : state.peek.kind ≠ .punct .rBrace) (present : state.peek.kind ≠ .endOfFile)
      (statement : Spanned Statement) (after : State) (outcome : g.statement context state = .ok statement after) :
      BlockStep g brace body context state (.again (statement :: body)) after
  | skips (notClosing : state.peek.kind ≠ .punct .rBrace) (present : state.peek.kind ≠ .endOfFile)
      (error : SyntaxError) (failed : State) (outcome : g.statement context state = .error error failed) :
      BlockStep g brace body context state (.again body) (failed.resuming state.rest error)

theorem block_round_step {g : Grammar} {brace : Span} {body : Body} {context : Context} {state after : State}
    {value : Round Body (Body × Span)} (success : blockRound g brace body context state = .ok value after) :
    BlockStep g brace body context state value after := by
  by_cases closing : state.peek.kind = .punct .rBrace
  · rw [block_round_closes g brace body context state closing] at success
    cases success
    exact .ends closing
  by_cases ended : state.peek.kind = .endOfFile
  · rw [block_round_unclosed g brace body context state ended] at success
    cases success
  rw [block_round_attempts g brace body context state closing ended] at success
  cases outcome : g.statement context state with
  | ok statement read =>
      rw [outcome] at success
      cases success
      exact .reads closing ended statement after outcome
  | error error failed =>
      rw [outcome] at success
      dsimp only at success
      split at success
      · cases success
      · cases success
        exact .skips closing ended error failed outcome

section

variable {g : Grammar} (closed : g.Closed)
include closed

theorem round_closes_block (brace : Span) (body : Body) : RoundCloses 1 (blockRound g brace body) := by
  intro context state
  by_cases closing : state.peek.kind = .punct .rBrace
  · rw [block_round_closes g brace body context state closing]
    exact advance_closes_one state
  · by_cases ended : state.peek.kind = .endOfFile
    · rw [block_round_unclosed g brace body context state ended]
      exact passes_refl 1 state
    · rw [block_round_attempts g brace body context state closing ended]
      have attempted := closed.statement.closes context state
      cases outcome : g.statement context state with
      | ok statement after =>
          rw [outcome] at attempted
          exact attempted
      | error error failed =>
          rw [outcome] at attempted
          dsimp only
          by_cases stuck : failed.peek.kind = .endOfFile
          · rw [if_pos stuck]
            exact passes_mono attempted (Nat.zero_le 1)
          · rw [if_neg stuck]
            exact passes_trans attempted (resuming_passes failed state.rest error)

theorem reads_block_body : Reads 0 (blockBody g) :=
  .braced fun brace => closes_repeat_rounds (round_closes_block closed brace.span) []

end

theorem reads_too_deep {α : Type} : Reads 0 (tooDeep : Parser α) :=
  .later ((looks_peek_at 0).closes 0) fun _ => .fail 0 _

theorem of_levels_closed (levels : Nat) : (Grammar.ofLevels levels).Closed := by
  induction levels with
  | zero =>
      exact ⟨reads_too_deep, reads_too_deep, reads_too_deep.closes, reads_too_deep, fun _ => reads_too_deep.closes,
        reads_too_deep, reads_too_deep.closes⟩
  | succ levels ih =>
      exact ⟨reads_statement_body ih, reads_block_body ih, closes_binding_target_body ih, reads_assignment_body ih,
        fun precedence => (reads_binary_from ih precedence).closes, reads_unary_body ih,
        closes_new_expression_body ih⟩

end ScriptSuite.Script
