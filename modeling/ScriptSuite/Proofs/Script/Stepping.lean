import ScriptSuite.Proofs.Script.Reading

set_option autoImplicit false

namespace ScriptSuite.Script

variable {α β : Type}

theorem bind_run_ok {first : Parser α} {second : α → Parser β} {context : Context} {state after : State} {value : α}
    (result : first context state = .ok value after) :
    (first >>= second) context state = second value context after := by
  rw [bind_run, result]

theorem bind_run_error {first : Parser α} {second : α → Parser β} {context : Context} {state after : State}
    {error : SyntaxError} (result : first context state = .error error after) :
    (first >>= second) context state = .error error after := by
  rw [bind_run, result]

theorem accept_bind (kind : TokenKind) (next : Bool → Parser β) :
    (accept kind >>= next) = (check kind >>= fun found => if found then advance >>= fun _ => next true else next false) := by
  funext context state
  rw [bind_run, bind_run, accept_run, check_run]
  by_cases same : state.peek.kind = kind
  · rw [if_pos same, beq_iff_eq.mpr same]
    rfl
  · rw [if_neg same, beq_eq_false_iff_ne.mpr same]
    rfl

theorem expect_bind (kind : TokenKind) (wanted : Expectation) (next : Token → Parser β) :
    (expect kind wanted >>= next) = (check kind >>= fun found => if found then advance >>= next else unexpected wanted) := by
  funext context state
  rw [bind_run, bind_run, expect_run, check_run]
  by_cases same : state.peek.kind = kind
  · rw [if_pos same, beq_iff_eq.mpr same]
    rfl
  · rw [if_neg same, beq_eq_false_iff_ne.mpr same]
    rfl

theorem await_ahead_bind (next : Bool → Parser α) :
    (awaitAhead >>= next) = (checkWord "await" >>= fun found => if found then Parser.context >>= fun context =>
      peekAt 1 >>= fun second => next (context.inAsync || awaitsOperand second) else next false) := by
  funext context state
  rw [bind_run, awaitAhead, bind_run, bind_run]
  cases checkWord "await" context state with
  | error failure after => rfl
  | ok found after => cases found <;> rfl

section

variable (context : Context) (token : Token) (rest : List Token) (lastEnd : Nat) (recovered : List SyntaxError)

theorem peek_run : peek context ⟨token :: rest, lastEnd, recovered⟩ = .ok token ⟨token :: rest, lastEnd, recovered⟩ :=
  rfl

theorem advance_run (present : token.kind ≠ .endOfFile) :
    advance context ⟨token :: rest, lastEnd, recovered⟩ = .ok token ⟨rest, token.span.stop, recovered⟩ := by
  unfold advance
  rw [advance_rest _ token rest rfl present, peek_cons]

theorem expect_present (kind : TokenKind) (wanted : Expectation) (same : token.kind = kind)
    (present : kind ≠ .endOfFile) :
    expect kind wanted context ⟨token :: rest, lastEnd, recovered⟩ =
      .ok token ⟨rest, token.span.stop, recovered⟩ := by
  rw [expect_run, peek_cons, if_pos same, advance_rest _ token rest rfl (by rw [same]; exact present)]

theorem accept_other (kind : TokenKind) (other : token.kind ≠ kind) :
    accept kind context ⟨token :: rest, lastEnd, recovered⟩ = .ok false ⟨token :: rest, lastEnd, recovered⟩ := by
  rw [accept_run, peek_cons, if_neg other]

end

end ScriptSuite.Script
