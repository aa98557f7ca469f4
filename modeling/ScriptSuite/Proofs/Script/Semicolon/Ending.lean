import ScriptSuite.Proofs.Script.FunctionBody
import ScriptSuite.Proofs.Script.Semicolon.Finding
import ScriptSuite.Proofs.Script.Semicolon.Insertion

set_option autoImplicit false

namespace ScriptSuite.Script

theorem reading_tick_error {behind : List Token} {parser : Parser (Spanned Statement)} {context : Context} {state : State}
    {error : SyntaxError} {failed : State} (run : parser context state = .error error failed) :
    readingTick behind parser context state = .error error failed := by
  unfold readingTick
  exact bind_run_error run

theorem reads_reading_tick {behind : List Token} {parser : Parser (Spanned Statement)} (reads : Reads 0 parser) :
    Reads 0 (readingTick behind parser) := by
  constructor
  · intro context state
    have passed := reads.closes context state
    cases run : parser context state with
    | error error failed =>
        rw [run] at passed
        rw [reading_tick_error run]
        exact passed
    | ok statement middle =>
        rw [run] at passed
        rw [reading_tick_run run]
        split
        · next ticked =>
            split
            · exact passes_trans passed (advance_passes middle (by simp [State.peek, State.peekAt, ticked, tick]))
            · exact passed
        · exact passed
  · intro context state statement after success
    obtain ⟨middle, read, ends⟩ := reading_tick_ok success
    have shorter := reads.shortens context state statement middle read
    rcases ends with ⟨-, -, rfl⟩ | ⟨-, rfl⟩
    · exact Nat.lt_of_le_of_lt (passes_length (advance_closes_one middle)) shorter
    · exact shorter

theorem ticking_closed (behind : List Token) (levels : Nat) : (Grammar.ticking behind levels).Closed := by
  induction levels with
  | zero => exact of_levels_closed 0
  | succ levels ih =>
      exact ⟨reads_reading_tick (reads_statement_body ih), reads_block_body ih, closes_binding_target_body ih,
        reads_assignment_body ih, fun precedence => (reads_binary_from ih precedence).closes, reads_unary_body ih,
        closes_new_expression_body ih⟩

theorem statement_body_span {g : Grammar} {context : Context} {state after : State} {statement : Spanned Statement}
    (closable : statement.node.closable = true) (read : statementBody g context state = .ok statement after) :
    statement.span = ⟨state.peek.span.start, max after.lastEnd state.peek.span.start⟩ := by
  obtain ⟨token, between, looked, finished⟩ := bind_ok read
  cases looked
  split at finished
  · obtain ⟨⟨body, span⟩, last, -, same⟩ := bind_ok finished
    cases same
    cases closable
  · obtain ⟨node, last, -, same⟩ := bind_ok finished
    cases same
    rfl

section

variable {cue : Cue} {g : Grammar} (finds : g.Finds cue)
include finds

theorem finds_block_body : cue.Finds (blockBody g) fun value => value.1.map .statement := by
  refine .bind (.expectPunct (by decide)) fun brace => .repeat (fun body => cue.Among (body.reverse.map .statement)) ?_ []
  intro body context state step after told success
  cases block_round_step success with
  | ends closing => exact told.advance (by simp [closing])
  | reads _ _ statement _ outcome =>
      exact (finds.statement.goes context state statement after told outcome).mono (by simp [Round.told])
  | skips _ _ error failed outcome => exact .noted (List.ne_nil_of_mem (resuming_records failed state.rest error))

-- The statement that reads the tick ends at the semicolon, since its last token is the one before the tick.
theorem finds_reading_tick (closed : g.Closed) :
    cue.Finds (readingTick cue.behind (statementBody g)) fun value => [.statement value] := by
  intro context state statement after told success
  obtain ⟨middle, read, ends⟩ := reading_tick_ok success
  have inner := finds_statement_body finds context state statement middle told read
  rcases ends with ⟨ticked, closable, rfl⟩ | ⟨-, rfl⟩
  · have passed := (reads_statement_body closed).closes context state
    have shorter := (reads_statement_body closed).shortens context state statement middle read
    rw [read] at passed
    have noted : middle.recovered ≠ [] → cue.Told (cue.Among [.statement statement]) middle.advance := fun errors =>
      .noted (by rwa [advance_recovered])
    cases inner with
    | ahead front coming before =>
        have length := congrArg List.length (ticked.symm.trans coming)
        simp at length
        omega
    | known holds => exact .known holds
    | noted errors => exact noted errors
    | next here last =>
        have begins : state.peek.span.start ≤ cue.semi.span.stop ∨ state.recovered ≠ [] := by
          cases told with
          | ahead front coming before =>
              refine .inl ?_
              cases front with
              | nil => simpa [State.peek, State.peekAt, coming] using cue.forward
              | cons token front => simpa [State.peek, State.peekAt, coming] using (before token (.head _)).2
          | next same _ =>
              rw [same, ticked] at shorter
              omega
          | known among => exact absurd among not_among_nothing
          | noted errors => exact .inr errors
        rcases begins with begins | errors
        · refine .known (among_one.mpr (.ends closable ?_))
          rw [statement_body_span closable read]
          dsimp only
          omega
        · refine noted fun clean => errors ?_
          have recorded : state.recovered <+: middle.recovered := passed.recorded
          rwa [clean, List.prefix_nil] at recorded
  · exact inner

end

theorem ticking_finds (cue : Cue) (levels : Nat) : (Grammar.ticking cue.behind levels).Finds cue := by
  induction levels with
  | zero =>
      have nothing : ∀ {α : Type} {nodes : α → List Node}, cue.Finds (tooDeep : Parser α) nodes :=
        .look (looks_peek_at 0) fun _ => .fail
      exact ⟨nothing, nothing, nothing, nothing, fun _ => nothing, nothing, nothing⟩
  | succ levels ih =>
      exact ⟨finds_reading_tick ih (ticking_closed _ levels), finds_block_body ih, finds_binding_target_body ih,
        finds_assignment_body ih, finds_binary_from ih, finds_unary_body ih, finds_new_from ih (finds_call_member ih)⟩

-- A script that is read to its end with the tick has a statement that reads it.
theorem ticked_body_shows (cue : Cue) {front : List Token}
    (before : ∀ token ∈ front, token.kind ≠ .endOfFile ∧ token.span.start ≤ cue.semi.span.stop) {body : Body} {after : State}
    (read : programBody (.ticking cue.behind maxNesting) .top (.ofTokens (front ++ cue.semi :: tick :: cue.behind)) = .ok body after)
    (clean : after.recovered = []) : ∃ statement ∈ body, (Node.statement statement).Shows cue.semi.span.stop := by
  have finds := ticking_finds cue maxNesting
  have tells : cue.Finds (programBody (.ticking cue.behind maxNesting)) fun body => body.map .statement :=
    .repeat (fun body => cue.Among (body.reverse.map .statement)) (fun body => .look looks_at_end fun _ => .ite (.pure id)
      (.bind finds.statement.goes fun _ => .pure (by simp [Round.told]))) []
  have ended : after.peek.kind = .endOfFile := by
    obtain ⟨last, final, -, finished⟩ := repeat_rounds_invariant (fun _ _ => True) (fun _ _ _ _ _ _ => trivial) read trivial
    rw [program_round_run] at finished
    split at finished
    · next ended =>
        cases finished
        exact ended
    · split at finished <;> cases finished
  have unread : ∀ token rest, after.rest = token :: rest → token.kind = .endOfFile := by
    intro token rest coming
    simpa [State.peek, State.peekAt, coming] using ended
  cases tells .top _ body after (.ahead front rfl before) read with
  | ahead front coming before =>
      cases front with
      | nil => exact absurd (unread _ _ coming) (by simp [cue.isSemi])
      | cons token front => exact absurd (unread _ _ coming) (before token (.head _)).1
  | next here last => exact absurd (unread _ _ here) TokenKind.noConfusion
  | known among =>
      obtain ⟨node, inside, shows⟩ := among
      obtain ⟨statement, within, rfl⟩ := List.mem_map.mp inside
      exact ⟨statement, within, shows⟩
  | noted errors => exact absurd clean errors

/-- Where a semicolon before a name ends plainly, the tree of the script has, up to spans, an expression or a declaration
of variables that ends at the semicolon, or drops what holds one. -/
theorem plain_end_shown {front back : List Token} {semi next : Token} {name : String} {body : Body}
    (isSemi : semi.kind = .punct .semi) (isName : next.kind = .identifier name)
    (plain : ∀ last ∈ front.getLast?, last.kind ≠ .identifier "let") (forward : semi.span.start ≤ semi.span.stop)
    (before : ∀ token ∈ front, token.kind ≠ .endOfFile ∧ token.span.start ≤ semi.span.stop)
    (parsed : parse (front ++ semi :: next :: back) = .ok ⟨body, []⟩) (ends : EndsPlainly front semi (next :: back)) :
    ∃ ticked, Alike ticked body ∧ ∃ statement ∈ ticked, (Node.statement statement).Shows semi.span.stop := by
  obtain ⟨ticked, after, read, clean⟩ := ends
  obtain ⟨kept, parsedKept, alike⟩ := parse_ticked ⟨semi, next, back, true, isSemi, ⟨name, isName⟩⟩ plain read clean
  have same := parsedKept.symm.trans parsed
  cases same
  exact ⟨ticked, alike, ticked_body_shows ⟨semi, next :: back, isSemi, forward⟩ before read clean⟩

end ScriptSuite.Script
