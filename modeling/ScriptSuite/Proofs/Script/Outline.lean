import ScriptSuite.Proofs.Script.Placing
import ScriptSuite.Proofs.Script.Recovery

set_option autoImplicit false

namespace ScriptSuite.Script

theorem stream_consumes {text : List Char} {ceiling floor : Nat} {before after : List Token}
    (stream : Stream text ceiling floor before) (consumed : Consumes before after) :
    ∃ later, floor ≤ later ∧ Stream text ceiling later after := by
  obtain ⟨read, rfl, present⟩ := consumed
  induction read generalizing floor with
  | nil => exact ⟨floor, Nat.le_refl _, stream⟩
  | cons token read ih =>
      obtain ⟨placed, onward⟩ := stream
      obtain ⟨nonempty, rest⟩ := onward (present token List.mem_cons_self)
      obtain ⟨later, forward, streamed⟩ := ih (fun other inside => present other (List.mem_cons_of_mem _ inside)) rest
      have above := placed.above
      exact ⟨later, by omega, streamed⟩

section

variable {text : List Char} {r d : Nat} {g : Grammar} (lays : g.Lays text r d)
include lays

theorem block_statement_laid {context : Context} {state after : State} {ceiling floor : Nat} {body : Body} {span : Span}
    (here : At text ceiling r state.peek.span.start (Cut.fresh 0) floor state)
    (success : g.block context state = .ok (body, span) after) :
    ∃ stop, Forward text floor state stop after ∧
      At text ceiling r state.peek.span.start ⟨r + 3, true, none, [.statement ⟨.block body, span⟩]⟩ stop after := by
  obtain ⟨stop, forward, there⟩ := lays.block context state ceiling floor (body, span) after here success
  obtain ⟨nonempty, settled⟩ := there.moved rfl
  have extent : span = ⟨state.peek.span.start, stop⟩ := by
    rw [settled.lastEnd]
    exact lays.blockSpan context state ceiling floor (body, span) after here.stream success
  subst extent
  refine ⟨stop, forward, there.closed rfl ?_ rfl⟩
  exact (there.strip.widen (Nat.le_add_right r 2) (Nat.le_refl _) (Nat.le_refl _)).closeStatement
    ⟨there.boundary, settled.boundary, nonempty⟩ ⟨Nat.le_refl _, Nat.le_refl _⟩ rfl rfl (Nat.le_succ _)

theorem lays_statement_body : Lays text r (r + 3) true (statementBody g) fun value => [.statement value] := by
  have plain : ∀ token : Token, GoesAt text r token token.span.start (Cut.fresh (r + 2)) (do
      let statement ← plainStatement g token.kind
      spannedFrom token.span.start statement) fun value => ⟨r + 3, true, none, [.statement value]⟩ :=
    fun token => .bind (goes_plain_statement lays token) fun _ => .spannedStatement rfl rfl rfl (Nat.le_succ _)
  intro context state ceiling floor value after here success
  obtain ⟨token, between, read, finished⟩ := bind_ok success
  cases read
  split at finished
  · obtain ⟨⟨body, span⟩, final, block, same⟩ := bind_ok finished
    cases same
    exact block_statement_laid lays here block
  · exact plain state.peek context state rfl ceiling floor value after (at_fresh here.stream (r + 2)) finished

def BodyLaid (text : List Char) (r d start ceiling : Nat) (body : Body) (state : State) : Prop :=
  ∃ floor, start ≤ floor ∧ Stream text ceiling floor state.rest ∧
    Strip text r d start none (body.reverse.map .statement) floor

theorem block_round_lays (closed : g.Closed) (brace : Span) (start ceiling : Nat) (context : Context) (body next : Body)
    (state after : State) (laid : BodyLaid text r d start ceiling body state)
    (success : blockRound g brace body context state = .ok (.again next) after) :
    BodyLaid text r d start ceiling next after := by
  obtain ⟨floor, above, stream, strip⟩ := laid
  cases block_round_step success with
  | reads notClosing present statement read outcome =>
      obtain ⟨stop, forward, there⟩ := lays.statement context state ceiling floor statement after (at_fresh stream 0) outcome
      have begins := (stream_peek stream).above
      have onward := forward.onward
      refine ⟨stop, by omega, there.stream, ?_⟩
      simpa using strip.append there.strip begins onward (by omega)
  | skips notClosing present error failed outcome =>
      have attempted := closed.statement.closes context state
      rw [outcome] at attempted
      obtain ⟨later, onward, streamed⟩ :=
        stream_consumes stream (consumes_trans attempted.consumed (resuming_passes failed state.rest error).consumed)
      exact ⟨later, by omega, streamed, strip.widen (Nat.le_refl _) (Nat.le_refl _) onward⟩

omit lays in
theorem block_done (brace : Span) (context : Context) (body : Body) (state after : State) (value : Body × Span)
    (success : blockRound g brace body context state = .ok (.done value) after) :
    state.peek.kind = .punct .rBrace ∧ value = (body.reverse, brace.merge state.peek.span) ∧ after = state.advance := by
  cases block_round_step success with
  | ends closing => exact ⟨closing, rfl, rfl⟩

omit lays in
theorem block_body_run (context : Context) (state after : State) (value : Body × Span)
    (success : blockBody g context state = .ok value after) :
    state.peek.kind = .punct .lBrace ∧
      repeatRounds (blockRound g state.peek.span) [] context state.advance = .ok value after := by
  obtain ⟨brace, between, read, finished⟩ := bind_ok success
  unfold expectPunct at read
  rw [expect_run] at read
  split at read
  · next same =>
      cases read
      exact ⟨same, finished⟩
  · cases read

theorem block_body_laid (closed : g.Closed) (context : Context) (state after : State) (ceiling floor : Nat)
    (value : Body × Span) (stream : Stream text ceiling floor state.rest)
    (success : blockBody g context state = .ok value after) :
    ∃ (last : State) (stop : Nat), state.peek.kind = .punct .lBrace ∧ last.peek.kind = .punct .rBrace ∧
      after = last.advance ∧ state.peek.span.stop ≤ stop ∧ Stream text ceiling stop last.rest ∧
      Strip text r d state.peek.span.stop none (value.1.map .statement) stop ∧
      value.2 = state.peek.span.merge last.peek.span := by
  obtain ⟨opening, repeated⟩ := block_body_run context state after value success
  obtain ⟨-, onward, -⟩ := stream_advance stream (by simp [opening])
  obtain ⟨body, last, laid, finished⟩ := repeat_rounds_invariant
    (BodyLaid text r d state.peek.span.stop ceiling)
    (fun body next here there laid success => block_round_lays lays closed _ _ ceiling context body next here there laid success)
    repeated ⟨_, Nat.le_refl _, onward, strip_nothing⟩
  obtain ⟨closing, rfl, rfl⟩ := block_done _ _ _ _ _ _ finished
  obtain ⟨stop, above, streamed, strip⟩ := laid
  exact ⟨last, stop, opening, closing, rfl, above, streamed, strip, rfl⟩

theorem block_body_extent (closed : g.Closed) (context : Context) (state after : State) (ceiling floor : Nat)
    (value : Body × Span) (stream : Stream text ceiling floor state.rest)
    (success : blockBody g context state = .ok value after) : value.2 = ⟨state.peek.span.start, after.lastEnd⟩ := by
  obtain ⟨last, stop, opening, closing, rfl, above, streamed, -, extent⟩ :=
    block_body_laid lays closed context state after ceiling floor value stream success
  obtain ⟨nonempty, -, -⟩ := stream_advance stream (by simp [opening])
  obtain ⟨follows, -, lastEnd⟩ := stream_advance streamed (by simp [closing])
  have behind := (stream_peek streamed).above
  rw [extent, lastEnd, Span.merge, Nat.min_eq_left (by omega), Nat.max_eq_right (by omega)]

theorem lays_block_body (closed : g.Closed) :
    Lays text r d true (blockBody g) fun value => value.1.map .statement := by
  intro context state ceiling floor value after here success
  obtain ⟨last, stop, opening, closing, rfl, above, streamed, strip, -⟩ :=
    block_body_laid lays closed context state after ceiling floor value here.stream success
  obtain ⟨nonempty, -, -⟩ := stream_advance here.stream (by simp [opening])
  obtain ⟨follows, onward, lastEnd⟩ := stream_advance streamed (by simp [closing])
  have begins := (stream_peek here.stream).above
  have placed := stream_peek streamed
  have behind := placed.above
  have next := (stream_peek onward).above
  have settled : Settled text last.peek.span.stop last.advance := ⟨lastEnd.symm, placed.stop⟩
  refine ⟨_, ⟨by omega, fun _ => settled⟩, onward, here.boundary, by omega, fun _ => ⟨by omega, settled⟩, ?_⟩
  exact strip.widen (Nat.le_refl _) (by omega) (by omega)

end

section

variable {α : Type} {text : List Char} {r more : Nat}

theorem strip_raise {bound start stop : Nat} {head : Option (Spanned Expr)} {nodes : List Node}
    (strip : Strip text r bound start head nodes stop) (le : r ≤ more) : Strip text more bound start head nodes stop :=
  ⟨fun lead found => leads_mono (strip.leads lead found) le, strip.sound, strip.inside, strip.ordered⟩

theorem LaysTo.raise {parser : Parser α} {post : α → Cut} (lays : LaysTo text r parser post) (le : r ≤ more) :
    LaysTo text more parser post := by
  intro context state ceiling floor value after here success
  obtain ⟨stop, forward, there⟩ := lays context state ceiling floor value after (at_fresh here.stream 0) success
  exact ⟨stop, forward, there.stream, there.boundary, there.before, there.moved, strip_raise there.strip le⟩

theorem LaysLead.raise {parser : Parser (Spanned Expr)} (lays : LaysLead text r parser) (le : r ≤ more) :
    LaysLead text more parser := by
  intro context state ceiling floor value after here success
  obtain ⟨stop, forward, there⟩ := LaysTo.raise lays le context state ceiling floor value after here success
  exact ⟨stop, forward, there.weaken ⟨le, id, .inr rfl, .refl _⟩⟩

end

-- What `levels` levels allow: three nodes on two levels, since an operand that is itself a prefix of an operator takes
-- two levels to come back to where it started.
def reach (levels : Nat) : Nat :=
  3 * levels / 2

theorem of_levels_lays (text : List Char) (levels : Nat) :
    (Grammar.ofLevels levels).Lays text (reach levels) (reach (levels + 1)) := by
  induction levels with
  | zero =>
      have nothing : ∀ {α : Type} {r : Nat} {post : α → Cut}, LaysTo text r (tooDeep : Parser α) post :=
        .of 0 fun _ => .peek fun _ => .of .fail
      exact ⟨by decide, by decide, nothing, nothing, fun _ _ _ _ _ _ _ success => (nomatch success), nothing, nothing,
        fun _ => nothing, nothing, nothing⟩
  | succ levels ih =>
      have next : reach (levels + 1 + 1) = reach levels + 3 := by
        unfold reach
        omega
      have closed := of_levels_closed levels
      have shallow := ih.shallow
      have deep := ih.deep
      have le : reach levels ≤ reach (levels + 1) := Nat.le_of_succ_le shallow
      rw [next]
      exact ⟨by omega, by omega, (lays_statement_body ih).raise le, (lays_block_body ih closed).raise le,
        fun context state ceiling floor value after => block_body_extent ih closed context state after ceiling floor value,
        (lays_binding_target_body ih).raise le, (lays_assignment_body ih).raise le,
        fun precedence => (lays_binary_from ih precedence).raise le, (lays_unary_body ih).raise le,
        (lays_new_expression_body ih).raise le⟩

theorem program_round_lays {text : List Char} {r d ceiling : Nat} {g : Grammar} (lays : g.Lays text r d) (context : Context)
    (body next : Body) (state after : State) (laid : BodyLaid text r d 0 ceiling body state)
    (success : programRound g body context state = .ok (.again next) after) : BodyLaid text r d 0 ceiling next after := by
  obtain ⟨floor, above, stream, strip⟩ := laid
  obtain ⟨ended, between, read, finished⟩ := bind_ok success
  cases read
  split at finished
  · cases finished
  · obtain ⟨statement, final, attempted, same⟩ := bind_ok finished
    cases same
    obtain ⟨stop, forward, there⟩ := lays.statement context state ceiling floor statement after (at_fresh stream 0) attempted
    have begins := (stream_peek stream).above
    refine ⟨stop, Nat.zero_le _, there.stream, ?_⟩
    simpa using strip.append there.strip begins forward.onward (Nat.zero_le _)

theorem program_done (g : Grammar) (context : Context) (body : Body) (state after : State) (value : Body)
    (success : programRound g body context state = .ok (.done value) after) : value = body.reverse := by
  obtain ⟨ended, between, read, finished⟩ := bind_ok success
  cases read
  split at finished
  · cases finished
    rfl
  · obtain ⟨statement, final, attempted, same⟩ := bind_ok finished
    cases same

theorem parse_source_fragment {source : String} {program : Program} (parsed : parseSource source = .ok program) :
    ∃ tokens final, lexFragment source 0 = .ok tokens ∧
      programBody Grammar.full Context.top (State.ofTokens tokens) = .ok program.body final := by
  unfold parseSource parseFragment at parsed
  cases lexed : lexFragment source 0 with
  | error error =>
      rw [lexed] at parsed
      cases parsed
  | ok tokens =>
      rw [lexed] at parsed
      have run : parse tokens = .ok program := by
        cases outcome : parse tokens with
        | error error =>
            simp [bind, Except.bind, Except.mapError, outcome] at parsed
        | ok found =>
            simp only [bind, Except.bind, Except.mapError, outcome, Except.ok.injEq] at parsed
            rw [parsed]
      unfold parse at run
      split at run
      · next body final success =>
          cases run
          exact ⟨tokens, final, rfl, success⟩
      · cases run

theorem program_laid (source : String) (program : Program) (parsed : parseSource source = .ok program) :
    ∃ stop, Strip source.toList (reach maxNesting) (reach (maxNesting + 1)) 0 none (program.body.map .statement) stop := by
  obtain ⟨tokens, final, lexed, success⟩ := parse_source_fragment parsed
  have written : WrittenAt source.toList source.toList 0 := ⟨[], [], by simp, rfl⟩
  have stream := lex_fragment_streams written lexed
  have lays := of_levels_lays source.toList maxNesting
  obtain ⟨body, last, ⟨stop, -, -, strip⟩, finished⟩ := repeat_rounds_invariant
    (BodyLaid source.toList (reach maxNesting) (reach (maxNesting + 1)) 0 (0 + byteLength source.toList))
    (fun body next here there laid success => program_round_lays lays Context.top body next here there laid success)
    success ⟨0, Nat.le_refl _, stream, strip_nothing⟩
  rw [program_done _ _ _ _ _ _ finished]
  exact ⟨stop, strip⟩

theorem sound_step {text : List Char} {bound : Nat} {visit : Visit} {child : Node} (sound : Sound text bound visit)
    (inside : child ∈ visit.node.children) : ∃ next deeper, next.node = child ∧ Sound text deeper next := by
  cases sound with
  | node deeper placed covered ordered weighs below =>
      rw [← visits_nodes] at inside
      obtain ⟨next, visited, same⟩ := List.mem_map.mp inside
      exact ⟨next, deeper, same, below next visited⟩

theorem program_has_sound {source : String} {program : Program} (parsed : parseSource source = .ok program) {node : Node}
    (has : program.Has node) : ∃ visit bound, visit.node = node ∧ Sound source.toList bound visit := by
  induction has with
  | @top statement inside =>
      obtain ⟨stop, strip⟩ := program_laid source program parsed
      exact ⟨⟨.statement statement, false⟩, _, rfl, strip.sound _ (List.mem_map_of_mem inside)⟩
  | child has inside ih =>
      obtain ⟨visit, bound, rfl, sound⟩ := ih
      obtain ⟨next, deeper, same, below⟩ := sound_step sound inside
      exact ⟨next, deeper, same, below⟩

/-- Every node of a parsed script spans some of its characters, all of its children stand inside it, and the children of
one node stand one behind the other, as the statements of the script do. -/
theorem spans_nest (source : String) (program : Program) (parsed : parseSource source = .ok program) :
    (program.body.map Node.statement).Pairwise Node.Before ∧
      ∀ node, program.Has node →
        node.span.Placed source.toList ∧ node.span.stop ≤ byteLength source.toList ∧
          (∀ child ∈ node.children, node.span.Covers child.span) ∧ node.children.Pairwise Node.Before := by
  constructor
  · obtain ⟨stop, strip⟩ := program_laid source program parsed
    simpa [optionalNodes] using strip.ordered
  · intro node has
    obtain ⟨visit, bound, rfl, sound⟩ := program_has_sound parsed has
    cases sound with
    | node deeper placed covered ordered weighs below =>
        exact ⟨placed, boundary_below placed.stop, covered, ordered⟩

def nestedSource : String :=
  "var a = `x$\x7bb(1)\x7d`; class C extends D \x7bm(e = 2) \x7b f; \x7d\x7d"

/-- A substitution of a template, a heritage and the default of a parameter. -/
theorem substitution_spans_nest :
    ∃ program, parseSource nestedSource = .ok program ∧ program.body.length = 2 ∧
      (program.body.map Node.statement).Pairwise Node.Before ∧
        ∀ node, program.Has node →
          node.span.Placed nestedSource.toList ∧ node.span.stop ≤ byteLength nestedSource.toList ∧
            (∀ child ∈ node.children, node.span.Covers child.span) ∧ node.children.Pairwise Node.Before := by
  have two : (parseSource nestedSource).toOption.map (·.body.length) = some 2 := by decide +kernel
  cases parsed : parseSource nestedSource with
  | error error => simp [parsed, Except.toOption] at two
  | ok program =>
      rw [parsed] at two
      exact ⟨program, rfl, Option.some.inj two, spans_nest nestedSource program parsed⟩

end ScriptSuite.Script
