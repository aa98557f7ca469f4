import ScriptSuite.Script.Parser
import ScriptSuite.Proofs.Script.Stepping

set_option autoImplicit false

namespace ScriptSuite.Script

def leading (kinds : List TokenKind) : TokenKind :=
  kinds.head?.getD .endOfFile

structure Ahead (kinds : List TokenKind) (state : State) : Prop where
  spelled : state.rest.map (·.kind) = kinds
  calm : ∀ token ∈ state.rest, token.newlineBefore = false ∧ token.kind ≠ .punct .arrow
  clean : state.recovered = []

-- At the top of a script, `parser` reads the tokens `before` up to `after` if and only if there are `need` levels.
structure Parses {α : Type} (levels need : Nat) (before after : List TokenKind) (accepts : α → Prop)
    (parser : Parser α) : Prop where
  enough : need ≤ levels → ∀ state, Ahead before state →
    ∃ value final, parser .top state = .ok value final ∧ Ahead after final ∧ accepts value
  tooFew : levels < need → ∀ state, Ahead before state →
    ∃ span final, parser .top state = .error ⟨.nestingTooDeep, span⟩ final

def Repeats {α σ : Type} (levels need : Nat) (before after : List TokenKind) (accepts : α → Prop)
    (round : σ → Parser (Round σ α)) (start : σ) : Prop :=
  ∀ fuel : List Token, before.length ≤ fuel.length → Parses levels need before after accepts (repeatFrom round fuel start)

theorem ahead_cons {kind : TokenKind} {kinds : List TokenKind} {state : State} (ahead : Ahead (kind :: kinds) state) :
    ∃ rest, state.rest = state.peek :: rest ∧ state.peek.kind = kind ∧ state.peek.newlineBefore = false ∧
      Ahead kinds ⟨rest, state.peek.span.stop, state.recovered⟩ := by
  obtain ⟨spelled, calm, clean⟩ := ahead
  cases state with
  | mk tokens lastEnd recovered =>
      cases tokens with
      | nil => cases spelled
      | cons token rest =>
          simp only [List.map_cons, List.cons.injEq] at spelled
          refine ⟨rest, rfl, spelled.1, (calm token (List.mem_cons_self ..)).1, spelled.2, ?_, clean⟩
          exact fun other inside => calm other (List.mem_cons_of_mem token inside)

theorem ahead_peek {kinds : List TokenKind} {state : State} (ahead : Ahead kinds state) :
    state.peek.kind = leading kinds ∧ state.peek.newlineBefore = false := by
  cases kinds with
  | nil =>
      have empty : state.rest = [] := List.map_eq_nil_iff.mp ahead.spelled
      simp [State.peek, State.peekAt, empty, leading]
  | cons kind kinds =>
      obtain ⟨rest, -, same, sameLine, -⟩ := ahead_cons ahead
      exact ⟨same, sameLine⟩

theorem ahead_advance {kind : TokenKind} {kinds : List TokenKind} {state : State} (ahead : Ahead (kind :: kinds) state)
    (present : kind ≠ .endOfFile) : Ahead kinds state.advance := by
  obtain ⟨rest, tokens, same, -, behind⟩ := ahead_cons ahead
  rw [advance_rest state state.peek rest tokens (by rw [same]; exact present)]
  exact behind

section

variable {α β σ : Type} {levels need : Nat} {before middle after kinds : List TokenKind} {accepts : β → Prop}

theorem Parses.pure {accepts : α → Prop} {value : α} (fine : accepts value) :
    Parses levels 0 kinds kinds accepts (Pure.pure value : Parser α) :=
  ⟨fun _ state ahead => ⟨value, state, rfl, ahead, fine⟩, fun few => absurd few (Nat.not_lt_zero levels)⟩

theorem Parses.weaken {holds accepts : α → Prop} {parser : Parser α} (parses : Parses levels need before after holds parser)
    (fine : ∀ value, holds value → accepts value) : Parses levels need before after accepts parser := by
  refine ⟨fun enough state ahead => ?_, parses.tooFew⟩
  obtain ⟨value, final, result, onward, held⟩ := parses.enough enough state ahead
  exact ⟨value, final, result, onward, fine value held⟩

theorem Parses.bind {a b : Nat} {holds : α → Prop} {first : Parser α} {second : α → Parser β}
    (one : Parses levels a before middle holds first)
    (two : ∀ value, holds value → Parses levels b middle after accepts (second value)) :
    Parses levels (max a b) before after accepts (first >>= second) := by
  constructor
  · intro enough state ahead
    obtain ⟨value, between, result, onward, held⟩ := one.enough (by omega) state ahead
    rw [bind_run_ok result]
    exact (two value held).enough (by omega) between onward
  · intro few state ahead
    by_cases enough : a ≤ levels
    · obtain ⟨value, between, result, onward, held⟩ := one.enough enough state ahead
      rw [bind_run_ok result]
      exact (two value held).tooFew (by omega) between onward
    · obtain ⟨span, final, result⟩ := one.tooFew (by omega) state ahead
      exact ⟨span, final, bind_run_error result⟩

theorem Parses.step {holds : α → Prop} {first : Parser α} {second : α → Parser β}
    (one : Parses levels 0 before middle holds first)
    (two : ∀ value, holds value → Parses levels need middle after accepts (second value)) :
    Parses levels need before after accepts (first >>= second) := by
  have both := Parses.bind one two
  rwa [Nat.zero_max] at both

theorem Parses.finish {holds : α → Prop} {first : Parser α} {second : α → Parser β}
    (one : Parses levels need before middle holds first)
    (two : ∀ value, holds value → Parses levels 0 middle after accepts (second value)) :
    Parses levels need before after accepts (first >>= second) := by
  have both := Parses.bind one two
  rwa [Nat.max_zero] at both

theorem Parses.look {view : Parser α} {next : α → Parser β} (looks : ∀ state, ∃ value, view .top state = .ok value state)
    (parses : ∀ value, Parses levels need before after accepts (next value)) :
    Parses levels need before after accepts (view >>= next) := by
  constructor
  · intro enough state ahead
    obtain ⟨value, result⟩ := looks state
    rw [bind_run_ok result]
    exact (parses value).enough enough state ahead
  · intro few state ahead
    obtain ⟨value, result⟩ := looks state
    rw [bind_run_ok result]
    exact (parses value).tooFew few state ahead

theorem Parses.peek {next : Token → Parser β}
    (parses : ∀ token, token.kind = leading kinds → token.newlineBefore = false →
      Parses levels need kinds after accepts (next token)) :
    Parses levels need kinds after accepts (ScriptSuite.Script.peek >>= next) := by
  constructor
  · intro enough state ahead
    obtain ⟨same, sameLine⟩ := ahead_peek ahead
    exact (parses state.peek same sameLine).enough enough state ahead
  · intro few state ahead
    obtain ⟨same, sameLine⟩ := ahead_peek ahead
    exact (parses state.peek same sameLine).tooFew few state ahead

theorem Parses.advance {kind : TokenKind} {next : Token → Parser β} (present : kind ≠ .endOfFile)
    (parses : ∀ token, Parses levels need kinds after accepts (next token)) :
    Parses levels need (kind :: kinds) after accepts (ScriptSuite.Script.advance >>= next) :=
  ⟨fun enough state ahead => (parses state.peek).enough enough state.advance (ahead_advance ahead present),
    fun few state ahead => (parses state.peek).tooFew few state.advance (ahead_advance ahead present)⟩

theorem check_step {kind : TokenKind} :
    Parses levels 0 kinds kinds (· = (leading kinds == kind)) (check kind) := by
  refine ⟨fun _ state ahead => ⟨_, state, check_run kind .top state, ahead, ?_⟩,
    fun few => absurd few (Nat.not_lt_zero levels)⟩
  rw [(ahead_peek ahead).1]

theorem Parses.check {kind : TokenKind} {next : Bool → Parser β}
    (parses : Parses levels need kinds after accepts (next (leading kinds == kind))) :
    Parses levels need kinds after accepts (check kind >>= next) :=
  .step check_step fun _ same => same ▸ parses

theorem Parses.checked {kind : TokenKind} {next : Bool → Parser β}
    (parses : Parses levels need (kind :: kinds) after accepts (next true)) :
    Parses levels need (kind :: kinds) after accepts (ScriptSuite.Script.check kind >>= next) := by
  refine .check ?_
  have same : (leading (kind :: kinds) == kind) = true := beq_self_eq_true kind
  rw [same]
  exact parses

theorem Parses.unchecked {kind : TokenKind} {next : Bool → Parser β} (other : leading kinds ≠ kind)
    (parses : Parses levels need kinds after accepts (next false)) :
    Parses levels need kinds after accepts (ScriptSuite.Script.check kind >>= next) := by
  refine .check ?_
  rw [beq_eq_false_iff_ne.mpr other]
  exact parses

theorem accept_step {kind : TokenKind} (present : kind ≠ .endOfFile) :
    Parses levels 0 (kind :: kinds) kinds (· = true) (accept kind) := by
  refine ⟨fun _ state ahead => ⟨true, state.advance, ?_, ahead_advance ahead present, rfl⟩,
    fun few => absurd few (Nat.not_lt_zero levels)⟩
  have same : state.peek.kind = kind := (ahead_peek ahead).1
  rw [accept_run, if_pos same]

theorem refuse_step {kind : TokenKind} (other : leading kinds ≠ kind) :
    Parses levels 0 kinds kinds (· = false) (accept kind) := by
  refine ⟨fun _ state ahead => ⟨false, state, ?_, ahead, rfl⟩, fun few => absurd few (Nat.not_lt_zero levels)⟩
  rw [accept_run, if_neg (by rw [(ahead_peek ahead).1]; exact other)]

theorem expect_step {kind : TokenKind} {wanted : Expectation} (present : kind ≠ .endOfFile) :
    Parses levels 0 (kind :: kinds) kinds (fun _ => True) (expect kind wanted) := by
  refine ⟨fun _ state ahead => ⟨state.peek, state.advance, ?_, ahead_advance ahead present, trivial⟩,
    fun few => absurd few (Nat.not_lt_zero levels)⟩
  have same : state.peek.kind = kind := (ahead_peek ahead).1
  rw [expect_run, if_pos same]

theorem Parses.accept {kind : TokenKind} {next : Bool → Parser β} (present : kind ≠ .endOfFile)
    (parses : Parses levels need kinds after accepts (next true)) :
    Parses levels need (kind :: kinds) after accepts (ScriptSuite.Script.accept kind >>= next) :=
  .step (accept_step present) fun _ same => same ▸ parses

theorem Parses.refuse {kind : TokenKind} {next : Bool → Parser β} (other : leading kinds ≠ kind)
    (parses : Parses levels need kinds after accepts (next false)) :
    Parses levels need kinds after accepts (ScriptSuite.Script.accept kind >>= next) :=
  .step (refuse_step other) fun _ same => same ▸ parses

theorem Parses.expect {kind : TokenKind} {wanted : Expectation} {next : Token → Parser β} (present : kind ≠ .endOfFile)
    (parses : ∀ token, Parses levels need kinds after accepts (next token)) :
    Parses levels need (kind :: kinds) after accepts (ScriptSuite.Script.expect kind wanted >>= next) :=
  .step (expect_step present) fun token _ => parses token

theorem Parses.startOffset {next : Nat → Parser β} (parses : ∀ start, Parses levels need before after accepts (next start)) :
    Parses levels need before after accepts (ScriptSuite.Script.startOffset >>= next) :=
  .look (fun state => ⟨state.peek.span.start, rfl⟩) parses

theorem spanned_from_step {start : Nat} {node : α} :
    Parses levels 0 kinds kinds (fun value : Spanned α => value.node = node) (spannedFrom start node) :=
  ⟨fun _ state ahead => ⟨⟨node, ⟨start, max state.lastEnd start⟩⟩, state, rfl, ahead, rfl⟩,
    fun few => absurd few (Nat.not_lt_zero levels)⟩

theorem Parses.deepen {parser : Parser α} {accepts : α → Prop} (parses : Parses levels need before after accepts parser) :
    Parses (levels + 1) (need + 1) before after accepts parser :=
  ⟨fun enough => parses.enough (by omega), fun few => parses.tooFew (by omega)⟩

theorem too_deep_step {accepts : α → Prop} : Parses 0 (need + 1) before after accepts (tooDeep : Parser α) :=
  ⟨fun enough => absurd enough (Nat.not_succ_le_zero need), fun _ state _ => ⟨state.peek.span, state, rfl⟩⟩

theorem Repeats.done {accepts : α → Prop} {round : σ → Parser (Round σ α)} {start : σ}
    (last : Parses levels need before after (fun step => ∃ value, step = .done value ∧ accepts value) (round start)) :
    Repeats levels need before after accepts round start := by
  intro fuel _
  cases fuel with
  | nil =>
      refine .finish last fun step done => ?_
      obtain ⟨value, rfl, fine⟩ := done
      exact .pure fine
  | cons token fuel =>
      refine .finish last fun step done => ?_
      obtain ⟨value, rfl, fine⟩ := done
      exact .pure fine

theorem Repeats.again {a b : Nat} {accepts : α → Prop} {holds : σ → Prop} {round : σ → Parser (Round σ α)} {start : σ}
    (shorter : middle.length < before.length)
    (first : Parses levels a before middle (fun step => ∃ next, step = .again next ∧ holds next) (round start))
    (more : ∀ next, holds next → Repeats levels b middle after accepts round next) :
    Repeats levels (max a b) before after accepts round start := by
  intro fuel enough
  cases fuel with
  | nil => exact absurd (Nat.lt_of_lt_of_le shorter enough) (Nat.not_lt_zero _)
  | cons token fuel =>
      refine .bind first fun step again => ?_
      obtain ⟨next, rfl, held⟩ := again
      exact more next held fuel (by simp only [List.length_cons] at enough; omega)

theorem Repeats.weaken {holds accepts : α → Prop} {round : σ → Parser (Round σ α)} {start : σ}
    (repeats : Repeats levels need before after holds round start) (fine : ∀ value, holds value → accepts value) :
    Repeats levels need before after accepts round start :=
  fun fuel enough => (repeats fuel enough).weaken fine

theorem Repeats.parses {accepts : α → Prop} {round : σ → Parser (Round σ α)} {start : σ}
    (repeats : Repeats levels need before after accepts round start) :
    Parses levels need before after accepts (repeatRounds round start) := by
  constructor
  · intro enough state ahead
    have fuel : before.length ≤ state.rest.length :=
      Nat.le_of_eq (by rw [← ahead.spelled, List.length_map])
    exact (repeats state.rest fuel).enough enough state ahead
  · intro few state ahead
    have fuel : before.length ≤ state.rest.length :=
      Nat.le_of_eq (by rw [← ahead.spelled, List.length_map])
    exact (repeats state.rest fuel).tooFew few state ahead

end

section

variable {need : Nat} {before after : List TokenKind} {accepts : Spanned Expr → Prop}

theorem assignment_deeper
    (parses : ∀ levels, Parses levels need before after accepts (assignmentBody (Grammar.ofLevels levels))) (levels : Nat) :
    Parses levels (need + 1) before after accepts (Grammar.ofLevels levels).assignment := by
  cases levels with
  | zero => exact too_deep_step
  | succ levels => exact (parses levels).deepen

theorem unary_deeper
    (parses : ∀ levels, Parses levels need before after accepts (unaryBody (Grammar.ofLevels levels))) (levels : Nat) :
    Parses levels (need + 1) before after accepts (Grammar.ofLevels levels).unary := by
  cases levels with
  | zero => exact too_deep_step
  | succ levels => exact (parses levels).deepen

theorem binary_deeper (precedence : Nat)
    (parses : ∀ levels, Parses levels need before after accepts (binaryFrom (Grammar.ofLevels levels) precedence))
    (levels : Nat) : Parses levels (need + 1) before after accepts ((Grammar.ofLevels levels).binary precedence) := by
  cases levels with
  | zero => exact too_deep_step
  | succ levels => exact (parses levels).deepen

end

end ScriptSuite.Script
