import ScriptSuite.Proofs.Script.Brackets

set_option autoImplicit false

namespace ScriptSuite.Script

def Outcome.state {α : Type} : Outcome α → State
  | .ok _ state => state
  | .error _ state => state

def Consumes (before after : List Token) : Prop :=
  ∃ read, before = read ++ after ∧ ∀ token ∈ read, token.kind ≠ .endOfFile

-- `count` bounds the closing braces that were read without the opening brace they belong to.
structure Passes (count : Nat) (before after : State) : Prop where
  consumed : Consumes before.rest after.rest
  recorded : before.recovered <+: after.recovered
  owed : bracketsFit [] before.rest → owedBraces before.rest ≤ owedBraces after.rest + count

def Closes {α : Type} (count : Nat) (parser : Parser α) : Prop :=
  ∀ context state, Passes count state (parser context state).state

def ClosesAt {α : Type} (token : Token) (count : Nat) (parser : Parser α) : Prop :=
  ∀ context state, state.peek = token → Passes count state (parser context state).state

-- Rounds that ask for another one close nothing; the last one may close `count` braces.
def RoundCloses {σ α : Type} (count : Nat) (round : Parser (Round σ α)) : Prop :=
  ∀ context state,
    match round context state with
    | .ok (.again _) after => Passes 0 state after
    | other => Passes count state other.state

def Shortens {α : Type} (parser : Parser α) : Prop :=
  ∀ context state value after, parser context state = .ok value after → after.rest.length < state.rest.length

def ShortensAt {α : Type} (token : Token) (parser : Parser α) : Prop :=
  ∀ context state value after, state.peek = token → parser context state = .ok value after →
    after.rest.length < state.rest.length

structure Reads {α : Type} (count : Nat) (parser : Parser α) : Prop where
  closes : Closes count parser
  shortens : Shortens parser

structure ReadsAt {α : Type} (token : Token) (count : Nat) (parser : Parser α) : Prop where
  closes : ClosesAt token count parser
  shortens : ShortensAt token parser

def Looks {α : Type} (parser : Parser α) : Prop :=
  ∀ context state, ∃ value, parser context state = .ok value state

theorem consumes_refl (tokens : List Token) : Consumes tokens tokens :=
  ⟨[], rfl, by simp⟩

theorem consumes_token (token : Token) (rest : List Token) (present : token.kind ≠ .endOfFile) :
    Consumes (token :: rest) rest :=
  ⟨[token], rfl, by simpa using present⟩

theorem consumes_trans {first second third : List Token} (one : Consumes first second) (two : Consumes second third) :
    Consumes first third := by
  obtain ⟨early, rfl, earlyPresent⟩ := one
  obtain ⟨late, rfl, latePresent⟩ := two
  refine ⟨early ++ late, (List.append_assoc _ _ _).symm, ?_⟩
  intro token inside
  exact (List.mem_append.mp inside).elim (earlyPresent token) (latePresent token)

theorem Consumes.suffix {before after : List Token} (consumed : Consumes before after) : after <:+ before := by
  obtain ⟨read, rfl, _⟩ := consumed
  exact List.suffix_append _ _

theorem Passes.suffix {count : Nat} {before after : State} (passes : Passes count before after) :
    after.rest <:+ before.rest :=
  passes.consumed.suffix

theorem passes_refl (count : Nat) (state : State) : Passes count state state :=
  ⟨consumes_refl _, List.prefix_rfl, fun _ => Nat.le_add_right _ _⟩

theorem passes_trans {a b : Nat} {first second third : State} (one : Passes a first second)
    (two : Passes b second third) : Passes (a + b) first third := by
  refine ⟨consumes_trans one.consumed two.consumed, one.recorded.trans two.recorded, ?_⟩
  intro fit
  have start := one.owed fit
  have finish := two.owed (brackets_fit_suffix _ _ one.suffix fit)
  omega

theorem passes_mono {a b : Nat} {before after : State} (passes : Passes a before after) (bound : a ≤ b) :
    Passes b before after :=
  ⟨passes.consumed, passes.recorded, fun fit => Nat.le_trans (passes.owed fit) (by omega)⟩

theorem passes_length {count : Nat} {before after : State} (passes : Passes count before after) :
    after.rest.length ≤ before.rest.length :=
  passes.suffix.length_le

theorem peek_cons (token : Token) (rest : List Token) (lastEnd : Nat) (recovered : List SyntaxError) :
    State.peek ⟨token :: rest, lastEnd, recovered⟩ = token := rfl

theorem peek_present (state : State) (present : state.peek.kind ≠ .endOfFile) :
    ∃ rest, state.rest = state.peek :: rest := by
  cases state with
  | mk tokens lastEnd recovered =>
      cases tokens with
      | nil => exact absurd rfl present
      | cons token rest => exact ⟨rest, rfl⟩

theorem advance_rest (state : State) (token : Token) (rest : List Token) (tokens : state.rest = token :: rest)
    (present : token.kind ≠ .endOfFile) : state.advance = ⟨rest, token.span.stop, state.recovered⟩ := by
  simp [State.advance, tokens, present]

theorem advance_stays (state : State) (absent : state.peek.kind = .endOfFile) : state.advance = state := by
  cases state with
  | mk tokens lastEnd recovered =>
      cases tokens with
      | nil => rfl
      | cons token rest =>
          have atEnd : token.kind = .endOfFile := absent
          simp [State.advance, atEnd]

theorem advance_passes (state : State) (notClosing : state.peek.kind ≠ .punct .rBrace) :
    Passes 0 state state.advance := by
  by_cases absent : state.peek.kind = .endOfFile
  · rw [advance_stays state absent]
    exact passes_refl 0 state
  · obtain ⟨rest, tokens⟩ := peek_present state absent
    rw [advance_rest state state.peek rest tokens absent]
    refine ⟨?_, List.prefix_rfl, ?_⟩
    · rw [tokens]
      exact consumes_token state.peek rest absent
    · intro _
      rw [tokens]
      exact owed_tail state.peek rest notClosing

theorem advance_closes_one (state : State) : Passes 1 state state.advance := by
  by_cases closing : state.peek.kind = .punct .rBrace
  · have present : state.peek.kind ≠ .endOfFile := by simp [closing]
    obtain ⟨rest, tokens⟩ := peek_present state present
    rw [advance_rest state state.peek rest tokens present]
    refine ⟨?_, List.prefix_rfl, ?_⟩
    · rw [tokens]
      exact consumes_token state.peek rest present
    · intro _
      rw [tokens]
      exact Nat.le_of_eq (owed_close state.peek rest closing)
  · exact passes_mono (advance_passes state closing) (Nat.zero_le 1)

theorem advance_shortens (state : State) (present : state.peek.kind ≠ .endOfFile) :
    state.advance.rest.length < state.rest.length := by
  obtain ⟨rest, tokens⟩ := peek_present state present
  rw [advance_rest state state.peek rest tokens present, tokens]
  simp

theorem advance_peek (state : State) (present : state.peek.kind ≠ .endOfFile)
    (next : (state.peekAt 1).kind ≠ .endOfFile) : state.advance.peek = state.peekAt 1 := by
  obtain ⟨rest, tokens⟩ := peek_present state present
  rw [advance_rest state state.peek rest tokens present]
  cases rest with
  | nil =>
      have missing : (state.peekAt 1).kind = .endOfFile := by simp [State.peekAt, tokens]
      exact absurd missing next
  | cons second rest =>
      have found : state.peekAt 1 = second := by simp [State.peekAt, tokens]
      rw [found, peek_cons]

theorem passes_open {state after : State} (opening : state.peek.kind = .punct .lBrace)
    (inner : Passes 1 state.advance after) : Passes 0 state after := by
  have present : state.peek.kind ≠ .endOfFile := by simp [opening]
  have entered := advance_passes state (by simp [opening])
  refine ⟨consumes_trans entered.consumed inner.consumed, entered.recorded.trans inner.recorded, ?_⟩
  intro fit
  have behind := inner.owed (brackets_fit_suffix _ _ entered.suffix fit)
  obtain ⟨rest, tokens⟩ := peek_present state present
  rw [advance_rest state state.peek rest tokens present] at behind
  rw [tokens, owed_open state.peek rest opening]
  dsimp only at behind
  omega

variable {α β σ : Type}

theorem bind_run (first : Parser α) (second : α → Parser β) (context : Context) (state : State) :
    (first >>= second) context state =
      match first context state with
      | .ok value after => second value context after
      | .error error after => .error error after := rfl

theorem bind_ok {first : Parser α} {second : α → Parser β} {context : Context} {state : State} {value : β}
    {after : State} (success : (first >>= second) context state = .ok value after) :
    ∃ middle between, first context state = .ok middle between ∧ second middle context between = .ok value after := by
  rw [bind_run] at success
  cases result : first context state with
  | error error stuck =>
      rw [result] at success
      cases success
  | ok middle between =>
      rw [result] at success
      exact ⟨middle, between, rfl, success⟩

theorem closes_length {count : Nat} {parser : Parser α} (closes : Closes count parser) {context : Context}
    {state : State} {value : α} {after : State} (success : parser context state = .ok value after) :
    after.rest.length ≤ state.rest.length := by
  have passed := closes context state
  rw [success] at passed
  exact passes_length passed

theorem Closes.at {count : Nat} {parser : Parser α} (closes : Closes count parser) (token : Token) :
    ClosesAt token count parser :=
  fun context state _ => closes context state

theorem Closes.pure (count : Nat) (value : α) : Closes count (Pure.pure value : Parser α) :=
  fun _ state => passes_refl count state

theorem Closes.fail (count : Nat) (error : SyntaxError) : Closes count (Parser.fail error : Parser α) :=
  fun _ state => passes_refl count state

theorem closes_bind_add {a b : Nat} {first : Parser α} {second : α → Parser β} (one : Closes a first)
    (two : ∀ value, Closes b (second value)) : Closes (a + b) (first >>= second) := by
  intro context state
  have passed := one context state
  rw [bind_run]
  cases result : first context state with
  | ok value after =>
      rw [result] at passed
      exact passes_trans passed (two value context after)
  | error error after =>
      rw [result] at passed
      exact passes_mono passed (Nat.le_add_right a b)

theorem Closes.bind {count : Nat} {first : Parser α} {second : α → Parser β} (one : Closes 0 first)
    (two : ∀ value, Closes count (second value)) : Closes count (first >>= second) := by
  have both := closes_bind_add one two
  rwa [Nat.zero_add] at both

theorem Closes.andThen {count : Nat} {first : Parser α} {second : α → Parser β} (one : Closes count first)
    (two : ∀ value, Closes 0 (second value)) : Closes count (first >>= second) :=
  closes_bind_add one two

theorem Closes.within {count : Nat} {change : Context → Context} {parser : Parser α} (closes : Closes count parser) :
    Closes count (Parser.within change parser) :=
  fun context state => closes (change context) state

theorem Closes.allowingIn {count : Nat} {parser : Parser α} (closes : Closes count parser) :
    Closes count (allowingIn parser) :=
  closes.within

theorem Closes.forbiddingIn {count : Nat} {parser : Parser α} (closes : Closes count parser) :
    Closes count (forbiddingIn parser) :=
  closes.within

theorem Closes.inFunction {count : Nat} {isAsync isGenerator : Bool} {parser : Parser α} (closes : Closes count parser) :
    Closes count (inFunction isAsync isGenerator parser) :=
  closes.within

theorem Closes.ite {count : Nat} {condition : Prop} [Decidable condition] {yes no : Parser α}
    (one : Closes count yes) (two : Closes count no) : Closes count (if condition then yes else no) := by
  split
  · exact one
  · exact two

theorem Closes.peek {count : Nat} {next : Token → Parser α} (closes : ∀ token, ClosesAt token count (next token)) :
    Closes count (peek >>= next) :=
  fun context state => closes state.peek context state rfl

theorem ClosesAt.ite {count : Nat} {token : Token} {condition : Prop} [Decidable condition] {yes no : Parser α}
    (one : ClosesAt token count yes) (two : ClosesAt token count no) :
    ClosesAt token count (if condition then yes else no) := by
  split
  · exact one
  · exact two

theorem ClosesAt.bind {count : Nat} {token : Token} {first : Parser α} {second : α → Parser β}
    (one : ClosesAt token 0 first) (two : ∀ value, Closes count (second value)) :
    ClosesAt token count (first >>= second) := by
  intro context state same
  have passed := one context state same
  rw [bind_run]
  cases result : first context state with
  | ok value after =>
      rw [result] at passed
      have both := passes_trans passed (two value context after)
      rwa [Nat.zero_add] at both
  | error error after =>
      rw [result] at passed
      exact passes_mono passed (Nat.zero_le count)

theorem ClosesAt.look {count : Nat} {token : Token} {view : Parser α} {next : α → Parser β} (looks : Looks view)
    (closes : ∀ value, ClosesAt token count (next value)) : ClosesAt token count (view >>= next) := by
  intro context state same
  obtain ⟨value, result⟩ := looks context state
  rw [bind_run, result]
  exact closes value context state same

theorem Closes.check {count : Nat} {kind : TokenKind} {next : Bool → Parser α}
    (closes : ∀ token : Token, ClosesAt token count (next (token.kind == kind))) : Closes count (check kind >>= next) :=
  fun context state => closes state.peek context state rfl

theorem ClosesAt.advance {count : Nat} {token : Token} {next : Token → Parser α}
    (notClosing : token.kind ≠ .punct .rBrace) (closes : ∀ read, Closes count (next read)) :
    ClosesAt token count (advance >>= next) := by
  intro context state same
  have read := advance_passes state (by rw [same]; exact notClosing)
  have both := passes_trans read (closes state.peek context state.advance)
  rwa [Nat.zero_add] at both

theorem Reads.first {count : Nat} {first : Parser α} {second : α → Parser β} (one : Reads 0 first)
    (two : ∀ value, Closes count (second value)) : Reads count (first >>= second) := by
  refine ⟨.bind one.closes two, ?_⟩
  intro context state value after success
  obtain ⟨middle, between, read, finished⟩ := bind_ok success
  exact Nat.lt_of_le_of_lt (closes_length (two middle) finished) (one.shortens context state middle between read)

theorem Reads.later {count : Nat} {first : Parser α} {second : α → Parser β} (one : Closes 0 first)
    (two : ∀ value, Reads count (second value)) : Reads count (first >>= second) := by
  refine ⟨.bind one fun value => (two value).closes, ?_⟩
  intro context state value after success
  obtain ⟨middle, between, read, finished⟩ := bind_ok success
  exact Nat.lt_of_lt_of_le ((two middle).shortens context between value after finished) (closes_length one read)

theorem Reads.at {count : Nat} {parser : Parser α} (reads : Reads count parser) (token : Token) :
    ReadsAt token count parser :=
  ⟨reads.closes.at token, fun context state value after _ => reads.shortens context state value after⟩

theorem Reads.fail (count : Nat) (error : SyntaxError) : Reads count (Parser.fail error : Parser α) := by
  refine ⟨.fail count error, ?_⟩
  intro context state value after success
  cases success

theorem Reads.ite {count : Nat} {condition : Prop} [Decidable condition] {yes no : Parser α}
    (one : Reads count yes) (two : Reads count no) : Reads count (if condition then yes else no) := by
  split
  · exact one
  · exact two

theorem Reads.peek {count : Nat} {next : Token → Parser α} (reads : ∀ token, ReadsAt token count (next token)) :
    Reads count (peek >>= next) :=
  ⟨.peek fun token => (reads token).closes,
    fun context state value after => (reads state.peek).shortens context state value after rfl⟩

theorem Reads.check {count : Nat} {kind : TokenKind} {next : Bool → Parser α}
    (reads : ∀ token : Token, ReadsAt token count (next (token.kind == kind))) : Reads count (check kind >>= next) :=
  ⟨.check fun token => (reads token).closes,
    fun context state value after => (reads state.peek).shortens context state value after rfl⟩

theorem ReadsAt.ite {count : Nat} {token : Token} {condition : Prop} [Decidable condition] {yes no : Parser α}
    (one : ReadsAt token count yes) (two : ReadsAt token count no) :
    ReadsAt token count (if condition then yes else no) := by
  split
  · exact one
  · exact two

theorem ReadsAt.look {count : Nat} {token : Token} {view : Parser α} {next : α → Parser β} (looks : Looks view)
    (reads : ∀ value, ReadsAt token count (next value)) : ReadsAt token count (view >>= next) := by
  refine ⟨.look looks fun value => (reads value).closes, ?_⟩
  intro context state value after same success
  obtain ⟨seen, result⟩ := looks context state
  rw [bind_run, result] at success
  exact (reads seen).shortens context state value after same success

theorem ReadsAt.bind {count : Nat} {token : Token} {first : Parser α} {second : α → Parser β}
    (one : ReadsAt token 0 first) (two : ∀ value, Closes count (second value)) :
    ReadsAt token count (first >>= second) := by
  refine ⟨.bind one.closes two, ?_⟩
  intro context state value after same success
  obtain ⟨middle, between, read, finished⟩ := bind_ok success
  exact Nat.lt_of_le_of_lt (closes_length (two middle) finished) (one.shortens context state middle between same read)

theorem ReadsAt.advance {count : Nat} {token : Token} {next : Token → Parser α}
    (plain : token.kind ≠ .punct .rBrace ∧ token.kind ≠ .endOfFile) (closes : ∀ read, Closes count (next read)) :
    ReadsAt token count (advance >>= next) := by
  refine ⟨.advance plain.1 closes, ?_⟩
  intro context state value after same success
  have read := advance_shortens state (by rw [same]; exact plain.2)
  have finished : next state.peek context state.advance = .ok value after := success
  exact Nat.lt_of_le_of_lt (closes_length (closes state.peek) finished) read

theorem Reads.test {count : Nat} {kind : TokenKind} {test : Parser Bool} {next : Bool → Parser α} (looks : Looks test)
    (only : ∀ context state, test context state = .ok true state → state.peek.kind = kind)
    (yes : ∀ token : Token, token.kind = kind → ReadsAt token count (next true)) (no : Reads count (next false)) :
    Reads count (test >>= next) := by
  constructor
  · intro context state
    obtain ⟨value, result⟩ := looks context state
    rw [bind_run, result]
    cases value with
    | true => exact (yes state.peek (only context state result)).closes context state rfl
    | false => exact no.closes context state
  · intro context state value after success
    obtain ⟨seen, result⟩ := looks context state
    rw [bind_run, result] at success
    cases seen with
    | true => exact (yes state.peek (only context state result)).shortens context state value after rfl success
    | false => exact no.shortens context state value after success

theorem looks_peek_at (distance : Nat) : Looks (peekAt distance) := fun _ state => ⟨state.peekAt distance, rfl⟩

theorem looks_check (kind : TokenKind) : Looks (check kind) := fun _ state => ⟨state.peek.kind == kind, rfl⟩

theorem looks_span_from (start : Nat) : Looks (spanFrom start) := fun _ state => ⟨⟨start, max state.lastEnd start⟩, rfl⟩

theorem looks_at_end : Looks atEnd := fun _ state => ⟨state.atEnd, rfl⟩

theorem looks_upcoming : Looks upcoming := fun _ state => ⟨state.rest, rfl⟩

theorem looks_context : Looks Parser.context := fun context _ => ⟨context, rfl⟩

theorem Looks.pure (value : α) : Looks (Pure.pure value : Parser α) := fun _ _ => ⟨value, rfl⟩

theorem Looks.bind {first : Parser α} {second : α → Parser β} (one : Looks first) (two : ∀ value, Looks (second value)) :
    Looks (first >>= second) := by
  intro context state
  obtain ⟨value, result⟩ := one context state
  obtain ⟨last, final⟩ := two value context state
  refine ⟨last, ?_⟩
  rw [bind_run, result]
  exact final

theorem Looks.closes {parser : Parser α} (looks : Looks parser) (count : Nat) : Closes count parser := by
  intro context state
  obtain ⟨value, result⟩ := looks context state
  rw [result]
  exact passes_refl count state

theorem closes_spanned_from (start : Nat) (node : α) : Closes 0 (spannedFrom start node) :=
  .bind ((looks_span_from start).closes 0) fun _ => .pure 0 _

theorem closes_start_offset : Closes 0 startOffset :=
  .bind ((looks_peek_at 0).closes 0) fun _ => .pure 0 _

theorem closes_unexpected (wanted : Expectation) : Closes 0 (unexpected wanted : Parser α) :=
  .bind ((looks_peek_at 0).closes 0) fun _ => .fail 0 _

theorem reads_unexpected (wanted : Expectation) : Reads 0 (unexpected wanted : Parser α) :=
  .later ((looks_peek_at 0).closes 0) fun _ => .fail 0 _

theorem closes_check (kind : TokenKind) : Closes 0 (check kind) :=
  (looks_check kind).closes 0

theorem check_run (kind : TokenKind) (context : Context) (state : State) :
    check kind context state = .ok (state.peek.kind == kind) state := rfl

theorem accept_run (kind : TokenKind) (context : Context) (state : State) :
    accept kind context state = if state.peek.kind = kind then .ok true state.advance else .ok false state := by
  unfold accept
  rw [bind_run, check_run]
  by_cases same : state.peek.kind = kind
  · rw [if_pos same, beq_iff_eq.mpr same]
    rfl
  · rw [if_neg same, beq_eq_false_iff_ne.mpr same]
    rfl

theorem expect_run (kind : TokenKind) (wanted : Expectation) (context : Context) (state : State) :
    expect kind wanted context state =
      if state.peek.kind = kind then .ok state.peek state.advance
      else .error ⟨.unexpected wanted state.peek.kind, state.peek.span⟩ state := by
  unfold expect
  rw [bind_run, check_run]
  by_cases same : state.peek.kind = kind
  · rw [if_pos same, beq_iff_eq.mpr same]
    rfl
  · rw [if_neg same, beq_eq_false_iff_ne.mpr same]
    rfl

theorem closes_accept (kind : TokenKind) (notClosing : kind ≠ .punct .rBrace) : Closes 0 (accept kind) := by
  intro context state
  rw [accept_run]
  split
  · next same => exact advance_passes state (by rw [same]; exact notClosing)
  · exact passes_refl 0 state

theorem reads_expect (kind : TokenKind) (wanted : Expectation)
    (plain : kind ≠ .punct .rBrace ∧ kind ≠ .endOfFile) : Reads 0 (expect kind wanted) := by
  constructor
  · intro context state
    rw [expect_run]
    split
    · next same => exact advance_passes state (by rw [same]; exact plain.1)
    · exact passes_refl 0 state
  · intro context state value after success
    rw [expect_run] at success
    split at success
    · next same =>
        cases success
        exact advance_shortens state (by rw [same]; exact plain.2)
    · cases success

theorem reads_expect_keyword (word : Keyword) : Reads 0 (expectKeyword word) :=
  reads_expect _ _ (by simp)

theorem closes_accept_keyword (word : Keyword) : Closes 0 (acceptKeyword word) :=
  closes_accept _ (by simp)

theorem closes_accept_word (word : String) : Closes 0 (acceptWord word) :=
  closes_accept _ (by simp)

theorem closes_expect_word (word : String) : Closes 0 (expectWord word) :=
  (reads_expect _ _ (by simp)).closes

theorem closes_accept_punct (mark : Punct) (notClosing : mark ≠ .rBrace) : Closes 0 (acceptPunct mark) :=
  closes_accept _ (by simpa using notClosing)

theorem reads_expect_punct (mark : Punct) (notClosing : mark ≠ .rBrace) : Reads 0 (expectPunct mark) :=
  reads_expect _ _ (by simpa using notClosing)

theorem closes_expect_punct (mark : Punct) (notClosing : mark ≠ .rBrace) : Closes 0 (expectPunct mark) :=
  (reads_expect_punct mark notClosing).closes

theorem Reads.braced {next : Token → Parser α} (closes : ∀ token, Closes 1 (next token)) :
    Reads 0 (expectPunct .lBrace >>= next) := by
  constructor
  · intro context state
    rw [bind_run, expectPunct, expect_run]
    by_cases opening : state.peek.kind = .punct .lBrace
    · rw [if_pos opening]
      exact passes_open opening (closes state.peek context state.advance)
    · rw [if_neg opening]
      exact passes_refl 0 state
  · intro context state value after success
    obtain ⟨token, between, opened, finished⟩ := bind_ok success
    have read := (reads_expect_punct .lBrace (by decide)).shortens context state token between opened
    exact Nat.lt_of_le_of_lt (closes_length (closes token) finished) read

theorem Closes.accept_braced {next : Bool → Parser α} (inside : Closes 1 (next true)) (outside : Closes 0 (next false)) :
    Closes 0 (acceptPunct .lBrace >>= next) := by
  intro context state
  rw [bind_run, acceptPunct, accept_run]
  by_cases opening : state.peek.kind = .punct .lBrace
  · rw [if_pos opening]
    exact passes_open opening (inside context state.advance)
  · rw [if_neg opening]
    exact outside context state

theorem closes_expect_brace : Closes 1 (expectPunct .rBrace) := by
  intro context state
  rw [expectPunct, expect_run]
  split
  · exact advance_closes_one state
  · exact passes_refl 1 state

theorem Closes.close {next : Token → Parser α} (closes : ∀ token, Closes 0 (next token)) :
    Closes 1 (expectPunct .rBrace >>= next) :=
  closes_bind_add closes_expect_brace closes

theorem RoundCloses.plain {count : Nat} {parser : Parser (Round σ α)} (closes : Closes 0 parser) :
    RoundCloses count parser := by
  intro context state
  have passed := closes context state
  cases result : parser context state with
  | ok step after =>
      rw [result] at passed
      cases step with
      | again next => exact passed
      | done value => exact passes_mono passed (Nat.zero_le count)
  | error error after =>
      rw [result] at passed
      exact passes_mono passed (Nat.zero_le count)

theorem RoundCloses.close {next : Bool → Parser (Round σ α)} {result : α} (last : next true = Pure.pure (.done result))
    (closes : Closes 0 (next false)) : RoundCloses 1 (acceptPunct .rBrace >>= next) := by
  intro context state
  rw [bind_run, acceptPunct, accept_run]
  by_cases closing : state.peek.kind = .punct .rBrace
  · rw [if_pos closing]
    dsimp only
    rw [last]
    exact advance_closes_one state
  · rw [if_neg closing]
    exact RoundCloses.plain closes context state

theorem closes_repeat_from {count : Nat} {round : σ → Parser (Round σ α)} (closes : ∀ x, RoundCloses count (round x))
    (fuel : List Token) (start : σ) : Closes count (repeatFrom round fuel start) := by
  induction fuel generalizing start with
  | nil =>
      intro context state
      have passed := closes start context state
      rw [repeatFrom, bind_run]
      cases result : round start context state with
      | ok step after =>
          rw [result] at passed
          cases step with
          | again next =>
              have both := passes_trans passed (closes_unexpected (α := α) .expression context after)
              exact passes_mono both (Nat.zero_le count)
          | done value => exact passed
      | error error after =>
          rw [result] at passed
          exact passed
  | cons token fuel ih =>
      intro context state
      have passed := closes start context state
      rw [repeatFrom, bind_run]
      cases result : round start context state with
      | ok step after =>
          rw [result] at passed
          cases step with
          | again next =>
              have both := passes_trans passed (ih next context after)
              rwa [Nat.zero_add] at both
          | done value => exact passed
      | error error after =>
          rw [result] at passed
          exact passed

theorem closes_repeat_rounds {count : Nat} {round : σ → Parser (Round σ α)} (closes : ∀ x, RoundCloses count (round x))
    (start : σ) : Closes count (repeatRounds round start) :=
  .bind (looks_upcoming.closes 0) fun fuel => closes_repeat_from closes fuel start

theorem closes_comma_round (close : Punct) {item : Parser α} (closes : Closes 0 item) (items : List α) :
    Closes 0 (commaRound close item items) :=
  .bind (closes_check _) fun _ => .ite (.pure 0 _) (.bind closes fun _ =>
    .bind (closes_accept_punct .comma (by decide)) fun _ => .ite (.pure 0 _) (.pure 0 _))

theorem closes_comma_list (close : Punct) {item : Parser α} (closes : Closes 0 item) :
    Closes 0 (commaList close item) :=
  closes_repeat_rounds (fun items => .plain (closes_comma_round close closes items)) []

theorem closes_holed_round (close : Punct) {item : Parser α} (closes : Closes 0 item) (items : List (Option α)) :
    Closes 0 (holedRound close item items) :=
  .bind (closes_check _) fun _ => .ite (.pure 0 _)
    (.bind (closes_accept_punct .comma (by decide)) fun _ => .ite (.pure 0 _) (.bind closes fun _ =>
      .bind (closes_accept_punct .comma (by decide)) fun _ => .ite (.pure 0 _) (.pure 0 _)))

theorem closes_holed_list (close : Punct) {item : Parser α} (closes : Closes 0 item) :
    Closes 0 (holedList close item) :=
  closes_repeat_rounds (fun items => .plain (closes_holed_round close closes items)) []

end ScriptSuite.Script
