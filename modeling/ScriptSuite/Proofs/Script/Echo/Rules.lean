import ScriptSuite.Proofs.Script.Moving
import ScriptSuite.Proofs.Script.Progress
import ScriptSuite.Proofs.Script.Remainder
import ScriptSuite.Proofs.Script.Stepping

/-!
What a parser makes of its tokens where they stand elsewhere. Further on in a text it does the same, moved. And where it
succeeds before the end of a file without skipping an error, and what it leaves still ends in a semicolon, it does the
same before any other tokens: it has not looked at the end. One rule for each way of building a parser.
-/
set_option autoImplicit false

namespace ScriptSuite.Script

-- How a success may leave the tokens: all of them read or not, and so many brackets closed that it has not opened.
structure Ending where
  loose : Bool
  closes : Nat

def inside {α : Type} (_ : α) : Ending := ⟨false, 0⟩

def outer {α : Type} (_ : α) : Ending := ⟨true, 0⟩

def Ending.deeper (ending : Ending) : Ending :=
  ⟨ending.loose, ending.closes + 1⟩

def Ending.Leaves (ending : Ending) (tokens : List Token) : Prop :=
  EndsStatement tokens ∨ ending.loose = true ∧ tokens = []

-- What stands behind a finished statement does not go on with it.
def Calm (tokens : List Token) : Prop :=
  ∀ token ∈ tokens.head?, token.kind ≠ .keyword .elseWord

variable {α β σ : Type}

def ShiftsAt [Movable α] (distance : Nat) (token : Token) (parser moved : Parser α) : Prop :=
  ∀ context state, state.peek = token → AllAnchored state.rest →
    moved context (state.moved distance) = (parser context state).moved distance ∧
      AllAnchored (parser context state).state.rest

def BalancesAt (token : Token) (ending : α → Ending) (parser : Parser α) : Prop :=
  ∀ context state value after, state.peek = token → AllAnchored state.rest → parser context state = .ok value after →
    after.recovered = [] → state.recovered = [] ∧
      ∃ read, state.rest = read ++ after.rest ∧ closing (ending value).closes read = true

def ProlongsAt (token : Token) (ending : α → Ending) (parser : Parser α) : Prop :=
  ∀ context front last lastEnd value after tail, Remainder front last → front.head? = some token → Calm tail →
    parser context ⟨front ++ [last], lastEnd, []⟩ = .ok value after → after.recovered = [] →
    ∃ behind stop, behind <:+ front ∧ (ending value).Leaves behind ∧ after = ⟨behind ++ [last], stop, []⟩ ∧
      parser context ⟨front ++ tail, lastEnd, []⟩ = .ok value ⟨behind ++ tail, stop, []⟩

structure EchoesAt [Movable α] (distance : Nat) (token : Token) (ending : α → Ending) (parser moved : Parser α) : Prop where
  shifts : ShiftsAt distance token parser moved
  balances : BalancesAt token ending parser
  prolongs : ProlongsAt token ending parser

def Echoes [Movable α] (distance : Nat) (ending : α → Ending) (parser moved : Parser α) : Prop :=
  ∀ token, EchoesAt distance token ending parser moved

theorem peek_front {front : List Token} {token : Token} (head : front.head? = some token) (tail : List Token)
    (lastEnd : Nat) (recovered : List SyntaxError) : State.peek ⟨front ++ tail, lastEnd, recovered⟩ = token := by
  cases front with
  | nil => cases head
  | cons first front =>
      cases head
      rfl

theorem calm_peek {tail : List Token} (calm : Calm tail) (lastEnd : Nat) (recovered : List SyntaxError) :
    (State.peek ⟨[] ++ tail, lastEnd, recovered⟩).kind ≠ .keyword .elseWord := by
  cases tail with
  | nil => exact TokenKind.noConfusion
  | cons token rest => exact calm token rfl

def Stuck (parser : Parser α) : Prop :=
  ∀ context state, state.peek.kind = .endOfFile → ∀ value after, parser context state ≠ .ok value after

theorem stuck_of_reads {count : Nat} {parser : Parser α} (reads : Reads count parser) : Stuck parser := by
  intro context state ended value after success
  have shorter := reads.shortens context state value after success
  obtain ⟨read, tokens, present⟩ := reads.moves context state
  rw [success] at tokens
  dsimp only [Outcome.state] at tokens
  cases read with
  | nil =>
      rw [tokens, List.nil_append] at shorter
      exact Nat.lt_irrefl _ shorter
  | cons token read =>
      have first : state.peek = token := by simp [State.peek, State.peekAt, tokens]
      exact present token (List.mem_cons_self ..) (first ▸ ended)

theorem Stuck.bind {parser : Parser α} {next : α → Parser β} (stuck : Stuck parser) : Stuck (parser >>= next) := by
  intro context state ended value after success
  obtain ⟨middle, between, read, _⟩ := bind_ok success
  exact stuck context state ended middle between read

theorem Stuck.allowingIn {parser : Parser α} (stuck : Stuck parser) : Stuck (allowingIn parser) :=
  fun context => stuck { context with noIn := false }

theorem Stuck.fail (error : SyntaxError) : Stuck (Parser.fail error : Parser α) := by
  intro context state ended value after success
  cases success

theorem Stuck.check {kind : TokenKind} {next : Bool → Parser α} (other : kind ≠ .endOfFile) (stuck : Stuck (next false)) :
    Stuck (check kind >>= next) := by
  intro context state ended value after success
  rw [bind_run, check_run, ended, beq_eq_false_iff_ne.mpr other.symm] at success
  exact stuck context state ended value after success

theorem Stuck.accept {kind : TokenKind} {next : Bool → Parser α} (other : kind ≠ .endOfFile) (stuck : Stuck (next false)) :
    Stuck (accept kind >>= next) := by
  intro context state ended value after success
  rw [bind_run, accept_run, ended, if_neg other.symm] at success
  exact stuck context state ended value after success

theorem Stuck.atEnd {next : Bool → Parser α} (stuck : Stuck (next true)) : Stuck (atEnd >>= next) := by
  intro context state ended value after success
  have stops : Script.atEnd context state = .ok true state := congrArg (Outcome.ok · state) (beq_iff_eq.mpr ended)
  rw [bind_run, stops] at success
  exact stuck context state ended value after success

theorem stuck_unexpected (wanted : Expectation) : Stuck (unexpected wanted : Parser α) := by
  intro context state ended value after success
  cases success

section

variable [Movable α] [Movable β] {distance : Nat} {token : Token} {ending : α → Ending} {parser moved : Parser α}

theorem EchoesAt.any (echoes : Echoes distance ending parser moved) : EchoesAt distance token ending parser moved :=
  echoes token

theorem Echoes.shifts (echoes : Echoes distance ending parser moved) (context : Context) (state : State)
    (anchored : AllAnchored state.rest) :
    moved context (state.moved distance) = (parser context state).moved distance ∧
      AllAnchored (parser context state).state.rest :=
  (echoes state.peek).shifts context state rfl anchored

theorem Echoes.balances (echoes : Echoes distance ending parser moved) {context : Context} {state after : State}
    {value : α} (anchored : AllAnchored state.rest) (success : parser context state = .ok value after)
    (clean : after.recovered = []) :
    state.recovered = [] ∧ ∃ read, state.rest = read ++ after.rest ∧ closing (ending value).closes read = true :=
  (echoes state.peek).balances context state value after rfl anchored success clean

theorem EchoesAt.keeps (echoes : EchoesAt distance token ending parser moved) {context : Context} {state after : State}
    {value : α} (same : state.peek = token) (anchored : AllAnchored state.rest)
    (success : parser context state = .ok value after) : AllAnchored after.rest := by
  have kept := (echoes.shifts context state same anchored).2
  rwa [success] at kept

theorem Echoes.prolongs (echoes : Echoes distance ending parser moved) {context : Context} {front tail : List Token}
    {last : Token} {lastEnd : Nat} {value : α} {after : State} (remainder : Remainder front last) (calm : Calm tail)
    (success : parser context ⟨front ++ [last], lastEnd, []⟩ = .ok value after) (clean : after.recovered = []) :
    ∃ behind stop, behind <:+ front ∧ (ending value).Leaves behind ∧ after = ⟨behind ++ [last], stop, []⟩ ∧
      parser context ⟨front ++ tail, lastEnd, []⟩ = .ok value ⟨behind ++ tail, stop, []⟩ := by
  obtain ⟨token, rest, rfl⟩ := remainder.head
  exact (echoes token).prolongs context _ last lastEnd value after tail remainder rfl calm success clean

theorem Echoes.loosely (echoes : Echoes distance inside parser moved) : Echoes distance outer parser moved := by
  refine fun token => ⟨(echoes token).shifts, (echoes token).balances, ?_⟩
  intro context front last lastEnd value after tail remainder head calm success clean
  obtain ⟨behind, stop, suffix, leaves, same, other⟩ :=
    (echoes token).prolongs context front last lastEnd value after tail remainder head calm success clean
  exact ⟨behind, stop, suffix, .inl (leaves.resolve_right fun loose => Bool.noConfusion loose.1), same, other⟩

structure Joins (early : α → Ending) (late : α → β → Ending) (next : α → Parser β) (ending : β → Ending) : Prop where
  closes : ∀ first last, (ending last).closes = (early first).closes + (late first last).closes
  loose : ∀ first last, (late first last).loose = (ending last).loose
  stuck : ∀ first, (early first).loose = true → Stuck (next first)

theorem EchoesAt.bind_shifts {next movedNext : α → Parser β} {early : α → Ending} {late : α → β → Ending}
    (one : EchoesAt distance token early parser moved)
    (two : ∀ value, Echoes distance (late value) (next value) (movedNext (Movable.moved distance value))) :
    ShiftsAt distance token (parser >>= next) (moved >>= movedNext) := by
  intro context state same anchored
  obtain ⟨first, kept⟩ := one.shifts context state same anchored
  rw [bind_run, bind_run, first]
  cases result : parser context state with
  | ok value after =>
      rw [result] at kept
      exact (two value).shifts context after kept
  | error failure after =>
      rw [result] at kept
      exact ⟨rfl, kept⟩

theorem EchoesAt.bind_balances {next movedNext : α → Parser β} {early : α → Ending} {late : α → β → Ending}
    {ending : β → Ending} (one : EchoesAt distance token early parser moved)
    (two : ∀ value, Echoes distance (late value) (next value) (movedNext (Movable.moved distance value)))
    (closes : ∀ first last, (ending last).closes = (early first).closes + (late first last).closes) :
    BalancesAt token ending (parser >>= next) := by
  intro context state value after same anchored success clean
  obtain ⟨middle, between, read, finished⟩ := bind_ok success
  obtain ⟨untouched, late, lateTokens, lateClosed⟩ :=
    (two middle).balances (one.keeps same anchored read) finished clean
  obtain ⟨start, early, earlyTokens, earlyClosed⟩ :=
    one.balances context state middle between same anchored read untouched
  refine ⟨start, early ++ late, by rw [earlyTokens, lateTokens, List.append_assoc], ?_⟩
  rw [closes middle value]
  exact closing_append _ _ early late earlyClosed lateClosed

theorem EchoesAt.bind_first {next movedNext : α → Parser β} {early : α → Ending} {late : α → β → Ending}
    (one : EchoesAt distance token early parser moved)
    (two : ∀ value, Echoes distance (late value) (next value) (movedNext (Movable.moved distance value)))
    {context : Context} {front tail : List Token} {last : Token} {lastEnd : Nat} {value : β} {after : State}
    (remainder : Remainder front last) (head : front.head? = some token) (calm : Calm tail)
    (success : (parser >>= next) context ⟨front ++ [last], lastEnd, []⟩ = .ok value after) (clean : after.recovered = []) :
    ∃ middle behind stop, behind <:+ front ∧ (early middle).Leaves behind ∧
      next middle context ⟨behind ++ [last], stop, []⟩ = .ok value after ∧
      (parser >>= next) context ⟨front ++ tail, lastEnd, []⟩ = next middle context ⟨behind ++ tail, stop, []⟩ := by
  obtain ⟨middle, between, read, finished⟩ := bind_ok success
  have untouched := ((two middle).balances (one.keeps (peek_front head _ _ _) remainder.whole read) finished clean).1
  obtain ⟨behind, stop, suffix, leaves, rfl, other⟩ :=
    one.prolongs context front last lastEnd middle between tail remainder head calm read untouched
  exact ⟨middle, behind, stop, suffix, leaves, finished, by rw [bind_run, other]⟩

theorem EchoesAt.joined {next movedNext : α → Parser β} {early : α → Ending} {ending : β → Ending}
    (one : EchoesAt distance token early parser moved) (late : α → β → Ending)
    (two : ∀ value, Echoes distance (late value) (next value) (movedNext (Movable.moved distance value)))
    (joins : Joins early late next ending) :
    EchoesAt distance token ending (parser >>= next) (moved >>= movedNext) where
  shifts := one.bind_shifts two
  balances := one.bind_balances two joins.closes
  prolongs := by
    intro context front last lastEnd value after tail remainder head calm success clean
    obtain ⟨middle, behind, stop, suffix, leaves, finished, other⟩ := one.bind_first two remainder head calm success clean
    rw [other]
    rcases leaves with ends | ⟨loose, none⟩
    · obtain ⟨left, finish, further, leaves, same, onward⟩ :=
        (two middle).prolongs (remainder.behind suffix ends) calm finished clean
      unfold Ending.Leaves at leaves
      rw [joins.loose middle value] at leaves
      exact ⟨left, finish, further.trans suffix, leaves, same, onward⟩
    · subst none
      exact absurd finished (joins.stuck middle loose context ⟨[] ++ [last], stop, []⟩
        (by rw [List.nil_append, peek_cons, remainder.isEnd]) value after)

theorem Echoes.joined {next movedNext : α → Parser β} {early : α → Ending} {ending : β → Ending}
    (one : Echoes distance early parser moved) (late : α → β → Ending)
    (two : ∀ value, Echoes distance (late value) (next value) (movedNext (Movable.moved distance value)))
    (joins : Joins early late next ending) : Echoes distance ending (parser >>= next) (moved >>= movedNext) :=
  fun token => (one token).joined late two joins

theorem EchoesAt.bind {next movedNext : α → Parser β} {ending : β → Ending}
    (one : EchoesAt distance token inside parser moved)
    (two : ∀ value, Echoes distance ending (next value) (movedNext (Movable.moved distance value))) :
    EchoesAt distance token ending (parser >>= next) (moved >>= movedNext) :=
  one.joined (fun _ => ending) two ⟨fun _ _ => (Nat.zero_add _).symm, fun _ _ => rfl, fun _ loose => Bool.noConfusion loose⟩

theorem Echoes.bind {next movedNext : α → Parser β} {ending : β → Ending} (one : Echoes distance inside parser moved)
    (two : ∀ value, Echoes distance ending (next value) (movedNext (Movable.moved distance value))) :
    Echoes distance ending (parser >>= next) (moved >>= movedNext) :=
  fun token => (one token).bind two

theorem Echoes.past {next movedNext : α → Parser β} {ending : β → Ending} (one : Echoes distance outer parser moved)
    (stuck : ∀ value, Stuck (next value))
    (two : ∀ value, Echoes distance ending (next value) (movedNext (Movable.moved distance value))) :
    Echoes distance ending (parser >>= next) (moved >>= movedNext) :=
  one.joined (fun _ => ending) two ⟨fun _ _ => (Nat.zero_add _).symm, fun _ _ => rfl, fun value _ => stuck value⟩

theorem Echoes.within {change : Context → Context} (echoes : Echoes distance ending parser moved) :
    Echoes distance ending (Parser.within change parser) (Parser.within change moved) :=
  fun token => ⟨fun context => (echoes token).shifts (change context), fun context => (echoes token).balances (change context),
    fun context => (echoes token).prolongs (change context)⟩

theorem Echoes.allowingIn (echoes : Echoes distance ending parser moved) :
    Echoes distance ending (allowingIn parser) (allowingIn moved) :=
  echoes.within

theorem Echoes.forbiddingIn (echoes : Echoes distance ending parser moved) :
    Echoes distance ending (forbiddingIn parser) (forbiddingIn moved) :=
  echoes.within

theorem Echoes.inFunction {isAsync isGenerator : Bool} (echoes : Echoes distance ending parser moved) :
    Echoes distance ending (inFunction isAsync isGenerator parser) (inFunction isAsync isGenerator moved) :=
  echoes.within

theorem EchoesAt.ite {condition : Prop} [Decidable condition] {yes no movedYes movedNo : Parser α}
    (one : EchoesAt distance token ending yes movedYes) (two : EchoesAt distance token ending no movedNo) :
    EchoesAt distance token ending (if condition then yes else no) (if condition then movedYes else movedNo) := by
  split
  · exact one
  · exact two

theorem EchoesAt.branch {condition movedCondition : Prop} [Decidable condition] [Decidable movedCondition]
    {yes no movedYes movedNo : Parser α} (same : movedCondition ↔ condition)
    (one : condition → EchoesAt distance token ending yes movedYes)
    (two : ¬condition → EchoesAt distance token ending no movedNo) :
    EchoesAt distance token ending (if condition then yes else no) (if movedCondition then movedYes else movedNo) := by
  by_cases holds : condition
  · rw [if_pos holds, if_pos (same.mpr holds)]
    exact one holds
  · rw [if_neg holds, if_neg fun movedHolds => holds (same.mp movedHolds)]
    exact two holds

theorem Echoes.ite {condition : Prop} [Decidable condition] {yes no movedYes movedNo : Parser α}
    (one : Echoes distance ending yes movedYes) (two : Echoes distance ending no movedNo) :
    Echoes distance ending (if condition then yes else no) (if condition then movedYes else movedNo) :=
  fun token => (one token).ite (two token)

theorem Echoes.fail {error movedError : SyntaxError} (same : movedError = error.moved distance) :
    Echoes distance ending (Parser.fail error) (Parser.fail movedError) := by
  subst same
  refine fun token => ⟨fun _ state _ anchored => ⟨rfl, anchored⟩, ?_, ?_⟩
  · intro context state value after _ _ success
    cases success
  · intro context front last lastEnd value after tail _ _ _ success
    cases success

def Quiet (distance : Nat) (parser moved : Parser α) : Prop :=
  ∀ context lastEnd, ∃ value, ∀ state : State, state.lastEnd = lastEnd →
    parser context state = .ok value state ∧
      moved context (state.moved distance) = .ok (Movable.moved distance value) (state.moved distance)

theorem Quiet.pure {value movedValue : α} (same : movedValue = Movable.moved distance value) :
    Quiet distance (Pure.pure value) (Pure.pure movedValue) := by
  subst same
  exact fun _ _ => ⟨value, fun _ _ => ⟨rfl, rfl⟩⟩

theorem quiet_spanned_from (start : Nat) {node movedNode : α} (same : movedNode = Movable.moved distance node) :
    Quiet distance (spannedFrom start node) (spannedFrom (start + distance) movedNode) := by
  subst same
  refine fun context lastEnd => ⟨⟨node, ⟨start, max lastEnd start⟩⟩, fun state same => ?_⟩
  subst same
  refine ⟨rfl, ?_⟩
  have stop : max (state.lastEnd + distance) (start + distance) = max state.lastEnd start + distance :=
    Nat.add_max_add_right ..
  have runs : spannedFrom (start + distance) (Movable.moved distance node) context (state.moved distance) =
      .ok ⟨Movable.moved distance node, ⟨start + distance, max (state.lastEnd + distance) (start + distance)⟩⟩
        (state.moved distance) := rfl
  rw [runs, stop]
  rfl

theorem Quiet.echoes (quiet : Quiet distance parser moved) (fits : ∀ value, (ending value).closes = 0) :
    Echoes distance ending parser moved := by
  refine fun token => ⟨?_, ?_, ?_⟩
  · intro context state _ anchored
    obtain ⟨value, runs⟩ := quiet context state.lastEnd
    rw [(runs state rfl).1, (runs state rfl).2]
    exact ⟨rfl, anchored⟩
  · intro context state value after _ _ success clean
    obtain ⟨seen, runs⟩ := quiet context state.lastEnd
    rw [(runs state rfl).1] at success
    cases success
    exact ⟨clean, [], rfl, by rw [fits]; rfl⟩
  · intro context front last lastEnd value after tail remainder _ _ success _
    obtain ⟨seen, runs⟩ := quiet context lastEnd
    rw [(runs _ rfl).1] at success ⊢
    cases success
    exact ⟨front, lastEnd, List.suffix_rfl, .inl remainder.ends, rfl, rfl⟩

theorem Echoes.pure {value movedValue : α} (same : movedValue = Movable.moved distance value)
    (fits : (ending value).closes = 0) : Echoes distance ending (Pure.pure value) (Pure.pure movedValue) := by
  subst same
  refine fun token => ⟨fun _ state _ anchored => ⟨rfl, anchored⟩, ?_, ?_⟩
  · intro context state seen after _ _ success clean
    cases success
    exact ⟨clean, [], rfl, by rw [fits]; rfl⟩
  · intro context front last lastEnd seen after tail remainder _ _ success _
    cases success
    exact ⟨front, lastEnd, List.suffix_rfl, .inl remainder.ends, rfl, rfl⟩

theorem EchoesAt.pure {value movedValue : α} (same : movedValue = Movable.moved distance value)
    (fits : (ending value).closes = 0) : EchoesAt distance token ending (Pure.pure value) (Pure.pure movedValue) :=
  .any (.pure same fits)

theorem EchoesAt.settle {next movedNext : α → Parser β} {early : Ending} {ending : β → Ending}
    (one : EchoesAt distance token (fun _ => early) parser moved)
    (two : ∀ value, Quiet distance (next value) (movedNext (Movable.moved distance value)))
    (fits : ∀ value context state last, next value context state = .ok last state → ending last = early) :
    EchoesAt distance token ending (parser >>= next) (moved >>= movedNext) := by
  refine ⟨?_, ?_, ?_⟩
  · intro context state same anchored
    obtain ⟨first, kept⟩ := one.shifts context state same anchored
    rw [bind_run, bind_run, first]
    cases result : parser context state with
    | ok value after =>
        rw [result] at kept
        obtain ⟨last, runs⟩ := two value context after.lastEnd
        dsimp only [Outcome.moved]
        rw [(runs after rfl).1, (runs after rfl).2]
        exact ⟨rfl, kept⟩
    | error failure after =>
        rw [result] at kept
        exact ⟨rfl, kept⟩
  · intro context state value after same anchored success clean
    obtain ⟨middle, between, read, finished⟩ := bind_ok success
    obtain ⟨last, runs⟩ := two middle context between.lastEnd
    have ended := (runs between rfl).1
    rw [ended] at finished
    cases finished
    rw [fits middle context _ _ ended]
    exact one.balances context state _ _ same anchored read clean
  · intro context front last lastEnd value after tail remainder head calm success clean
    obtain ⟨middle, between, read, finished⟩ := bind_ok success
    obtain ⟨final, runs⟩ := two middle context between.lastEnd
    have ended := (runs between rfl).1
    rw [ended] at finished
    cases finished
    obtain ⟨behind, stop, suffix, leaves, rfl, other⟩ :=
      one.prolongs context front last lastEnd _ _ tail remainder head calm read clean
    refine ⟨behind, stop, suffix, ?_, rfl, ?_⟩
    · rwa [fits middle context _ _ ended]
    · rw [bind_run, other]
      exact (runs ⟨behind ++ tail, stop, []⟩ rfl).1

theorem Echoes.settle {next movedNext : α → Parser β} {early : Ending} {ending : β → Ending}
    (one : Echoes distance (fun _ => early) parser moved)
    (two : ∀ value, Quiet distance (next value) (movedNext (Movable.moved distance value)))
    (fits : ∀ value context state last, next value context state = .ok last state → ending last = early) :
    Echoes distance ending (parser >>= next) (moved >>= movedNext) :=
  fun token => (one token).settle two fits

theorem Echoes.andThen {next movedNext : α → Parser β} {early : Ending} (one : Echoes distance (fun _ => early) parser moved)
    (two : ∀ value, Quiet distance (next value) (movedNext (Movable.moved distance value))) :
    Echoes distance (fun _ => early) (parser >>= next) (moved >>= movedNext) :=
  one.settle two fun _ _ _ _ _ => rfl

theorem Echoes.map {make movedMake : α → β} {early : Ending} {ending : β → Ending}
    (one : Echoes distance (fun _ => early) parser moved)
    (same : ∀ value, movedMake (Movable.moved distance value) = Movable.moved distance (make value))
    (fits : ∀ value, ending (make value) = early) :
    Echoes distance ending (parser >>= fun value => Pure.pure (make value)) (moved >>= fun value => Pure.pure (movedMake value)) :=
  one.settle (fun value => .pure (same value)) fun value context state last runs => by
    cases runs
    exact fits value

theorem EchoesAt.congr {parser other moved movedOther : Parser α} (echoes : EchoesAt distance token ending other movedOther)
    (one : ∀ context (state : State), state.peek = token → parser context state = other context state)
    (two : ∀ context (state : State), state.peek = token →
      moved context (state.moved distance) = movedOther context (state.moved distance)) :
    EchoesAt distance token ending parser moved := by
  refine ⟨?_, ?_, ?_⟩
  · intro context state same anchored
    rw [one context state same, two context state same]
    exact echoes.shifts context state same anchored
  · intro context state value after same anchored success clean
    rw [one context state same] at success
    exact echoes.balances context state value after same anchored success clean
  · intro context front last lastEnd value after tail remainder head calm success clean
    rw [one context _ (peek_front head _ _ _)] at success ⊢
    exact echoes.prolongs context front last lastEnd value after tail remainder head calm success clean

-- What looks behind a finished statement for its continuation finds none at the end, and none before other statements.
theorem Echoes.continued {parser moved : Parser α} {next movedNext : α → Parser β} (final : α → β)
    (one : Echoes distance outer parser moved)
    (two : ∀ value, Echoes distance outer (next value) (movedNext (Movable.moved distance value)))
    (finished : ∀ value context (state : State), state.peek.kind ≠ .keyword .elseWord →
      next value context state = .ok (final value) state) :
    Echoes distance outer (parser >>= next) (moved >>= movedNext) := by
  refine fun token => ⟨(one token).bind_shifts two, (one token).bind_balances two fun _ _ => rfl, ?_⟩
  intro context front last lastEnd value after tail remainder head calm success clean
  obtain ⟨middle, behind, stop, suffix, leaves, ended, other⟩ := (one token).bind_first two remainder head calm success clean
  rw [other]
  rcases leaves with ends | ⟨_, none⟩
  · obtain ⟨left, finish, further, leaves, same, onward⟩ :=
      (two middle).prolongs (remainder.behind suffix ends) calm ended clean
    exact ⟨left, finish, further.trans suffix, leaves, same, onward⟩
  · subst none
    have atEnd : (State.peek ⟨[] ++ [last], stop, []⟩).kind ≠ .keyword .elseWord := by
      rw [List.nil_append, peek_cons, remainder.isEnd]
      exact TokenKind.noConfusion
    rw [finished middle context _ atEnd] at ended
    cases ended
    exact ⟨[], stop, List.nil_suffix, .inr ⟨rfl, rfl⟩, rfl, finished middle context _ (calm_peek calm stop [])⟩

end

end ScriptSuite.Script
