import ScriptSuite.Proofs.Script.Echo.Rules

set_option autoImplicit false

namespace ScriptSuite.Script

variable {α β : Type}

def TokenKind.fixed : TokenKind → Bool
  | .template _ => false
  | _ => true

def TokenKind.inert (kind : TokenKind) : Bool :=
  !isOpening kind && !isClosing kind && kind != .punct .semi && kind != .endOfFile

theorem TokenKind.inert_iff (kind : TokenKind) : kind.inert = true ↔
    isOpening kind = false ∧ isClosing kind = false ∧ kind ≠ .punct .semi ∧ kind ≠ .endOfFile := by
  simp [inert, and_assoc]

theorem moved_kind_eq (distance : Nat) (kind other : TokenKind) (fixed : other.fixed = true) :
    kind.moved distance = other ↔ kind = other := by
  cases kind with
  | template parts =>
      cases other with
      | template more => cases fixed
      | _ => simp [TokenKind.moved]
  | _ => rfl

theorem moved_kind_beq (distance : Nat) (kind other : TokenKind) (fixed : other.fixed = true) :
    (kind.moved distance == other) = (kind == other) := by
  rw [Bool.eq_iff_iff, beq_iff_eq, beq_iff_eq]
  exact moved_kind_eq distance kind other fixed

@[simp] theorem moved_eq_punct (distance : Nat) (kind : TokenKind) (mark : Punct) :
    kind.moved distance = .punct mark ↔ kind = .punct mark :=
  moved_kind_eq distance kind _ rfl

@[simp] theorem moved_beq_punct (distance : Nat) (kind : TokenKind) (mark : Punct) :
    (kind.moved distance == .punct mark) = (kind == .punct mark) :=
  moved_kind_beq distance kind _ rfl

@[simp] theorem moved_beq_keyword (distance : Nat) (kind : TokenKind) (word : Keyword) :
    (kind.moved distance == .keyword word) = (kind == .keyword word) :=
  moved_kind_beq distance kind _ rfl

@[simp] theorem moved_eq_end (distance : Nat) (kind : TokenKind) :
    kind.moved distance = .endOfFile ↔ kind = .endOfFile :=
  moved_kind_eq distance kind _ rfl

@[simp] theorem moved_beq_end (distance : Nat) (kind : TokenKind) :
    (kind.moved distance == .endOfFile) = (kind == .endOfFile) :=
  moved_kind_beq distance kind _ rfl

@[simp] theorem moved_token_kind (distance : Nat) (token : Token) :
    (token.moved distance).kind = token.kind.moved distance := rfl

@[simp] theorem moved_token_newline (distance : Nat) (token : Token) :
    (token.moved distance).newlineBefore = token.newlineBefore := rfl

@[simp] theorem moved_is_opening (distance : Nat) (kind : TokenKind) :
    isOpening (kind.moved distance) = isOpening kind := by
  cases kind <;> rfl

@[simp] theorem moved_is_closing (distance : Nat) (kind : TokenKind) :
    isClosing (kind.moved distance) = isClosing kind := by
  cases kind <;> rfl

theorem moved_peek_at (distance count : Nat) (state : State) :
    (state.moved distance).peekAt count = (state.peekAt count).moved distance := by
  have found : (state.moved distance).rest[count]? = state.rest[count]?.map (Token.moved distance) :=
    List.getElem?_map
  unfold State.peekAt
  rw [found]
  cases state.rest[count]? with
  | none => rfl
  | some token => rfl

theorem moved_peek (distance : Nat) (state : State) : (state.moved distance).peek = state.peek.moved distance :=
  moved_peek_at distance 0 state

theorem moved_advance (distance : Nat) (state : State) :
    (state.moved distance).advance = state.advance.moved distance := by
  by_cases ended : state.peek.kind = .endOfFile
  · rw [advance_stays state ended, advance_stays]
    rw [moved_peek]
    exact (moved_kind_eq distance _ _ rfl).mpr ended
  · obtain ⟨rest, tokens⟩ := peek_present state ended
    have movedTokens : (state.moved distance).rest = state.peek.moved distance :: Movable.moved distance rest :=
      congrArg (Movable.moved distance) tokens
    rw [advance_rest state _ rest tokens ended, advance_rest _ _ _ movedTokens fun same =>
      ended ((moved_kind_eq distance _ _ rfl).mp same)]
    rfl

theorem advance_anchored (state : State) (anchored : AllAnchored state.rest) : AllAnchored state.advance.rest :=
  fun token within => anchored token ((advance_closes_one state).suffix.subset within)

theorem peek_anchored (state : State) (anchored : AllAnchored state.rest) : state.peek.Anchored := by
  by_cases ended : state.peek.kind = .endOfFile
  · intro parts source template
    rw [ended] at template
    cases template
  · obtain ⟨rest, tokens⟩ := peek_present state ended
    exact anchored state.peek (by rw [tokens]; exact List.mem_cons_self ..)

section

variable [Movable α] [Movable β] {distance : Nat} {token : Token} {ending : α → Ending}

theorem Echoes.peek {next movedNext : Token → Parser α}
    (each : ∀ token, token.Anchored → EchoesAt distance token ending (next token) (movedNext (token.moved distance))) :
    Echoes distance ending (peek >>= next) (peek >>= movedNext) := by
  refine fun token => ⟨?_, ?_, ?_⟩
  · intro context state same anchored
    subst same
    have runs := (each _ (peek_anchored state anchored)).shifts context state rfl anchored
    rw [← moved_peek] at runs
    exact runs
  · intro context state value after same anchored success clean
    exact (each _ (peek_anchored state anchored)).balances context state value after rfl anchored success clean
  · intro context front last lastEnd value after tail remainder head calm success clean
    have seen : State.peek ⟨front ++ [last], lastEnd, []⟩ = token := peek_front head _ _ _
    have anchored := peek_anchored ⟨front ++ [last], lastEnd, []⟩ remainder.whole
    rw [seen] at anchored
    have runs : ∀ tokens, (Script.peek >>= next) context ⟨front ++ tokens, lastEnd, []⟩ =
        next token context ⟨front ++ tokens, lastEnd, []⟩ := by
      intro tokens
      rw [← peek_front head tokens lastEnd []]
      rfl
    rw [runs] at success ⊢
    exact (each token anchored).prolongs context front last lastEnd value after tail remainder head calm success clean

structure LooksAt (distance : Nat) (token : Token) (view moved : Parser α) : Prop where
  shifts : ∀ context state, state.peek = token → ∃ value, view context state = .ok value state ∧
    moved context (state.moved distance) = .ok (Movable.moved distance value) (state.moved distance)
  prolongs : ∀ context front last lastEnd tail, Remainder front last → front.head? = some token → ∃ value,
    view context ⟨front ++ [last], lastEnd, []⟩ = .ok value ⟨front ++ [last], lastEnd, []⟩ ∧
      view context ⟨front ++ tail, lastEnd, []⟩ = .ok value ⟨front ++ tail, lastEnd, []⟩

def LooksAlike (distance : Nat) (view moved : Parser α) : Prop :=
  ∀ token, LooksAt distance token view moved

structure LooksAhead (distance : Nat) (view moved : Parser α) : Prop where
  shifts : ∀ context state, ∃ value, view context state = .ok value state ∧
    moved context (state.moved distance) = .ok (Movable.moved distance value) (state.moved distance)
  shown : ∀ token, token.kind ≠ .punct .semi → LooksAt distance token view moved

theorem EchoesAt.look {view movedView : Parser α} {next movedNext : α → Parser β} {ending : β → Ending}
    (looks : LooksAt distance token view movedView)
    (each : ∀ value, EchoesAt distance token ending (next value) (movedNext (Movable.moved distance value))) :
    EchoesAt distance token ending (view >>= next) (movedView >>= movedNext) := by
  refine ⟨?_, ?_, ?_⟩
  · intro context state same anchored
    obtain ⟨value, runs, movedRuns⟩ := looks.shifts context state same
    rw [bind_run, bind_run, runs, movedRuns]
    exact (each value).shifts context state same anchored
  · intro context state value after same anchored success clean
    obtain ⟨seen, runs, _⟩ := looks.shifts context state same
    rw [bind_run, runs] at success
    exact (each seen).balances context state value after same anchored success clean
  · intro context front last lastEnd value after tail remainder head calm success clean
    obtain ⟨seen, runs, otherRuns⟩ := looks.prolongs context front last lastEnd tail remainder head
    rw [bind_run, runs] at success
    rw [bind_run, otherRuns]
    exact (each seen).prolongs context front last lastEnd value after tail remainder head calm success clean

theorem EchoesAt.lookAhead {view movedView : Parser α} {next movedNext : α → Parser β} {ending : β → Ending}
    (looks : LooksAhead distance view movedView)
    (blind : token.kind = .punct .semi → ∀ one other context (state : State), state.peek = token →
      next one context state = next other context state)
    (each : ∀ value, EchoesAt distance token ending (next value) (movedNext (Movable.moved distance value))) :
    EchoesAt distance token ending (view >>= next) (movedView >>= movedNext) := by
  by_cases semi : token.kind = .punct .semi
  · refine ⟨?_, ?_, ?_⟩
    · intro context state same anchored
      obtain ⟨value, runs, movedRuns⟩ := looks.shifts context state
      rw [bind_run, bind_run, runs, movedRuns]
      exact (each value).shifts context state same anchored
    · intro context state value after same anchored success clean
      obtain ⟨seen, runs, _⟩ := looks.shifts context state
      rw [bind_run, runs] at success
      exact (each seen).balances context state value after same anchored success clean
    · intro context front last lastEnd value after tail remainder head calm success clean
      obtain ⟨seen, runs, _⟩ := looks.shifts context ⟨front ++ [last], lastEnd, []⟩
      obtain ⟨other, otherRuns, _⟩ := looks.shifts context ⟨front ++ tail, lastEnd, []⟩
      rw [bind_run, runs] at success
      rw [bind_run, otherRuns]
      dsimp only
      rw [blind semi other seen context _ (peek_front head _ _ _)]
      exact (each seen).prolongs context front last lastEnd value after tail remainder head calm success clean
  · exact .look (looks.shown token semi) each

theorem LooksAt.echoes {view movedView : Parser α} (looks : LooksAlike distance view movedView) :
    Echoes distance inside view movedView := by
  refine fun token => ⟨?_, ?_, ?_⟩
  · intro context state same anchored
    obtain ⟨value, runs, movedRuns⟩ := (looks token).shifts context state same
    rw [runs, movedRuns]
    exact ⟨rfl, anchored⟩
  · intro context state value after same _ success clean
    obtain ⟨seen, runs, _⟩ := (looks token).shifts context state same
    rw [runs] at success
    cases success
    exact ⟨clean, [], rfl, rfl⟩
  · intro context front last lastEnd value after tail remainder head _ success _
    obtain ⟨seen, runs, otherRuns⟩ := (looks token).prolongs context front last lastEnd tail remainder head
    rw [runs] at success
    cases success
    exact ⟨front, lastEnd, List.suffix_rfl, .inl remainder.ends, rfl, otherRuns⟩

theorem LooksAt.pure {value movedValue : α} (same : movedValue = Movable.moved distance value) :
    LooksAt distance token (Pure.pure value) (Pure.pure movedValue) := by
  subst same
  exact ⟨fun _ _ _ => ⟨value, rfl, rfl⟩, fun _ _ _ _ _ _ _ => ⟨value, rfl, rfl⟩⟩

theorem LooksAt.peek {next movedNext : Token → Parser α}
    (each : LooksAt distance token (next token) (movedNext (token.moved distance))) :
    LooksAt distance token (Script.peek >>= next) (Script.peek >>= movedNext) := by
  constructor
  · intro context state same
    have runs := each.shifts context state same
    rw [← same, ← moved_peek] at runs
    exact runs
  · intro context front last lastEnd tail remainder head
    have runs := each.prolongs context front last lastEnd tail remainder head
    have seen : ∀ tokens, (Script.peek >>= next) context ⟨front ++ tokens, lastEnd, []⟩ =
        next token context ⟨front ++ tokens, lastEnd, []⟩ := by
      intro tokens
      rw [← peek_front head tokens lastEnd []]
      rfl
    rw [seen, seen]
    exact runs

theorem LooksAhead.next {view movedView : Token → Parser α}
    (shows : ∀ token, ∃ value, view token = Pure.pure value ∧
      movedView (token.moved distance) = Pure.pure (Movable.moved distance value)) :
    LooksAhead distance (peekAt 1 >>= view) (peekAt 1 >>= movedView) := by
  have shifts : ∀ context state, ∃ value, (peekAt 1 >>= view) context state = .ok value state ∧
      (peekAt 1 >>= movedView) context (state.moved distance) =
        .ok (Movable.moved distance value) (state.moved distance) := by
    intro context state
    obtain ⟨value, seen, movedSeen⟩ := shows (state.peekAt 1)
    refine ⟨value, ?_, ?_⟩
    · change view (state.peekAt 1) context state = _
      rw [seen]
      rfl
    · change movedView ((state.moved distance).peekAt 1) context (state.moved distance) = _
      rw [moved_peek_at, movedSeen]
      rfl
  refine ⟨shifts, fun token other => ⟨fun context state _ => shifts context state, ?_⟩⟩
  intro context front last lastEnd tail remainder head
  cases front with
  | nil => cases head
  | cons first front =>
      cases head
      obtain ⟨second, rest, rfl⟩ := (remainder.next other).head
      obtain ⟨value, seen, _⟩ := shows second
      refine ⟨value, ?_, ?_⟩
      · change view second context _ = _
        rw [seen]
        rfl
      · change view second context _ = _
        rw [seen]
        rfl

theorem looks_alike_check (kind : TokenKind) (fixed : kind.fixed = true) : LooksAlike distance (check kind) (check kind) := by
  refine fun token => ⟨?_, ?_⟩
  · intro context state same
    refine ⟨state.peek.kind == kind, rfl, ?_⟩
    rw [check_run, moved_peek]
    exact congrArg (Outcome.ok · _) (moved_kind_beq distance state.peek.kind kind fixed)
  · intro context front last lastEnd tail _ head
    exact ⟨token.kind == kind, by rw [check_run, peek_front head], by rw [check_run, peek_front head]⟩

theorem looks_alike_start_offset : LooksAlike distance startOffset startOffset := by
  refine fun token => ⟨?_, ?_⟩
  · intro context state same
    refine ⟨state.peek.span.start, rfl, ?_⟩
    change Outcome.ok (state.moved distance).peek.span.start _ = _
    rw [moved_peek]
    rfl
  · intro context front last lastEnd tail _ head
    refine ⟨token.span.start, ?_, ?_⟩
    · rw [← peek_front head [last] lastEnd []]
      rfl
    · rw [← peek_front head tail lastEnd []]
      rfl

theorem looks_alike_context : LooksAlike distance Parser.context Parser.context :=
  fun _ => ⟨fun context _ _ => ⟨context, rfl, rfl⟩, fun context _ _ _ _ _ _ => ⟨context, rfl, rfl⟩⟩

theorem looks_alike_at_end : LooksAlike distance atEnd atEnd := by
  refine fun token => ⟨?_, ?_⟩
  · intro context state same
    refine ⟨state.atEnd, rfl, ?_⟩
    change Outcome.ok (state.moved distance).atEnd _ = _
    unfold State.atEnd
    rw [moved_peek]
    exact congrArg (Outcome.ok · _) (moved_kind_beq distance state.peek.kind .endOfFile rfl)
  · intro context front last lastEnd tail _ head
    have runs : ∀ tokens, atEnd context ⟨front ++ tokens, lastEnd, []⟩ =
        .ok (token.kind == .endOfFile) ⟨front ++ tokens, lastEnd, []⟩ := by
      intro tokens
      rw [← peek_front head tokens lastEnd []]
      rfl
    exact ⟨token.kind == .endOfFile, runs _, runs _⟩

theorem moved_starts_with_arrow (distance : Nat) (tokens : List Token) :
    startsWithArrow (Movable.moved distance tokens) = startsWithArrow tokens := by
  cases tokens with
  | nil => rfl
  | cons token rest =>
      exact congrArg (· && !token.newlineBefore) (moved_kind_beq distance token.kind (.punct .arrow) rfl)

theorem moved_arrow_after_closing (distance depth : Nat) (tokens : List Token) :
    arrowAfterClosing depth (Movable.moved distance tokens) = arrowAfterClosing depth tokens := by
  induction tokens generalizing depth with
  | nil => rfl
  | cons token rest ih =>
      have kind : (Movable.moved distance token).kind = token.kind.moved distance := rfl
      simp only [moved_cons, arrowAfterClosing, kind, moved_is_opening, moved_is_closing, ih, moved_starts_with_arrow distance,
        moved_kind_eq distance token.kind .endOfFile rfl]

theorem moved_arrow_head (distance : Nat) (tokens : List Token) :
    arrowHead (Movable.moved distance tokens) = arrowHead tokens := by
  cases tokens with
  | nil => rfl
  | cons token rest =>
      obtain ⟨kind, span, newline⟩ := token
      cases kind with
      | identifier name => exact moved_starts_with_arrow distance rest
      | punct mark =>
          cases mark with
          | lParen => exact moved_arrow_after_closing distance 1 rest
          | _ => rfl
      | _ => rfl

theorem moved_arrow_ahead (distance : Nat) (tokens : List Token) :
    arrowAhead (Movable.moved distance tokens) = arrowAhead tokens := by
  match tokens with
  | [] => rfl
  | [first] => exact moved_arrow_head distance [first]
  | first :: second :: rest =>
      have whole := moved_arrow_head distance (first :: second :: rest)
      have behind := moved_arrow_head distance (second :: rest)
      have kind : ((Movable.moved distance first).kind == .identifier "async") = (first.kind == .identifier "async") :=
        moved_kind_beq distance first.kind _ rfl
      have params : startsParams (Movable.moved distance second).kind = startsParams second.kind := by
        obtain ⟨kind, span, newline⟩ := second
        cases kind <;> rfl
      have newline : (Movable.moved distance second).newlineBefore = second.newlineBefore := rfl
      simp only [moved_cons] at whole behind ⊢
      simp only [arrowAhead, whole, behind, kind, params, newline]

theorem looks_alike_is_arrow_ahead : LooksAlike distance isArrowAhead isArrowAhead := by
  refine fun token => ⟨?_, ?_⟩
  · intro context state same
    exact ⟨arrowAhead state.rest, rfl, congrArg (Outcome.ok · _) (moved_arrow_ahead distance state.rest)⟩
  · intro context front last lastEnd tail remainder _
    exact ⟨arrowAhead (front ++ [last]), rfl, congrArg (Outcome.ok · _) (arrow_ahead_before front tail [last] remainder)⟩

theorem closing_inert (kind : TokenKind) (inert : kind.inert = true) (span : Span) (newline : Bool) :
    closing 0 [⟨kind, span, newline⟩] = true := by
  obtain ⟨opens, closes, _⟩ := (TokenKind.inert_iff kind).mp inert
  simp [closing, opens, closes]

theorem echoes_at_advance (early : Ending) (present : token.kind ≠ .endOfFile)
    (closed : closing early.closes [token] = true) (semi : token.kind = .punct .semi → early.loose = true) :
    EchoesAt distance token (fun _ => early) advance advance := by
  refine ⟨?_, ?_, ?_⟩
  · intro context state _ anchored
    refine ⟨?_, advance_anchored state anchored⟩
    change Outcome.ok (state.moved distance).peek (state.moved distance).advance = _
    rw [moved_peek, moved_advance]
    rfl
  · intro context state value after same _ success clean
    cases success
    subst same
    obtain ⟨rest, tokens⟩ := peek_present state present
    rw [advance_rest state state.peek rest tokens present] at clean ⊢
    exact ⟨clean, [state.peek], tokens, closed⟩
  · intro context front last lastEnd value after tail remainder head _ success _
    cases front with
    | nil => cases head
    | cons first rest =>
        cases head
        have runs : ∀ tokens, Script.advance context ⟨token :: rest ++ tokens, lastEnd, []⟩ =
            .ok token ⟨rest ++ tokens, token.span.stop, []⟩ := by
          intro tokens
          change Outcome.ok _ (State.advance ⟨token :: (rest ++ tokens), lastEnd, []⟩) = _
          rw [advance_rest _ token (rest ++ tokens) rfl present]
          rfl
        rw [runs] at success
        cases success
        refine ⟨rest, token.span.stop, List.suffix_cons token rest, ?_, rfl, runs tail⟩
        rcases remainder.ends.tail with ends | ⟨mark, none⟩
        · exact .inl ends
        · exact .inr ⟨semi mark, none⟩

theorem EchoesAt.advance {next movedNext : Token → Parser α} (inert : token.kind.inert = true)
    (each : ∀ read, Echoes distance ending (next read) (movedNext (Movable.moved distance read))) :
    EchoesAt distance token ending (Script.advance >>= next) (Script.advance >>= movedNext) := by
  have kinds := (TokenKind.inert_iff token.kind).mp inert
  exact .bind (echoes_at_advance ⟨false, 0⟩ kinds.2.2.2 (closing_inert token.kind inert _ _) fun semi => absurd semi kinds.2.2.1) each

theorem EchoesAt.closes {next movedNext : Token → Parser α} (closes : isClosing token.kind = true)
    (each : ∀ read, Echoes distance ending (next read) (movedNext (Movable.moved distance read))) :
    EchoesAt distance token (fun value => (ending value).deeper) (Script.advance >>= next) (Script.advance >>= movedNext) := by
  have opens : isOpening token.kind = false := by
    cases kind : token.kind with
    | punct mark => cases mark <;> simp_all [isOpening, isClosing]
    | _ => rfl
  have present : token.kind ≠ .endOfFile := by
    intro ended
    rw [ended] at closes
    cases closes
  refine .joined (echoes_at_advance ⟨false, 1⟩ present (by simp [closing, opens, closes])
    fun semi => absurd semi (closing_no_semi _ closes)) (fun _ => ending) each ?_
  exact ⟨fun _ last => Nat.add_comm _ _, fun _ _ => rfl, fun _ loose => Bool.noConfusion loose⟩

theorem EchoesAt.opens {next movedNext : Token → Parser α} (opens : isOpening token.kind = true)
    (each : ∀ read, Echoes distance (fun value => (ending value).deeper) (next read) (movedNext (Movable.moved distance read))) :
    EchoesAt distance token ending (Script.advance >>= next) (Script.advance >>= movedNext) := by
  have present : token.kind ≠ .endOfFile := by
    intro ended
    rw [ended] at opens
    cases opens
  refine ⟨?_, ?_, ?_⟩
  · intro context state same anchored
    have runs := (each state.peek).shifts context state.advance (advance_anchored state anchored)
    rw [← moved_advance] at runs
    have seen : Movable.moved distance state.peek = (state.moved distance).peek := (moved_peek distance state).symm
    rw [seen] at runs
    exact runs
  · intro context state value after same anchored success clean
    subst same
    obtain ⟨untouched, read, tokens, closed⟩ :=
      (each state.peek).balances (advance_anchored state anchored) success clean
    obtain ⟨rest, whole⟩ := peek_present state present
    rw [advance_rest state state.peek rest whole present] at untouched tokens
    refine ⟨untouched, state.peek :: read, ?_, ?_⟩
    · rw [whole, List.cons_append, ← tokens]
    · rw [closing, if_pos opens]
      exact closed
  · intro context front last lastEnd value after tail remainder head calm success clean
    cases front with
    | nil => cases head
    | cons first rest =>
        cases head
        have runs : ∀ tokens, (Script.advance >>= next) context ⟨token :: rest ++ tokens, lastEnd, []⟩ =
            next token context ⟨rest ++ tokens, token.span.stop, []⟩ := by
          intro tokens
          change next token context (State.advance ⟨token :: (rest ++ tokens), lastEnd, []⟩) = _
          rw [advance_rest _ token (rest ++ tokens) rfl present]
        rw [runs] at success ⊢
        obtain ⟨behind, stop, suffix, leaves, same, other⟩ :=
          (each token).prolongs (remainder.next (opening_no_semi _ opens)) calm success clean
        exact ⟨behind, stop, suffix.trans (List.suffix_cons token rest), leaves, same, other⟩

omit [Movable α] in
theorem EchoesAt.seen {view movedView : Parser α} {value movedValue : α} {next movedNext : α → Parser β}
    {ending : β → Ending} (runs : ∀ context (state : State), state.peek = token → view context state = .ok value state)
    (movedRuns : ∀ context (state : State), state.peek = token →
      movedView context (state.moved distance) = .ok movedValue (state.moved distance))
    (each : EchoesAt distance token ending (next value) (movedNext movedValue)) :
    EchoesAt distance token ending (view >>= next) (movedView >>= movedNext) := by
  refine ⟨?_, ?_, ?_⟩
  · intro context state same anchored
    rw [bind_run, bind_run, runs context state same, movedRuns context state same]
    exact each.shifts context state same anchored
  · intro context state last after same anchored success clean
    rw [bind_run, runs context state same] at success
    exact each.balances context state last after same anchored success clean
  · intro context front last lastEnd final after tail remainder head calm success clean
    rw [bind_run, runs _ _ (peek_front head _ _ _)] at success ⊢
    exact each.prolongs context front last lastEnd final after tail remainder head calm success clean

theorem EchoesAt.check {kind : TokenKind} {next movedNext : Bool → Parser α} (fixed : kind.fixed = true)
    (each : EchoesAt distance token ending (next (token.kind == kind)) (movedNext (token.kind == kind))) :
    EchoesAt distance token ending (Script.check kind >>= next) (Script.check kind >>= movedNext) := by
  refine .seen (fun _ state same => ?_) (fun _ state same => ?_) each
  · rw [check_run, same]
  · rw [check_run, moved_peek, same]
    exact congrArg (Outcome.ok · _) (moved_kind_beq distance token.kind kind fixed)

theorem echoes_unexpected (wanted : Expectation) : Echoes distance ending (unexpected wanted) (unexpected wanted) :=
  .peek fun _ _ => .any (.fail rfl)

theorem EchoesAt.accept {kind : TokenKind} {next movedNext : Bool → Parser α} (fixed : kind.fixed = true)
    (yes : token.kind = kind → EchoesAt distance token ending (Script.advance >>= fun _ => next true)
      (Script.advance >>= fun _ => movedNext true))
    (no : EchoesAt distance token ending (next false) (movedNext false)) :
    EchoesAt distance token ending (Script.accept kind >>= next) (Script.accept kind >>= movedNext) := by
  rw [accept_bind, accept_bind]
  refine .check fixed ?_
  by_cases same : token.kind = kind
  · rw [beq_iff_eq.mpr same]
    exact yes same
  · rw [beq_eq_false_iff_ne.mpr same]
    exact no

theorem EchoesAt.expect {kind : TokenKind} {wanted : Expectation} {next movedNext : Token → Parser α}
    (fixed : kind.fixed = true)
    (each : token.kind = kind → EchoesAt distance token ending (Script.advance >>= next) (Script.advance >>= movedNext)) :
    EchoesAt distance token ending (Script.expect kind wanted >>= next) (Script.expect kind wanted >>= movedNext) := by
  rw [expect_bind, expect_bind]
  refine .check fixed ?_
  by_cases same : token.kind = kind
  · rw [beq_iff_eq.mpr same]
    exact each same
  · rw [beq_eq_false_iff_ne.mpr same]
    exact echoes_unexpected wanted token

theorem Echoes.opened {mark : Punct} {next movedNext : Token → Parser α} (opens : isOpening (.punct mark) = true)
    (each : ∀ read, Echoes distance (fun value => (ending value).deeper) (next read)
      (movedNext (Movable.moved distance read))) :
    Echoes distance ending (expectPunct mark >>= next) (expectPunct mark >>= movedNext) :=
  fun token => .expect rfl fun same => .opens (by rw [same]; exact opens) each

theorem Echoes.closed {mark : Punct} {next movedNext : Token → Parser α} (closes : isClosing (.punct mark) = true)
    (each : ∀ read, Echoes distance ending (next read) (movedNext (Movable.moved distance read))) :
    Echoes distance (fun value => (ending value).deeper) (expectPunct mark >>= next) (expectPunct mark >>= movedNext) :=
  fun token => .expect rfl fun same => .closes (by rw [same]; exact closes) each

theorem Echoes.acceptLast {mark : Punct} {next movedNext : Bool → Parser α} (early : Ending)
    (closed : ∀ token : Token, token.kind = .punct mark → closing early.closes [token] = true)
    (semi : mark = .semi → early.loose = true) (yes : Quiet distance (next true) (movedNext true))
    (fits : ∀ context state last, next true context state = .ok last state → ending last = early)
    (no : Echoes distance ending (next false) (movedNext false)) :
    Echoes distance ending (acceptPunct mark >>= next) (acceptPunct mark >>= movedNext) := by
  refine fun token => .accept rfl (fun same => ?_) (no token)
  have read : EchoesAt distance token (fun _ => early) Script.advance Script.advance :=
    echoes_at_advance early (by simp [same]) (closed token same) fun last => semi (TokenKind.punct.inj (same.symm.trans last))
  exact .settle read (fun _ => yes) fun _ => fits

theorem Echoes.acceptSemi {next movedNext : Bool → Parser α} (yes : Quiet distance (next true) (movedNext true))
    (fits : ∀ context state last, next true context state = .ok last state → ending last = ⟨true, 0⟩)
    (no : Echoes distance ending (next false) (movedNext false)) :
    Echoes distance ending (acceptPunct .semi >>= next) (acceptPunct .semi >>= movedNext) :=
  .acceptLast ⟨true, 0⟩ (fun token same => by simp [closing, same, isOpening, isClosing]) (fun _ => rfl) yes fits no

theorem Echoes.acceptBrace {next movedNext : Bool → Parser α} (yes : Quiet distance (next true) (movedNext true))
    (fits : ∀ context state last, next true context state = .ok last state → ending last = ⟨false, 1⟩)
    (no : Echoes distance ending (next false) (movedNext false)) :
    Echoes distance ending (acceptPunct .rBrace >>= next) (acceptPunct .rBrace >>= movedNext) :=
  .acceptLast ⟨false, 1⟩ (fun token same => by simp [closing, same, isOpening, isClosing]) (fun semi => Punct.noConfusion semi)
    yes fits no

theorem Echoes.acceptOpened {mark : Punct} {next movedNext : Bool → Parser α} (opens : isOpening (.punct mark) = true)
    (yes : Echoes distance (fun value => (ending value).deeper) (next true) (movedNext true))
    (no : Echoes distance ending (next false) (movedNext false)) :
    Echoes distance ending (acceptPunct mark >>= next) (acceptPunct mark >>= movedNext) :=
  fun token => .accept rfl (fun same => .opens (by rw [same]; exact opens) fun _ => yes) (no token)

theorem echoes_expect_semi : Echoes distance outer (expectPunct .semi) (expectPunct .semi) := fun token => .check rfl (by
  by_cases same : token.kind = .punct .semi
  · rw [beq_iff_eq.mpr same]
    exact echoes_at_advance ⟨true, 0⟩ (by simp [same]) (by simp [closing, same, isOpening, isClosing]) fun _ => rfl
  · rw [beq_eq_false_iff_ne.mpr same]
    exact echoes_unexpected _ token)

end

section

variable {distance : Nat} {token : Token}

theorem echoes_identifier : Echoes distance inside identifier identifier := .peek fun token _ => by
  obtain ⟨kind, span, newline⟩ := token
  cases kind with
  | identifier name => exact .advance rfl fun _ => .pure rfl rfl
  | _ => exact echoes_unexpected _ _

theorem echoes_identifier_name : Echoes distance inside identifierName identifierName := .peek fun token _ => by
  obtain ⟨kind, span, newline⟩ := token
  cases kind with
  | identifier name => exact .advance rfl fun _ => .pure rfl rfl
  | keyword word => exact .advance rfl fun _ => .pure rfl rfl
  | privateName name => exact .advance rfl fun _ => .pure rfl rfl
  | _ => exact echoes_unexpected _ _

theorem echoes_string_literal : Echoes distance inside stringLiteral stringLiteral := .peek fun token _ => by
  obtain ⟨kind, span, newline⟩ := token
  cases kind with
  | string value => exact .advance rfl fun _ => .pure rfl rfl
  | _ => exact echoes_unexpected _ _

theorem echoes_check (kind : TokenKind) (fixed : kind.fixed = true) : Echoes distance inside (check kind) (check kind) :=
  LooksAt.echoes (looks_alike_check kind fixed)

theorem echoes_start_offset : Echoes distance inside startOffset startOffset :=
  LooksAt.echoes looks_alike_start_offset

theorem echoes_accept (kind : TokenKind) (fixed : kind.fixed = true) (inert : kind.inert = true) :
    Echoes distance inside (accept kind) (accept kind) := fun token => .check fixed (by
  by_cases same : token.kind = kind
  · rw [beq_iff_eq.mpr same]
    exact .advance (same ▸ inert) fun _ => .pure rfl rfl
  · rw [beq_eq_false_iff_ne.mpr same]
    exact .pure rfl rfl)

theorem echoes_accept_punct (mark : Punct) (inert : (TokenKind.punct mark).inert = true) :
    Echoes distance inside (acceptPunct mark) (acceptPunct mark) :=
  echoes_accept _ rfl inert

theorem echoes_accept_keyword (word : Keyword) : Echoes distance inside (acceptKeyword word) (acceptKeyword word) :=
  echoes_accept _ rfl rfl

theorem echoes_accept_word (word : String) : Echoes distance inside (acceptWord word) (acceptWord word) :=
  echoes_accept _ rfl rfl

theorem echoes_expect (kind : TokenKind) (wanted : Expectation) (fixed : kind.fixed = true) (inert : kind.inert = true) :
    Echoes distance inside (expect kind wanted) (expect kind wanted) := fun token => .check fixed (by
  by_cases same : token.kind = kind
  · rw [beq_iff_eq.mpr same]
    exact .advance (same ▸ inert) fun _ => .pure rfl rfl
  · rw [beq_eq_false_iff_ne.mpr same]
    exact echoes_unexpected _ _)

theorem echoes_expect_punct (mark : Punct) (inert : (TokenKind.punct mark).inert = true) :
    Echoes distance inside (expectPunct mark) (expectPunct mark) :=
  echoes_expect _ _ rfl inert

theorem echoes_expect_keyword (word : Keyword) : Echoes distance inside (expectKeyword word) (expectKeyword word) :=
  echoes_expect _ _ rfl rfl

theorem echoes_expect_word (word : String) : Echoes distance inside (expectWord word) (expectWord word) :=
  echoes_expect _ _ rfl rfl

theorem echoes_spanned_from {α : Type} [Movable α] (start : Nat) {node moved : α}
    (same : moved = Movable.moved distance node) :
    Echoes distance inside (spannedFrom start node) (spannedFrom (start + distance) moved) :=
  (quiet_spanned_from start same).echoes fun _ => rfl

theorem echoes_consume_semicolon : Echoes distance outer consumeSemicolon consumeSemicolon :=
  .acceptSemi (.pure rfl) (fun _ _ _ _ => rfl) (.peek fun token _ =>
    .branch (by simp) (fun _ => .pure rfl rfl) fun _ => echoes_unexpected _ _)

theorem looks_ahead_token : LooksAhead distance (peekAt 1) (peekAt 1) :=
  .next fun token => ⟨token, rfl, rfl⟩

theorem looks_ahead_async_function : LooksAhead distance asyncFunctionAhead asyncFunctionAhead :=
  .next fun token => ⟨_, rfl, by simp⟩

theorem looks_ahead_next_ends_member : LooksAhead distance nextEndsMember nextEndsMember :=
  .next fun token => by
    obtain ⟨kind, span, newline⟩ := token
    cases kind <;> exact ⟨_, rfl, rfl⟩

theorem looks_ahead_let_declares : LooksAhead distance letDeclares letDeclares :=
  .next fun token => by
    obtain ⟨kind, span, newline⟩ := token
    cases kind <;> exact ⟨_, rfl, rfl⟩

end

end ScriptSuite.Script
