import ScriptSuite.Proofs.Script.Semicolon.Tokens

set_option autoImplicit false

namespace ScriptSuite.Script

variable {α β γ : Type}

def Joint.near (joint : Joint) (rest : List Token) : Prop :=
  ∃ token, rest = token :: joint.semi :: joint.sign

def Joint.Clear (joint : Joint) (one two : Token) : Start :=
  ⟨fun state => state.peek = one, fun state mate => (joint.Showing one two).both state mate ∧ ¬joint.near state.rest⟩

def Joint.Nearby (joint : Joint) (one two : Token) : Start :=
  ⟨fun _ => False, fun state mate => (joint.Showing one two).both state mate ∧ joint.near state.rest⟩

inductive SeesBehind (first : TokenKind) (near : Prop) : Token → Token → Prop where
  | same (kind : TokenKind) (one two : Span) (newline : Bool) : SeesBehind first near ⟨kind, one, newline⟩ ⟨kind, two, newline⟩
  | past (semi : first = .punct .semi) (one two : Token) : SeesBehind first near one two
  | apart (here : near) (plain : first ≠ .identifier "let") (one two : Span) (newline : Bool) (name : String) :
      SeesBehind first near ⟨.punct .semi, one, newline⟩ ⟨.identifier name, two, true⟩

def TokenKind.bindsBehind : TokenKind → Bool
  | .identifier _ => true
  | .punct mark => mark ∈ [.lBracket, .lBrace]
  | _ => false

theorem let_declares_run (context : Context) (state : State) :
    letDeclares context state = .ok (state.peekAt 1).kind.bindsBehind state := by
  unfold letDeclares
  rw [bind_run]
  dsimp only [peekAt]
  cases (state.peekAt 1).kind <;> rfl

def TokenKind.declaresBefore (second : Token) : TokenKind → Bool
  | .keyword word => word ∈ [.varWord, .constWord, .functionWord, .classWord]
  | .identifier name =>
      if name = "let" then second.kind.bindsBehind
      else name == "async" && second.kind == .keyword .functionWord && !second.newlineBefore
  | _ => false

theorem declaration_ahead_run (context : Context) (state : State) :
    declarationAhead context state = .ok (state.peek.kind.declaresBefore (state.peekAt 1)) state := by
  unfold declarationAhead
  rw [bind_run]
  dsimp only [peek, peekAt, State.peek]
  generalize (state.peekAt 0).kind = kind
  have runs : ∀ parser : Parser Bool, (parser = fun _ state => .ok (kind.declaresBefore (state.peekAt 1)) state) →
      parser context state = .ok (kind.declaresBefore (state.peekAt 1)) state := by
    rintro _ rfl
    rfl
  refine runs _ ?_
  split
  · rfl
  · exact funext fun context => funext (let_declares_run context)
  · rfl
  · next noWord noLet noAsync =>
      cases kind with
      | identifier name =>
          have isLet : name ≠ "let" := fun same => noLet (congrArg _ same)
          have isAsync : name ≠ "async" := fun same => noAsync (congrArg _ same)
          simp only [TokenKind.declaresBefore, if_neg isLet, beq_eq_false_iff_ne.mpr isAsync, Bool.false_and]
          rfl
      | keyword word => exact absurd rfl (noWord word)
      | _ => rfl

section

variable {joint : Joint}

theorem second_peek (token : Token) (rest : List Token) (lastEnd : Nat) (recovered : List SyntaxError) :
    State.peekAt ⟨token :: rest, lastEnd, recovered⟩ 1 = State.peek ⟨rest, lastEnd, recovered⟩ := by
  cases rest <;> rfl

theorem tracks_second {state mate : State} (tracks : joint.Tracks state.rest mate.rest)
    (same : state.peek.kind = mate.peek.kind) :
    SeesBehind state.peek.kind (joint.near state.rest) (state.peekAt 1) (mate.peekAt 1) := by
  obtain ⟨rest, lastEnd, recovered⟩ := state
  obtain ⟨rest', lastEnd', recovered'⟩ := mate
  cases tracks with
  | before before =>
      cases before with
      | here ends => exact .past joint.isSemi _ _
      | further token plain behind =>
          rw [second_peek, second_peek, peek_cons]
          have sees := @tracks_sees joint ⟨_, lastEnd, recovered⟩ ⟨_, lastEnd', recovered'⟩ (.before behind)
          have apart := @tracks_apart joint ⟨_, lastEnd, recovered⟩ ⟨_, lastEnd', recovered'⟩ (.before behind)
          generalize State.peek _ = one at sees apart ⊢
          generalize State.peek _ = two at sees apart ⊢
          cases sees with
          | same kind one two newline => exact .same ..
          | apart one two newline name =>
              have short := (apart TokenKind.noConfusion).1
              exact .apart ⟨token, congrArg (token :: ·) short⟩ (fun isLet => plain isLet short) ..
  | level free =>
      cases rest with
      | nil => exact .same ..
      | cons token rest =>
          rw [second_peek, second_peek]
          cases rest with
          | nil => exact .same ..
          | cons second rest => exact .same second.kind second.span second.span second.newlineBefore

theorem starts_with_arrow_joint {rest other : List Token} (before : joint.Before rest other) :
    startsWithArrow rest = startsWithArrow other := by
  cases before with
  | further token plain behind => rfl
  | here ends =>
      subst ends
      cases kept : joint.kept with
      | true => rw [tail_kept kept, startsWithArrow, startsWithArrow]
      | false => simp [tail_dropped kept, startsWithArrow, joint.isSemi, Token.onNewLine]

theorem arrow_after_closing_joint {rest other : List Token} (before : joint.Before rest other) (depth : Nat) :
    arrowAfterClosing depth rest = arrowAfterClosing depth other := by
  induction before generalizing depth with
  | here ends =>
      obtain ⟨name, isName⟩ := joint.isName
      subst ends
      cases kept : joint.kept <;>
        simp [Joint.tail, Joint.onward, kept, Joint.sign, tick, Token.onNewLine, arrowAfterClosing,
          isOpening, isClosing, joint.isSemi, isName]
  | further token plain behind ih =>
      simp only [arrowAfterClosing, ih, starts_with_arrow_joint behind]

theorem arrow_head_joint (token : Token) {rest other : List Token} (before : joint.Before rest other) :
    arrowHead (token :: rest) = arrowHead (token :: other) := by
  simp only [arrowHead, starts_with_arrow_joint before, arrow_after_closing_joint before]

theorem arrow_ahead_joint {token : Token} {rest other : List Token} (before : joint.Before rest other) :
    arrowAhead (token :: rest) = arrowAhead (token :: other) := by
  have head := arrow_head_joint token before
  cases before with
  | further second plain behind =>
      have behindHead := arrow_head_joint second behind
      simp only [arrowAhead, head, behindHead]
  | here ends =>
      subst ends
      cases kept : joint.kept with
      | true =>
          rw [tail_kept kept] at head ⊢
          simp only [arrowAhead, joint.isSemi, startsParams, Bool.and_false, Bool.false_eq_true, if_false, head]
      | false =>
          rw [tail_dropped kept] at head ⊢
          simp only [arrowAhead, joint.isSemi, startsParams, Bool.and_false, Bool.false_eq_true, if_false, head,
            Token.onNewLine, Bool.not_true, Bool.false_and]

theorem no_arrow_near {token : Token} {name : String} (word : token.kind = .identifier name) :
    arrowAhead (token :: joint.semi :: joint.sign) = false := by
  simp [arrowAhead, arrowHead, startsWithArrow, startsParams, joint.isSemi, word]

theorem no_arrow_at_mark (token : Token) (rest : List Token) (mark : token.kind.Barred) : arrowAhead (token :: rest) = false := by
  rcases mark with semi | at_ <;> cases rest <;> simp [arrowAhead, arrowHead, *]

theorem barred_arrow {state : State} (stands : barred state.rest) : arrowAhead state.rest = false := by
  obtain ⟨token, first, mark⟩ := stands
  obtain ⟨rest, lastEnd, recovered⟩ := state
  cases rest with
  | nil => cases first
  | cons head rest =>
      cases first
      exact no_arrow_at_mark _ _ mark

theorem tracks_arrow {state mate : State} (tracks : joint.Tracks state.rest mate.rest)
    (same : state.peek.kind = mate.peek.kind) : arrowAhead state.rest = arrowAhead mate.rest := by
  obtain ⟨rest, lastEnd, recovered⟩ := state
  obtain ⟨rest', lastEnd', recovered'⟩ := mate
  cases tracks with
  | level free => rfl
  | before before =>
      cases before with
      | further token plain behind => exact arrow_ahead_joint behind
      | here ends =>
          subst ends
          cases kept : joint.kept with
          | true =>
              rw [tail_kept kept]
              exact (no_arrow_at_mark _ _ (.inl joint.isSemi)).trans (no_arrow_at_mark _ _ (.inl joint.isSemi)).symm
          | false =>
              obtain ⟨name, isName⟩ := joint.isName
              rw [tail_dropped kept, peek_cons, peek_cons, joint.isSemi, Token.onNewLine, isName] at same
              cases same

theorem sees_behind_refl {first : TokenKind} {near : Prop} (token : Token) : SeesBehind first near token token :=
  .same token.kind token.span token.span token.newlineBefore

theorem SeesBehind.mono {first : TokenKind} {near wider : Prop} {one two : Token} (within : near → wider)
    (sees : SeesBehind first near one two) : SeesBehind first wider one two := by
  cases sees with
  | same kind one two newline => exact .same ..
  | past semi one two => exact .past semi ..
  | apart here plain one two newline name => exact .apart (within here) plain ..

end

section

variable [Spanless α] {joint : Joint} {start : Start} {landing : Landing α} {one two : Token}

theorem Carries.glance {view viewMate : Parser γ} {next nextMate : γ → Parser α} (shown : γ → γ → Prop) (looks : Looks view)
    (alone : ∀ context state value, start.alone state → view context state = .ok value state → ∃ seen, shown value seen)
    (same : ∀ context state mate value, start.both state mate → view context state = .ok value state →
      ∃ seen, viewMate context mate = .ok seen mate ∧ shown value seen)
    (each : ∀ value seen, shown value seen → Carries start landing (next value) (nextMate seen)) :
    Carries start landing (view >>= next) (viewMate >>= nextMate) := by
  constructor
  · intro context state value after here success clean
    obtain ⟨shown, runs⟩ := looks context state
    obtain ⟨seen, alike⟩ := alone context state shown here runs
    rw [bind_run_ok runs] at success
    exact (each shown seen alike).grows context state value after here success clean
  · intro context state mate value after both untouched success clean
    obtain ⟨shown, runs⟩ := looks context state
    obtain ⟨seen, ran, alike⟩ := same context state mate shown both runs
    rw [bind_run_ok runs] at success
    rw [bind_run_ok ran]
    exact (each shown seen alike).carries context state mate value after both untouched success clean

theorem Carries.offset {next nextMate : Nat → Parser α} (each : ∀ value seen, Carries start landing (next value) (nextMate seen)) :
    Carries start landing (startOffset >>= next) (startOffset >>= nextMate) :=
  .glance (fun _ _ => True) looks_start_offset (fun _ _ value _ _ => ⟨value, trivial⟩)
    (fun _ _ mate _ _ _ => ⟨mate.peek.span.start, rfl, trivial⟩) fun value seen _ => each value seen

theorem Carries.asking {next nextMate : Context → Parser α} (each : ∀ context, Carries start landing (next context) (nextMate context)) :

    Carries start landing (Parser.context >>= next) (Parser.context >>= nextMate) :=
  .glance (· = ·) looks_context (fun _ _ value _ _ => ⟨value, rfl⟩)
    (fun context _ _ _ _ runs => by
      cases runs
      exact ⟨context, rfl, rfl⟩)
    fun value seen same => same ▸ each value

theorem Carries.decided {view : Parser γ} {next nextMate : γ → Parser α} {near : Prop} (decides : TokenKind → Token → γ)
    (runs : ∀ context state, view context state = .ok (decides state.peek.kind (state.peekAt 1)) state)
    (sees : ∀ state mate, start.both state mate → state.peek.kind = one.kind ∧ mate.peek.kind = one.kind ∧
      SeesBehind one.kind near (state.peekAt 1) (mate.peekAt 1))
    (shown : γ → γ → Prop) (reflexive : ∀ value, shown value value)
    (alike : ∀ second behind, SeesBehind one.kind near second behind →
      shown (decides one.kind second) (decides one.kind behind))
    (each : ∀ found seen, shown found seen → Carries start landing (next found) (nextMate seen)) :
    Carries start landing (view >>= next) (view >>= nextMate) := by
  refine .glance shown (fun context state => ⟨_, runs context state⟩) (fun _ _ value _ _ => ⟨value, reflexive value⟩) ?_ each
  intro context state mate found both looked
  obtain ⟨here, there, behind⟩ := sees state mate both
  rw [runs, here] at looked
  cases looked
  exact ⟨_, runs context mate, there ▸ alike _ _ behind⟩

theorem showing_second (same : one.kind = two.kind) (state mate : State) (both : (joint.Showing one two).both state mate) :
    state.peek.kind = one.kind ∧ mate.peek.kind = one.kind ∧
      SeesBehind one.kind True (state.peekAt 1) (mate.peekAt 1) := by
  obtain ⟨tracks, here, there⟩ := both
  have sees := tracks_second tracks (by rw [here, there, same])
  rw [here] at sees ⊢
  rw [there]
  exact ⟨rfl, same.symm, sees.mono fun _ => trivial⟩

theorem clear_second (same : one.kind = two.kind) (state mate : State) (both : (joint.Clear one two).both state mate) :
    state.peek.kind = one.kind ∧ mate.peek.kind = one.kind ∧
      SeesBehind one.kind False (state.peekAt 1) (mate.peekAt 1) := by
  obtain ⟨⟨tracks, here, there⟩, clear⟩ := both
  have sees := tracks_second tracks (by rw [here, there, same])
  rw [here] at sees ⊢
  rw [there]
  exact ⟨rfl, same.symm, sees.mono clear⟩

theorem Carries.ahead {next nextMate : Token → Parser α}
    (each : ∀ second behind, SeesBehind one.kind True second behind →
      Carries (joint.Showing one two) landing (next second) (nextMate behind)) (same : one.kind = two.kind) :
    Carries (joint.Showing one two) landing (peekAt 1 >>= next) (peekAt 1 >>= nextMate) :=
  .decided (fun _ second => second) (fun _ _ => rfl) (showing_second same) (SeesBehind one.kind True) sees_behind_refl (fun _ _ => id) each

theorem Carries.aheadClear {next nextMate : Token → Parser α}
    (each : ∀ second behind, SeesBehind one.kind False second behind →
      Carries (joint.Clear one two) landing (next second) (nextMate behind)) (same : one.kind = two.kind) :
    Carries (joint.Clear one two) landing (peekAt 1 >>= next) (peekAt 1 >>= nextMate) :=
  .decided (fun _ second => second) (fun _ _ => rfl) (clear_second same) (SeesBehind one.kind False) sees_behind_refl (fun _ _ => id) each

theorem Carries.clear {parser mate : Parser α} (carries : Carries (joint.Showing one two) landing parser mate) :
    Carries (joint.Clear one two) landing parser mate :=
  carries.weaken (fun _ => id) (fun _ _ both => both.1) (fun _ _ _ => .inl) fun _ _ => id

theorem Carries.either {first second : Start} {parser mate : Parser α} (one : Carries first landing parser mate)
    (two : Carries second landing parser mate) (alone : ∀ state, start.alone state → first.alone state)
    (both : ∀ state mate, start.both state mate → first.both state mate ∨ second.both state mate) :
    Carries start landing parser mate :=
  ⟨fun context state value after here => one.grows context state value after (alone state here),
    fun context state other value after stands => (both state other stands).elim
      (one.carries context state other value after) (two.carries context state other value after)⟩

theorem Carries.clearOrNear {parser mate : Parser α} (clear : Carries (joint.Clear one two) landing parser mate)
    (near : Carries (joint.Nearby one two) landing parser mate) : Carries (joint.Showing one two) landing parser mate :=
  .either clear near (fun _ => id) fun state _ both => (Classical.em (joint.near state.rest)).symm.imp (⟨both, ·⟩) (⟨both, ·⟩)

theorem Carries.unlessNear {parser mate : Parser α} (clear : Carries (joint.Clear one two) landing parser mate)
    (falls : Falls joint.near landing.lost parser) : Carries (joint.Showing one two) landing parser mate :=
  clear.clearOrNear ⟨fun _ _ _ _ never => never.elim,
    fun context state _ value after both _ success _ => .inl (falls context state value after both.2 success)⟩

theorem Carries.checkClear {kind : TokenKind} {next nextMate : Bool → Parser α}
    (each : Carries (joint.Clear one two) landing (next (one.kind == kind)) (nextMate (two.kind == kind))) :
    Carries (joint.Clear one two) landing (Script.check kind >>= next) (Script.check kind >>= nextMate) := by
  constructor
  · intro context state value after here success
    have runs : (Script.check kind >>= next) context state = next (state.peek.kind == kind) context state := rfl
    rw [runs, show state.peek = one from here] at success
    exact each.grows context state value after here success
  · intro context state mate value after both untouched success
    have runs : (Script.check kind >>= next) context state = next (state.peek.kind == kind) context state := rfl
    have otherRuns : (Script.check kind >>= nextMate) context mate = nextMate (mate.peek.kind == kind) context mate := rfl
    rw [runs, both.1.2.1] at success
    rw [otherRuns, both.1.2.2]
    exact each.carries context state mate value after both untouched success

theorem Carries.functionAhead {next nextMate : Bool → Parser α} (same : one.kind = two.kind)
    (each : ∀ found seen, (one.kind ≠ .punct .semi → found = seen) →
      Carries (joint.Showing one two) landing (next found) (nextMate seen)) :
    Carries (joint.Showing one two) landing (asyncFunctionAhead >>= next) (asyncFunctionAhead >>= nextMate) :=
  .decided (fun _ second => second.kind == .keyword .functionWord && !second.newlineBefore) (fun _ _ => rfl)
    (showing_second same) (fun found seen => one.kind ≠ .punct .semi → found = seen) (fun _ _ => rfl)
    (fun second behind sees plain => by
      cases sees with
      | same => rfl
      | past semi => exact absurd semi plain
      | apart => rfl)
    each

theorem Carries.letAhead {next nextMate : Bool → Parser α} (same : one.kind = two.kind)
    (each : ∀ found seen, (one.kind = .identifier "let" → found = seen) →
      Carries (joint.Showing one two) landing (next found) (nextMate seen)) :
    Carries (joint.Showing one two) landing (letDeclares >>= next) (letDeclares >>= nextMate) :=
  .decided (fun _ second => second.kind.bindsBehind) let_declares_run (showing_second same)
    (fun found seen => one.kind = .identifier "let" → found = seen) (fun _ _ => rfl)
    (fun second behind sees isLet => by
      cases sees with
      | same => rfl
      | past semi =>
          rw [isLet] at semi
          cases semi
      | apart here plain => exact absurd isLet plain)
    each

theorem declares_alike {kind : TokenKind} {near : Prop} {second behind : Token} (sees : SeesBehind kind near second behind) :
    kind.declaresBefore second = kind.declaresBefore behind := by
  cases sees with
  | same => rfl
  | past semi =>
      rw [semi]
      rfl
  | apart near plain =>
      cases kind with
      | identifier word =>
          have other : word ≠ "let" := fun isLet => plain (congrArg _ isLet)
          rw [TokenKind.declaresBefore, TokenKind.declaresBefore, if_neg other, if_neg other]
          cases word == "async" <;> rfl
      | _ => rfl

theorem Carries.declarationAhead {next nextMate : Bool → Parser α} (same : one.kind = two.kind)
    (each : ∀ found, Carries (joint.Showing one two) landing (next found) (nextMate found)) :
    Carries (joint.Showing one two) landing (Script.declarationAhead >>= next) (Script.declarationAhead >>= nextMate) :=
  .decided (fun kind second => kind.declaresBefore second) declaration_ahead_run (showing_second same) (· = ·) (fun _ => rfl)
    (fun _ _ => declares_alike) fun found _ same => same ▸ each found

theorem Carries.arrow {next nextMate : Bool → Parser α} (same : one.kind = two.kind)
    (named : ∀ name, one.kind = .identifier name → Carries (joint.Clear one two) landing (next true) (nextMate true))
    (other : (∀ name, one.kind ≠ .identifier name) → Carries (joint.Showing one two) landing (next true) (nextMate true))
    (no : Carries (joint.Showing one two) landing (next false) (nextMate false)) :
    Carries (joint.Showing one two) landing (isArrowAhead >>= next) (isArrowAhead >>= nextMate) := by
  have tracked : ∀ context state mate found, (joint.Showing one two).both state mate →
      isArrowAhead context state = .ok found state → ∃ seen, isArrowAhead context mate = .ok seen mate ∧ found = seen := by
    rintro context state mate found ⟨tracks, here, there⟩ runs
    cases runs
    exact ⟨_, rfl, tracks_arrow tracks (by rw [here, there, same])⟩
  by_cases word : ∃ name, one.kind = .identifier name
  · obtain ⟨name, word⟩ := word
    refine .clearOrNear
      (.glance (· = ·) looks_is_arrow_ahead (fun _ _ value _ _ => ⟨value, rfl⟩)
        (fun context state mate found both => tracked context state mate found both.1) ?_)
      (.glance (fun found seen => found = false ∧ found = seen) looks_is_arrow_ahead (fun _ _ _ never => never.elim) ?_ ?_)
    · rintro found _ rfl
      cases found with
      | true => exact named name word
      | false => exact no.clear
    · rintro context state mate found ⟨both, token, near⟩ runs
      have first : state.peek = token := by simp [State.peek, State.peekAt, near]
      obtain ⟨seen, ran, alike⟩ := tracked context state mate found both runs
      cases runs
      refine ⟨seen, ran, ?_, alike⟩
      rw [near, no_arrow_near (by rw [← first, both.2.1, word])]
    · rintro _ _ ⟨rfl, rfl⟩
      exact no.weaken (fun _ never => never.elim) (fun _ _ both => both.1) (fun _ _ _ => .inl) fun _ _ => id
  · refine .glance (· = ·) looks_is_arrow_ahead (fun _ _ value _ _ => ⟨value, rfl⟩) tracked ?_
    rintro found _ rfl
    cases found with
    | true => exact other fun name isName => word ⟨name, isName⟩
    | false => exact no

theorem Carries.congr {parser other mate mateOther : Parser α} (carries : Carries (joint.Showing one two) landing other mateOther)
    (first : ∀ context (state : State), state.peek = one → parser context state = other context state)
    (second : ∀ context (state : State), state.peek = two → mate context state = mateOther context state) :
    Carries (joint.Showing one two) landing parser mate := by
  constructor
  · intro context state value after here success
    rw [first context state here] at success
    exact carries.grows context state value after here success
  · intro context state other value after both untouched success
    rw [first context state both.2.1] at success
    rw [second context other both.2.2]
    exact carries.carries context state other value after both untouched success

end

end ScriptSuite.Script
