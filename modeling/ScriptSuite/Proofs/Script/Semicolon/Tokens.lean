import ScriptSuite.Proofs.Script.Semicolon.Rules

set_option autoImplicit false

namespace ScriptSuite.Script

variable {α β : Type}

def TokenKind.Barred (kind : TokenKind) : Prop :=
  kind = .punct .semi ∨ kind = .punct .at

def barred (rest : List Token) : Prop :=
  ∃ token ∈ rest.head?, token.kind.Barred

theorem barred_peek {state : State} (stands : barred state.rest) : state.peek.kind.Barred := by
  obtain ⟨token, first, kind⟩ := stands
  obtain ⟨rest, lastEnd, recovered⟩ := state
  cases rest with
  | nil => cases first
  | cons head rest =>
      cases first
      exact kind

theorem Joint.short_barred (joint : Joint) (rest : List Token) (stands : joint.short rest) : barred rest :=
  ⟨joint.semi, by rw [stands]; rfl, .inl joint.isSemi⟩

theorem Joint.past_barred (joint : Joint) (rest : List Token) (stands : joint.past rest) : barred rest :=
  ⟨tick, by rw [stands]; rfl, .inr rfl⟩

def TokenKind.other : TokenKind → Bool
  | .punct .semi | .punct .at => false
  | _ => true

theorem TokenKind.Barred.differs {kind wanted : TokenKind} (barred : kind.Barred) (other : wanted.other = true) :
    kind ≠ wanted := by
  rintro rfl
  rcases barred with rfl | rfl <;> cases other

section

variable {place : List Token → Prop} {lost : β → List Token → Prop}

def Halts (parser : Parser α) : Prop :=
  Falls barred (fun _ _ => False) parser

theorem Falls.mono {wider : List Token → Prop} {lost : α → List Token → Prop} {parser : Parser α}
    (falls : Falls wider lost parser) (within : ∀ rest, place rest → wider rest) : Falls place lost parser :=
  fun context state value after stands => falls context state value after (within state.rest stands)

theorem Falls.mono_lost {parser : Parser α} {lost wider : α → List Token → Prop} (falls : Falls place lost parser)
    (within : ∀ value rest, lost value rest → wider value rest) : Falls place wider parser :=
  fun context state value after stands success =>
    within value after.rest (falls context state value after stands success)

theorem Falls.bind {parser : Parser α} {next : α → Parser β} {early : α → List Token → Prop}
    (one : Falls place early parser) (two : ∀ value, Falls (early value) lost (next value)) :
    Falls place lost (parser >>= next) := by
  intro context state value after stands success
  obtain ⟨middle, between, read, finished⟩ := bind_ok success
  exact two middle context between value after (one context state middle between stands read) finished

theorem Falls.halts {parser : Parser α} {lost : α → List Token → Prop} (halts : Halts parser)
    (bars : ∀ rest, place rest → barred rest) : Falls place lost parser :=
  fun context state value after stands success => (halts context state value after (bars state.rest stands) success).elim

theorem Falls.first {parser : Parser α} {next : α → Parser β} (halts : Halts parser) (bars : ∀ rest, place rest → barred rest) :
    Falls place lost (parser >>= next) :=
  .bind (.halts halts bars : Falls place (fun _ _ => False) parser) fun _ _ _ _ _ never => never.elim

theorem Falls.look {view : Parser α} {next : α → Parser β} (looks : Looks view) (each : ∀ value, Falls place lost (next value)) :
    Falls place lost (view >>= next) := by
  intro context state value after stands success
  obtain ⟨seen, runs⟩ := looks context state
  rw [bind_run_ok runs] at success
  exact each seen context state value after stands success

theorem Falls.peek {next : Token → Parser β} (bars : ∀ rest, place rest → barred rest)
    (semi : ∀ span newline, Falls place lost (next ⟨.punct .semi, span, newline⟩))
    (tick : ∀ span newline, Falls place lost (next ⟨.punct .at, span, newline⟩)) : Falls place lost (peek >>= next) := by
  intro context state value after stands success
  have here := barred_peek (bars state.rest stands)
  have runs : (Script.peek >>= next) context state = next state.peek context state := rfl
  rw [runs] at success
  generalize state.peek = token at here success
  obtain ⟨kind, span, newline⟩ := token
  rcases here with rfl | rfl
  · exact semi span newline context state value after stands success
  · exact tick span newline context state value after stands success

theorem Falls.check {kind : TokenKind} {next : Bool → Parser β} (bars : ∀ rest, place rest → barred rest)
    (other : kind.other = true) (each : Falls place lost (next false)) : Falls place lost (check kind >>= next) := by
  intro context state value after stands success
  have differs := (barred_peek (bars state.rest stands)).differs other
  rw [bind_run, check_run, beq_eq_false_iff_ne.mpr differs] at success
  exact each context state value after stands success

theorem Falls.accept {kind : TokenKind} {next : Bool → Parser β} (bars : ∀ rest, place rest → barred rest)
    (other : kind.other = true) (each : Falls place lost (next false)) : Falls place lost (accept kind >>= next) := by
  intro context state value after stands success
  have differs := (barred_peek (bars state.rest stands)).differs other
  rw [bind_run, accept_run, if_neg differs] at success
  exact each context state value after stands success

theorem Falls.unaccepted {kind : TokenKind} {yes no : Parser β} (bars : ∀ rest, place rest → barred rest)
    (other : kind.other = true) (each : Falls place lost no) :
    Falls place lost (Script.accept kind >>= fun found => if found = true then yes else no) :=
  .accept bars other (by rwa [if_neg Bool.false_ne_true])

theorem Falls.unchecked {kind : TokenKind} {yes no : Parser β} (bars : ∀ rest, place rest → barred rest)
    (other : kind.other = true) (each : Falls place lost no) :
    Falls place lost (Script.check kind >>= fun found => if found = true then yes else no) :=
  .check bars other (by rwa [if_neg Bool.false_ne_true])

theorem Falls.ite {condition : Prop} [Decidable condition] {yes no : Parser β} (one : Falls place lost yes)
    (two : Falls place lost no) : Falls place lost (if condition then yes else no) := by
  split
  · exact one
  · exact two

theorem Falls.pure {value : β} (kept : ∀ rest, place rest → lost value rest) : Falls place lost (Pure.pure value) := by
  intro context state value after stands success
  cases success
  exact kept state.rest stands

theorem Halts.first {parser : Parser α} {next : α → Parser β} (halts : Halts parser) : Halts (parser >>= next) :=
  Falls.first halts fun _ => id

theorem Halts.within {change : Context → Context} {parser : Parser α} (halts : Halts parser) :
    Halts (Parser.within change parser) :=
  fun context => halts (change context)

theorem Halts.look {view : Parser α} {next : α → Parser β} (looks : Looks view) (each : ∀ value, Halts (next value)) :
    Halts (view >>= next) :=
  Falls.look looks each

theorem Halts.peek {next : Token → Parser β} (semi : ∀ span newline, Halts (next ⟨.punct .semi, span, newline⟩))
    (tick : ∀ span newline, Halts (next ⟨.punct .at, span, newline⟩)) : Halts (peek >>= next) :=
  Falls.peek (fun _ => id) semi tick

theorem Halts.check {kind : TokenKind} {next : Bool → Parser β} (other : kind.other = true) (each : Halts (next false)) :
    Halts (check kind >>= next) :=
  Falls.check (fun _ => id) other each

theorem falls_unexpected (wanted : Expectation) : Falls place lost (unexpected wanted) := by
  intro context state value after _ success
  cases success

theorem falls_fail (error : SyntaxError) : Falls place lost (Parser.fail error) := by
  intro context state value after _ success
  cases success

theorem halts_unexpected (wanted : Expectation) : Halts (unexpected wanted : Parser α) :=
  falls_unexpected wanted

theorem halts_expect {kind : TokenKind} (other : kind.other = true) (wanted : Expectation) : Halts (expect kind wanted) :=
  .check other (halts_unexpected wanted)

end

section

variable [Spanless α] [Spanless β] {joint : Joint} {landing : Landing α} {parser mate : Parser α} {one two : Token}

theorem Carries.shown (each : ∀ one two, Sees one two → Carries (joint.Showing one two) landing parser mate) :
    Carries joint.Tracking landing parser mate := by
  constructor
  · intro context state value after _
    exact (each state.peek state.peek (sees_refl _)).grows context state value after rfl
  · intro context state other value after both
    exact (each state.peek other.peek (tracks_sees both)).carries context state other value after ⟨both, rfl, rfl⟩

theorem Carries.unlessApart
    (same : ∀ kind one two newline, Carries (joint.Showing ⟨kind, one, newline⟩ ⟨kind, two, newline⟩) landing parser mate)
    (falls : Falls joint.short landing.lost parser) : Carries joint.Tracking landing parser mate := by
  refine .shown fun first second sees => ?_
  cases sees with
  | same kind one two newline => exact same kind one two newline
  | apart one two newline name =>
      refine ⟨(same _ one one newline).grows, ?_⟩
      rintro context state other value after ⟨tracks, here, there⟩ _ success _
      have short := (tracks_apart tracks (by rw [here, there]; exact TokenKind.noConfusion)).1
      exact .inl (falls context state value after short success)

theorem Carries.halting
    (same : ∀ kind one two newline, Carries (joint.Showing ⟨kind, one, newline⟩ ⟨kind, two, newline⟩) landing parser mate)
    (halts : Halts parser) : Carries joint.Tracking landing parser mate :=
  .unlessApart same (.halts halts joint.short_barred)

theorem Carries.peeked {next nextMate : Token → Parser α} (each : Carries (joint.Showing one two) landing (next one) (nextMate two)) :
    Carries (joint.Showing one two) landing (peek >>= next) (peek >>= nextMate) := by
  constructor
  · intro context state value after here success
    have runs : (peek >>= next) context state = next state.peek context state := rfl
    rw [runs, here] at success
    exact each.grows context state value after here success
  · intro context state other value after both untouched success
    have runs : (peek >>= next) context state = next state.peek context state := rfl
    have otherRuns : (peek >>= nextMate) context other = nextMate other.peek context other := rfl
    rw [runs, both.2.1] at success
    rw [otherRuns, both.2.2]
    exact each.carries context state other value after both untouched success

theorem Carries.peek {next nextMate : Token → Parser α}
    (same : ∀ kind one two newline, Carries (joint.Showing ⟨kind, one, newline⟩ ⟨kind, two, newline⟩) landing
      (next ⟨kind, one, newline⟩) (nextMate ⟨kind, two, newline⟩))
    (apart : ∀ one two newline name, Carries (joint.Showing ⟨.punct .semi, one, newline⟩ ⟨.identifier name, two, true⟩) landing
      (next ⟨.punct .semi, one, newline⟩) (nextMate ⟨.identifier name, two, true⟩)) :
    Carries joint.Tracking landing (peek >>= next) (peek >>= nextMate) :=
  .shown fun first second sees => .peeked (by
    cases sees with
    | same kind one two newline => exact same kind one two newline
    | apart one two newline name => exact apart one two newline name)

theorem Carries.check {kind : TokenKind} {next nextMate : Bool → Parser α}
    (each : Carries (joint.Showing one two) landing (next (one.kind == kind)) (nextMate (two.kind == kind))) :
    Carries (joint.Showing one two) landing (check kind >>= next) (check kind >>= nextMate) :=
  @Carries.peeked _ _ _ _ _ _ (fun token => next (token.kind == kind)) (fun token => nextMate (token.kind == kind)) each

end

def TokenKind.blind : TokenKind → Bool
  | .punct .semi | .identifier _ => false
  | _ => true

theorem sees_blind {one two : Token} (sees : Sees one two) {kind : TokenKind} (blind : kind.blind = true) :
    (one.kind == kind) = (two.kind == kind) := by
  cases sees with
  | same => rfl
  | apart one two newline name =>
      have noSemi : TokenKind.punct .semi ≠ kind := by
        rintro rfl
        cases blind
      have noName : TokenKind.identifier name ≠ kind := by
        rintro rfl
        cases blind
      rw [beq_eq_false_iff_ne.mpr noSemi, beq_eq_false_iff_ne.mpr noName]

section

variable [Spanless α] [Spanless β] {joint : Joint} {start : Start} {landing : Landing α} {parser mate : Parser α}

theorem Carries.looking (looks : Looks parser) (same : ∀ context state other value, joint.Tracks state.rest other.rest →
    parser context state = .ok value state → ∃ seen, mate context other = .ok seen other ∧ Alike value seen) :
    Carries joint.Tracking joint.inside parser mate := by
  constructor
  · intro context state value after _ success clean
    obtain ⟨seen, runs⟩ := looks context state
    rw [runs] at success
    cases success
    exact clean
  · intro context state other value after both untouched success _
    obtain ⟨shown, runs⟩ := looks context state
    rw [runs] at success
    cases success
    obtain ⟨seen, ran, alike⟩ := same context state other value both runs
    exact .inr ⟨seen, other, ran, alike, both, untouched⟩

omit [Spanless α] in
theorem looks_start_offset : Looks startOffset :=
  fun _ state => ⟨state.peek.span.start, rfl⟩

theorem carries_check {kind : TokenKind} (blind : kind.blind = true) :
    Carries joint.Tracking joint.inside (check kind) (check kind) :=
  .looking (fun _ _ => ⟨_, rfl⟩) fun _ _ _ _ tracks runs => by
    cases runs
    exact ⟨_, rfl, sees_blind (tracks_sees tracks) blind⟩

theorem carries_at_end : Carries joint.Tracking joint.inside atEnd atEnd :=
  carries_check (rfl : TokenKind.endOfFile.blind = true)

theorem carries_spanned_at {begins other : Nat} {node seen : α} (alike : Alike node seen) {landing : Landing (Spanned α)}
    (meets : ∀ span state mate, start.both state mate → landing.meets ⟨node, span⟩ state.rest mate.rest) :
    Carries start landing (spannedFrom begins node) (spannedFrom other seen) := by
  constructor
  · intro context state value after _ success clean
    cases success
    exact clean
  · intro context state mate value after both untouched success _
    cases success
    have same : Alike (⟨node, ⟨begins, max state.lastEnd begins⟩⟩ : Spanned α) ⟨seen, ⟨other, max mate.lastEnd other⟩⟩ :=
      congrArg (fun node => (⟨node, ⟨0, 0⟩⟩ : Spanned α)) alike
    exact .inr ⟨_, mate, rfl, same, meets _ state mate both, untouched⟩

theorem carries_spanned_from {begins other : Nat} {node seen : α} (alike : Alike node seen)
    {lost : Spanned α → List Token → Prop} :
    Carries joint.Tracking ⟨fun _ => joint.Tracks, lost⟩ (spannedFrom begins node) (spannedFrom other seen) :=
  carries_spanned_at alike fun _ _ _ => id

omit [Spanless α] in
theorem advance_recovered (state : State) : state.advance.recovered = state.recovered := by
  obtain ⟨rest, lastEnd, recovered⟩ := state
  cases rest with
  | nil => rfl
  | cons token rest =>
      rw [State.advance]
      dsimp only
      split <;> rfl

theorem carries_advance_past {kind : TokenKind} {one two : Span} {newline : Bool} {place : List Token → Prop}
    (past : kind = .punct .semi → ∀ rest, joint.past rest → place rest) :
    Carries (joint.Showing ⟨kind, one, newline⟩ ⟨kind, two, newline⟩) (joint.losing place) advance advance := by
  constructor
  · intro context state value after _ success clean
    cases success
    rwa [advance_recovered] at clean
  · rintro context state mate value after ⟨tracks, here, there⟩ untouched success _
    cases success
    have alike : Alike state.peek mate.peek := by
      rw [here, there]
      rfl
    rcases tracks_advance tracks (by rw [here, there]) with tracked | ⟨semi, gone, _⟩
    · exact .inr ⟨mate.peek, mate.advance, rfl, alike, tracked, by rw [advance_recovered]; exact untouched⟩
    · rw [here] at semi
      exact .inl (past semi _ gone)

theorem carries_advance {kind : TokenKind} {one two : Span} {newline : Bool} (other : kind ≠ .punct .semi) :
    Carries (joint.Showing ⟨kind, one, newline⟩ ⟨kind, two, newline⟩) joint.inside advance advance :=
  carries_advance_past fun semi => absurd semi other

theorem Carries.advance {kind : TokenKind} {one two : Span} {newline : Bool} {next nextMate : Token → Parser β}
    {late : Landing β} (other : kind ≠ .punct .semi)
    (each : ∀ token seen, Alike token seen → Carries joint.Tracking late (next token) (nextMate seen)) :
    Carries (joint.Showing ⟨kind, one, newline⟩ ⟨kind, two, newline⟩) late (Script.advance >>= next)
      (Script.advance >>= nextMate) :=
  .then (carries_advance other) each

theorem carries_accept {kind : TokenKind} (blind : kind.blind = true) :
    Carries joint.Tracking joint.inside (accept kind) (accept kind) := by
  refine .shown fun one two sees => .check ?_
  rw [← sees_blind sees blind]
  cases sees with
  | same seen one two newline =>
      refine .branch (fun found => .advance ?_ fun _ _ _ => .pure rfl) fun _ => .at (.pure rfl)
      rintro rfl
      rw [← beq_iff_eq.mp found] at blind
      cases blind
  | apart one two newline name =>
      rw [if_neg (by rintro found; rw [← beq_iff_eq.mp found] at blind; cases blind)]
      exact .at (.pure rfl)

omit [Spanless α] in
theorem falls_spanned_from {place : List Token → Prop} (begins : Nat) (node : α) :
    Falls place (fun _ => place) (spannedFrom begins node) := by
  intro context state value after stands success
  cases success
  exact stands

theorem falls_accept {place : List Token → Prop} {kind : TokenKind} (bars : ∀ rest, place rest → barred rest)
    (other : kind.other = true) : Falls place (fun _ => place) (accept kind) := by
  intro context state value after stands success
  rw [accept_run, if_neg ((barred_peek (bars state.rest stands)).differs other)] at success
  cases success
  exact stands

theorem carries_accept_word (word : String) :
    Carries joint.Tracking (joint.losing joint.short) (acceptWord word) (acceptWord word) :=
  .unlessApart
    (fun kind one two newline => .check (.branch
      (fun found => .advance (by rintro rfl; cases beq_iff_eq.mp found) fun _ _ _ => .pure rfl)
      fun _ => .at (.pure rfl)))
    (falls_accept joint.short_barred rfl)

theorem carries_expect {kind : TokenKind} (other : kind.other = true) (wanted : Expectation) :
    Carries joint.Tracking joint.inside (expect kind wanted) (expect kind wanted) :=
  .halting
    (fun seen one two newline => .check (.branch
      (fun found => carries_advance fun semi => by
        rw [← beq_iff_eq.mp found, semi] at other
        cases other)
      fun _ => .unexpected wanted))
    (halts_expect other wanted)

theorem carries_expect_punct {mark : Punct} (other : (TokenKind.punct mark).other = true) :
    Carries joint.Tracking joint.inside (expectPunct mark) (expectPunct mark) :=
  carries_expect other _

theorem carries_expect_keyword (word : Keyword) :
    Carries joint.Tracking joint.inside (expectKeyword word) (expectKeyword word) :=
  carries_expect rfl _

theorem carries_expect_word (word : String) : Carries joint.Tracking joint.inside (expectWord word) (expectWord word) :=
  carries_expect rfl _

theorem carries_accept_punct {mark : Punct} (blind : (TokenKind.punct mark).blind = true) :
    Carries joint.Tracking joint.inside (acceptPunct mark) (acceptPunct mark) :=
  carries_accept blind

theorem carries_accept_keyword (word : Keyword) :
    Carries joint.Tracking joint.inside (acceptKeyword word) (acceptKeyword word) :=
  carries_accept rfl

theorem falls_advance : Falls joint.short (fun _ => joint.past) advance := by
  intro context state value after stands success
  obtain ⟨rest, lastEnd, recovered⟩ := state
  cases stands
  rw [advance_run _ _ _ _ _ (by simp [joint.isSemi])] at success
  cases success
  rfl

theorem past_peek {state : State} (stands : joint.past state.rest) : state.peek = tick := by
  obtain ⟨rest, lastEnd, recovered⟩ := state
  cases stands
  rfl

omit [Spanless α] [Spanless β] in
theorem Falls.unacceptedPast {kind : TokenKind} {yes no : Parser β} {lost : β → List Token → Prop}
    (differs : TokenKind.punct .at ≠ kind) (each : Falls joint.past lost no) :
    Falls joint.past lost (Script.accept kind >>= fun found => if found = true then yes else no) := by
  intro context state value after stands success
  rw [bind_run, accept_run, if_neg (by rw [past_peek stands]; exact differs)] at success
  exact each context state value after stands success

omit [Spanless α] [Spanless β] in
theorem Falls.uncheckedPast {kind : TokenKind} {yes no : Parser β} {lost : β → List Token → Prop}
    (differs : TokenKind.punct .at ≠ kind) (each : Falls joint.past lost no) :
    Falls joint.past lost (Script.check kind >>= fun found => if found = true then yes else no) := by
  intro context state value after stands success
  rw [bind_run, check_run, beq_eq_false_iff_ne.mpr (by rw [past_peek stands]; exact differs)] at success
  exact each context state value after stands success

omit [Spanless α] in
theorem short_peek {state : State} (stands : joint.short state.rest) : state.peek.kind = .punct .semi := by
  obtain ⟨rest, lastEnd, recovered⟩ := state
  cases stands
  exact joint.isSemi

theorem falls_expect_semi : Falls joint.short (fun _ => joint.past) (expectPunct .semi) := by
  intro context state value after stands success
  rw [expectPunct, expect_run, if_pos (short_peek stands)] at success
  exact falls_advance context state value after stands success

theorem carries_expect_semi : Carries joint.Tracking (joint.losing joint.past) (expectPunct .semi) (expectPunct .semi) :=
  .unlessApart
    (fun _ _ _ _ => .check (.branch (fun _ => carries_advance_past fun _ _ => id) fun _ => .unexpected _)) falls_expect_semi

theorem falls_accept_semi : Falls joint.short (fun _ => joint.past) (acceptPunct .semi) := by
  intro context state value after stands success
  rw [acceptPunct, accept_run, if_pos (short_peek stands)] at success
  cases success
  exact falls_advance context state _ _ stands rfl

theorem carries_accept_semi : Carries joint.Tracking (joint.losing joint.past) (acceptPunct .semi) (acceptPunct .semi) :=
  .unlessApart
    (fun _ _ _ _ => .check (.branch
      (fun _ => .unlessLost (carries_advance_past fun _ _ => id) (fun _ => .pure fun _ => id) fun _ _ _ => .pure rfl)
      fun _ => .at (.pure rfl)))
    falls_accept_semi

def Joint.closing (joint : Joint) : Landing Unit :=
  ⟨fun _ rest mate => joint.Tracks rest mate ∨ joint.past rest ∧ mate = joint.onward, fun _ _ => False⟩

omit [Spanless α] in
theorem consume_semicolon_run (context : Context) (state : State) :
    consumeSemicolon context state =
      if state.peek.kind = .punct .semi then .ok () state.advance
      else if (state.peek.newlineBefore || state.peek.kind == .endOfFile || state.peek.kind == .punct .rBrace) = true then
        .ok () state
      else .error ⟨.unexpected (.mark .semi) state.peek.kind, state.peek.span⟩ state := by
  unfold consumeSemicolon
  rw [bind_run, acceptPunct, accept_run]
  by_cases semi : state.peek.kind = .punct .semi
  · rw [if_pos semi, if_pos semi]
    rfl
  · rw [if_neg semi, if_neg semi]
    by_cases ends : (state.peek.newlineBefore || state.peek.kind == .endOfFile || state.peek.kind == .punct .rBrace) = true
    · rw [if_pos ends]
      exact congrFun (congrFun (if_pos ends) context) state
    · rw [if_neg ends]
      exact congrFun (congrFun (@if_neg _ _ ends (Parser Unit) (Pure.pure ()) (unexpected (.mark .semi))) context) state

theorem carries_consume_semicolon : Carries joint.Tracking joint.closing consumeSemicolon consumeSemicolon := by
  constructor
  · intro context state value after _ success clean
    rw [consume_semicolon_run] at success
    split at success
    · cases success
      rwa [advance_recovered] at clean
    · split at success
      · cases success
        exact clean
      · cases success
  · intro context state mate value after tracks untouched success _
    have sees := tracks_sees tracks
    have apart := @tracks_apart joint state mate tracks
    have advanced := @tracks_advance joint state mate tracks
    refine .inr ?_
    rw [consume_semicolon_run] at success ⊢
    generalize state.peek = one at sees success apart advanced
    generalize mate.peek = two at sees apart advanced
    cases sees with
    | same kind one two newline =>
        dsimp only at success ⊢
        split at success
        · next semi =>
            cases success
            rw [if_pos semi]
            refine ⟨(), mate.advance, rfl, rfl, ?_, by rw [advance_recovered]; exact untouched⟩
            exact (advanced rfl).imp id fun gone => gone.2
        · next noSemi =>
            rw [if_neg noSemi]
            split at success
            · next ends =>
                cases success
                rw [if_pos ends]
                exact ⟨(), mate, rfl, rfl, .inl tracks, untouched⟩
            · cases success
    | apart one two newline name =>
        obtain ⟨short, _, onward⟩ := apart TokenKind.noConfusion
        rw [if_pos rfl] at success
        cases success
        refine ⟨(), mate, rfl, rfl, .inr ⟨?_, onward⟩, untouched⟩
        exact falls_advance context state _ _ short rfl

theorem carries_consume_semicolon_past :
    Carries joint.Tracking (joint.losing joint.past) consumeSemicolon consumeSemicolon :=
  carries_consume_semicolon.settles (fun _ _ _ met => met.imp id fun past => past.1) fun _ _ => False.elim

theorem falls_consume_semicolon : Falls joint.short (fun _ => joint.past) consumeSemicolon := by
  intro context state value after stands success
  rw [consume_semicolon_run, if_pos (short_peek stands)] at success
  cases success
  exact falls_advance context state _ _ stands rfl

end

end ScriptSuite.Script
