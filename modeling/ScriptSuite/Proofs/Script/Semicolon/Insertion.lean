import ScriptSuite.Proofs.Script.Semicolon.Statement

set_option autoImplicit false

namespace ScriptSuite.Script

variable {joint : Joint}

theorem before_longer {rest other : List Token} (before : joint.Before rest other) : joint.sign.length < rest.length := by
  induction before with
  | here ends => simp
  | further token plain behind ih =>
      rw [List.length_cons]
      omega

theorem loose_unticked {rest mate : List Token} (stands : joint.loose rest mate) : rest ≠ joint.sign := by
  intro ticked
  rcases stands with tracks | behind
  · cases tracks with
    | before before =>
        have longer := before_longer before
        rw [ticked] at longer
        omega
    | level free =>
        rw [ticked] at free
        exact free List.suffix_rfl
  · have length := congrArg List.length (ticked.symm.trans behind.1)
    simp [Joint.sign] at length

theorem reading_tick_run {behind : List Token} {parser : Parser (Spanned Statement)} {context : Context} {state after : State}
    {statement : Spanned Statement} (read : parser context state = .ok statement after) :
    readingTick behind parser context state =
      if after.rest = tick :: behind then
        if statement.node.closable = true then .ok statement after.advance
        else .error ⟨.unexpected (.mark .semi) after.peek.kind, after.peek.span⟩ after
      else .ok statement after := by
  unfold readingTick
  rw [bind_run_ok read, bind_run]
  dsimp only [upcoming]
  split
  · split <;> rfl
  · rfl

theorem reading_tick_ok {behind : List Token} {parser : Parser (Spanned Statement)} {context : Context} {state after : State}
    {statement : Spanned Statement} (success : readingTick behind parser context state = .ok statement after) :
    ∃ middle, parser context state = .ok statement middle ∧
      (middle.rest = tick :: behind ∧ statement.node.closable = true ∧ after = middle.advance ∨
        middle.rest ≠ tick :: behind ∧ after = middle) := by
  obtain ⟨found, middle, read, -⟩ := bind_ok success
  rw [reading_tick_run read] at success
  split at success
  · next ticked =>
      split at success
      · next closable =>
          cases success
          exact ⟨middle, read, .inl ⟨ticked, closable, rfl⟩⟩
      · cases success
  · next unticked =>
      cases success
      exact ⟨after, read, .inr ⟨unticked, rfl⟩⟩

theorem carries_reading_tick {parser mate : Parser (Spanned Statement)}
    (carries : Carries joint.Tracking (joint.endings Spanned.node) parser mate) :
    Carries joint.Tracking joint.outer (readingTick (joint.next :: joint.back) parser) mate := by
  have clean : ∀ {middle after : State}, (after = middle.advance ∨ after = middle) →
      after.recovered = [] → middle.recovered = [] := by
    rintro middle after (rfl | rfl) clean
    · rwa [advance_recovered] at clean
    · exact clean
  constructor
  · intro context state value after _ success kept
    obtain ⟨middle, read, ends⟩ := reading_tick_ok success
    exact carries.grows context state value middle trivial read (clean (ends.imp (·.2.2) (·.2)) kept)
  · intro context state other value after tracks untouched success kept
    obtain ⟨middle, read, ends⟩ := reading_tick_ok success
    refine .inr ?_
    rcases carries.carries context state other value middle tracks untouched read (clean (ends.imp (·.2.2) (·.2)) kept) with
      ⟨past, open_⟩ | ⟨seen, final, ran, alike, met, quiet⟩
    · rcases ends with ⟨-, closable, -⟩ | ⟨unticked, -⟩
      · rw [open_] at closable
        cases closable
      · exact absurd past unticked
    · refine ⟨seen, final, ran, alike, ?_, quiet⟩
      rcases met with stands | ⟨-, past, onward⟩
      · rcases ends with ⟨ticked, -, -⟩ | ⟨-, rfl⟩
        · exact absurd ticked (loose_unticked stands)
        · exact stands
      · rcases ends with ⟨ticked, -, rfl⟩ | ⟨unticked, -⟩
        · exact .inr ⟨by rw [advance_rest middle tick _ ticked TokenKind.noConfusion], onward⟩
        · exact absurd past unticked

-- Behind the tick a statement is read as it is behind the semicolon, and on a new line.
theorem carries_resumed {parser mate : Parser (Spanned Statement)} (begins : Begins mate)
    (tracking : Carries joint.Tracking joint.outer parser mate) : Carries (Standing joint.loose) joint.outer parser mate := by
  refine .loose tracking ⟨fun context state value after _ => tracking.grows context state value after trivial, ?_⟩
  rintro context ⟨rest, lastEnd, recovered⟩ ⟨rest', lastEnd', recovered'⟩ value after ⟨here, there⟩ untouched success clean
  dsimp only at here there
  subst here there
  have tracked := tracking.carries context ⟨joint.next :: joint.back, lastEnd, recovered⟩
    ⟨joint.next :: joint.back, lastEnd', recovered'⟩ value after (.level behind_free) untouched success clean
  cases kept : joint.kept with
  | true => rwa [Joint.onward, if_pos kept]
  | false =>
      rw [Joint.onward, if_neg (by simp [kept])]
      refine tracked.imp id ?_
      rintro ⟨seen, final, ran, onward⟩
      refine ⟨seen, final, ?_, onward⟩
      have present : joint.next.kind ≠ .endOfFile := by
        obtain ⟨name, isName⟩ := joint.isName
        simp [isName]
      exact (begins joint.next present context joint.back lastEnd' lastEnd' recovered' seen final (fun _ => rfl) ran).2

theorem carries_too_deep {α : Type} [Spanless α] {start : Start} {landing : Landing α} {mate : Parser α} :
    Carries start landing tooDeep mate := by
  constructor
  · intro context state value after _ success
    cases success
  · intro context state other value after _ _ success
    cases success

theorem halts_too_deep {α : Type} : Halts (tooDeep : Parser α) := by
  intro context state value after _ success
  cases success

theorem ticking_carried (levels : Nat) :
    Grammar.Carried joint (.ticking (joint.next :: joint.back) levels) (.ofLevels levels) := by
  induction levels with
  | zero =>
      exact ⟨carries_too_deep, carries_too_deep, carries_too_deep, carries_too_deep, fun _ => carries_too_deep,
        carries_too_deep, carries_too_deep, halts_too_deep, halts_too_deep⟩
  | succ levels ih =>
      have closed := of_levels_closed levels
      exact {
        statement := carries_resumed (of_levels_begin (levels + 1)).statement
          (carries_reading_tick (carries_statement_body closed ih))
        block := carries_block_body closed ih
        bindingTarget := carries_binding_target_body closed ih
        assignment := carries_assignment_body closed ih
        binary := carries_binary_from closed ih
        unary := carries_unary_body closed ih
        newExpression := carries_new_expression_body closed ih
        assignmentHalts := halts_assignment_body ih
        unaryHalts := halts_unary_body }

theorem carries_program {h g : Grammar} (closed : g.Closed) (carried : Grammar.Carried joint h g) :
    Carries joint.Tracking joint.inside (programBody h) (programBody g) := by
  have again : ∀ {body seen : Body}, Alike body seen →
      Carries (Standing joint.loose) (Landing.rounds joint.loose (fun _ => False) joint.inside)
        (do return .again ((← h.statement) :: body) : Parser (Round Body Body)) (do return .again ((← g.statement) :: seen)) :=
    fun same => .thenLoose carried.statement fun _ _ statement =>
      .pure_at (congrArg Round.again (alike_cons statement same)) fun _ _ => id
  have done : ∀ {body seen : Body}, Alike body seen →
      Carries joint.Tracking (Landing.rounds joint.loose (fun _ => False) joint.inside)
        (Pure.pure (.done body.reverse) : Parser (Round Body Body)) (Pure.pure (.done seen.reverse)) :=
    fun same => .pure_at (congrArg Round.done (alike_reverse same)) fun _ _ => id
  exact Carries.onTrack (.repeatRounds (program_round_shortens closed)
    (fun _ _ same => .loose
      (.thenSame carries_at_end fun _ => .ite (done same) (again same).onTrack)
      (.atEndBeyond (again same).beyond))
    (fun _ _ _ _ _ never => never.elim) rfl)

-- What is read with the tick is read without it, where the semicolon is kept and where it is left out.
theorem parse_ticked (joint : Joint) {front : List Token} (plain : ∀ last ∈ front.getLast?, last.kind ≠ .identifier "let")
    {body : Body} {after : State}
    (read : programBody (.ticking (joint.next :: joint.back) maxNesting) .top (.ofTokens (front ++ joint.semi :: joint.sign)) =
      .ok body after)
    (clean : after.recovered = []) : ∃ seen, parse (front ++ joint.tail) = .ok ⟨seen, []⟩ ∧ Alike body seen := by
  have carried : Grammar.Carried joint _ _ := ticking_carried maxNesting
  have carries := carries_program (of_levels_closed maxNesting) carried
  rcases carries.carries .top _ (.ofTokens (front ++ joint.tail)) body after (.before (before_joint front plain)) rfl read clean
    with lost | ⟨seen, final, ran, alike, -, quiet⟩
  · exact lost.elim
  · refine ⟨seen, ?_, alike⟩
    unfold parse Grammar.full
    rw [ran]
    dsimp only
    rw [quiet]

theorem semicolon_inserted {front back : List Token} {semi next : Token} {name : String} {body : Body}
    (isSemi : semi.kind = .punct .semi) (isName : next.kind = .identifier name)
    (plain : ∀ last ∈ front.getLast?, last.kind ≠ .identifier "let")
    (parsed : parse (front ++ semi :: next :: back) = .ok ⟨body, []⟩) (ends : EndsPlainly front semi (next :: back)) :
    ∃ other, parse (front ++ next.onNewLine :: back) = .ok ⟨other, []⟩ ∧ Alike body other := by
  obtain ⟨ticked, after, read, clean⟩ := ends
  obtain ⟨kept, parsedKept, alikeKept⟩ := parse_ticked ⟨semi, next, back, true, isSemi, ⟨name, isName⟩⟩ plain read clean
  obtain ⟨other, parsedOther, alikeOther⟩ :=
    parse_ticked ⟨semi, next, back, false, isSemi, ⟨name, isName⟩⟩ plain read clean
  have same : kept = body := by
    have same := parsedKept.symm.trans parsed
    cases same
    rfl
  subst same
  exact ⟨other, parsedOther, alikeKept.symm.trans alikeOther⟩

def declaringFront : List Token :=
  [⟨.identifier "f", ⟨0, 1⟩, false⟩, ⟨.punct .arrow, ⟨2, 4⟩, false⟩, ⟨.punct .lBrace, ⟨5, 6⟩, false⟩,
    ⟨.identifier "let", ⟨7, 10⟩, false⟩, ⟨.identifier "x", ⟨11, 12⟩, false⟩]

def declaringBack : List Token :=
  [⟨.punct .rBrace, ⟨16, 17⟩, false⟩, ⟨.endOfFile, ⟨17, 17⟩, false⟩]

theorem declaration_closed_by_name : ∃ body other,
    parse (declaringFront ++ ⟨.punct .semi, ⟨12, 13⟩, false⟩ :: ⟨.identifier "y", ⟨14, 15⟩, false⟩ :: declaringBack) =
      .ok ⟨body, []⟩ ∧
    EndsPlainly declaringFront ⟨.punct .semi, ⟨12, 13⟩, false⟩ (⟨.identifier "y", ⟨14, 15⟩, false⟩ :: declaringBack) ∧
    parse (declaringFront ++ ⟨.identifier "y", ⟨14, 15⟩, true⟩ :: declaringBack) = .ok ⟨other, []⟩ ∧ Alike body other := by
  have ends : EndsPlainly declaringFront ⟨.punct .semi, ⟨12, 13⟩, false⟩
      (⟨.identifier "y", ⟨14, 15⟩, false⟩ :: declaringBack) :=
    ⟨_, _, rfl, rfl⟩
  obtain ⟨body, parsed⟩ : ∃ body, parse (declaringFront ++ ⟨.punct .semi, ⟨12, 13⟩, false⟩ ::
      ⟨.identifier "y", ⟨14, 15⟩, false⟩ :: declaringBack) = .ok ⟨body, []⟩ :=
    ⟨_, rfl⟩
  obtain ⟨other, inserted, alike⟩ := semicolon_inserted rfl rfl (by decide) parsed ends
  exact ⟨body, other, parsed, ends, inserted, alike⟩

end ScriptSuite.Script
