import ScriptSuite.Proofs.Script.Echo.Expression
import ScriptSuite.Proofs.Script.Semicolon.Repetition

set_option autoImplicit false

namespace ScriptSuite.Script

variable {α β : Type} {joint : Joint}

theorem carries_identifier : Carries joint.Tracking joint.inside identifier identifier :=
  .peek
    (fun kind _ _ _ => by
      cases kind with
      | identifier name => exact .advance TokenKind.noConfusion fun _ _ _ => .pure rfl
      | _ => exact .unexpected _)
    fun _ _ _ _ => .unexpected _

theorem carries_identifier_name : Carries joint.Tracking joint.inside identifierName identifierName :=
  .peek
    (fun kind _ _ _ => by
      cases kind with
      | identifier name => exact .advance TokenKind.noConfusion fun _ _ _ => .pure rfl
      | keyword word => exact .advance TokenKind.noConfusion fun _ _ _ => .pure rfl
      | privateName name => exact .advance TokenKind.noConfusion fun _ _ _ => .pure rfl
      | _ => exact .unexpected _)
    fun _ _ _ _ => .unexpected _

theorem carries_string_literal : Carries joint.Tracking joint.inside stringLiteral stringLiteral :=
  .peek
    (fun kind _ _ _ => by
      cases kind with
      | string value => exact .advance TokenKind.noConfusion fun _ _ _ => .pure rfl
      | _ => exact .unexpected _)
    fun _ _ _ _ => .unexpected _

theorem halts_identifier : Halts identifier :=
  .peek (fun _ _ => halts_unexpected _) fun _ _ => halts_unexpected _

theorem halts_identifier_name : Halts identifierName :=
  .peek (fun _ _ => halts_unexpected _) fun _ _ => halts_unexpected _

theorem halts_string_literal : Halts stringLiteral :=
  .peek (fun _ _ => halts_unexpected _) fun _ _ => halts_unexpected _

theorem carries_declared_name (required : Bool) (wanted : Expectation) :
    Carries joint.Tracking (joint.losing joint.short) (declaredName required wanted) (declaredName required wanted) :=
  .unlessApart
    (fun kind _ _ _ => .peeked (by
      cases kind with
      | identifier name => exact .thenSame carries_identifier.at fun _ => .pure rfl
      | _ => exact .ite (.unexpected _) (.at (.pure rfl))))
    (.peek joint.short_barred (fun _ _ => .ite (falls_unexpected _) (.pure fun _ => id))
      fun _ _ => .ite (falls_unexpected _) (.pure fun _ => id))

def Joint.astray (joint : Joint) (rest : List Token) : Prop :=
  joint.near rest ∨ joint.short rest

theorem Falls.astray {lost : α → List Token → Prop} {parser : Parser α} (near : Falls joint.near lost parser)
    (short : Falls joint.short lost parser) : Falls joint.astray lost parser :=
  fun context state value after stands =>
    stands.elim (near context state value after) (short context state value after)

def TokenKind.endsMember : TokenKind → Bool
  | .punct mark => mark ∈ [.lParen, .eq, .semi, .rBrace, .comma, .colon]
  | _ => false

theorem next_ends_member_run (context : Context) (state : State) :
    nextEndsMember context state = .ok (state.peekAt 1).kind.endsMember state := by
  unfold nextEndsMember
  rw [bind_run]
  dsimp only [peekAt]
  cases (state.peekAt 1).kind <;> rfl

theorem near_second {state : State} (near : joint.near state.rest) : state.peekAt 1 = joint.semi := by
  obtain ⟨token, rest⟩ := near
  simp [State.peekAt, rest]

theorem advance_short {state : State} {token : Token} (rest : state.rest = token :: joint.semi :: joint.sign)
    (present : token.kind ≠ .endOfFile) : joint.short state.advance.rest := by
  rw [advance_rest state token _ rest present]
  rfl

section

variable {lost : β → List Token → Prop}

theorem Falls.endsNear {next : Bool → Parser β} (each : Falls joint.near lost (next true)) :
    Falls joint.near lost (nextEndsMember >>= next) := by
  intro context state value after near success
  rw [bind_run, next_ends_member_run, near_second near, joint.isSemi] at success
  exact each context state value after near success

theorem Falls.advanceNear {next : Token → Parser β} {token : Token} (present : token.kind ≠ .endOfFile)
    (each : ∀ token, Falls joint.short lost (next token)) :
    Falls (fun rest => rest = token :: joint.semi :: joint.sign) lost (Script.advance >>= next) := by
  intro context state value after near success
  exact each state.peek context state.advance value after (advance_short near present) success

theorem Falls.peekNear {next : Token → Parser β}
    (each : ∀ token, Falls (fun rest => rest = token :: joint.semi :: joint.sign) lost (next token)) :
    Falls joint.near lost (Script.peek >>= next) := by
  rintro context state value after ⟨token, near⟩ success
  have first : state.peek = token := by simp [State.peek, State.peekAt, near]
  have runs : (Script.peek >>= next) context state = next state.peek context state := rfl
  rw [runs, first] at success
  exact each token context state value after near success

end

theorem falls_identifier_name : Falls joint.near (fun _ => joint.short) identifierName :=
  .peekNear fun token => by
    obtain ⟨kind, span, newline⟩ := token
    cases kind with
    | identifier name => exact .advanceNear TokenKind.noConfusion fun _ => .pure fun _ => id
    | keyword word => exact .advanceNear TokenKind.noConfusion fun _ => .pure fun _ => id
    | privateName name => exact .advanceNear TokenKind.noConfusion fun _ => .pure fun _ => id
    | _ => exact falls_unexpected _

theorem falls_accept_near {kind : TokenKind} (present : kind ≠ .endOfFile) :
    Falls joint.near (fun _ => joint.astray) (accept kind) := by
  rintro context state value after ⟨token, near⟩ success
  have first : state.peek = token := by simp [State.peek, State.peekAt, near]
  rw [accept_run, first] at success
  split at success
  · next found =>
      cases success
      exact .inr (advance_short near (found ▸ present))
  · cases success
    exact .inl ⟨token, near⟩

section

variable [Spanless α] {landing : Landing α} {one two : Token}

theorem Carries.ends {next nextMate : Bool → Parser α} (same : one.kind = two.kind)
    (each : ∀ ends other, (one.kind ≠ .punct .semi → ends = other) →
      Carries (joint.Clear one two) landing (next ends) (nextMate other)) :
    Carries (joint.Clear one two) landing (nextEndsMember >>= next) (nextEndsMember >>= nextMate) :=
  .decided (fun _ second => second.kind.endsMember) next_ends_member_run (clear_second same)
    (fun ends other => one.kind ≠ .punct .semi → ends = other) (fun _ _ => rfl)
    (fun second behind sees plain => by
      cases sees with
      | same => rfl
      | past semi => exact absurd semi plain
      | apart near => exact near.elim)
    each

end

section

variable {place : List Token → Prop} (bars : ∀ rest, place rest → barred rest)
include bars

theorem falls_async_barred : Falls place (fun _ => place) asyncModifier :=
  .check bars rfl (.look looks_next_ends_member fun _ => .look (looks_peek_at 1) fun _ => by
    rw [Bool.false_and, Bool.false_and, if_neg Bool.false_ne_true]
    exact .pure fun _ => id)

theorem falls_accessor_barred : Falls place (fun _ => place) accessorModifier :=
  .unaccepted bars rfl (.unaccepted bars rfl (.pure fun _ => id))

end

theorem falls_async_modifier : Falls joint.astray (fun _ => joint.astray) asyncModifier :=
  .astray
    (.look (looks_check _) fun word => .endsNear (.look (looks_peek_at 1) fun _ => by
      rw [Bool.not_true, Bool.and_false, Bool.false_and, if_neg Bool.false_ne_true]
      exact .pure fun _ => .inl))
    (.mono_lost (falls_async_barred joint.short_barred) fun _ _ => .inr)

theorem carries_async_modifier : Carries joint.Tracking (joint.losing joint.astray) asyncModifier asyncModifier :=
  .unlessApart
    (fun kind _ _ _ => .unlessNear
      (.checkClear (.ends rfl fun ends other same => .aheadClear (fun second behind sees => by
        by_cases word : kind = .identifier "async"
        · subst word
          cases same TokenKind.noConfusion
          cases sees with
          | same kind one two newline =>
              exact .clear (.ite (.advance TokenKind.noConfusion fun _ _ _ => .pure rfl) (.at (.pure rfl)))
          | past semi => cases semi
          | apart never => exact never.elim
        · rw [beq_eq_false_iff_ne.mpr word]
          exact .clear (.at (.pure rfl))) rfl))
      (falls_async_modifier.mono fun _ => .inl))
    (falls_async_modifier.mono fun _ => .inr)

theorem carries_accessor_modifier :
    Carries joint.Tracking (joint.losing joint.short) accessorModifier accessorModifier :=
  .unlessLostSame (carries_accept_word _)
    (fun _ => .ite (.pure fun _ => id) (.unaccepted joint.short_barred rfl (.pure fun _ => id)))
    fun _ => .ite (.pure rfl)
      (.unlessLostSame (carries_accept_word _) (fun _ => .ite (.pure fun _ => id) (.pure fun _ => id))
        fun _ => .ite (.pure rfl) (.pure rfl))

def modifiersFrom (isAsync isGenerator : Bool) : Parser MethodModifiers := do
  if isAsync || isGenerator || (← nextEndsMember) then return ⟨isAsync, isGenerator, .method⟩
  return ⟨isAsync, isGenerator, ← accessorModifier⟩

theorem falls_modifiers_barred {place : List Token → Prop} (bars : ∀ rest, place rest → barred rest)
    (isAsync isGenerator : Bool) : Falls place (fun _ => place) (modifiersFrom isAsync isGenerator) :=
  .look looks_next_ends_member fun _ => .ite (.pure fun _ => id)
    (.bind (falls_accessor_barred bars) fun _ => .pure fun _ => id)

theorem falls_methods_barred {place : List Token → Prop} (bars : ∀ rest, place rest → barred rest) :
    Falls place (fun _ => place) methodModifiers :=
  .bind (falls_async_barred bars) fun isAsync => .bind (falls_accept bars rfl) (falls_modifiers_barred bars isAsync)

theorem falls_modifiers_near (isAsync isGenerator : Bool) :
    Falls joint.near (fun _ => joint.near) (modifiersFrom isAsync isGenerator) :=
  .endsNear (by
    rw [Bool.or_true, if_pos rfl]
    exact .pure fun _ => id)

theorem modifiers_at_semi (isAsync isGenerator ends : Bool) (context : Context) (state : State)
    (semi : state.peek.kind = .punct .semi) :
    (if (isAsync || isGenerator || ends) = true then (Pure.pure ⟨isAsync, isGenerator, .method⟩ : Parser MethodModifiers)
      else accessorModifier >>= fun kind => Pure.pure ⟨isAsync, isGenerator, kind⟩) context state =
      .ok ⟨isAsync, isGenerator, .method⟩ state := by
  split
  · rfl
  · rw [bind_run, accessor_modifier_at_mark context state .semi semi]
    rfl

theorem carries_modifiers_from (isAsync isGenerator : Bool) :
    Carries joint.Tracking (joint.losing joint.astray) (modifiersFrom isAsync isGenerator) (modifiersFrom isAsync isGenerator) :=
  .unlessApart
    (fun kind _ _ _ => .unlessNear
      (.ends rfl fun ends other same => .clear (by
        by_cases semi : kind = .punct .semi
        · subst semi
          exact .congr (.at (.pure rfl))
            (fun context state here => modifiers_at_semi isAsync isGenerator ends context state (by rw [here]))
            fun context state here => modifiers_at_semi isAsync isGenerator other context state (by rw [here])
        · cases same semi
          exact .ite (.at (.pure rfl)) (.at (.unlessLostSame carries_accessor_modifier (fun _ => .pure fun _ => .inr)
            fun _ => .pure rfl))))
      (.mono_lost (falls_modifiers_near isAsync isGenerator) fun _ _ => .inl))
    (.mono_lost (falls_modifiers_barred joint.short_barred isAsync isGenerator) fun _ _ => .inr)

theorem falls_modifiers_from (isAsync isGenerator : Bool) :
    Falls joint.astray (fun _ => joint.astray) (modifiersFrom isAsync isGenerator) :=
  .astray (.mono_lost (falls_modifiers_near isAsync isGenerator) fun _ _ => .inl)
    (.mono_lost (falls_modifiers_barred joint.short_barred isAsync isGenerator) fun _ _ => .inr)

theorem falls_method_modifiers_from (isAsync : Bool) :
    Falls joint.astray (fun _ => joint.astray) (acceptPunct .star >>= modifiersFrom isAsync) :=
  .bind (.astray (falls_accept_near TokenKind.noConfusion)
    (.mono_lost (falls_accept joint.short_barred rfl) fun _ _ => .inr)) (falls_modifiers_from isAsync)

theorem carries_method_modifiers :
    Carries joint.Tracking (joint.losing joint.astray) methodModifiers methodModifiers :=
  .unlessLostSame carries_async_modifier falls_method_modifiers_from
    fun isAsync => .thenSame (carries_accept_punct rfl) (carries_modifiers_from isAsync)

theorem falls_method_modifiers : Falls joint.astray (fun _ => joint.astray) methodModifiers :=
  .bind falls_async_modifier falls_method_modifiers_from

end ScriptSuite.Script
