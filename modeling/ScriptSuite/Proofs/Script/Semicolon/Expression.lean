import ScriptSuite.Proofs.Script.Echo.Expression
import ScriptSuite.Proofs.Script.Semicolon.Member

set_option autoImplicit false

namespace ScriptSuite.Script

variable {joint : Joint}

def Joint.behind (joint : Joint) (rest mate : List Token) : Prop :=
  rest = joint.next :: joint.back ∧ mate = joint.onward

def Joint.loose (joint : Joint) (rest mate : List Token) : Prop :=
  joint.Tracks rest mate ∨ joint.behind rest mate

def Joint.outer {α : Type} (joint : Joint) : Landing α :=
  ⟨fun _ => joint.loose, fun _ _ => False⟩

structure Grammar.Carried (joint : Joint) (h g : Grammar) : Prop where
  statement : Carries (Standing joint.loose) joint.outer h.statement g.statement
  block : Carries joint.Tracking joint.inside h.block g.block
  bindingTarget : Carries joint.Tracking joint.inside h.bindingTarget g.bindingTarget
  assignment : Carries joint.Tracking joint.inside h.assignment g.assignment
  binary : ∀ precedence, Carries joint.Tracking joint.inside (h.binary precedence) (g.binary precedence)
  unary : Carries joint.Tracking joint.inside h.unary g.unary
  newExpression : Carries joint.Tracking joint.inside h.newExpression g.newExpression
  assignmentHalts : Halts h.assignment
  unaryHalts : Halts h.unary

section

variable {h g : Grammar} (closed : g.Closed) (carried : Grammar.Carried joint h g)
include closed carried

omit closed in
theorem carries_property_key : Carries joint.Tracking joint.inside (propertyKey h) (propertyKey g) :=
  .peek
    (fun kind _ _ _ => by
      cases kind with
      | identifier name => exact .thenSame carries_identifier_name.at fun _ => .pure rfl
      | keyword word => exact .thenSame carries_identifier_name.at fun _ => .pure rfl
      | privateName name => exact .thenSame carries_identifier_name.at fun _ => .pure rfl
      | string value => exact .advance TokenKind.noConfusion fun _ _ _ => .pure rfl
      | number value => exact .advance TokenKind.noConfusion fun _ _ _ => .pure rfl
      | bigint literal => exact .advance TokenKind.noConfusion fun _ _ _ => .pure rfl
      | punct mark =>
          cases mark with
          | lBracket =>
              exact .advance (by simp) fun _ _ _ => .then carried.assignment.allowingIn fun _ _ same =>
                .then (carries_expect_punct rfl) fun _ _ _ => .pure (by simp_all [Alike])
          | _ => exact .unexpected _
      | _ => exact .unexpected _)
    fun _ _ _ _ => .unexpected _

omit closed in
theorem falls_property_key : Falls joint.near (fun _ => joint.short) (propertyKey h) :=
  .peekNear fun token => by
    have named : Falls (fun rest => rest = token :: joint.semi :: joint.sign) (fun _ => joint.short) identifierName :=
      falls_identifier_name.mono fun _ here => ⟨token, here⟩
    obtain ⟨kind, span, newline⟩ := token
    cases kind with
    | identifier name => exact .bind named fun _ => .pure fun _ => id
    | keyword word => exact .bind named fun _ => .pure fun _ => id
    | privateName name => exact .bind named fun _ => .pure fun _ => id
    | string value => exact .advanceNear TokenKind.noConfusion fun _ => .pure fun _ => id
    | number value => exact .advanceNear TokenKind.noConfusion fun _ => .pure fun _ => id
    | bigint literal => exact .advanceNear TokenKind.noConfusion fun _ => .pure fun _ => id
    | punct mark =>
        cases mark with
        | lBracket =>
            exact .advanceNear TokenKind.noConfusion fun _ => .first carried.assignmentHalts.within joint.short_barred
        | _ => exact falls_unexpected _
    | _ => exact falls_unexpected _

omit closed carried in
theorem halts_property_key : Halts (propertyKey h) :=
  .peek (fun _ _ => halts_unexpected _) fun _ _ => halts_unexpected _

omit closed in
theorem falls_key_astray : Falls joint.astray (fun _ => joint.short) (propertyKey h) :=
  .astray (falls_property_key carried) (.halts halts_property_key joint.short_barred)

omit closed in
theorem carries_binding_element : Carries joint.Tracking joint.inside (bindingElement h) (bindingElement g) :=
  .offset fun _ _ => .then carried.bindingTarget fun _ _ target => .thenSame (carries_accept_punct rfl) fun _ =>
    .ite (.then carried.assignment.allowingIn fun _ _ value => carries_spanned_from (by simp_all [Alike])) (.pure target)

omit closed in
theorem carries_rest_element : Carries joint.Tracking joint.inside (restElement h) (restElement g) :=
  .offset fun _ _ => .then (carries_expect_punct rfl) fun _ _ _ => .then carried.bindingTarget fun _ _ target =>
    carries_spanned_from (by simp_all [Alike])

omit closed in
theorem carries_binding_or_rest : Carries joint.Tracking joint.inside (bindingOrRest h) (bindingOrRest g) :=
  .thenSame (carries_check rfl) fun _ => .ite (carries_rest_element carried) (carries_binding_element carried)

omit closed in
theorem carries_pattern_prop : Carries joint.Tracking joint.inside (patternProp h) (patternProp g) :=
  .thenSame (carries_accept_punct rfl) fun _ => .ite
    (.then carried.bindingTarget fun _ _ target => .pure (by simp_all [Alike]))
    (.offset fun _ _ => .then (carries_property_key carried) fun key seen same =>
      .thenSame (carries_accept_punct rfl) fun _ => .ite
        (.then (carries_binding_element carried) fun _ _ element => .pure (by simp_all [Alike])) (by
          cases key with
          | ident name =>
              cases seen with
              | ident other =>
                  exact .then (carries_spanned_from (by simp_all [Alike])) fun _ _ target =>
                    .thenSame (carries_accept_punct rfl) fun _ => .ite
                      (.then carried.assignment.allowingIn fun _ _ value =>
                        .then (carries_spanned_from (by simp_all [Alike])) fun _ _ whole => .pure (by simp_all [Alike]))
                      (.pure (by simp_all [Alike]))
              | _ => cases same
          | _ => exact .unexpected _))

theorem carries_object_pattern : Carries joint.Tracking joint.inside (objectPattern h) (objectPattern g) :=
  .then (carries_expect_punct rfl) fun _ _ _ =>
    .then (carries_comma_list (fun _ => False.elim) rfl (closes_pattern_prop closed) (carries_pattern_prop carried)) fun _ _ props =>
      .then (carries_expect_punct rfl) fun _ _ _ => .pure (by simp_all [Alike])

theorem carries_array_pattern : Carries joint.Tracking joint.inside (arrayPattern h) (arrayPattern g) :=
  .then (carries_expect_punct rfl) fun _ _ _ =>
    .then (carries_holed_list rfl (closes_binding_or_rest closed) (carries_binding_or_rest carried)) fun _ _ items =>
      .then (carries_expect_punct rfl) fun _ _ _ => .pure (by simp_all [Alike])

theorem carries_binding_pattern : Carries joint.Tracking joint.inside (bindingPattern h) (bindingPattern g) :=
  .peek
    (fun kind _ _ _ => by
      cases kind with
      | identifier name => exact .thenSame carries_identifier.at fun _ => .pure rfl
      | punct mark =>
          cases mark with
          | lBrace => exact .at (carries_object_pattern closed carried)
          | lBracket => exact .at (carries_array_pattern closed carried)
          | _ => exact .unexpected _
      | _ => exact .unexpected _)
    fun _ _ _ _ => .unexpected _

theorem carries_binding_target_body :
    Carries joint.Tracking joint.inside (bindingTargetBody h) (bindingTargetBody g) :=
  .offset fun _ _ => .then (carries_binding_pattern closed carried) fun _ _ pattern => carries_spanned_from pattern

theorem carries_formal_params : Carries joint.Tracking joint.inside (formalParams h) (formalParams g) :=
  .then (carries_expect_punct rfl) fun _ _ _ =>
    .then (carries_comma_list (fun _ => False.elim) rfl (closes_binding_or_rest closed) (carries_binding_or_rest carried)) fun _ _ params =>
      .then (carries_expect_punct rfl) fun _ _ _ => .pure params

omit closed in
theorem carries_declarator : Carries joint.Tracking joint.inside (declarator h) (declarator g) :=
  .then carried.bindingTarget fun _ _ target => .thenSame (carries_accept_punct rfl) fun _ =>
    .ite (.then carried.assignment fun _ _ value => .pure (by simp_all [Alike])) (.pure (by simp_all [Alike]))

theorem carries_var_declarations (kind : VarKind) :
    Carries joint.Tracking joint.inside (varDeclarations h kind) (varDeclarations g kind) :=
  .then (.repeatTurning (declarator_round_shortens closed)
      (fun _ _ same => .then (carries_declarator carried) fun _ _ next => .thenSame (carries_accept_punct rfl) fun _ =>
        .ite (carries_again (alike_cons next same)) (carries_done (alike_reverse (alike_cons next same)))) rfl)
    fun _ _ declarators => .pure (by simp_all [Alike])

theorem carries_function_tail (isAsync isGenerator : Bool) :
    Carries joint.Tracking joint.inside (functionTail h isAsync isGenerator) (functionTail g isAsync isGenerator) :=
  .inFunction (.then (carries_formal_params closed carried) fun _ _ params => .then carried.block fun block other body => by
    obtain ⟨body, span⟩ := block
    obtain ⟨otherBody, otherSpan⟩ := other
    exact .pure (by simp_all [Alike]))

omit closed carried in
theorem halts_formal_params : Halts (formalParams h) :=
  .first (halts_expect rfl _)

omit closed carried in
theorem halts_function_tail (isAsync isGenerator : Bool) : Halts (functionTail h isAsync isGenerator) := by
  unfold functionTail inFunction
  exact .within (.first halts_formal_params)

theorem carries_function_from (isAsync requireName : Bool) :
    Carries joint.Tracking joint.inside (functionFrom h isAsync requireName) (functionFrom g isAsync requireName) :=
  .then (carries_expect_keyword _) fun _ _ _ => .thenSame (carries_accept_punct rfl) fun _ =>
    .unlessLostSame (carries_declared_name _ _) (fun _ => .first (halts_function_tail _ _) joint.short_barred) fun _ =>
      .then (carries_function_tail closed carried _ _) fun tail other same => by
        obtain ⟨params, body⟩ := tail
        obtain ⟨otherParams, otherBody⟩ := other
        exact .pure (by simp_all [Alike])

theorem carries_method_function (modifiers : MethodModifiers) :
    Carries joint.Tracking joint.inside (methodFunction h modifiers) (methodFunction g modifiers) :=
  .then (carries_function_tail closed carried _ _) fun tail other same => by
    obtain ⟨params, body⟩ := tail
    obtain ⟨otherParams, otherBody⟩ := other
    exact .pure (by simp_all [Alike])

end

def memberFrom (g : Grammar) (isStatic : Bool) (modifiers : MethodModifiers) : Parser ClassMember := do
  let key ← propertyKey g
  if ← checkPunct .lParen then
    return .method key modifiers.kind isStatic (← methodFunction g modifiers)
  let value ←
    if ← acceptPunct .eq then do
      let value ← inFunction false false g.assignment
      pure (some value)
    else pure none
  consumeSemicolon
  return .field key isStatic value

section

variable {h g : Grammar} (closed : g.Closed) (carried : Grammar.Carried joint h g)
include closed carried

omit closed in
theorem falls_member_from (isStatic : Bool) (modifiers : MethodModifiers) :
    Falls joint.astray (fun _ => joint.past) (memberFrom h isStatic modifiers) :=
  .bind (falls_key_astray carried) fun _ => .unchecked joint.short_barred rfl (.unaccepted joint.short_barred rfl
    (.bind (.pure fun _ => id) fun _ => .bind falls_consume_semicolon fun _ => .pure fun _ => id))

theorem carries_member_from (isStatic : Bool) (modifiers : MethodModifiers) :
    Carries joint.Tracking (joint.losing joint.past) (memberFrom h isStatic modifiers) (memberFrom g isStatic modifiers) := by
  have ends : ∀ {key other : PropKey} {value seen : Option (Spanned Expr)}, Alike key other → Alike value seen →
      Carries joint.Tracking (joint.losing joint.past)
        (consumeSemicolon >>= fun _ => Pure.pure (ClassMember.field key isStatic value))
        (consumeSemicolon >>= fun _ => Pure.pure (ClassMember.field other isStatic seen)) :=
    fun same value => .unlessLost carries_consume_semicolon_past (fun _ => .pure fun _ => id) fun _ _ _ =>
      .pure (by simp_all [Alike])
  exact .then (carries_property_key carried) fun _ _ key => .thenSame (carries_check rfl) fun _ => .ite
    (.then (carries_method_function closed carried modifiers) fun _ _ function => .pure (by simp_all [Alike]))
    (.thenSame (carries_accept_punct rfl) fun _ => .ite
      (.then carried.assignment.inFunction fun _ _ value => .then (.pure (alike_some value)) fun _ _ value => ends key value)
      (.then (.pure rfl) fun _ _ value => ends key value))

omit closed in
theorem falls_keyed_member (isStatic : Bool) : Falls joint.astray (fun _ => joint.past) (keyedMember h isStatic) :=
  .bind falls_method_modifiers (falls_member_from carried isStatic)

theorem carries_keyed_member (isStatic : Bool) :
    Carries joint.Tracking (joint.losing joint.past) (keyedMember h isStatic) (keyedMember g isStatic) :=
  .unlessLostSame carries_method_modifiers (falls_member_from carried isStatic) (carries_member_from closed carried isStatic)

omit closed in
theorem falls_class_member : Falls joint.astray (fun _ => joint.past) (classMember h) := by
  have member : ∀ start : Nat, Falls joint.astray (fun _ => joint.past)
      (keyedMember h false >>= fun member => spannedFrom start member) :=
    fun start => .bind (falls_keyed_member carried false) fun _ => falls_spanned_from start _
  refine .look looks_start_offset fun start => .astray ?_ ?_
  · refine .look (looks_check _) fun word => .endsNear ?_
    rw [Bool.not_true, Bool.and_false, if_neg Bool.false_ne_true]
    exact (member start).mono fun _ => .inl
  · refine .check joint.short_barred rfl (.look looks_next_ends_member fun _ => ?_)
    rw [Bool.false_and, if_neg Bool.false_ne_true]
    exact (member start).mono fun _ => .inr

theorem carries_class_member :
    Carries joint.Tracking (joint.losing joint.past) (classMember h) (classMember g) := by
  have member : ∀ start other isStatic, Carries joint.Tracking (joint.losing joint.past)
      (keyedMember h isStatic >>= fun member => spannedFrom start member)
      (keyedMember g isStatic >>= fun member => spannedFrom other member) :=
    fun start other isStatic => .unlessLost (carries_keyed_member closed carried isStatic)
      (fun _ => falls_spanned_from start _) fun _ _ same => carries_spanned_from same
  refine .unlessApart (fun kind _ _ _ => .unlessNear (.offset fun start other => .checkClear (.ends rfl fun ends seen same => ?_))
      ((falls_class_member carried).mono fun _ => .inl)) ((falls_class_member carried).mono fun _ => .inr)
  by_cases word : kind = .identifier "static"
  · subst word
    cases same TokenKind.noConfusion
    exact .clear (.ite
      (.advance TokenKind.noConfusion fun _ _ _ => .thenSame (carries_check rfl) fun _ => .ite
        (.then carried.block.inFunction fun block mate body => by
          obtain ⟨body, span⟩ := block
          obtain ⟨mateBody, mateSpan⟩ := mate
          exact carries_spanned_from (by simp_all [Alike]))
        (member start other true))
      (.at (member start other false)))
  · rw [beq_eq_false_iff_ne.mpr word]
    exact .clear (.at (member start other false))

omit closed carried in
theorem halts_class_member : Halts (classMember h) :=
  .look looks_start_offset fun _ => .check rfl (.look looks_next_ends_member fun _ => by
    rw [Bool.false_and, if_neg Bool.false_ne_true]
    exact .first (.bind (falls_methods_barred fun _ => id) fun _ => halts_property_key.first))

omit closed carried in
theorem falls_class_member_round (brace : Span) (members : List (Spanned ClassMember)) :
    Falls joint.past (fun _ _ => False) (classMemberRound h brace members) := by
  have next : Falls joint.past (fun _ _ => False) (do
      if ← acceptPunct .semi then return .again members
      return .again ((← classMember h) :: members) : Parser (Round _ (List (Spanned ClassMember)))) :=
    .unacceptedPast (by simp) (.first halts_class_member joint.past_barred)
  exact .unaccepted joint.past_barred rfl (.look looks_at_end fun _ => .ite (.bind (falls_fail _) fun _ => next) next)

theorem carries_class_member_round (brace other : Span) (members others : List (Spanned ClassMember))
    (same : Alike members others) :
    Carries joint.Tracking (Landing.rounds joint.Tracks joint.past joint.inside) (classMemberRound h brace members)
      (classMemberRound g other others) := by
  have again : ∀ {members others : List (Spanned ClassMember)}, Alike members others →
      Carries joint.Tracking (Landing.rounds joint.Tracks joint.past joint.inside)
        (Pure.pure (.again members) : Parser (Round _ (List (Spanned ClassMember)))) (Pure.pure (.again others)) :=
    fun same => .pure_at (congrArg Round.again same) fun _ _ => id
  have next : Carries joint.Tracking (Landing.rounds joint.Tracks joint.past joint.inside) (do
        if ← acceptPunct .semi then return .again members
        return .again ((← classMember h) :: members) : Parser (Round _ (List (Spanned ClassMember)))) (do
        if ← acceptPunct .semi then return .again others
        return .again ((← classMember g) :: others)) :=
    .unlessLostSame carries_accept_semi (fun _ => .ite (.pure fun _ => id) (.first halts_class_member joint.past_barred))
      fun _ => .ite (again same) (.unlessLost (carries_class_member closed carried) (fun _ => .pure fun _ => id)
        fun _ _ member => again (alike_cons member same))
  exact .thenSame (carries_accept_punct rfl) fun _ => .ite
    (.pure_at (congrArg Round.done (alike_reverse same)) fun _ _ => id)
    (.thenSame carries_at_end fun _ => .ite (.then (.fail _) fun _ _ _ => next) next)

theorem carries_class_from {heritage mateHeritage : Parser (Spanned Expr)}
    (ancestor : Carries joint.Tracking joint.inside heritage mateHeritage) (requireName : Bool) :
    Carries joint.Tracking joint.inside (classFrom h heritage requireName) (classFrom g mateHeritage requireName) := by
  have body : ∀ (name : Option String) {parent other : Option (Spanned Expr)}, Alike parent other →
      Carries joint.Tracking joint.inside (do
        let brace ← expectPunct .lBrace
        let members ← repeatRounds (classMemberRound h brace.span) []
        return (⟨name, parent, members⟩ : Class)) (do
        let brace ← expectPunct .lBrace
        let members ← repeatRounds (classMemberRound g brace.span) []
        return (⟨name, other, members⟩ : Class)) :=
    fun name parent other same => .then (carries_expect_punct rfl) fun brace seen _ =>
      .then (.repeatRounds (class_member_round_shortens closed seen.span)
        (fun _ _ => carries_class_member_round closed carried brace.span seen.span _ _)
        (fun members => (falls_class_member_round brace.span members).mono_lost fun _ _ => False.elim) rfl)
          fun _ _ members => .pure (by simp_all [Alike])
  exact .then (carries_expect_keyword _) fun _ _ _ => .unlessLostSame (carries_declared_name _ _)
    (fun _ => .unaccepted joint.short_barred rfl (.bind (.pure fun _ => id) fun _ =>
      .first (halts_expect rfl _) joint.short_barred))
    fun name => .thenSame (carries_accept_keyword _) fun _ => .ite
      (.then ancestor fun _ _ parent => .then (.pure (alike_some parent)) fun _ _ parent => body name parent)
      (.then (.pure rfl) fun _ _ parent => body name parent)

theorem carries_expression : Carries joint.Tracking joint.inside (expression h) (expression g) :=
  .then carried.assignment fun _ _ first => .thenSame (carries_check rfl) fun _ => .ite
    (.then (.repeatTurning (sequence_round_shortens closed)
        (fun _ _ same => .thenSame (carries_accept_punct rfl) fun _ => .ite
          (.then carried.assignment fun _ _ next => carries_again (alike_cons next same))
          (carries_done (alike_reverse same))) (alike_cons first rfl))
      fun _ _ items => carries_spanned_from (by simp_all [Alike]))
    (.pure first)

omit closed in
theorem halts_expression : Halts (expression h) :=
  .first carried.assignmentHalts

theorem carries_arrow_params (isAsync : Bool) :
    Carries joint.Tracking joint.inside (arrowParams h isAsync) (arrowParams g isAsync) :=
  .halting
    (fun kind _ _ _ => .peeked (by
      cases kind with
      | identifier name =>
          exact .offset fun _ _ => .thenSame carries_identifier.at fun _ => .then (carries_spanned_from rfl) fun _ _ param =>
            .pure (alike_cons param rfl)
      | _ => exact (carries_formal_params closed carried).inFunction.at))
    (.peek (fun _ _ => halts_formal_params.within) fun _ _ => halts_formal_params.within)

omit closed in
theorem carries_arrow_body (isAsync : Bool) :
    Carries joint.Tracking joint.inside (arrowBody h isAsync) (arrowBody g isAsync) :=
  .thenSame (carries_check rfl) fun _ => .ite
    (.then carried.block.inFunction fun block other body => by
      obtain ⟨body, span⟩ := block
      obtain ⟨otherBody, otherSpan⟩ := other
      exact .pure (by simp_all [Alike]))
    (.then carried.assignment.inFunction fun _ _ value => .pure (by simp_all [Alike]))

def arrowFrom (g : Grammar) (start : Nat) (isAsync : Bool) : Parser (Spanned Expr) := do
  let params ← arrowParams g isAsync
  let _ ← expectPunct .arrow
  let body ← arrowBody g isAsync
  spannedFrom start (.arrow params body isAsync)

theorem carries_arrow_from (start other : Nat) (isAsync : Bool) :
    Carries joint.Tracking joint.inside (arrowFrom h start isAsync) (arrowFrom g other isAsync) :=
  .then (carries_arrow_params closed carried _) fun _ _ params => .then (carries_expect_punct rfl) fun _ _ _ =>
    .then (carries_arrow_body carried _) fun _ _ body => carries_spanned_from (by simp_all [Alike])

-- No name stands right before the semicolon and before an arrow, so that both runs see the same behind it.
theorem carries_named_arrow {name : String} {one two : Span} {newline : Bool} :
    Carries (joint.Clear ⟨.identifier name, one, newline⟩ ⟨.identifier name, two, newline⟩) joint.inside
      (arrowFunction h) (arrowFunction g) :=
  .offset fun start other => .checkClear (.aheadClear (fun second behind sees => by
    cases sees with
    | same kind one two newline =>
        exact .clear (.ite (.advance TokenKind.noConfusion fun _ _ _ => carries_arrow_from closed carried start other _)
          (carries_arrow_from closed carried start other _).at)
    | past semi => cases semi
    | apart never => exact never.elim) rfl)

theorem carries_unnamed_arrow {kind : TokenKind} {one two : Span} {newline : Bool}
    (unnamed : ∀ name, kind ≠ .identifier name) :
    Carries (joint.Showing ⟨kind, one, newline⟩ ⟨kind, two, newline⟩) joint.inside (arrowFunction h) (arrowFunction g) :=
  .offset fun start other => .check (.ahead (fun second behind _ => by
    rw [beq_eq_false_iff_ne.mpr (unnamed "async")]
    exact (carries_arrow_from closed carried start other _).at) rfl)

omit closed carried in
theorem carries_yield_delegate : Carries joint.Tracking joint.inside yieldDelegate yieldDelegate :=
  .peek (fun _ _ _ _ => .ite (.at (.pure rfl)) (.at (carries_accept_punct rfl)))
    fun one two newline name => by
      have none : Carries (joint.Showing ⟨.punct .semi, one, newline⟩ ⟨.identifier name, two, true⟩) joint.inside
          (Pure.pure false : Parser Bool) (Pure.pure false) :=
        .at (.pure rfl)
      refine none.congr (fun context state here => ?_) fun _ _ _ => rfl
      cases newline with
      | true => rfl
      | false => exact (accept_run ..).trans (if_neg (by simp [here]))

omit closed in
theorem carries_yield_expression {one two : Span} {newline : Bool} :
    Carries (joint.Showing ⟨.identifier "yield", one, newline⟩ ⟨.identifier "yield", two, newline⟩) joint.inside
      (yieldExpression h) (yieldExpression g) :=
  .offset fun start other => .advance TokenKind.noConfusion fun _ _ _ => .thenSame carries_yield_delegate fun delegate => by
    have operand : Carries joint.Tracking joint.inside
        (h.assignment >>= fun argument => spannedFrom start (Expr.yield (some argument) delegate))
        (g.assignment >>= fun argument => spannedFrom other (Expr.yield (some argument) delegate)) :=
      .then carried.assignment fun _ _ value => carries_spanned_from (by simp_all [Alike])
    refine .peek (fun _ _ _ _ => .ite operand.at (.at (carries_spanned_from rfl))) fun one two newline name => ?_
    have none : yieldsOperand ⟨.punct .semi, one, newline⟩ = false := by
      cases newline <;> rfl
    have noName : yieldsOperand ⟨.identifier name, two, true⟩ = false := rfl
    rw [none, noName]
    exact .ite operand.at (.at (carries_spanned_from rfl))

theorem carries_binary_from (minPrecedence : Nat) :
    Carries joint.Tracking joint.inside (binaryFrom h minPrecedence) (binaryFrom g minPrecedence) :=
  .offset fun start other => .then carried.unary fun _ _ left =>
    .repeatTurning (binary_round_shortens closed other minPrecedence)
      (fun _ _ same => .asking fun context => .peek
        (fun kind _ _ _ => by
          dsimp only
          cases found : binaryOp? context.noIn kind with
          | some op =>
              obtain ⟨op, precedence⟩ := op
              exact .ite (.at (carries_done same)) (.advance (by rintro rfl; cases found) fun _ _ _ =>
                .then (carried.binary _) fun _ _ right => .then (carries_spanned_from (by simp_all [Alike])) fun _ _ whole =>
                  carries_again whole)
          | none => exact .at (carries_done same))
        fun _ _ _ _ => .at (carries_done same)) left

omit closed carried in
theorem halts_binary_from (halts : Halts h.unary) (minPrecedence : Nat) : Halts (binaryFrom h minPrecedence) :=
  .look looks_start_offset fun _ => .first halts

theorem carries_conditional : Carries joint.Tracking joint.inside (conditional h) (conditional g) :=
  .offset fun _ _ => .then (carries_binary_from closed carried 1) fun _ _ test =>
    .thenSame (carries_accept_punct rfl) fun _ => .ite
      (.then carried.assignment.allowingIn fun _ _ consequent => .then (carries_expect_punct rfl) fun _ _ _ =>
        .then carried.assignment fun _ _ alternate => carries_spanned_from (by simp_all [Alike]))
      (.pure test)

theorem carries_assignment_tail : Carries joint.Tracking joint.inside (assignmentTail h) (assignmentTail g) :=
  .offset fun _ _ => .then (carries_conditional closed carried) fun _ _ target => .peek
    (fun kind _ _ _ => by
      dsimp only
      cases found : assignOp? kind with
      | some op =>
          exact .advance (by rintro rfl; cases found) fun _ _ _ => .then carried.assignment fun _ _ value =>
            carries_spanned_from (by simp_all [Alike])
      | none => exact .at (.pure target))
    fun _ _ _ _ => .at (.pure target)

omit closed in
theorem halts_assignment_body : Halts (assignmentBody h) := by
  have tail : Halts (assignmentTail h) :=
    .look looks_start_offset fun _ => .first (.look looks_start_offset fun _ => .first (halts_binary_from carried.unaryHalts 1))
  intro context state value after stands success
  have runs : assignmentBody h context state = (if arrowAhead state.rest = true then arrowFunction h else
    Parser.context >>= fun context => checkWord "yield" >>= fun found =>
      if (context.inGenerator && found) = true then yieldExpression h else assignmentTail h) context state := rfl
  rw [runs, if_neg (by rw [barred_arrow stands]; exact Bool.false_ne_true)] at success
  refine Halts.look looks_context (fun context => .check rfl ?_) _ _ _ _ stands success
  rw [Bool.and_false, if_neg Bool.false_ne_true]
  exact tail

theorem carries_assignment_body : Carries joint.Tracking joint.inside (assignmentBody h) (assignmentBody g) :=
  .halting
    (fun kind one two newline => .arrow rfl
      (fun name word => by
        cases word
        exact carries_named_arrow closed carried)
      (fun unnamed => carries_unnamed_arrow closed carried unnamed)
      (.asking fun context => .check (.branch
        (fun here => by
          have word : kind = .identifier "yield" := by simp_all
          subst word
          exact carries_yield_expression carried)
        fun _ => (carries_assignment_tail closed carried).at)))
    (halts_assignment_body carried)

theorem carries_computed_property : Carries joint.Tracking joint.inside (computedProperty h) (computedProperty g) :=
  .then (carries_expect_punct rfl) fun _ _ _ => .then (carries_expression closed carried).allowingIn fun _ _ property =>
    .then (carries_expect_punct rfl) fun _ _ _ => .pure property

omit closed in
theorem carries_spread_or_assignment : Carries joint.Tracking joint.inside (spreadOrAssignment h) (spreadOrAssignment g) :=
  .offset fun _ _ => .thenSame (carries_accept_punct rfl) fun _ => .ite
    (.then carried.assignment fun _ _ value => carries_spanned_from (by simp_all [Alike])) carried.assignment

theorem carries_arguments : Carries joint.Tracking joint.inside (arguments h) (arguments g) :=
  .then (carries_expect_punct rfl) fun _ _ _ => .allowingIn
    (.then (carries_comma_list (fun _ => False.elim) rfl (closes_spread_or_assignment closed)
      (carries_spread_or_assignment carried)) fun _ _ args => .then (carries_expect_punct rfl) fun _ _ _ => .pure args)

theorem carries_array_literal : Carries joint.Tracking joint.inside (arrayLiteral h) (arrayLiteral g) :=
  .then (carries_expect_punct rfl) fun _ _ _ => .allowingIn
    (.then (carries_holed_list rfl (closes_spread_or_assignment closed) (carries_spread_or_assignment carried))
      fun _ _ items => .then (carries_expect_punct rfl) fun _ _ _ => .pure items)

omit closed in
theorem carries_shorthand_property (name : String) :
    Carries joint.Tracking joint.inside (shorthandProperty h name) (shorthandProperty g name) :=
  .thenSame (carries_accept_punct rfl) fun _ => .ite (.then carried.assignment fun _ _ _ => .pure rfl) (.pure rfl)

end

def propertyFrom (g : Grammar) (modifiers : MethodModifiers) : Parser Property := do
  let keyToken ← peek
  let key ← propertyKey g
  if ← checkPunct .lParen then
    return .method key modifiers.kind (← methodFunction g modifiers)
  if ← acceptPunct .colon then
    return .keyValue key (← g.assignment)
  match keyToken.kind, key with
  | .identifier _, .ident name => shorthandProperty g name
  | _, _ => unexpected (.mark .colon)

section

variable {h g : Grammar} (closed : g.Closed) (carried : Grammar.Carried joint h g)
include closed carried

omit closed in
theorem falls_property_from (modifiers : MethodModifiers) :
    Falls joint.astray (fun _ => joint.short) (propertyFrom h modifiers) :=
  .look (looks_peek_at 0) fun token => .bind (falls_key_astray carried) fun key =>
    .unchecked joint.short_barred rfl (.unaccepted joint.short_barred rfl (by
      split
      · exact .unaccepted joint.short_barred rfl (.pure fun _ => id)
      · exact falls_unexpected _))

theorem carries_property_from (modifiers : MethodModifiers) :
    Carries joint.Tracking (joint.losing joint.short) (propertyFrom h modifiers) (propertyFrom g modifiers) :=
  .unlessApart
    (fun kind _ _ _ => .peeked (.then (carries_property_key carried).at fun key seen same =>
      .thenSame (carries_check rfl) fun _ => .ite
        (.then (carries_method_function closed carried modifiers) fun _ _ function => .pure (by simp_all [Alike]))
        (.thenSame (carries_accept_punct rfl) fun _ => .ite
          (.then carried.assignment fun _ _ value => .pure (by simp_all [Alike])) (by
            dsimp only
            cases kind with
            | identifier word =>
                cases key with
                | ident name =>
                    cases seen with
                    | ident other =>
                        cases same
                        exact (carries_shorthand_property carried name).loosely
                    | _ => cases same
                | _ => exact .unexpected _
            | _ => exact .unexpected _))))
    ((falls_property_from carried modifiers).mono fun _ => .inr)

theorem carries_keyed_property :
    Carries joint.Tracking (joint.losing joint.short) (keyedProperty h) (keyedProperty g) :=
  .unlessLostSame carries_method_modifiers (falls_property_from carried) (carries_property_from closed carried)

theorem carries_property : Carries joint.Tracking (joint.losing joint.short) (property h) (property g) :=
  .thenSame (carries_accept_punct rfl) fun _ => .ite
    (.then carried.assignment fun _ _ value => .pure (by simp_all [Alike])) (carries_keyed_property closed carried)

theorem carries_object_literal : Carries joint.Tracking joint.inside (objectLiteral h) (objectLiteral g) :=
  .then (carries_expect_punct rfl) fun _ _ _ => .allowingIn
    (.unlessLost (carries_comma_list joint.short_barred rfl (closes_property closed) (carries_property closed carried))
      (fun _ => .first (halts_expect rfl _) joint.short_barred) fun _ _ props =>
        .then (carries_expect_punct rfl) fun _ _ _ => .pure props)

end

-- Every mark in a text has a length, and the tick has none.
theorem lexed_unticked {base : Nat} {previous : Option TokenKind} {cursor : Cursor} {tokens : List Token}
    (lexed : Lexed base previous cursor tokens) : tick ∉ tokens := by
  induction lexed with
  | last skipped finished =>
      intro inside
      cases List.mem_singleton.mp inside
  | @token previous cursor start after newline c rest kind tokens skipped text scanned onward ih =>
      intro inside
      rcases List.mem_cons.mp inside with same | later
      · obtain ⟨word, nonempty, takes, -⟩ := scan_kind_written base previous c rest start after kind text scanned
        have stops : 0 = base + after.offset := congrArg (·.span.stop) same
        have bytes := takes.bytes
        obtain ⟨first, others, rfl⟩ := List.exists_cons_of_ne_nil nonempty
        have positive := Char.utf8Size_pos first
        rw [byteLength_cons] at bytes
        omega
      · exact ih later

theorem carries_on_fragment {α : Type} [Spanless α] {parser mate : Parser α}
    (carries : Carries joint.Tracking joint.inside parser mate) {tokens : List Token} (unticked : tick ∉ tokens) :
    Carries joint.Tracking joint.inside (onFragment parser tokens) (onFragment mate tokens) := by
  have free : ¬joint.sign <:+ tokens := fun suffix => unticked (suffix.subset (List.mem_cons_self ..))
  constructor
  · intro context state value after _ success clean
    obtain ⟨inner, runs⟩ := on_fragment_ok success
    rw [runs] at success
    cases success
    exact (List.append_eq_nil_iff.mp clean).1
  · intro context state other value after tracks untouched success clean
    rw [on_fragment_run] at success
    rw [on_fragment_run]
    cases outcome : parser { context with noIn := false } (.ofTokens tokens) with
    | error error failed =>
        rw [outcome] at success
        cases success
    | ok found finish =>
        rw [outcome, Outcome.outside] at success
        split at success
        · next ended =>
            cases success
            rcases carries.carries _ _ (.ofTokens tokens) _ _ (.level free) rfl outcome (List.append_eq_nil_iff.mp clean).2 with
              never | ⟨seen, final, ran, alike, meets, kept⟩
            · exact never.elim
            · have ends : final.atEnd = true := (sees_blind (tracks_sees meets) rfl).symm.trans ended
              refine .inr ⟨seen, { other with recovered := other.recovered ++ final.recovered }, ?_, alike, tracks, ?_⟩
              · rw [ran, Outcome.outside, if_pos ends]
              · rw [kept, untouched]
                rfl
        · cases success

section

variable {h g : Grammar} (closed : g.Closed) (carried : Grammar.Carried joint h g)
include closed carried

theorem carries_substitution (source : String) (offset : Nat) :
    Carries joint.Tracking joint.inside (substitution h source offset) (substitution g source offset) := by
  unfold substitution
  cases lexed : lexFragment source offset with
  | error failure => exact .fail _
  | ok tokens => exact carries_on_fragment (carries_expression closed carried) (lexed_unticked (lexed_of_fragment lexed))

theorem carries_template_from (text : String) (parts : List TemplatePart) :
    Carries joint.Tracking joint.inside (templateFrom h text parts) (templateFrom g text parts) := by
  induction parts generalizing text with
  | nil => exact .pure rfl
  | cons part rest ih =>
      cases part with
      | text more => exact ih (text ++ more)
      | substitution source offset =>
          exact .then (carries_substitution closed carried source offset) fun _ _ value => .then (ih "") fun tail other same => by
            cases tail
            cases other
            exact .pure (by simp_all [Alike])

theorem carries_template (parts : List TemplatePart) :
    Carries joint.Tracking joint.inside (template h parts) (template g parts) :=
  carries_template_from closed carried "" parts

theorem carries_import_expression (keyword other : Token) :
    Carries joint.Tracking joint.inside (importExpression h keyword) (importExpression g other) :=
  .thenSame (carries_accept_punct rfl) fun _ => .ite (.thenSame carries_identifier fun _ => .pure rfl)
    (.then (carries_arguments closed carried) fun _ _ args => .pure (by simp_all [Alike]))

theorem carries_parenthesized : Carries joint.Tracking joint.inside (parenthesized h) (parenthesized g) :=
  .then (carries_expression closed carried).allowingIn fun _ _ inner => .then (carries_expect_punct rfl) fun _ _ _ =>
    .pure (by simp_all [Alike])

theorem carries_name_or_async_function (name : String) {one two : Span} {newline : Bool} :
    Carries (joint.Showing ⟨.identifier name, one, newline⟩ ⟨.identifier name, two, newline⟩) joint.inside
      (nameOrAsyncFunction h name) (nameOrAsyncFunction g name) :=
  .functionAhead rfl fun found seen same => by
    cases same TokenKind.noConfusion
    exact .ite
      (.advance TokenKind.noConfusion fun _ _ _ => .then (carries_function_from closed carried _ _) fun _ _ function =>
        .pure (by simp_all [Alike]))
      (.advance TokenKind.noConfusion fun _ _ _ => .pure rfl)

omit closed carried in
theorem carries_consuming {kind : TokenKind} {one two : Span} {newline : Bool} (other : kind ≠ .punct .semi) (value : Expr) :
    Carries (joint.Showing ⟨kind, one, newline⟩ ⟨kind, two, newline⟩) joint.inside (consuming value) (consuming value) :=
  .advance other fun _ _ _ => .pure rfl

theorem carries_primary_expr {heritage mateHeritage : Parser (Spanned Expr)}
    (ancestor : Carries joint.Tracking joint.inside heritage mateHeritage) (kind : TokenKind) (one two : Span) (newline : Bool) :
    Carries (joint.Showing ⟨kind, one, newline⟩ ⟨kind, two, newline⟩) joint.inside
      (primaryExpr h heritage ⟨kind, one, newline⟩) (primaryExpr g mateHeritage ⟨kind, two, newline⟩) := by
  cases kind with
  | identifier name => exact carries_name_or_async_function closed carried name
  | number value => exact carries_consuming TokenKind.noConfusion _
  | bigint literal => exact carries_consuming TokenKind.noConfusion _
  | string value => exact carries_consuming TokenKind.noConfusion _
  | regex pattern flags => exact carries_consuming TokenKind.noConfusion _
  | template parts =>
      exact .advance TokenKind.noConfusion fun _ _ _ => .then (carries_template closed carried parts) fun _ _ template =>
        .pure (by simp_all [Alike])
  | keyword word =>
      cases word with
      | trueWord => exact carries_consuming TokenKind.noConfusion _
      | falseWord => exact carries_consuming TokenKind.noConfusion _
      | nullWord => exact carries_consuming TokenKind.noConfusion _
      | thisWord => exact carries_consuming TokenKind.noConfusion _
      | superWord => exact carries_consuming TokenKind.noConfusion _
      | functionWord =>
          exact .then (carries_function_from closed carried _ _).at fun _ _ function => .pure (by simp_all [Alike])
      | classWord =>
          exact .then (carries_class_from closed carried ancestor _).at fun _ _ decl => .pure (by simp_all [Alike])
      | importWord =>
          exact .advance TokenKind.noConfusion fun keyword other _ => carries_import_expression closed carried keyword other
      | _ => exact .unexpected _
  | punct mark =>
      cases mark with
      | lParen => exact .advance (by simp) fun _ _ _ => carries_parenthesized closed carried
      | lBracket => exact .then (carries_array_literal closed carried).at fun _ _ items => .pure (by simp_all [Alike])
      | lBrace => exact .then (carries_object_literal closed carried).at fun _ _ props => .pure (by simp_all [Alike])
      | _ => exact .unexpected _
  | _ => exact .unexpected _

theorem carries_primary {heritage mateHeritage : Parser (Spanned Expr)}
    (ancestor : Carries joint.Tracking joint.inside heritage mateHeritage) :
    Carries joint.Tracking joint.inside (primary h heritage) (primary g mateHeritage) :=
  .peek (fun kind one two newline => .then (carries_primary_expr closed carried ancestor kind one two newline) fun _ _ expr =>
      carries_spanned_from expr)
    fun _ _ _ _ => .then (.unexpected _) fun _ _ expr => carries_spanned_from expr

omit closed carried in
theorem halts_primary (heritage : Parser (Spanned Expr)) : Halts (primary h heritage) :=
  .peek (fun _ _ => .first (halts_unexpected _)) fun _ _ => .first (halts_unexpected _)

theorem carries_member_only {heritage mateHeritage : Parser (Spanned Expr)}
    (ancestor : Carries joint.Tracking joint.inside heritage mateHeritage) :
    Carries joint.Tracking joint.inside (memberOnly h heritage) (memberOnly g mateHeritage) :=
  .offset fun _ other => .then (carries_primary closed carried ancestor) fun _ _ object =>
    .repeatTurning (member_round_shortens closed other)
      (fun _ _ same => .thenSame (carries_accept_punct rfl) fun _ => .ite
        (.thenSame carries_identifier_name fun _ => .then (carries_spanned_from (by simp_all [Alike])) fun _ _ whole =>
          carries_again whole)
        (.thenSame (carries_check rfl) fun _ => .ite
          (.then (carries_computed_property closed carried) fun _ _ property =>
            .then (carries_spanned_from (by simp_all [Alike])) fun _ _ whole => carries_again whole)
          (carries_done same)))
      object

theorem carries_new_from {heritage mateHeritage : Parser (Spanned Expr)}
    (ancestor : Carries joint.Tracking joint.inside heritage mateHeritage) :
    Carries joint.Tracking joint.inside (newFrom h heritage) (newFrom g mateHeritage) := by
  have arguments : ∀ (start other : Nat) {callee seen : Spanned Expr}, Alike callee seen →
      Carries joint.Tracking joint.inside (do
        let args ← if ← checkPunct .lParen then arguments h else pure []
        spannedFrom start (Expr.new callee args)) (do
        let args ← if ← checkPunct .lParen then arguments g else pure []
        spannedFrom other (Expr.new seen args)) :=
    fun _ _ _ _ callee => .thenSame (carries_check rfl) fun _ => .ite
      (.then (carries_arguments closed carried) fun _ _ args => carries_spanned_from (by simp_all [Alike]))
      (.then (.pure rfl) fun _ _ args => carries_spanned_from (by simp_all [Alike]))
  exact .offset fun start other => .then (carries_expect_keyword _) fun _ _ _ => .thenSame (carries_accept_punct rfl) fun _ => .ite
    (.thenSame carries_identifier fun _ => carries_spanned_from rfl)
    (.thenSame (carries_check rfl) fun _ => .ite
      (.then carried.newExpression fun _ _ callee => arguments start other callee)
      (.then (carries_member_only closed carried ancestor) fun _ _ callee => arguments start other callee))

theorem carries_optional_link {object seen : Spanned Expr} (same : Alike object seen) :
    Carries joint.Tracking joint.inside (optionalLink h object) (optionalLink g seen) :=
  .thenSame (carries_check rfl) fun _ => .ite
    (.then (carries_arguments closed carried) fun _ _ args => .pure (by simp_all [Alike]))
    (.thenSame (carries_check rfl) fun _ => .ite
      (.then (carries_computed_property closed carried) fun _ _ property => .pure (by simp_all [Alike]))
      (.thenSame carries_identifier_name fun _ => .pure (by simp_all [Alike])))

theorem carries_chain_link {object seen : Spanned Expr} (same : Alike object seen) :
    Carries joint.Tracking joint.inside (chainLink h object) (chainLink g seen) :=
  .peek
    (fun kind _ _ _ => by
      cases kind with
      | template parts =>
          exact .advance TokenKind.noConfusion fun _ _ _ => .then (carries_template closed carried parts) fun _ _ template =>
            .pure (by simp_all [Alike])
      | punct mark =>
          cases mark with
          | dot => exact .advance (by simp) fun _ _ _ => .thenSame carries_identifier_name fun _ => .pure (by simp_all [Alike])
          | questionDot =>
              exact .advance (by simp) fun _ _ _ => .then (carries_optional_link closed carried same) fun _ _ link =>
                .pure (by simp_all [Alike])
          | lBracket =>
              exact .then (carries_computed_property closed carried).at fun _ _ property => .pure (by simp_all [Alike])
          | lParen => exact .then (carries_arguments closed carried).at fun _ _ args => .pure (by simp_all [Alike])
          | _ => exact .at (.pure rfl)
      | _ => exact .at (.pure rfl))
    fun _ _ _ _ => .at (.pure rfl)

theorem carries_chain {start other : Nat} {head seen : Spanned Expr} (same : Alike head seen) :
    Carries joint.Tracking joint.inside (repeatRounds (chainRound h start) head) (repeatRounds (chainRound g other) seen) :=
  .repeatTurning (chain_round_shortens closed other)
    (fun _ _ same => .then (carries_chain_link closed carried same) fun link mate linked => by
      cases link with
      | some node =>
          cases mate with
          | some seen => exact .then (carries_spanned_from (Option.some.inj linked)) fun _ _ whole => carries_again whole
          | none => cases linked
      | none =>
          cases mate with
          | some seen => cases linked
          | none => exact carries_done same)
    same

theorem carries_call_member_with {heritage mateHeritage : Parser (Spanned Expr)}
    (ancestor : Carries joint.Tracking joint.inside heritage mateHeritage) :
    Carries joint.Tracking joint.inside (callMemberWith h heritage) (callMemberWith g mateHeritage) :=
  .offset fun _ _ => .thenSame (carries_check rfl) fun _ => .ite
    (.then (carries_new_from closed carried ancestor) fun _ _ head => carries_chain closed carried head)
    (.then (carries_primary closed carried ancestor) fun _ _ head => carries_chain closed carried head)

-- The one run reads on its fuel, of which the other one has enough.
theorem carries_call_member_from (fuel : List Token) :
    Carries joint.Tracking joint.inside (callMemberFrom h fuel) (callMember g) := by
  induction fuel with
  | nil => exact .unexpected _
  | cons token fuel ih =>
      have unfolds : callMember g = callMemberWith g (callMember g) :=
        funext fun context => funext fun state => call_member_unfold context state
      rw [unfolds]
      exact carries_call_member_with closed carried ih

theorem carries_call_member : Carries joint.Tracking joint.inside (callMember h) (callMember g) :=
  ⟨fun context state => (carries_call_member_from closed carried state.rest).grows context state,
    fun context state => (carries_call_member_from closed carried state.rest).carries context state⟩

omit closed carried in
theorem halts_call_member : Halts (callMember h) := by
  intro context state value after stands success
  have runs : callMember h context state = callMemberFrom h state.rest context state := rfl
  rw [runs] at success
  cases fuel : state.rest with
  | nil =>
      rw [fuel] at success
      cases success
  | cons token rest =>
      rw [fuel] at success
      have halts : Halts (callMemberWith h (callMemberFrom h rest)) :=
        .look looks_start_offset fun _ => .check rfl (.first (halts_primary _))
      exact halts context state value after stands success

theorem carries_new_expression_body : Carries joint.Tracking joint.inside (newExpressionBody h) (newExpressionBody g) :=
  carries_new_from closed carried (carries_call_member closed carried)

theorem carries_postfix_update (start other : Nat) :
    Carries joint.Tracking joint.inside (postfixUpdate h start) (postfixUpdate g other) :=
  .then (carries_call_member closed carried) fun _ _ target => .peek
    (fun kind _ _ _ => by
      dsimp only
      cases found : updateOp? kind with
      | some op =>
          exact .ite (.at (.pure target)) (.advance (by rintro rfl; cases found) fun _ _ _ =>
            carries_spanned_from (by simp_all [Alike]))
      | none => exact .at (.pure target))
    fun _ _ _ _ => .at (.pure target)

omit closed carried in
theorem halts_unary_body : Halts (unaryBody h) :=
  .look looks_start_offset fun start => by
    have tail : Halts (awaitAhead >>= fun found => if found = true then advance >>= fun _ => h.unary >>= fun value =>
        spannedFrom start (Expr.await value) else postfixUpdate h start) := by
      rw [await_ahead_bind]
      exact .check rfl (.first halts_call_member)
    exact .peek (fun _ _ => tail) fun _ _ => tail

theorem carries_unary_body : Carries joint.Tracking joint.inside (unaryBody h) (unaryBody g) := by
  refine .halting (fun kind one two newline => .offset fun start other => .peeked ?_) halts_unary_body
  have operand : ∀ op, Carries joint.Tracking joint.inside (h.unary >>= fun operand => spannedFrom start (Expr.unary op operand))
      (g.unary >>= fun operand => spannedFrom other (Expr.unary op operand)) :=
    fun op => .then carried.unary fun _ _ value => carries_spanned_from (by simp_all [Alike])
  have update : ∀ op, Carries joint.Tracking joint.inside (h.unary >>= fun target => spannedFrom start (Expr.update op true target))
      (g.unary >>= fun target => spannedFrom other (Expr.update op true target)) :=
    fun op => .then carried.unary fun _ _ value => carries_spanned_from (by simp_all [Alike])
  dsimp only
  cases found : unaryOp? kind with
  | some op => exact .advance (by rintro rfl; cases found) fun _ _ _ => operand op
  | none =>
      cases here : updateOp? kind with
      | some op => exact .advance (by rintro rfl; cases here) fun _ _ _ => update op
      | none =>
          dsimp only
          rw [await_ahead_bind, await_ahead_bind]
          refine .check (.branch (fun word => ?_) fun _ => (carries_postfix_update closed carried start other).at)
          have isAwait : kind = .identifier "await" := by simpa using word
          subst isAwait
          refine .asking fun context => .ahead (fun second behind sees => ?_) rfl
          have same : awaitsOperand second = awaitsOperand behind := by
            cases sees with
            | same kind one two newline => rfl
            | past semi => cases semi
            | apart _ _ one two newline name => cases newline <;> rfl
          rw [same]
          exact .ite (.advance TokenKind.noConfusion fun _ _ _ => .then carried.unary fun _ _ value =>
              carries_spanned_from (by simp_all [Alike]))
            (carries_postfix_update closed carried start other).at

end

end ScriptSuite.Script
