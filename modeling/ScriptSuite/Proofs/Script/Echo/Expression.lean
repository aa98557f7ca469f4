import ScriptSuite.Proofs.Script.Echo.Repetition
import ScriptSuite.Proofs.Script.Lexer.Moving

set_option autoImplicit false

namespace ScriptSuite.Script

variable {distance : Nat} {token : Token}

theorem echoes_declared_name (required : Bool) (wanted : Expectation) :
    Echoes distance inside (declaredName required wanted) (declaredName required wanted) :=
  .peek fun token _ => by
    obtain ⟨kind, span, newline⟩ := token
    cases kind with
    | identifier name => exact .bind (echoes_identifier _) fun _ => .pure rfl rfl
    | _ => exact .ite (echoes_unexpected _ _) (.pure rfl rfl)

theorem echoes_async_modifier : Echoes distance inside asyncModifier asyncModifier := fun token =>
  .check rfl (.lookAhead looks_ahead_next_ends_member (fun semi _ _ _ _ _ => by simp [semi]) fun ends =>
    .lookAhead looks_ahead_token (fun semi _ _ _ _ _ => by simp [semi]) fun next => .branch Iff.rfl
      (fun here => by
        have kind : token.kind = .identifier "async" := by simp_all
        exact .advance (by rw [kind]; rfl) fun _ => .pure rfl rfl)
      fun _ => .pure rfl rfl)

theorem echoes_accessor_modifier : Echoes distance inside accessorModifier accessorModifier :=
  .bind (echoes_accept_word _) fun _ => .ite (.pure rfl rfl)
    (.bind (echoes_accept_word _) fun _ => .ite (.pure rfl rfl) (.pure rfl rfl))

theorem accessor_modifier_at_mark (context : Context) (state : State) (mark : Punct) (kind : state.peek.kind = .punct mark) :
    accessorModifier context state = .ok .method state := by
  have refused : ∀ word, acceptWord word context state = .ok false state := by
    intro word
    rw [acceptWord, accept_run, if_neg (by simp [kind])]
  unfold accessorModifier
  rw [bind_run, refused]
  dsimp only
  rw [if_neg Bool.false_ne_true, bind_run, refused]
  rfl

theorem echoes_method_modifiers : Echoes distance inside methodModifiers methodModifiers :=
  .bind echoes_async_modifier fun isAsync => .bind (echoes_accept_punct .star rfl) fun isGenerator => fun token =>
    .lookAhead looks_ahead_next_ends_member (fun semi one other context state same => by
        have method := accessor_modifier_at_mark context state .semi (same ▸ semi)
        have runs : ∀ ends, (if (isAsync || isGenerator || ends) = true then
            (Pure.pure ⟨isAsync, isGenerator, .method⟩ : Parser MethodModifiers)
          else accessorModifier >>= fun kind => Pure.pure ⟨isAsync, isGenerator, kind⟩) context state =
            .ok ⟨isAsync, isGenerator, .method⟩ state := by
          intro ends
          split
          · rfl
          · rw [bind_run, method]
            rfl
        exact (runs one).trans (runs other).symm)
      fun _ => .ite (.pure rfl rfl) (.bind (echoes_accessor_modifier _) fun _ => .pure rfl rfl)

theorem echoes_yield_delegate : Echoes distance inside yieldDelegate yieldDelegate := .peek fun _ _ =>
  .ite (.pure rfl rfl) (echoes_accept_punct .star rfl _)

@[simp] theorem moved_yields_operand (token : Token) : yieldsOperand (token.moved distance) = yieldsOperand token := by
  obtain ⟨kind, span, newline⟩ := token
  cases kind <;> rfl

@[simp] theorem moved_awaits_operand (token : Token) : awaitsOperand (token.moved distance) = awaitsOperand token := by
  obtain ⟨kind, span, newline⟩ := token
  cases kind <;> rfl

@[simp] theorem moved_statement_ends (token : Token) : statementEnds (token.moved distance) = statementEnds token := by
  simp [statementEnds]

@[simp] theorem moved_binary_op (noIn : Bool) (kind : TokenKind) :
    binaryOp? noIn (kind.moved distance) = binaryOp? noIn kind := by
  cases kind <;> rfl

@[simp] theorem moved_assign_op (kind : TokenKind) : assignOp? (kind.moved distance) = assignOp? kind := by
  cases kind <;> rfl

@[simp] theorem moved_unary_op (kind : TokenKind) : unaryOp? (kind.moved distance) = unaryOp? kind := by
  cases kind <;> rfl

@[simp] theorem moved_update_op (kind : TokenKind) : updateOp? (kind.moved distance) = updateOp? kind := by
  cases kind <;> rfl

theorem binary_op_inert (noIn : Bool) (kind : TokenKind) (op : BinaryOp × Nat) (found : binaryOp? noIn kind = some op) :
    kind.inert = true := by
  cases kind with
  | punct mark => cases mark <;> first | rfl | cases found
  | keyword word => rfl
  | _ => cases found

theorem assign_op_inert (kind : TokenKind) (op : AssignOp) (found : assignOp? kind = some op) : kind.inert = true := by
  cases kind with
  | punct mark => cases mark <;> first | rfl | cases found
  | _ => cases found

theorem unary_op_inert (kind : TokenKind) (op : UnaryOp) (found : unaryOp? kind = some op) : kind.inert = true := by
  cases kind with
  | punct mark => cases mark <;> first | rfl | cases found
  | keyword word => rfl
  | _ => cases found

theorem update_op_inert (kind : TokenKind) (op : UpdateOp) (found : updateOp? kind = some op) : kind.inert = true := by
  cases kind with
  | punct mark => cases mark <;> first | rfl | cases found
  | _ => cases found

structure Grammar.Echoes (g : Grammar) (distance : Nat) : Prop where
  statement : Script.Echoes distance outer g.statement g.statement
  block : Script.Echoes distance inside g.block g.block
  bindingTarget : Script.Echoes distance inside g.bindingTarget g.bindingTarget
  assignment : Script.Echoes distance inside g.assignment g.assignment
  binary : ∀ precedence, Script.Echoes distance inside (g.binary precedence) (g.binary precedence)
  unary : Script.Echoes distance inside g.unary g.unary
  newExpression : Script.Echoes distance inside g.newExpression g.newExpression

section

variable {g : Grammar} (closed : g.Closed) (alike : g.Echoes distance)
include closed alike

omit closed in
theorem echoes_property_key : Echoes distance inside (propertyKey g) (propertyKey g) := .peek fun token _ => by
  obtain ⟨kind, span, newline⟩ := token
  cases kind with
  | identifier name => exact .bind (echoes_identifier_name _) fun _ => .pure rfl rfl
  | keyword word => exact .bind (echoes_identifier_name _) fun _ => .pure rfl rfl
  | privateName name => exact .bind (echoes_identifier_name _) fun _ => .pure rfl rfl
  | string value => exact .advance rfl fun _ => .pure rfl rfl
  | number value => exact .advance rfl fun _ => .pure rfl rfl
  | bigint literal => exact .advance rfl fun _ => .pure rfl rfl
  | punct mark =>
      cases mark with
      | lBracket =>
          exact .opens rfl fun _ => .bind alike.assignment.allowingIn fun _ => .closed rfl fun _ => .pure (by simp) rfl
      | _ => exact echoes_unexpected _ _
  | _ => exact echoes_unexpected _ _

omit closed in
theorem echoes_binding_element : Echoes distance inside (bindingElement g) (bindingElement g) :=
  .bind echoes_start_offset fun _ => .bind alike.bindingTarget fun _ => .bind (echoes_accept_punct .eq rfl) fun _ =>
    .ite (.bind alike.assignment.allowingIn fun _ => echoes_spanned_from _ (by simp)) (.pure rfl rfl)

omit closed in
theorem echoes_rest_element : Echoes distance inside (restElement g) (restElement g) :=
  .bind echoes_start_offset fun _ => .bind (echoes_expect_punct .ellipsis rfl) fun _ =>
    .bind alike.bindingTarget fun _ => echoes_spanned_from _ (by simp)

omit closed in
theorem echoes_binding_or_rest : Echoes distance inside (bindingOrRest g) (bindingOrRest g) :=
  .bind (echoes_check _ rfl) fun _ => .ite (echoes_rest_element alike) (echoes_binding_element alike)

omit closed in
theorem echoes_pattern_prop : Echoes distance inside (patternProp g) (patternProp g) :=
  .bind (echoes_accept_punct .ellipsis rfl) fun _ => .ite
    (.bind alike.bindingTarget fun _ => .pure (by simp) rfl)
    (.bind echoes_start_offset fun _ => .bind (echoes_property_key alike) fun key =>
      .bind (echoes_accept_punct .colon rfl) fun _ => .ite
        (.bind (echoes_binding_element alike) fun _ => .pure (by simp) rfl) (by
          cases key with
          | ident name =>
              exact .bind (echoes_spanned_from _ (by simp)) fun _ => .bind (echoes_accept_punct .eq rfl) fun _ => .ite
                (.bind alike.assignment.allowingIn fun _ => .bind (echoes_spanned_from _ (by simp)) fun _ =>
                  .pure (by simp) rfl)
                (.pure (by simp) rfl)
          | _ => exact echoes_unexpected _))

theorem echoes_object_pattern : Echoes distance inside (objectPattern g) (objectPattern g) :=
  .opened rfl fun _ => .bind (echoes_comma_list .rBrace (closes_pattern_prop closed) (echoes_pattern_prop alike)) fun _ =>
    .closed rfl fun _ => .pure (by simp) rfl

theorem echoes_array_pattern : Echoes distance inside (arrayPattern g) (arrayPattern g) :=
  .opened rfl fun _ =>
    .bind (echoes_holed_list .rBracket (closes_binding_or_rest closed) (echoes_binding_or_rest alike)) fun _ =>
      .closed rfl fun _ => .pure (by simp) rfl

theorem echoes_binding_pattern : Echoes distance inside (bindingPattern g) (bindingPattern g) := .peek fun token _ => by
  obtain ⟨kind, span, newline⟩ := token
  cases kind with
  | identifier name => exact .bind (echoes_identifier _) fun _ => .pure (by simp) rfl
  | punct mark =>
      cases mark with
      | lBrace => exact echoes_object_pattern closed alike _
      | lBracket => exact echoes_array_pattern closed alike _
      | _ => exact echoes_unexpected _ _
  | _ => exact echoes_unexpected _ _

theorem echoes_binding_target_body : Echoes distance inside (bindingTargetBody g) (bindingTargetBody g) :=
  .bind echoes_start_offset fun _ => .bind (echoes_binding_pattern closed alike) fun _ => echoes_spanned_from _ rfl

theorem echoes_formal_params : Echoes distance inside (formalParams g) (formalParams g) :=
  .opened rfl fun _ =>
    .bind (echoes_comma_list .rParen (closes_binding_or_rest closed) (echoes_binding_or_rest alike)) fun _ =>
      .closed rfl fun _ => .pure rfl rfl

omit closed in
theorem echoes_declarator : Echoes distance inside (declarator g) (declarator g) :=
  .bind alike.bindingTarget fun _ => .bind (echoes_accept_punct .eq rfl) fun _ =>
    .ite (.bind alike.assignment fun _ => .pure (by simp) rfl) (.pure (by simp) rfl)

omit closed in
theorem echoes_declarator_round (declarators : List Declarator) :
    Echoes distance (rounds false 0) (declaratorRound g declarators)
      (declaratorRound g (Movable.moved distance declarators)) :=
  .bind (echoes_declarator alike) fun _ => .bind (echoes_accept_punct .comma rfl) fun _ =>
    .ite (.pure rfl rfl) (.pure (by simp) rfl)

theorem echoes_var_declarations (kind : VarKind) :
    Echoes distance inside (varDeclarations g kind) (varDeclarations g kind) :=
  .bind (.repeatRounds (declarator_round_shortens closed) (echoes_declarator_round alike)
    (fun isLoose => Bool.noConfusion isLoose) rfl) fun _ => .pure (by simp) rfl

theorem echoes_function_tail (isAsync isGenerator : Bool) :
    Echoes distance inside (functionTail g isAsync isGenerator) (functionTail g isAsync isGenerator) :=
  .inFunction (.bind (echoes_formal_params closed alike) fun _ => .bind alike.block fun _ => .pure rfl rfl)

theorem echoes_function_from (isAsync requireName : Bool) :
    Echoes distance inside (functionFrom g isAsync requireName) (functionFrom g isAsync requireName) :=
  .bind (echoes_expect_keyword _) fun _ => .bind (echoes_accept_punct .star rfl) fun _ =>
    .bind (echoes_declared_name _ _) fun _ => .bind (echoes_function_tail closed alike _ _) fun _ => .pure (by simp) rfl

theorem echoes_method_function (modifiers : MethodModifiers) :
    Echoes distance inside (methodFunction g modifiers) (methodFunction g modifiers) :=
  .bind (echoes_function_tail closed alike _ _) fun _ => .pure (by simp) rfl

theorem echoes_keyed_member (isStatic : Bool) :
    Echoes distance outer (keyedMember g isStatic) (keyedMember g isStatic) :=
  .bind echoes_method_modifiers fun modifiers => .bind (echoes_property_key alike) fun _ => .bind (echoes_check _ rfl) fun _ =>
    .ite (.bind (echoes_method_function closed alike modifiers) fun _ => .pure (by simp) rfl)
      (.bind (echoes_accept_punct .eq rfl) fun _ =>
        .ite (.bind alike.assignment.inFunction fun _ => .bind (.pure rfl rfl) fun _ =>
            .andThen echoes_consume_semicolon fun _ => .pure (by simp))
          (.bind (.pure rfl rfl) fun _ => .andThen echoes_consume_semicolon fun _ => .pure (by simp)))

theorem echoes_class_member : Echoes distance outer (classMember g) (classMember g) :=
  .bind echoes_start_offset fun start => fun token => .check rfl
    (.lookAhead looks_ahead_next_ends_member (fun semi _ _ _ _ _ => by simp [semi]) fun ends => .branch Iff.rfl
      (fun here => by
        have kind : token.kind = .identifier "static" := by simp_all
        exact .advance (by rw [kind]; rfl) fun _ => .bind (echoes_check _ rfl) fun _ => .ite
          (.bind alike.block.inFunction fun _ => (quiet_spanned_from _ (by simp)).echoes fun _ => rfl)
          (.andThen (echoes_keyed_member closed alike true) fun _ => quiet_spanned_from _ rfl))
      fun _ => .any (.andThen (echoes_keyed_member closed alike false) fun _ => quiet_spanned_from _ rfl))

theorem echoes_class_member_round (brace : Span) (members : List (Spanned ClassMember)) :
    Echoes distance (rounds true 1) (classMemberRound g brace members)
      (classMemberRound g (brace.shift distance) (Movable.moved distance members)) := by
  have member : Echoes distance (rounds true 1) (do return .again ((← classMember g) :: members) :
        Parser (Round (List (Spanned ClassMember)) (List (Spanned ClassMember))))
      (do return .again ((← classMember g) :: Movable.moved distance members)) :=
    .map (echoes_class_member closed alike) (fun _ => rfl) fun _ => rfl
  have next : Echoes distance (rounds true 1) (do
        if ← acceptPunct .semi then return .again members
        return .again ((← classMember g) :: members)) (do
        if ← acceptPunct .semi then return .again (Movable.moved distance members)
        return .again ((← classMember g) :: Movable.moved distance members)) :=
    .acceptSemi (.pure rfl) (fun _ _ _ ended => by cases ended; rfl) member
  exact .acceptBrace (.pure (by simp)) (fun _ _ _ ended => by cases ended; rfl)
    (.bind (LooksAt.echoes looks_alike_at_end) fun _ => .ite (.bind (.fail rfl) fun _ => next) next)

omit closed alike in
theorem stuck_class_member_round (brace : Span) (members : List (Spanned ClassMember)) :
    Stuck (classMemberRound g brace members) :=
  .accept TokenKind.noConfusion (.atEnd (Stuck.fail _).bind)

theorem echoes_class_from {heritage movedHeritage : Parser (Spanned Expr)}
    (ancestor : Echoes distance inside heritage movedHeritage) (requireName : Bool) :
    Echoes distance inside (classFrom g heritage requireName) (classFrom g movedHeritage requireName) := by
  have body : ∀ (name : Option String) (parent : Option (Spanned Expr)), Echoes distance inside (do
      let brace ← expectPunct .lBrace
      let members ← repeatRounds (classMemberRound g brace.span) []
      return (⟨name, parent, members⟩ : Class)) (do
      let brace ← expectPunct .lBrace
      let members ← repeatRounds (classMemberRound g brace.span) []
      return (⟨name, Movable.moved distance parent, members⟩ : Class)) :=
    fun name parent => .opened rfl fun brace => .andThen (.repeatRounds (class_member_round_shortens closed brace.span)
      (echoes_class_member_round closed alike brace.span) (fun _ => stuck_class_member_round brace.span) rfl)
      fun _ => .pure (by simp)
  exact .bind (echoes_expect_keyword _) fun _ => .bind (echoes_declared_name _ _) fun name =>
    .bind (echoes_accept_keyword _) fun _ => .ite
      (.bind ancestor fun _ => .bind (.pure rfl rfl) fun parent => by simpa using body name _)
      (.bind (.pure rfl rfl) fun _ => by simpa using body name _)

omit closed in
theorem echoes_sequence_round (items : List (Spanned Expr)) :
    Echoes distance (rounds false 0) (sequenceRound g items) (sequenceRound g (Movable.moved distance items)) :=
  .bind (echoes_accept_punct .comma rfl) fun _ => .ite (.bind alike.assignment fun _ => .pure rfl rfl)
    (.pure (by simp) rfl)

theorem echoes_expression : Echoes distance inside (expression g) (expression g) :=
  .bind alike.assignment fun first => .bind (echoes_check _ rfl) fun _ => .ite
    (.bind (.repeatRounds (sequence_round_shortens closed) (echoes_sequence_round alike)
      (fun isLoose => Bool.noConfusion isLoose) rfl) fun _ => echoes_spanned_from _ (by simp))
    (.pure rfl rfl)

theorem echoes_arrow_params (isAsync : Bool) : Echoes distance inside (arrowParams g isAsync) (arrowParams g isAsync) :=
  .peek fun token _ => by
    obtain ⟨kind, span, newline⟩ := token
    cases kind with
    | identifier name =>
        exact .bind (echoes_start_offset _) fun _ => .bind echoes_identifier fun _ =>
          .bind (echoes_spanned_from _ (by simp)) fun _ => .pure rfl rfl
    | _ => exact (echoes_formal_params closed alike).inFunction _

omit closed in
theorem echoes_arrow_body (isAsync : Bool) : Echoes distance inside (arrowBody g isAsync) (arrowBody g isAsync) :=
  .bind (echoes_check _ rfl) fun _ => .ite (.bind alike.block.inFunction fun _ => .pure (by simp) rfl)
    (.bind alike.assignment.inFunction fun _ => .pure (by simp) rfl)

theorem echoes_arrow_function : Echoes distance inside (arrowFunction g) (arrowFunction g) :=
  .bind echoes_start_offset fun start => fun token => .check rfl
    (.lookAhead looks_ahead_token (fun semi _ _ _ _ _ => by
        have other : (token.kind == .identifier "async") = false := by
          rw [semi]
          rfl
        simp [other]) fun next => by
      have parts : ∀ isAsync, Echoes distance inside (do
          let params ← arrowParams g isAsync
          let _ ← expectPunct .arrow
          let body ← arrowBody g isAsync
          spannedFrom start (Expr.arrow params body isAsync)) (do
          let params ← arrowParams g isAsync
          let _ ← expectPunct .arrow
          let body ← arrowBody g isAsync
          spannedFrom (start + distance) (Expr.arrow params body isAsync)) :=
        fun isAsync => .bind (echoes_arrow_params closed alike _) fun _ => .bind (echoes_expect_punct .arrow rfl) fun _ =>
          .bind (echoes_arrow_body alike _) fun _ => echoes_spanned_from _ (by simp)
      have same : startsParams (Movable.moved distance next).kind = startsParams next.kind := by
        obtain ⟨kind, span, newline⟩ := next
        cases kind <;> rfl
      dsimp only
      simp only [same]
      refine .branch Iff.rfl (fun here => ?_) fun _ => parts _ token
      have kind : token.kind = .identifier "async" := by simp_all
      exact .advance (by rw [kind]; rfl) fun _ => parts _)

omit closed in
theorem echoes_yield_expression (token : Token) (word : token.kind = .identifier "yield") :
    EchoesAt distance token inside (yieldExpression g) (yieldExpression g) :=
  .look (looks_alike_start_offset token) fun _ => .advance (by rw [word]; rfl) fun _ => .bind echoes_yield_delegate fun _ =>
    .peek fun next _ => .branch (by simp)
      (fun _ => .bind (alike.assignment _) fun _ => echoes_spanned_from _ (by simp))
      fun _ => echoes_spanned_from _ (by simp) _

omit closed in
theorem echoes_binary_round (start minPrecedence : Nat) (left : Spanned Expr) :
    Echoes distance (rounds false 0) (binaryRound g start minPrecedence left)
      (binaryRound g (start + distance) minPrecedence (Movable.moved distance left)) :=
  .bind (LooksAt.echoes looks_alike_context) fun context => .peek fun token _ => by
    have same : binaryOp? context.noIn (token.moved distance).kind = binaryOp? context.noIn token.kind := by simp
    have same' : (Movable.moved distance context).noIn = context.noIn := rfl
    rw [same', same]
    cases found : binaryOp? context.noIn token.kind with
    | some op =>
        obtain ⟨op, precedence⟩ := op
        exact .ite (.pure rfl rfl) (.advance (binary_op_inert _ _ _ found) fun _ => .bind (alike.binary _) fun _ =>
          .bind (echoes_spanned_from _ (by simp)) fun _ => .pure rfl rfl)
    | none => exact .pure rfl rfl

theorem echoes_binary_from (minPrecedence : Nat) :
    Echoes distance inside (binaryFrom g minPrecedence) (binaryFrom g minPrecedence) :=
  .bind echoes_start_offset fun start => .bind alike.unary fun _ =>
    .repeatRounds (binary_round_shortens closed start minPrecedence) (echoes_binary_round alike start minPrecedence)
      (fun isLoose => Bool.noConfusion isLoose) rfl

theorem echoes_conditional : Echoes distance inside (conditional g) (conditional g) :=
  .bind echoes_start_offset fun _ => .bind (echoes_binary_from closed alike 1) fun _ =>
    .bind (echoes_accept_punct .question rfl) fun _ => .ite
      (.bind alike.assignment.allowingIn fun _ => .bind (echoes_expect_punct .colon rfl) fun _ =>
        .bind alike.assignment fun _ => echoes_spanned_from _ (by simp))
      (.pure rfl rfl)

theorem echoes_assignment_tail : Echoes distance inside (assignmentTail g) (assignmentTail g) :=
  .bind echoes_start_offset fun _ => .bind (echoes_conditional closed alike) fun _ => .peek fun token _ => by
    have same : assignOp? (token.moved distance).kind = assignOp? token.kind := by simp
    rw [same]
    cases found : assignOp? token.kind with
    | some op =>
        exact .advance (assign_op_inert _ _ found) fun _ => .bind alike.assignment fun _ => echoes_spanned_from _ (by simp)
    | none => exact .pure rfl rfl

theorem echoes_assignment_body : Echoes distance inside (assignmentBody g) (assignmentBody g) :=
  .bind (LooksAt.echoes looks_alike_is_arrow_ahead) fun _ => .ite (echoes_arrow_function closed alike)
    (.bind (LooksAt.echoes looks_alike_context) fun context => fun token => .check rfl (.branch Iff.rfl
      (fun here => echoes_yield_expression alike token (by simp_all))
      fun _ => echoes_assignment_tail closed alike token))

theorem echoes_computed_property : Echoes distance inside (computedProperty g) (computedProperty g) :=
  .opened rfl fun _ => .bind (echoes_expression closed alike).allowingIn fun _ => .closed rfl fun _ => .pure rfl rfl

omit closed in
theorem echoes_spread_or_assignment : Echoes distance inside (spreadOrAssignment g) (spreadOrAssignment g) :=
  .bind echoes_start_offset fun _ => .bind (echoes_accept_punct .ellipsis rfl) fun _ => .ite
    (.bind alike.assignment fun _ => echoes_spanned_from _ (by simp)) alike.assignment

theorem echoes_arguments : Echoes distance inside (arguments g) (arguments g) :=
  .opened rfl fun _ => .allowingIn
    (.bind (echoes_comma_list .rParen (closes_spread_or_assignment closed) (echoes_spread_or_assignment alike)) fun _ =>
      .closed rfl fun _ => .pure rfl rfl)

theorem echoes_array_literal : Echoes distance inside (arrayLiteral g) (arrayLiteral g) :=
  .opened rfl fun _ => .allowingIn
    (.bind (echoes_holed_list .rBracket (closes_spread_or_assignment closed) (echoes_spread_or_assignment alike)) fun _ =>
      .closed rfl fun _ => .pure rfl rfl)

omit closed in
theorem echoes_shorthand_property (name : String) :
    Echoes distance inside (shorthandProperty g name) (shorthandProperty g name) :=
  .bind (echoes_accept_punct .eq rfl) fun _ => .ite (.bind alike.assignment fun _ => .pure (by simp) rfl)
    (.pure (by simp) rfl)

theorem echoes_keyed_property : Echoes distance inside (keyedProperty g) (keyedProperty g) :=
  .bind echoes_method_modifiers fun modifiers => .peek fun keyToken _ => .bind (echoes_property_key alike _) fun key =>
    .bind (echoes_check _ rfl) fun _ => .ite
      (.bind (echoes_method_function closed alike modifiers) fun _ => .pure (by simp) rfl)
      (.bind (echoes_accept_punct .colon rfl) fun _ => .ite
        (.bind alike.assignment fun _ => .pure (by simp) rfl) (by
          obtain ⟨kind, span, newline⟩ := keyToken
          cases kind with
          | identifier word =>
              cases key with
              | ident name => exact echoes_shorthand_property alike name
              | _ => exact echoes_unexpected _
          | _ => exact echoes_unexpected _))

theorem echoes_property : Echoes distance inside (property g) (property g) :=
  .bind (echoes_accept_punct .ellipsis rfl) fun _ => .ite (.bind alike.assignment fun _ => .pure (by simp) rfl)
    (echoes_keyed_property closed alike)

theorem echoes_object_literal : Echoes distance inside (objectLiteral g) (objectLiteral g) :=
  .opened rfl fun _ => .allowingIn
    (.bind (echoes_comma_list .rBrace (closes_property closed) (echoes_property closed alike)) fun _ =>
      .closed rfl fun _ => .pure rfl rfl)

end

theorem on_fragment_ok {α : Type} {parser : Parser α} {tokens : List Token} {context : Context} {state after : State}
    {value : α} (success : onFragment parser tokens context state = .ok value after) :
    ∃ inner, ∀ other : State,
      onFragment parser tokens context other = .ok value { other with recovered := other.recovered ++ inner } := by
  rw [on_fragment_run] at success
  cases outcome : parser { context with noIn := false } (.ofTokens tokens) with
  | error error failed =>
      rw [outcome] at success
      cases success
  | ok found finish =>
      rw [outcome] at success
      unfold Outcome.outside at success
      dsimp only at success
      split at success
      · next ended =>
          cases success
          exact ⟨finish.recovered, fun other => by rw [on_fragment_run, outcome, Outcome.outside, if_pos ended]⟩
      · cases success

theorem echoes_on_fragment {α : Type} [Movable α] {ending : α → Ending} {parser moved : Parser α}
    (echoes : Echoes distance ending parser moved) (tokens : List Token) (nonempty : tokens ≠ [])
    (anchored : AllAnchored tokens) :
    Echoes distance inside (onFragment parser tokens) (onFragment moved (Movable.moved distance tokens)) := by
  have begins : State.ofTokens (Movable.moved distance tokens) = (State.ofTokens tokens).moved distance := by
    cases tokens with
    | nil => exact absurd rfl nonempty
    | cons first rest => rfl
  intro token
  refine ⟨?_, ?_, ?_⟩
  · intro context state _ outside
    have inner := (echoes.shifts { context with noIn := false } (.ofTokens tokens) anchored).1
    rw [← begins] at inner
    rw [on_fragment_run, on_fragment_run, inner]
    cases parser { context with noIn := false } (.ofTokens tokens) with
    | error failure after => exact ⟨rfl, outside⟩
    | ok value after =>
        have ends : (after.moved distance).atEnd = after.atEnd := by
          unfold State.atEnd
          rw [moved_peek]
          exact moved_kind_beq distance after.peek.kind .endOfFile rfl
        unfold Outcome.moved Outcome.outside
        dsimp only
        rw [ends]
        cases after.atEnd with
        | true =>
            rw [if_pos rfl, if_pos rfl]
            exact ⟨by simp [State.moved], outside⟩
        | false =>
            rw [if_neg Bool.false_ne_true, if_neg Bool.false_ne_true, moved_peek]
            exact ⟨rfl, outside⟩
  · intro context state value after _ _ success clean
    obtain ⟨inner, runs⟩ := on_fragment_ok success
    rw [runs state] at success
    cases success
    exact ⟨(List.append_eq_nil_iff.mp clean).1, [], rfl, rfl⟩
  · intro context front last lastEnd value after tail remainder _ _ success clean
    obtain ⟨inner, runs⟩ := on_fragment_ok success
    rw [runs] at success
    cases success
    have none : inner = [] := clean
    subst none
    exact ⟨front, lastEnd, List.suffix_rfl, .inl remainder.ends, rfl, runs _⟩

section

variable {g : Grammar} (closed : g.Closed) (alike : g.Echoes distance)
include closed alike

theorem echoes_substitution (source : String) (offset : Nat) (behind : offset ≠ 0) :
    Echoes distance inside (substitution g source offset) (substitution g source (offset + distance)) := by
  unfold substitution
  rw [moved_fragment source offset behind]
  cases lexed : lexFragment source offset with
  | error failure => exact .fail rfl
  | ok tokens =>
      have fragment := lexed_of_fragment lexed
      exact echoes_on_fragment (echoes_expression closed alike) tokens fragment.nonempty (lexed_anchored fragment)

theorem echoes_template_from (text : String) (parts : List TemplatePart)
    (anchored : ∀ source, .substitution source 0 ∉ parts) :
    Echoes distance inside (templateFrom g text parts) (templateFrom g text (Movable.moved distance parts)) := by
  induction parts generalizing text with
  | nil => exact .pure (by simp) rfl
  | cons part rest ih =>
      have later := fun text => ih text fun source first => anchored source (List.mem_cons_of_mem _ first)
      cases part with
      | text more => exact later (text ++ more)
      | substitution source offset =>
          have behind : offset ≠ 0 := by
            rintro rfl
            exact anchored source (List.mem_cons_self ..)
          exact .bind (echoes_substitution closed alike source offset behind) fun _ => .bind (later "") fun tail =>
            .pure (by cases tail; simp) rfl

theorem echoes_at_template {α : Type} [Movable α] {ending : α → Ending} {next movedNext : Template → Parser α}
    {parts : List TemplatePart} (kind : token.kind = .template parts) (anchored : token.Anchored)
    (each : ∀ found, Echoes distance ending (next found) (movedNext (Movable.moved distance found))) :
    EchoesAt distance token ending (advance >>= fun _ => template g parts >>= next)
      (advance >>= fun _ => template g (Movable.moved distance parts) >>= movedNext) :=
  .advance (by rw [kind]; rfl) fun _ =>
    .bind (echoes_template_from closed alike "" parts fun source => anchored parts source kind) each

theorem echoes_import_expression (keyword : Token) :
    Echoes distance inside (importExpression g keyword) (importExpression g (keyword.moved distance)) :=
  .bind (echoes_accept_punct .dot rfl) fun _ => .ite (.bind echoes_identifier fun _ => .pure rfl rfl)
    (.bind (echoes_arguments closed alike) fun _ => .pure (by simp; rfl) rfl)

theorem echoes_parenthesized : Echoes distance (fun value => (inside value).deeper) (parenthesized g) (parenthesized g) :=
  .bind (echoes_expression closed alike).allowingIn fun _ => .closed rfl fun _ => .pure (by simp) rfl

theorem echoes_name_or_async_function (name : String) (kind : token.kind = .identifier name) :
    EchoesAt distance token inside (nameOrAsyncFunction g name) (nameOrAsyncFunction g name) :=
  .look (looks_ahead_async_function.shown token (by simp [kind])) fun _ => .ite
    (.advance (by rw [kind]; rfl) fun _ => .bind (echoes_function_from closed alike _ _) fun _ => .pure (by simp) rfl)
    (.advance (by rw [kind]; rfl) fun _ => .pure rfl rfl)

omit closed alike in
theorem echoes_consuming {value movedValue : Expr} (inert : token.kind.inert = true)
    (same : movedValue = Movable.moved distance value) :
    EchoesAt distance token inside (consuming value) (consuming movedValue) :=
  .advance inert fun _ => .pure same rfl

theorem echoes_primary_expr {heritage movedHeritage : Parser (Spanned Expr)}
    (ancestor : Echoes distance inside heritage movedHeritage) (token : Token) (anchored : token.Anchored) :
    EchoesAt distance token inside (primaryExpr g heritage token) (primaryExpr g movedHeritage (token.moved distance)) := by
  obtain ⟨kind, span, newline⟩ := token
  cases kind with
  | identifier name => exact echoes_name_or_async_function closed alike name rfl
  | number value => exact echoes_consuming rfl rfl
  | bigint literal => exact echoes_consuming rfl rfl
  | string value => exact echoes_consuming rfl rfl
  | regex pattern flags => exact echoes_consuming rfl rfl
  | template parts => exact echoes_at_template closed alike rfl anchored fun _ => .pure (by simp) rfl
  | keyword word =>
      cases word with
      | trueWord => exact echoes_consuming rfl rfl
      | falseWord => exact echoes_consuming rfl rfl
      | nullWord => exact echoes_consuming rfl rfl
      | thisWord => exact echoes_consuming rfl rfl
      | superWord => exact echoes_consuming rfl rfl
      | functionWord => exact .bind (echoes_function_from closed alike _ _ _) fun _ => .pure (by simp) rfl
      | classWord => exact .bind (echoes_class_from closed alike ancestor _ _) fun _ => .pure (by simp) rfl
      | importWord => exact .advance rfl fun keyword => echoes_import_expression closed alike keyword
      | _ => exact echoes_unexpected _ _
  | punct mark =>
      cases mark with
      | lParen => exact .opens rfl fun _ => echoes_parenthesized closed alike
      | lBracket => exact .bind (echoes_array_literal closed alike _) fun _ => .pure (by simp) rfl
      | lBrace => exact .bind (echoes_object_literal closed alike _) fun _ => .pure (by simp) rfl
      | _ => exact echoes_unexpected _ _
  | _ => exact echoes_unexpected _ _

theorem echoes_primary {heritage movedHeritage : Parser (Spanned Expr)}
    (ancestor : Echoes distance inside heritage movedHeritage) :
    Echoes distance inside (primary g heritage) (primary g movedHeritage) :=
  .peek fun token anchored => .bind (echoes_primary_expr closed alike ancestor token anchored) fun _ =>
    echoes_spanned_from _ rfl

theorem echoes_member_round (start : Nat) (object : Spanned Expr) :
    Echoes distance (rounds false 0) (memberRound g start object)
      (memberRound g (start + distance) (Movable.moved distance object)) :=
  .bind (echoes_accept_punct .dot rfl) fun _ => .ite
    (.bind echoes_identifier_name fun _ => .bind (echoes_spanned_from _ (by simp)) fun _ => .pure rfl rfl)
    (.bind (echoes_check _ rfl) fun _ => .ite
      (.bind (echoes_computed_property closed alike) fun _ => .bind (echoes_spanned_from _ (by simp)) fun _ => .pure rfl rfl)
      (.pure rfl rfl))

theorem echoes_member_only {heritage movedHeritage : Parser (Spanned Expr)}
    (ancestor : Echoes distance inside heritage movedHeritage) :
    Echoes distance inside (memberOnly g heritage) (memberOnly g movedHeritage) :=
  .bind echoes_start_offset fun start => .bind (echoes_primary closed alike ancestor) fun _ =>
    .repeatRounds (member_round_shortens closed start) (echoes_member_round closed alike start)
      (fun isLoose => Bool.noConfusion isLoose) rfl

theorem echoes_new_from {heritage movedHeritage : Parser (Spanned Expr)}
    (ancestor : Echoes distance inside heritage movedHeritage) :
    Echoes distance inside (newFrom g heritage) (newFrom g movedHeritage) := by
  have arguments : ∀ (start : Nat) (callee : Spanned Expr), Echoes distance inside (do
      let args ← if ← checkPunct .lParen then arguments g else pure []
      spannedFrom start (Expr.new callee args)) (do
      let args ← if ← checkPunct .lParen then arguments g else pure []
      spannedFrom (start + distance) (Expr.new (Movable.moved distance callee) args)) :=
    fun _ _ => .bind (echoes_check _ rfl) fun _ => .ite
      (.bind (echoes_arguments closed alike) fun _ => echoes_spanned_from _ (by simp))
      (.bind (.pure rfl rfl) fun _ => echoes_spanned_from _ (by simp))
  exact .bind echoes_start_offset fun start => .bind (echoes_expect_keyword _) fun _ =>
    .bind (echoes_accept_punct .dot rfl) fun _ => .ite
      (.bind echoes_identifier fun _ => echoes_spanned_from _ (by simp))
      (.bind (echoes_check _ rfl) fun _ => .ite
        (.bind alike.newExpression fun _ => arguments start _)
        (.bind (echoes_member_only closed alike ancestor) fun _ => arguments start _))

theorem echoes_optional_link (object : Spanned Expr) :
    Echoes distance inside (optionalLink g object) (optionalLink g (Movable.moved distance object)) :=
  .bind (echoes_check _ rfl) fun _ => .ite (.bind (echoes_arguments closed alike) fun _ => .pure (by simp) rfl)
    (.bind (echoes_check _ rfl) fun _ => .ite (.bind (echoes_computed_property closed alike) fun _ => .pure (by simp) rfl)
      (.bind echoes_identifier_name fun _ => .pure (by simp) rfl))

theorem echoes_chain_link (object : Spanned Expr) :
    Echoes distance inside (chainLink g object) (chainLink g (Movable.moved distance object)) := .peek fun token anchored => by
  obtain ⟨kind, span, newline⟩ := token
  cases kind with
  | template parts => exact echoes_at_template closed alike rfl anchored fun _ => .pure (by simp) rfl
  | punct mark =>
      cases mark with
      | dot => exact .advance rfl fun _ => .bind echoes_identifier_name fun _ => .pure (by simp) rfl
      | questionDot => exact .advance rfl fun _ => .bind (echoes_optional_link closed alike object) fun _ => .pure (by simp) rfl
      | lBracket => exact .bind (echoes_computed_property closed alike _) fun _ => .pure (by simp) rfl
      | lParen => exact .bind (echoes_arguments closed alike _) fun _ => .pure (by simp) rfl
      | _ => exact .pure rfl rfl
  | _ => exact .pure rfl rfl

theorem echoes_chain_round (start : Nat) (object : Spanned Expr) :
    Echoes distance (rounds false 0) (chainRound g start object)
      (chainRound g (start + distance) (Movable.moved distance object)) :=
  .bind (echoes_chain_link closed alike object) fun link => by
    cases link with
    | some node => exact .bind (echoes_spanned_from _ rfl) fun _ => .pure rfl rfl
    | none => exact .pure rfl rfl

theorem echoes_call_member_with {heritage movedHeritage : Parser (Spanned Expr)}
    (ancestor : Echoes distance inside heritage movedHeritage) :
    Echoes distance inside (callMemberWith g heritage) (callMemberWith g movedHeritage) := by
  have chain : ∀ start head, Echoes distance inside (repeatRounds (chainRound g start) head)
      (repeatRounds (chainRound g (start + distance)) (Movable.moved distance head)) :=
    fun start _ => .repeatRounds (chain_round_shortens closed start) (echoes_chain_round closed alike start)
      (fun isLoose => Bool.noConfusion isLoose) rfl
  exact .bind echoes_start_offset fun start => .bind (echoes_check _ rfl) fun _ => .ite
    (.bind (echoes_new_from closed alike ancestor) fun _ => chain start _)
    (.bind (echoes_primary closed alike ancestor) fun _ => chain start _)

theorem echoes_call_member_from (fuel more : List Token) (same : fuel.length = more.length) :
    Echoes distance inside (callMemberFrom g fuel) (callMemberFrom g more) := by
  induction fuel generalizing more with
  | nil =>
      cases more with
      | nil => exact echoes_unexpected _
      | cons token more => cases same
  | cons token fuel ih =>
      cases more with
      | nil => cases same
      | cons other more => exact echoes_call_member_with closed alike (ih more (Nat.succ.inj same))

theorem echoes_call_member : Echoes distance inside (callMember g) (callMember g) :=
  .fuelled (echoes_call_member_from closed alike) fun context state fuel more => call_member_from_enough context fuel more state

theorem echoes_new_expression_body : Echoes distance inside (newExpressionBody g) (newExpressionBody g) :=
  echoes_new_from closed alike (echoes_call_member closed alike)

theorem echoes_postfix_update (start : Nat) :
    Echoes distance inside (postfixUpdate g start) (postfixUpdate g (start + distance)) :=
  .bind (echoes_call_member closed alike) fun target => .peek fun next _ => by
    have same : updateOp? (next.moved distance).kind = updateOp? next.kind := by simp
    rw [same]
    cases found : updateOp? next.kind with
    | some op =>
        exact .ite (.pure rfl rfl)
          (.advance (update_op_inert _ _ found) fun _ => echoes_spanned_from _ (by simp))
    | none => exact .pure rfl rfl

theorem echoes_unary_body : Echoes distance inside (unaryBody g) (unaryBody g) :=
  .bind echoes_start_offset fun start => .peek fun token _ => by
    have unary : unaryOp? (token.moved distance).kind = unaryOp? token.kind := by simp
    have update : updateOp? (token.moved distance).kind = updateOp? token.kind := by simp
    dsimp only
    rw [unary, update]
    cases found : unaryOp? token.kind with
    | some op =>
        exact .advance (unary_op_inert _ _ found) fun _ => .bind alike.unary fun _ => echoes_spanned_from _ (by simp)
    | none =>
        cases here : updateOp? token.kind with
        | some op =>
            exact .advance (update_op_inert _ _ here) fun _ => .bind alike.unary fun _ => echoes_spanned_from _ (by simp)
        | none =>
            dsimp only
            rw [await_ahead_bind, await_ahead_bind]
            refine .check rfl (.branch Iff.rfl (fun word => ?_) fun _ => echoes_postfix_update closed alike start token)
            have kind : token.kind = .identifier "await" := by simpa using word
            exact .look (looks_alike_context token) fun context =>
              .look (looks_ahead_token.shown token (by simp [kind])) fun second => .branch (by simp)
                (fun _ => .advance (by rw [kind]; rfl) fun _ => .bind alike.unary fun _ => echoes_spanned_from _ (by simp))
                fun _ => echoes_postfix_update closed alike start token

end

end ScriptSuite.Script
