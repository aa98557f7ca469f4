import ScriptSuite.Script.Parser
import ScriptSuite.Proofs.Script.Placement
import ScriptSuite.Proofs.Script.Productions

set_option autoImplicit false

namespace ScriptSuite.Script

-- What stands one level deeper weighs at most `r`, or `d` where it is read by a level of its own below that.
structure Grammar.Lays (text : List Char) (r d : Nat) (g : Grammar) : Prop where
  shallow : r + 1 ≤ d
  deep : d ≤ r + 2
  statement : ScriptSuite.Script.Lays text r d true g.statement fun value => [.statement value]
  block : ScriptSuite.Script.Lays text r r true g.block fun value => value.1.map .statement
  blockSpan : ∀ context state ceiling floor value after, Stream text ceiling floor state.rest →
    g.block context state = .ok value after → value.2 = ⟨state.peek.span.start, after.lastEnd⟩
  bindingTarget : ScriptSuite.Script.Lays text r r true g.bindingTarget fun value => [.pattern value]
  assignment : ScriptSuite.Script.Lays text r r true g.assignment fun value => [.expr value]
  binary : ∀ precedence, ScriptSuite.Script.Lays text r r true (g.binary precedence) fun value => [.expr value]
  unary : ScriptSuite.Script.Lays text r d true g.unary fun value => [.expr value]
  newExpression : LaysLead text r g.newExpression

section

variable {α : Type} {text : List Char} {r start : Nat} {pre : Cut}

theorem goes_identifier : Goes text r start pre identifier fun _ => { pre with moved := true } := .peek fun token => by
  split
  · next kind => exact .bind (.advance (by simp [kind])) fun _ => .return rfl
  · exact .of .unexpected

theorem goes_identifier_name : Goes text r start pre identifierName fun _ => { pre with moved := true } :=
  .peek fun token => by
    split
    · next kind => exact .bind (.advance (by simp [kind])) fun _ => .return rfl
    · next kind => exact .bind (.advance (by simp [kind])) fun _ => .return rfl
    · next kind => exact .bind (.advance (by simp [kind])) fun _ => .return rfl
    · exact .of .unexpected

theorem goes_string_literal : Goes text r start pre stringLiteral fun _ => { pre with moved := true } :=
  .peek fun token => by
    split
    · next kind => exact .bind (.advance (by simp [kind])) fun _ => .return rfl
    · exact .of .unexpected

theorem goes_consume_semicolon : Goes text r start pre consumeSemicolon fun _ => pre :=
  .bind .acceptPunct fun _ => .ite (.return rfl) (.look (looks_peek_at 0) fun _ => .ite (.return rfl) .unexpected)

theorem goes_declared_name (required : Bool) (wanted : Expectation) :
    Goes text r start pre (declaredName required wanted) fun _ => pre :=
  .peek fun token => by
    split
    · exact .of (.bind goes_identifier fun _ => .pure ⟨Nat.le_refl _, fun _ => rfl, .inr rfl, .refl _⟩)
    · exact .ite (.of .unexpected) (.of (.return rfl))

theorem goes_async_modifier : Goes text r start pre asyncModifier fun _ => pre :=
  .look (looks_check _) fun _ => .look looks_next_ends_member fun _ => .look (looks_peek_at 1) fun _ =>
    .ite (.bind .advance fun _ => .return rfl) (.return rfl)

theorem goes_accessor_modifier : Goes text r start pre accessorModifier fun _ => pre :=
  .bind .acceptWord fun _ => .ite (.return rfl) (.bind .acceptWord fun _ => .ite (.return rfl) (.return rfl))

theorem goes_method_modifiers : Goes text r start pre methodModifiers fun _ => pre :=
  .bind goes_async_modifier fun _ => .bind .acceptPunct fun _ => .look looks_next_ends_member fun _ =>
    .ite (.return rfl) (.bind goes_accessor_modifier fun _ => .return rfl)

theorem goes_yield_delegate : Goes text r start pre yieldDelegate fun _ => pre :=
  .look (looks_peek_at 0) fun _ => .ite (.return rfl) .acceptPunct

theorem Lays.congr {bound : Nat} {moves : Bool} {parser : Parser α} {nodes others : α → List Node}
    (lays : Lays text r bound moves parser nodes) (same : ∀ value, others value = nodes value) :
    Lays text r bound moves parser others :=
  (funext same : others = nodes) ▸ lays

theorem lays_comma_list {close : Punct} {item : Parser α} {bound : Nat} {moves : Bool} {nodes : α → List Node}
    (lays : Lays text r bound moves item nodes) :
    Lays text r bound false (commaList close item) fun items => items.flatMap nodes := by
  have one : ∀ (items : List α) (value : α),
      Cut.Below ⟨bound, false, none, (value :: items).reverse.flatMap nodes⟩
        ⟨bound, false || moves, none, items.reverse.flatMap nodes ++ nodes value⟩ :=
    fun items value => ⟨Nat.le_refl _, fun moved => Bool.noConfusion moved, .inr rfl, by simp⟩
  refine .of bound fun start => .repeat (fun items => ⟨bound, false, none, items.reverse.flatMap nodes⟩) (fun items => ?_) []
  exact .look (looks_check _) fun _ => .ite (.return rfl) (.bind (lays.goes (Nat.le_refl _)) fun value =>
    .bind .acceptPunct fun _ => .ite (.pure (one items value)) (.pure (one items value)))

theorem lays_comma_list_map {close : Punct} {item : Parser α} {bound : Nat} {moves : Bool} {wrap : α → Node}
    (lays : Lays text r bound moves item fun value => [wrap value]) :
    Lays text r bound false (commaList close item) fun items => items.map wrap :=
  (lays_comma_list lays).congr fun _ => List.map_eq_flatMap

theorem lays_holed_list {close : Punct} {item : Parser α} {bound : Nat} {moves : Bool} {wrap : α → Node}
    (lays : Lays text r bound moves item fun value => [wrap value]) :
    Lays text r bound false (holedList close item) fun items => items.flatMap (optionalNodes wrap) := by
  have one : ∀ (items : List (Option α)) (value : α),
      Cut.Below ⟨bound, false, none, (some value :: items).reverse.flatMap (optionalNodes wrap)⟩
        ⟨bound, false || moves, none, items.reverse.flatMap (optionalNodes wrap) ++ [wrap value]⟩ :=
    fun items value => ⟨Nat.le_refl _, fun moved => Bool.noConfusion moved, .inr rfl, by simp [optionalNodes]⟩
  have hole : ∀ items : List (Option α), Cut.Below ⟨bound, false, none, (none :: items).reverse.flatMap (optionalNodes wrap)⟩
      ⟨bound, false, none, items.reverse.flatMap (optionalNodes wrap)⟩ :=
    fun items => ⟨Nat.le_refl _, id, .inr rfl, by simp [optionalNodes]⟩
  refine .of bound fun start =>
    .repeat (fun items => ⟨bound, false, none, items.reverse.flatMap (optionalNodes wrap)⟩) (fun items => ?_) []
  exact .look (looks_check _) fun _ => .ite (.return rfl) (.bind .acceptPunct fun _ => .ite (.pure (hole items))
    (.bind (lays.goes (Nat.le_refl _)) fun value =>
      .bind .acceptPunct fun _ => .ite (.pure (one items value)) (.pure (one items value))))

end

section

variable {text : List Char} {r d start : Nat} {pre : Cut} {g : Grammar} (lays : g.Lays text r d)
include lays

theorem lays_property_key : Lays text r r true (propertyKey g) PropKey.nodes := .of r fun _ => .peek fun token => by
  split
  · exact .of (.bind goes_identifier_name fun _ => .return rfl)
  · exact .of (.bind goes_identifier_name fun _ => .return rfl)
  · exact .of (.bind goes_identifier_name fun _ => .return rfl)
  · next kind => exact .bind (.advance (by simp [kind])) fun _ => .return rfl
  · next kind => exact .bind (.advance (by simp [kind])) fun _ => .return rfl
  · next kind => exact .bind (.advance (by simp [kind])) fun _ => .return rfl
  · next kind =>
      exact .bind (.advance (by simp [kind])) fun _ => .bind (lays.assignment.goes (Nat.le_refl _)).allowingIn fun _ =>
        .bind .expectPunct fun _ => .return rfl
  · exact .of .unexpected

theorem lays_binding_element : Lays text r r true (bindingElement g) fun value => [.pattern value] :=
  .own r fun _ => .bind (lays.bindingTarget.goes (Nat.le_refl _)) fun _ => .bind .acceptPunct fun _ => .ite
    (.bind (lays.assignment.goes (Nat.le_refl _)).allowingIn fun _ => .pattern rfl rfl (Nat.le_refl _)) (.return rfl)

theorem lays_rest_element : Lays text r r true (restElement g) fun value => [.pattern value] :=
  .own r fun _ => .bind .expectPunct fun _ => .bind (lays.bindingTarget.goes (Nat.le_refl _)) fun _ =>
    .pattern rfl rfl (Nat.le_refl _)

theorem lays_binding_or_rest : Lays text r r true (bindingOrRest g) fun value => [.pattern value] :=
  .of r fun _ => .look (looks_check _) fun _ => .ite ((lays_rest_element lays).goes (Nat.le_refl _))
    ((lays_binding_element lays).goes (Nat.le_refl _))

theorem lays_keyed_pattern : Lays text r r true (do
    let start ← startOffset
    let key ← propertyKey g
    if ← acceptPunct .colon then return .keyValue key (← bindingElement g)
    match key with
    | .ident name =>
        let target ← spannedFrom start (Pattern.ident name)
        if ← acceptPunct .eq then
          let value ← allowingIn g.assignment
          return .keyValue key (← spannedFrom start (.withDefault target value))
        else return .keyValue key target
    | _ => unexpected (.mark .colon)) PatternProp.nodes :=
  .own r fun _ => .bind ((lays_property_key lays).goes (Nat.le_refl _)) fun key => .bind .acceptPunct fun _ => .ite
    (.bind ((lays_binding_element lays).goes (Nat.le_refl _)) fun _ => .return rfl) (by
      cases key with
      | ident name =>
          exact .bind (.pattern rfl rfl (Nat.le_refl _)) fun target => .bind .acceptPunct fun _ => .ite
            (.bind (lays.assignment.goes (Nat.le_refl _)).allowingIn fun value =>
              .bind (.pattern rfl rfl (Nat.le_refl _)) fun _ => .return rfl)
            (.return rfl)
      | _ => exact .unexpected)

theorem lays_pattern_prop : Lays text r r true (patternProp g) PatternProp.nodes :=
  .of r fun _ => .bind .acceptPunct fun _ => .ite
    (.bind (lays.bindingTarget.goes (Nat.le_refl _)) fun _ => .return rfl)
    ((lays_keyed_pattern lays).goes (Nat.le_refl _))

theorem lays_object_pattern : Lays text r r true (objectPattern g) Pattern.nodes :=
  .of r fun _ => .bind .expectPunct fun _ => .bind ((lays_comma_list (lays_pattern_prop lays)).goes (Nat.le_refl _)) fun _ =>
    .bind .expectPunct fun _ => .return rfl

theorem lays_array_pattern : Lays text r r true (arrayPattern g) Pattern.nodes :=
  .of r fun _ => .bind .expectPunct fun _ => .bind ((lays_holed_list (lays_binding_or_rest lays)).goes (Nat.le_refl _)) fun _ =>
    .bind .expectPunct fun _ => .return rfl

theorem lays_binding_pattern : Lays text r r true (bindingPattern g) Pattern.nodes := .of r fun _ => .peek fun token => by
  split
  · exact .of (.bind goes_identifier fun _ => .return rfl)
  · exact .of ((lays_object_pattern lays).goes (Nat.le_refl _))
  · exact .of ((lays_array_pattern lays).goes (Nat.le_refl _))
  · exact .of .unexpected

theorem lays_binding_target_body : Lays text r d true (bindingTargetBody g) fun value => [.pattern value] :=
  .own r fun _ => .bind ((lays_binding_pattern lays).goes (Nat.le_refl _)) fun _ =>
    .pattern rfl rfl (Nat.le_of_succ_le lays.shallow)

theorem lays_formal_params : Lays text r r true (formalParams g) fun params => params.map .pattern :=
  .of r fun _ => .bind .expectPunct fun _ =>
    .bind ((lays_comma_list_map (lays_binding_or_rest lays)).goes (Nat.le_refl _)) fun _ =>
      .bind .expectPunct fun _ => .return rfl

theorem lays_declarator : Lays text r r true (declarator g) Declarator.nodes :=
  .of r fun _ => .bind (lays.bindingTarget.goes (Nat.le_refl _)) fun _ => .bind .acceptPunct fun _ => .ite
    (.bind (lays.assignment.goes (Nat.le_refl _)) fun _ => .return rfl) (.return rfl)

theorem lays_declarators :
    Lays text r r false (repeatRounds (declaratorRound g) []) fun declarators => declarators.flatMap Declarator.nodes := by
  have one : ∀ (declarators : List Declarator) (next : Declarator),
      Cut.Below ⟨r, false, none, (next :: declarators).reverse.flatMap Declarator.nodes⟩
        ⟨r, false || true, none, declarators.reverse.flatMap Declarator.nodes ++ next.nodes⟩ :=
    fun _ _ => ⟨Nat.le_refl _, fun _ => rfl, .inr rfl, by simp⟩
  refine .of r fun _ => .repeat (fun declarators => ⟨r, false, none, declarators.reverse.flatMap Declarator.nodes⟩)
    (fun declarators => ?_) []
  exact .bind ((lays_declarator lays).goes (Nat.le_refl _)) fun next => .bind .acceptPunct fun _ =>
    .ite (.pure (one declarators next)) (.pure (one declarators next))

theorem lays_var_declarations (kind : VarKind) : Lays text r r false (varDeclarations g kind) VarDecl.nodes :=
  .of r fun _ => .bind ((lays_declarators lays).goes (Nat.le_refl _)) fun _ => .return rfl

theorem lays_function_tail (isAsync isGenerator : Bool) :
    Lays text r r true (functionTail g isAsync isGenerator) fun parts => parts.1.map .pattern ++ parts.2.map .statement :=
  .of r fun _ => .inFunction (.bind ((lays_formal_params lays).goes (Nat.le_refl _)) fun _ =>
    .bind (lays.block.goes (Nat.le_refl _)) fun _ => .return rfl)

theorem lays_function_from (isAsync requireName : Bool) :
    Lays text r r true (functionFrom g isAsync requireName) Function.nodes :=
  .of r fun _ => .bind .expectKeyword fun _ => .bind .acceptPunct fun _ => .bind (goes_declared_name _ _) fun _ =>
    .bind ((lays_function_tail lays _ _).goes (Nat.le_refl _)) fun _ => .return rfl

theorem lays_method_function (modifiers : MethodModifiers) :
    Lays text r r true (methodFunction g modifiers) Function.nodes :=
  .of r fun _ => .bind ((lays_function_tail lays _ _).goes (Nat.le_refl _)) fun _ => .return rfl

theorem lays_keyed_member (isStatic : Bool) : Lays text r r true (keyedMember g isStatic) ClassMember.nodes :=
  .of r fun _ => .bind goes_method_modifiers fun _ => .bind ((lays_property_key lays).goes (Nat.le_refl _)) fun key =>
    .look (looks_check _) fun _ => .ite
      (.bind ((lays_method_function lays _).goes (Nat.le_refl _)) fun _ => .return rfl)
      (.bind .acceptPunct fun _ => .ite
        (.bind (lays.assignment.goes (Nat.le_refl _)).inFunction fun _ => .pass (.bind goes_consume_semicolon fun _ =>
          .return rfl))
        (.pass (.bind goes_consume_semicolon fun _ =>
          .return (by simp [ClassMember.nodes, optionalNodes, Cut.fresh]))))

theorem lays_class_member : Lays text r r true (classMember g) fun value => [.member value] :=
  .own r fun _ => .check fun _ => .look looks_next_ends_member fun _ => .ite
    (.bind (.of .advance) fun _ => .look (looks_check _) fun _ => .ite
      (.bind (lays.block.goes (Nat.le_refl _)).inFunction fun _ => .member rfl rfl (Nat.le_refl _))
      (.bind ((lays_keyed_member lays true).goes (Nat.le_refl _)) fun _ => .member rfl rfl (Nat.le_refl _)))
    (.of (.bind ((lays_keyed_member lays false).goes (Nat.le_refl _)) fun _ => .member rfl rfl (Nat.le_refl _)))

theorem goes_class_body (brace : Span) (parent : Option (Spanned Expr)) :
    Goes text r start ⟨r, true, parent, []⟩ (repeatRounds (classMemberRound g brace) []) fun members =>
      ⟨r, true, parent, members.map .member⟩ := by
  have one : ∀ (members : List (Spanned ClassMember)) (next : Spanned ClassMember),
      (⟨r, true, parent, (next :: members).reverse.map .member⟩ : Cut) =
        ⟨r, true, parent, members.reverse.map .member ++ [.member next]⟩ := by simp
  have onward : ∀ members, Goes text r start ⟨r, true, parent, members.reverse.map .member⟩ (do
      if ← acceptPunct .semi then return .again members
      return .again ((← classMember g) :: members) :
        Parser (Round (List (Spanned ClassMember)) (List (Spanned ClassMember))))
      (Round.cut (fun members => ⟨r, true, parent, members.reverse.map .member⟩)
        fun members => ⟨r, true, parent, members.map .member⟩) := fun members =>
    .bind .acceptPunct fun _ => .ite (.return rfl) (.bind ((lays_class_member lays).goes (Nat.le_refl _)) fun next =>
      .return (one members next))
  refine .repeat (fun members => ⟨r, true, parent, members.reverse.map .member⟩) (fun members => ?_) []
  exact .bind .acceptPunct fun _ => .ite (.return rfl) (.look looks_at_end fun _ => .ite
    (.bind .fail fun _ => onward members) (onward members))

theorem lays_class_from {heritage : Parser (Spanned Expr)} (ancestor : LaysLead text r heritage) (requireName : Bool) :
    LaysTo text r (classFrom g heritage requireName) fun decl => ⟨r, true, decl.heritage, decl.nodes⟩ := by
  have body : ∀ (start : Nat) (name : Option String) (parent : Option (Spanned Expr)),
      Goes text r start ⟨r, true, parent, []⟩ (do
        let brace ← expectPunct .lBrace
        let members ← repeatRounds (classMemberRound g brace.span) []
        return (⟨name, parent, members⟩ : Class)) fun decl => ⟨r, true, decl.heritage, decl.nodes⟩ :=
    fun _ _ parent => .bind .expectPunct fun brace => .bind (goes_class_body lays brace.span parent) fun _ => .return rfl
  exact .of r fun start => .bind .expectKeyword fun _ => .bind (goes_declared_name _ _) fun name =>
    .bind .acceptKeyword fun _ => .ite
      (.bind (ancestor.first r true) fun parent => .pass (body start name (some parent)))
      (.pass (body start name none))

theorem goes_sequence (first : Spanned Expr) :
    Goes text r start ⟨r, true, none, [.expr first]⟩ (repeatRounds (sequenceRound g) [first]) fun items =>
      ⟨r, true, none, items.map .expr⟩ := by
  have one : ∀ (items : List (Spanned Expr)) (next : Spanned Expr),
      (⟨r, true, none, (next :: items).reverse.map .expr⟩ : Cut) =
        ⟨r, true, none, items.reverse.map .expr ++ [.expr next]⟩ := by simp
  refine .repeat (fun items => ⟨r, true, none, items.reverse.map .expr⟩) (fun items => ?_) [first]
  exact .bind .acceptPunct fun _ => .ite (.bind (lays.assignment.goes (Nat.le_refl _)) fun next => .return (one items next))
    (.return rfl)

theorem lays_expression : Lays text r r true (expression g) fun value => [.expr value] := by
  intro context state ceiling floor value after here success
  obtain ⟨first, between, read, finished⟩ := bind_ok success
  obtain ⟨middle, forward, there⟩ := lays.assignment context state ceiling floor first between here read
  obtain ⟨begins, ends⟩ : state.peek.span.start ≤ first.span.start ∧ first.span.stop ≤ middle := by
    simpa [optionalNodes, Node.span] using there.strip.inside
  have sound : Sound text r ⟨.expr first, false⟩ := by simpa using there.strip.sound
  have placed : first.span.Placed text := sound_placed sound
  have nonempty := placed.nonempty
  have above := (stream_peek there.stream).above
  -- Seen from the first item, which is where a sequence begins.
  have based : At text ceiling r first.span.start ⟨r, true, none, [.expr first]⟩ middle between := by
    refine ⟨there.stream, placed.start, by omega, fun _ => ⟨by omega, (there.moved rfl).2⟩, by simp, by simpa using sound,
      ?_, by simp [optionalNodes]⟩
    simpa [optionalNodes, Node.span] using ends
  have rest : Goes text r first.span.start ⟨r, true, none, [.expr first]⟩ (do
      if ← checkPunct .comma then
        let items ← repeatRounds (sequenceRound g) [first]
        spannedFrom first.span.start (.sequence items)
      else return first) fun value => ⟨r, true, none, [.expr value]⟩ :=
    .look (looks_check _) fun _ => .ite
      (.bind (goes_sequence lays first) fun _ => .expr rfl rfl rfl (fun _ => rfl) (Nat.le_refl _)) (.return rfl)
  obtain ⟨stop, onward, done⟩ := rest context between ceiling middle value after based finished
  have before := done.before
  have further := onward.onward
  refine ⟨stop, forward_trans forward onward, done.stream, here.boundary, by omega, fun _ => ⟨by omega, (done.moved rfl).2⟩, ?_⟩
  exact done.strip.widen (Nat.le_refl _) begins (Nat.le_refl _)

theorem lays_arrow_params (isAsync : Bool) : Lays text r r true (arrowParams g isAsync) fun params => params.map .pattern := by
  have name : Lays text r r true (do
      let start ← startOffset
      let name ← identifier
      return [← spannedFrom start (Pattern.ident name)]) fun params => params.map .pattern :=
    .own r fun _ => .bind goes_identifier fun _ => .bind (.pattern rfl rfl (Nat.le_refl _)) fun _ => .return rfl
  exact .of r fun _ => .peek fun token => by
    split
    · exact .of (name.goes (Nat.le_refl _))
    · exact .of (.inFunction ((lays_formal_params lays).goes (Nat.le_refl _)))

theorem lays_arrow_body (isAsync : Bool) : Lays text r r true (arrowBody g isAsync) ArrowBody.nodes :=
  .of r fun _ => .look (looks_check _) fun _ => .ite
    (.bind (lays.block.goes (Nat.le_refl _)).inFunction fun _ => .return rfl)
    (.bind (lays.assignment.goes (Nat.le_refl _)).inFunction fun _ => .return rfl)

theorem lays_arrow_function : Lays text r d true (arrowFunction g) fun value => [.expr value] :=
  .own r fun start => .check fun token => .look (looks_peek_at 1) fun next => by
    have light := lays.shallow
    have parts : ∀ isAsync, Goes text r start (Cut.fresh r) (do
        let params ← arrowParams g isAsync
        let _ ← expectPunct .arrow
        let body ← arrowBody g isAsync
        spannedFrom start (Expr.arrow params body isAsync)) fun value => ⟨d, true, none, [.expr value]⟩ :=
      fun _ => .bind ((lays_arrow_params lays _).goes (Nat.le_refl _)) fun _ => .bind .expectPunct fun _ =>
        .bind ((lays_arrow_body lays _).goes (Nat.le_refl _)) fun _ =>
          .counted rfl rfl rfl (fun _ => rfl) (Nat.add_comm 1 r ▸ light)
    dsimp only
    split
    · exact .of (.bind .advance fun _ => parts _)
    · exact .of (parts _)

theorem lays_binary_from (minPrecedence : Nat) : Lays text r d true (binaryFrom g minPrecedence) fun value => [.expr value] := by
  have light := lays.shallow
  refine .own d fun start => .bind (lays.unary.goes (Nat.le_refl _)) fun left =>
    .repeat (fun left => ⟨d, true, none, [.expr left]⟩) (fun left => ?_) left
  exact .look looks_context fun _ => .peek fun token => by
    split
    · next op precedence found =>
        exact .ite (.of (.return rfl)) (.bind (.of .advance) fun _ => .bind ((lays.binary _).goes (Nat.le_of_succ_le light)) fun _ =>
          .bind (.expr rfl rfl rfl (fun _ => rfl) (Nat.le_refl _)) fun _ => .return rfl)
    · exact .of (.return rfl)

theorem lays_conditional : Lays text r d true (conditional g) fun value => [.expr value] := by
  have light := Nat.le_of_succ_le lays.shallow
  exact .own d fun _ => .bind ((lays_binary_from lays 1).goes (Nat.le_refl _)) fun _ => .bind .acceptPunct fun _ => .ite
    (.bind (lays.assignment.goes light).allowingIn fun _ => .bind .expectPunct fun _ =>
      .bind (lays.assignment.goes light) fun _ => .expr rfl rfl rfl (fun _ => rfl) (Nat.le_refl _))
    (.return rfl)

theorem lays_assignment_tail : Lays text r d true (assignmentTail g) fun value => [.expr value] := by
  have light := Nat.le_of_succ_le lays.shallow
  exact .own d fun _ => .bind ((lays_conditional lays).goes (Nat.le_refl _)) fun _ => .peek fun token => by
    split
    · exact .bind (.of .advance) fun _ => .bind (lays.assignment.goes light) fun _ =>
        .expr rfl rfl rfl (fun _ => rfl) (Nat.le_refl _)
    · exact .of (.return rfl)

theorem goes_yield_expression (token : Token) (word : token.kind = .identifier "yield") :
    GoesAt text r token start (Cut.fresh d) (yieldExpression g) fun value => ⟨d, true, none, [.expr value]⟩ := by
  have light := Nat.le_of_succ_le lays.shallow
  exact .own d (fun _ => .bind (.advance (by simp [word])) fun _ => .bind goes_yield_delegate fun _ =>
    .look (looks_peek_at 0) fun _ => .ite
      (.bind (lays.assignment.goes light) fun _ => .expr rfl rfl rfl (fun _ => rfl) (Nat.le_refl _))
      (.expr rfl rfl rfl (fun _ => rfl) (Nat.le_refl _))) (Nat.le_refl _)

theorem lays_assignment_body : Lays text r d true (assignmentBody g) fun value => [.expr value] :=
  .of d fun _ => .look looks_is_arrow_ahead fun _ => .ite ((lays_arrow_function lays).goes (Nat.le_refl _))
    (.look looks_context fun context => .check fun token => by
      split
      · next here => exact goes_yield_expression lays token (by simp_all)
      · exact .of ((lays_assignment_tail lays).goes (Nat.le_refl _)))

theorem lays_computed_property : Lays text r r true (computedProperty g) fun value => [.expr value] :=
  .of r fun _ => .bind .expectPunct fun _ => .bind ((lays_expression lays).goes (Nat.le_refl _)).allowingIn fun _ =>
    .bind .expectPunct fun _ => .return rfl

theorem lays_spread_or_assignment : Lays text r r true (spreadOrAssignment g) fun value => [.expr value] :=
  .own r fun _ => .bind .acceptPunct fun _ => .ite
    (.bind (lays.assignment.goes (Nat.le_refl _)) fun _ => .expr rfl rfl rfl (fun _ => rfl) (Nat.le_refl _))
    (lays.assignment.goes (Nat.le_refl _))

theorem lays_arguments : Lays text r r true (arguments g) fun args => args.map .expr :=
  .of r fun _ => .bind .expectPunct fun _ => .allowingIn
    (.bind ((lays_comma_list_map (lays_spread_or_assignment lays)).goes (Nat.le_refl _)) fun _ =>
      .bind .expectPunct fun _ => .return rfl)

theorem lays_array_literal : Lays text r r true (arrayLiteral g) fun items => items.flatMap (optionalNodes .expr) :=
  .of r fun _ => .bind .expectPunct fun _ => .allowingIn
    (.bind ((lays_holed_list (lays_spread_or_assignment lays)).goes (Nat.le_refl _)) fun _ =>
      .bind .expectPunct fun _ => .return rfl)

-- The default of a shorthand property is read and dropped.
theorem goes_shorthand_property (name : String) :
    Goes text r start ⟨r, true, none, []⟩ (shorthandProperty g name) fun value => ⟨r, true, none, value.nodes⟩ :=
  .bind .acceptPunct fun _ => .ite
    (.bind (lays.assignment.goes (Nat.le_refl _)) fun _ => .pure ⟨Nat.le_refl _, fun _ => rfl, .inl rfl, List.nil_sublist _⟩)
    (.return rfl)

theorem lays_keyed_property : Lays text r r true (keyedProperty g) Property.nodes :=
  .of r fun _ => .bind goes_method_modifiers fun _ => .look (looks_peek_at 0) fun _ =>
    .bind ((lays_property_key lays).goes (Nat.le_refl _)) fun _ => .look (looks_check _) fun _ => .ite
      (.bind ((lays_method_function lays _).goes (Nat.le_refl _)) fun _ => .return rfl)
      (.bind .acceptPunct fun _ => .ite (.bind (lays.assignment.goes (Nat.le_refl _)) fun _ => .return rfl) (by
        split
        · exact goes_shorthand_property lays _
        · exact .unexpected))

theorem lays_property : Lays text r r true (property g) Property.nodes :=
  .of r fun _ => .bind .acceptPunct fun _ => .ite (.bind (lays.assignment.goes (Nat.le_refl _)) fun _ => .return rfl)
    ((lays_keyed_property lays).goes (Nat.le_refl _))

theorem lays_object_literal : Lays text r r true (objectLiteral g) fun props => props.flatMap Property.nodes :=
  .of r fun _ => .bind .expectPunct fun _ => .allowingIn
    (.bind ((lays_comma_list (lays_property lays)).goes (Nat.le_refl _)) fun _ => .bind .expectPunct fun _ => .return rfl)

theorem lays_substitution (source : String) (offset : Nat) (written : WrittenAt text source.toList offset)
    (context : Context) (state after : State) (value : Spanned Expr)
    (success : substitution g source offset context state = .ok value after) :
    after.rest = state.rest ∧ after.lastEnd = state.lastEnd ∧
      Strip text r r offset none [.expr value] (offset + byteLength source.toList) := by
  unfold substitution at success
  cases lexed : lexFragment source offset with
  | error error =>
      rw [lexed] at success
      cases success
  | ok tokens =>
      have stream : Stream text (offset + byteLength source.toList) offset (State.ofTokens tokens).rest :=
        lex_fragment_streams written lexed
      rw [lexed] at success
      dsimp only at success
      rw [on_fragment_run] at success
      cases read : expression g { context with noIn := false } (.ofTokens tokens) with
      | error error ended =>
          rw [read] at success
          cases success
      | ok inner ended =>
          rw [read] at success
          unfold Outcome.outside at success
          dsimp only at success
          split at success
          · cases success
            obtain ⟨stop, -, there⟩ := lays_expression lays _ (State.ofTokens tokens) _ offset _ ended (at_fresh stream 0) read
            have begins := (stream_peek stream).above
            have ends := stream_peek there.stream
            exact ⟨rfl, rfl, there.strip.widen (Nat.le_refl _) begins
              (Nat.le_trans ends.above (Nat.le_trans ends.forward ends.below))⟩
          · cases success

theorem lays_template_from (first last : Nat) (prior : String) (parts : List TemplatePart)
    (placed : PartsPlaced text first last parts) (context : Context) (state after : State) (value : Template)
    (success : templateFrom g prior parts context state = .ok value after) :
    after.rest = state.rest ∧ after.lastEnd = state.lastEnd ∧ first ≤ last ∧ Strip text r r first none value.nodes last := by
  induction parts generalizing first prior state value with
  | nil =>
      cases success
      exact ⟨rfl, rfl, placed, strip_nothing⟩
  | cons part rest ih =>
      cases part with
      | text more => exact ih first (prior ++ more) placed state value success
      | substitution source offset =>
          obtain ⟨onward, written, behind⟩ := placed
          obtain ⟨inner, between, read, finished⟩ := bind_ok success
          obtain ⟨tail, final, more, done⟩ := bind_ok finished
          cases done
          obtain ⟨tokens, lastEnd, strip⟩ := lays_substitution lays source offset written context state between inner read
          obtain ⟨sameTokens, sameEnd, forward, others⟩ := ih _ "" behind between tail more
          refine ⟨sameTokens.trans tokens, sameEnd.trans lastEnd, by omega, ?_⟩
          exact (strip.widen (Nat.le_refl _) onward (Nat.le_refl _)).append others (Nat.le_refl _) forward (by omega)

-- The substitutions of a template stand inside its token, which is read before they are parsed.
theorem goes_template {α : Type} {token : Token} {parts : List TemplatePart} (kind : token.kind = .template parts)
    (enough : r ≤ pre.bound) {next : Template → Parser α} {post : α → Cut}
    (goes : ∀ value : Template, Goes text r start ⟨pre.bound, true, pre.head, pre.nodes ++ value.nodes⟩ (next value) post) :
    GoesAt text r token start pre (advance >>= fun _ => template g parts >>= next) post := by
  intro context state same ceiling floor value after here success
  have present : state.peek.kind ≠ .endOfFile := by simp [same, kind]
  have placed := stream_peek here.stream
  obtain ⟨forward, there⟩ := at_advance here present
  obtain ⟨_, advanced, read, finished⟩ := bind_ok success
  cases read
  obtain ⟨inner, between, parsed, done⟩ := bind_ok finished
  obtain ⟨tokens, lastEnd, onward, strip⟩ := lays_template_from lays _ _ "" parts
    (placed.parts parts (by rw [same, kind])) context state.advance between inner parsed
  have peeks : between.peek = state.advance.peek := by simp only [State.peek, State.peekAt, tokens, lastEnd]
  have settles : Settled text state.peek.span.stop state.advance → Settled text state.peek.span.stop between :=
    fun settled => ⟨settled.lastEnd.trans lastEnd.symm, settled.boundary⟩
  have laid : At text ceiling r start ⟨pre.bound, true, pre.head, pre.nodes ++ inner.nodes⟩ state.peek.span.stop between := by
    refine ⟨tokens ▸ there.stream, here.boundary, peeks ▸ there.before, fun _ => ?_, ?_⟩
    · obtain ⟨nonempty, settled⟩ := there.moved rfl
      exact ⟨nonempty, settles settled⟩
    · exact here.strip.append (strip.widen enough (Nat.le_refl _) (Nat.le_refl _)) placed.above
        (Nat.le_trans placed.above onward) here.before
  obtain ⟨stop, further, final⟩ := goes inner context between ceiling _ value after laid done
  exact ⟨stop, forward_trans ⟨forward.onward, fun settled => settles (forward.settled settled)⟩ further, final⟩

def Expr.cut (r : Nat) (expr : Expr) : Cut :=
  ⟨r, true, expr.head?, expr.nodes⟩

theorem goes_import_arguments (keyword : Token) :
    Goes text r start ⟨r, true, some ⟨.ident "import", keyword.span⟩, []⟩ (importExpression g keyword) (Expr.cut r) :=
  .bind .acceptPunct fun _ => .ite
    (.bind goes_identifier fun _ => .pure ⟨Nat.le_refl _, fun _ => rfl, .inl rfl, .refl _⟩)
    (.bind ((lays_arguments lays).goes (Nat.le_refl _)) fun _ => .return rfl)

theorem goes_import_expression (token : Token) (present : token.kind ≠ .endOfFile) :
    GoesAt text r token start (Cut.fresh r) (advance >>= importExpression g) (Expr.cut r) := by
  intro context state same ceiling floor value after here success
  obtain ⟨keyword, between, read, finished⟩ := bind_ok success
  cases read
  have known : state.peek.kind ≠ .endOfFile := by rw [same]; exact present
  have placed := stream_peek here.stream
  obtain ⟨nonempty, -⟩ := stream_advance here.stream known
  obtain ⟨forward, there⟩ := at_advance here known
  have nothing : Strip text r r state.peek.span.start none [] state.peek.span.start := strip_nothing
  have word : Leads text r ⟨.ident "import", state.peek.span⟩ :=
    nothing.closeLead ⟨placed.start, placed.stop, nonempty⟩ ⟨Nat.le_refl _, placed.forward⟩ rfl rfl
  have laid : At text ceiling r start ⟨r, true, some ⟨.ident "import", state.peek.span⟩, []⟩ state.peek.span.stop
      state.advance := by
    refine ⟨there.stream, here.boundary, there.before, there.moved, ?_, by simp, ?_, by simp [optionalNodes]⟩
    · intro lead found
      cases found
      exact word
    · simpa [optionalNodes, Node.span] using here.before
  obtain ⟨stop, onward, final⟩ :=
    goes_import_arguments lays state.peek context state.advance ceiling _ value after laid finished
  exact ⟨stop, forward_trans forward onward, final⟩

omit lays in
theorem goes_consuming (token : Token) (value : Expr) (present : token.kind ≠ .endOfFile) (headless : value.head? = none)
    (leaf : value.nodes = []) : GoesAt text r token start (Cut.fresh r) (consuming value) (Expr.cut r) :=
  .bind (.advance present) fun _ => .return (by simp [Expr.cut, headless, leaf, Cut.fresh])

theorem goes_name_or_async_function (token : Token) (name : String) (kind : token.kind = .identifier name) :
    GoesAt text r token start (Cut.fresh r) (nameOrAsyncFunction g name) (Expr.cut r) :=
  .look looks_async_function_ahead fun _ => .ite
    (.bind (.advance (by simp [kind])) fun _ => .bind ((lays_function_from lays true false).goes (Nat.le_refl _)) fun _ =>
      .return rfl)
    (.bind (.advance (by simp [kind])) fun _ => .return rfl)

theorem goes_parenthesized :
    Goes text r start ⟨r, true, none, []⟩ (parenthesized g) (Expr.cut r) :=
  .bind ((lays_expression lays).goes (Nat.le_refl _)).allowingIn fun _ => .bind .expectPunct fun _ => .return rfl

theorem goes_primary_expr {heritage : Parser (Spanned Expr)} (ancestor : LaysLead text r heritage) (token : Token) :
    GoesAt text r token start (Cut.fresh r) (primaryExpr g heritage token) (Expr.cut r) := by
  unfold primaryExpr
  split
  · next name kind => exact goes_name_or_async_function lays token name kind
  · next kind => exact goes_consuming token _ (by simp [kind]) rfl rfl
  · next kind => exact goes_consuming token _ (by simp [kind]) rfl rfl
  · next kind => exact goes_consuming token _ (by simp [kind]) rfl rfl
  · next kind => exact goes_consuming token _ (by simp [kind]) rfl rfl
  · next kind => exact goes_template lays kind (Nat.le_refl _) fun _ => .return rfl
  · next kind => exact goes_consuming token _ (by simp [kind]) rfl rfl
  · next kind => exact goes_consuming token _ (by simp [kind]) rfl rfl
  · next kind => exact goes_consuming token _ (by simp [kind]) rfl rfl
  · next kind => exact goes_consuming token _ (by simp [kind]) rfl rfl
  · next kind => exact goes_consuming token _ (by simp [kind]) rfl rfl
  · exact .of (.bind ((lays_function_from lays false false).goes (Nat.le_refl _)) fun _ => .return rfl)
  · exact .of (.bind ((lays_class_from lays ancestor false).first r false) fun _ => .return rfl)
  · next kind => exact goes_import_expression lays token (by simp [kind])
  · next kind => exact .bind (.advance (by simp [kind])) fun _ => goes_parenthesized lays
  · exact .of (.bind ((lays_array_literal lays).goes (Nat.le_refl _)) fun _ => .return rfl)
  · exact .of (.bind ((lays_object_literal lays).goes (Nat.le_refl _)) fun _ => .return rfl)
  · exact .of .unexpected

theorem lays_primary {heritage : Parser (Spanned Expr)} (ancestor : LaysLead text r heritage) :
    LaysLead text r (primary g heritage) :=
  .ownToken r fun token => .bind (goes_primary_expr lays ancestor token) fun _ =>
    .spannedLead rfl rfl rfl (Nat.le_refl _)

theorem lays_member_only {heritage : Parser (Spanned Expr)} (ancestor : LaysLead text r heritage) :
    LaysLead text r (memberOnly g heritage) := by
  refine .own r fun start => .bind ((lays_primary lays ancestor).first r false) fun object =>
    .repeat (fun object => ⟨r, true, some object, []⟩) (fun object => ?_) object
  exact .bind .acceptPunct fun _ => .ite
    (.bind goes_identifier_name fun _ => .bind (.spannedLead rfl rfl rfl (Nat.le_refl _)) fun _ => .return rfl)
    (.look (looks_check _) fun _ => .ite
      (.bind ((lays_computed_property lays).goes (Nat.le_refl _)) fun _ =>
        .bind (.spannedLead rfl rfl rfl (Nat.le_refl _)) fun _ => .return rfl)
      (.return rfl))

theorem lays_new_from {heritage : Parser (Spanned Expr)} (ancestor : LaysLead text r heritage) :
    LaysLead text r (newFrom g heritage) := by
  have called : ∀ (start : Nat) (callee : Spanned Expr), Goes text r start ⟨r, true, some callee, []⟩ (do
      let args ← if ← checkPunct .lParen then arguments g else pure []
      spannedFrom start (Expr.new callee args)) fun value => ⟨r, true, some value, []⟩ :=
    fun _ _ => .look (looks_check _) fun _ => .ite
      (.bind ((lays_arguments lays).goes (Nat.le_refl _)) fun _ => .spannedLead rfl rfl rfl (Nat.le_refl _))
      (.pass (.spannedLead rfl rfl rfl (Nat.le_refl _)))
  exact .own r fun start => .bind .expectKeyword fun _ => .bind .acceptPunct fun _ => .ite
    (.bind goes_identifier fun _ => .spannedLead rfl rfl rfl (Nat.le_refl _))
    (.look (looks_check _) fun _ => .ite
      (.bind (lays.newExpression.first r true) fun callee => called start callee)
      (.bind ((lays_member_only lays ancestor).first r true) fun callee => called start callee))

theorem goes_optional_link (object : Spanned Expr) :
    Goes text r start ⟨r, true, some object, []⟩ (optionalLink g object) (Expr.cut r) :=
  .look (looks_check _) fun _ => .ite (.bind ((lays_arguments lays).goes (Nat.le_refl _)) fun _ => .return rfl)
    (.look (looks_check _) fun _ => .ite
      (.bind ((lays_computed_property lays).goes (Nat.le_refl _)) fun _ => .return rfl)
      (.bind goes_identifier_name fun _ => .return rfl))

theorem goes_chain_link (object : Spanned Expr) :
    Goes text r start ⟨r, true, some object, []⟩ (chainLink g object) fun link =>
      (link.map (Expr.cut r)).getD ⟨r, true, some object, []⟩ := .peek fun token => by
  split
  · next kind => exact .bind (.advance (by simp [kind])) fun _ => .bind goes_identifier_name fun _ => .return rfl
  · next kind => exact .bind (.advance (by simp [kind])) fun _ => .bind (goes_optional_link lays object) fun _ => .return rfl
  · exact .of (.bind ((lays_computed_property lays).goes (Nat.le_refl _)) fun _ => .return rfl)
  · exact .of (.bind ((lays_arguments lays).goes (Nat.le_refl _)) fun _ => .return rfl)
  · next kind => exact goes_template lays kind (Nat.le_refl _) fun _ => .return rfl
  · exact .of (.return rfl)

theorem lays_call_member_with {heritage : Parser (Spanned Expr)} (ancestor : LaysLead text r heritage) :
    LaysLead text r (callMemberWith g heritage) := by
  have chain : ∀ (start : Nat) (head : Spanned Expr),
      Goes text r start ⟨r, true, some head, []⟩ (repeatRounds (chainRound g start) head) fun value =>
        ⟨r, true, some value, []⟩ := by
    refine fun start => .repeat (fun object => ⟨r, true, some object, []⟩) fun object => ?_
    refine .bind (goes_chain_link lays object) fun link => ?_
    cases link with
    | none => exact .return rfl
    | some node => exact .bind (.spannedLead rfl rfl rfl (Nat.le_refl _)) fun _ => .return rfl
  exact .own r fun start => .look (looks_check _) fun _ => .ite
    (.bind ((lays_new_from lays ancestor).first r false) fun head => chain start head)
    (.bind ((lays_primary lays ancestor).first r false) fun head => chain start head)

theorem lays_call_member_from (fuel : List Token) : LaysLead text r (callMemberFrom g fuel) := by
  induction fuel with
  | nil => exact .of r fun _ => .unexpected
  | cons token fuel ih => exact lays_call_member_with lays ih

theorem lays_call_member : LaysLead text r (callMember g) :=
  fun context state => lays_call_member_from lays state.rest context state

theorem lays_new_expression_body : LaysLead text r (newExpressionBody g) :=
  lays_new_from lays (lays_call_member lays)

theorem goes_postfix_update :
    Goes text r start (Cut.fresh (r + 2)) (postfixUpdate g start) fun value => ⟨r + 3, true, none, [.expr value]⟩ := by
  have whole : ∀ target : Spanned Expr,
      Cut.Below ⟨r + 3, true, none, [.expr target]⟩ ⟨r + 2, true, none, [.expr target]⟩ :=
    fun _ => ⟨Nat.le_succ _, id, .inr rfl, .refl _⟩
  exact .bind ((lays_call_member lays).node.goes (Nat.le_refl _)) fun target => .peek fun token => by
    split
    · exact .ite (.of (.pure (whole target))) (.bind (.of .advance) fun _ =>
        .expr rfl rfl rfl (fun _ => rfl) (Nat.le_succ _))
    · exact .of (.pure (whole target))

theorem lays_unary_body : Lays text r (r + 3) true (unaryBody g) fun value => [.expr value] := by
  have heavy : ∀ bound, bound = r + 2 → 1 + bound ≤ r + 3 := by omega
  exact .own (r + 2) fun start => .peek fun token => by
    dsimp only
    split
    · exact .bind (.of .advance) fun _ => .bind (lays.unary.goes lays.deep) fun _ =>
        .counted rfl rfl rfl (fun _ => rfl) (heavy _ rfl)
    · exact .bind (.of .advance) fun _ => .bind (lays.unary.goes lays.deep) fun _ =>
        .expr rfl rfl rfl (fun _ => rfl) (Nat.le_succ _)
    · exact .of (.look looks_await_ahead fun _ => .ite
        (.bind .advance fun _ => .bind (lays.unary.goes lays.deep) fun _ => .counted rfl rfl rfl (fun _ => rfl) (heavy _ rfl))
        (goes_postfix_update lays))

end

def Statement.cut (r : Nat) (statement : Statement) : Cut :=
  ⟨r + 2, true, statement.head?, statement.nodes⟩

section

variable {text : List Char} {r start : Nat} {pre : Cut}

theorem Goes.settle {α : Type} {parser : Parser α} (goes : Goes text r start pre parser fun _ => { pre with moved := true }) :
    Goes text r start pre parser fun _ => pre :=
  goes.weaken fun _ => ⟨Nat.le_refl _, fun _ => rfl, .inr rfl, .refl _⟩

theorem goes_module_name : Goes text r start pre moduleName fun _ => pre :=
  Goes.settle (.peek fun token => by
    split
    · next kind => exact .bind (.advance (by simp [kind])) fun _ => .return rfl
    · exact .of goes_identifier_name)

theorem goes_names_list {α : Type} {item : Parser α} (goes : Goes text r start pre item fun _ => pre) :
    Goes text r start pre (namesList item) fun _ => pre :=
  .repeat (fun _ => pre) (fun _ => .bind .acceptPunct fun _ => .ite (.return rfl) (.bind goes fun _ =>
    .look (looks_check _) fun _ => .ite (.return rfl) (.bind Goes.expectPunct.settle fun _ => .return rfl))) []

theorem goes_imported_name : Goes text r start pre importedName fun _ => pre :=
  .bind goes_module_name fun _ => .bind .acceptWord fun _ => .ite
    (.bind goes_identifier.settle fun _ => .return rfl) (.return rfl)

theorem goes_imported_names : Goes text r start pre importedNames fun _ => pre :=
  .bind .acceptPunct fun _ => .ite
    (.bind Goes.expectWord.settle fun _ => .bind goes_identifier.settle fun _ => .return rfl)
    (.bind .acceptPunct fun _ => .ite (goes_names_list goes_imported_name) .unexpected)

theorem goes_import_specifiers : Goes text r start pre importSpecifiers fun _ => pre := .peek fun token => by
  split
  · exact .of (.bind goes_identifier.settle fun _ => .bind .acceptPunct fun _ => .ite
      (.bind goes_imported_names fun _ => .return rfl) (.return rfl))
  · exact .of goes_imported_names

theorem goes_import_declaration :
    Goes text r start (Cut.fresh (r + 2)) importDeclaration (Statement.cut r) :=
  .bind .expectKeyword fun _ => .peek fun token => by
    split
    · exact .bind (.of .advance) fun _ => .bind goes_consume_semicolon fun _ => .return rfl
    · exact .of (.bind goes_import_specifiers fun _ => .bind Goes.expectWord.settle fun _ =>
        .bind goes_string_literal.settle fun _ => .bind goes_consume_semicolon fun _ => .return rfl)

theorem goes_exported_alias : Goes text r start pre exportedAlias fun _ => pre :=
  .bind .acceptWord fun _ => .ite (.bind goes_module_name fun _ => .return rfl) (.return rfl)

theorem goes_exported_all : Goes text r start ⟨r + 2, true, none, []⟩ exportedAll (Statement.cut r) :=
  .bind goes_exported_alias fun _ => .bind Goes.expectWord.settle fun _ => .bind goes_string_literal.settle fun _ =>
    .bind goes_consume_semicolon fun _ => .return rfl

theorem goes_exported_name : Goes text r start pre exportedName fun _ => pre :=
  .bind goes_module_name fun _ => .bind .acceptWord fun _ => .ite
    (.bind goes_module_name fun _ => .return rfl) (.return rfl)

theorem goes_exported_source : Goes text r start pre exportedSource fun _ => pre :=
  .bind .acceptWord fun _ => .ite (.bind goes_string_literal.settle fun _ => .return rfl) (.return rfl)

theorem goes_exported_names : Goes text r start ⟨r + 2, true, none, []⟩ exportedNames (Statement.cut r) :=
  .bind (goes_names_list goes_exported_name) fun _ => .bind goes_exported_source fun _ =>
    .bind goes_consume_semicolon fun _ => .return rfl

theorem goes_jump_label : Goes text r start pre jumpLabel fun _ => pre := .peek fun token => by
  split
  · exact .ite (.of (.bind goes_consume_semicolon fun _ => .return rfl))
      (.bind (.of .advance) fun _ => .bind goes_consume_semicolon fun _ => .return rfl)
  · exact .of (.bind goes_consume_semicolon fun _ => .return rfl)

end

section

variable {text : List Char} {r d start : Nat} {pre : Cut} {g : Grammar} (lays : g.Lays text r d)
include lays

theorem lays_exported_default : Lays text r (r + 2) true (exportedDefault g) fun value => [.expr value] := by
  have light : ∀ bound, bound = r → 1 + bound ≤ r + 2 := by omega
  have functions : ∀ start : Nat, Goes text r start (Cut.fresh r) (do
      let isAsync ← acceptWord "async"
      let function ← functionFrom g isAsync false
      spannedFrom start (Expr.function function)) fun value => ⟨r + 2, true, none, [.expr value]⟩ :=
    fun _ => .bind .acceptWord fun _ => .bind ((lays_function_from lays _ _).goes (Nat.le_refl _)) fun _ =>
      .counted rfl rfl rfl (fun _ => rfl) (light _ rfl)
  exact .own r fun start => .look (looks_check _) fun _ => .look (looks_check _) fun _ =>
    .look looks_async_function_ahead fun _ => .ite (functions start) (.look (looks_check _) fun _ => .ite
      (.leadNode (.bind ((lays_class_from lays (lays_call_member lays) false).first r false) fun _ =>
        .spannedLead rfl rfl rfl (Nat.le_refl _)))
      (.bind (lays.assignment.goes (Nat.le_refl _)).allowingIn fun _ => .bind goes_consume_semicolon fun _ =>
        .pure ⟨Nat.le_add_right r 2, id, .inr rfl, .refl _⟩))

theorem goes_export_declaration : Goes text r start (Cut.fresh (r + 2)) (exportDeclaration g) (Statement.cut r) :=
  .bind .expectKeyword fun _ => .bind .acceptKeyword fun _ => .ite
    (.bind ((lays_exported_default lays).goes (Nat.le_refl _)) fun _ => .return rfl)
    (.bind .acceptPunct fun _ => .ite goes_exported_all (.bind .acceptPunct fun _ => .ite goes_exported_names
      (.look looks_declaration_ahead fun _ => .ite
        (.bind (lays.statement.goes lays.deep) fun _ => .return rfl) .unexpected)))

theorem goes_var_statement (token : Token) (present : token.kind ≠ .endOfFile) (kind : VarKind) :
    GoesAt text r token start (Cut.fresh (r + 2)) (varStatement g kind) (Statement.cut r) :=
  .bind (.advance present) fun _ => .bind ((lays_var_declarations lays kind).goes (Nat.le_add_right r 2)) fun _ =>
    .bind goes_consume_semicolon fun _ => .return rfl

theorem lays_paren_expression : Lays text r r true (parenExpression g) fun value => [.expr value] :=
  .of r fun _ => .bind .expectPunct fun _ => .bind ((lays_expression lays).goes (Nat.le_refl _)).allowingIn fun _ =>
    .bind .expectPunct fun _ => .return rfl

theorem goes_if_statement : Goes text r start (Cut.fresh (r + 2)) (ifStatement g) (Statement.cut r) :=
  .bind .expectKeyword fun _ => .bind ((lays_paren_expression lays).goes (Nat.le_add_right r 2)) fun _ =>
    .bind (lays.statement.goes lays.deep) fun _ => .bind .acceptKeyword fun _ => .ite
      (.bind (lays.statement.goes lays.deep) fun _ => .return rfl) (.return rfl)

theorem goes_while_statement : Goes text r start (Cut.fresh (r + 2)) (whileStatement g) (Statement.cut r) :=
  .bind .advance fun _ => .bind ((lays_paren_expression lays).goes (Nat.le_add_right r 2)) fun _ =>
    .bind (lays.statement.goes lays.deep) fun _ => .return rfl

theorem goes_do_statement : Goes text r start (Cut.fresh (r + 2)) (doStatement g) (Statement.cut r) :=
  .bind .advance fun _ => .bind (lays.statement.goes lays.deep) fun _ => .bind .expectKeyword fun _ =>
    .bind ((lays_paren_expression lays).goes (Nat.le_add_right r 2)) fun _ => .bind .acceptPunct fun _ => .return rfl

theorem goes_with_statement : Goes text r start (Cut.fresh (r + 2)) (withStatement g) (Statement.cut r) :=
  .bind .advance fun _ => .bind ((lays_paren_expression lays).goes (Nat.le_add_right r 2)) fun _ =>
    .bind (lays.statement.goes lays.deep) fun _ => .return rfl

theorem goes_return_statement (token : Token) (present : token.kind ≠ .endOfFile) :
    GoesAt text r token start (Cut.fresh (r + 2)) (returnStatement g) (Statement.cut r) :=
  .bind (.advance present) fun _ => .look (looks_peek_at 0) fun _ => .ite
    (.bind goes_consume_semicolon fun _ => .return rfl)
    (.bind ((lays_expression lays).goes (Nat.le_add_right r 2)) fun _ => .bind goes_consume_semicolon fun _ => .return rfl)

theorem goes_throw_statement : Goes text r start (Cut.fresh (r + 2)) (throwStatement g) (Statement.cut r) := by
  have thrown : Goes text r start (Cut.fresh (r + 2)) (do
      let value ← expression g
      consumeSemicolon
      return Statement.throws value) (Statement.cut r) :=
    .bind ((lays_expression lays).goes (Nat.le_add_right r 2)) fun _ => .bind goes_consume_semicolon fun _ => .return rfl
  exact .bind .advance fun _ => .look (looks_peek_at 0) fun _ => .ite (.bind .fail fun _ => thrown) thrown

theorem lays_catch_param : Lays text r r false (catchParam g) (optionalNodes .pattern) :=
  .of r fun _ => .bind .acceptPunct fun _ => .ite
    (.bind (lays.bindingTarget.goes (Nat.le_refl _)) fun _ => .bind .expectPunct fun _ =>
      .pure ⟨Nat.le_refl _, fun _ => rfl, .inr rfl, .refl _⟩)
    (.return rfl)

theorem lays_catch_clause : Lays text r r false (catchClause g) fun clause => (clause.map CatchClause.nodes).getD [] :=
  .of r fun _ => .bind .acceptKeyword fun _ => .ite
    (.bind ((lays_catch_param lays).goes (Nat.le_refl _)) fun _ => .bind (lays.block.goes (Nat.le_refl _)) fun _ =>
      .pure ⟨Nat.le_refl _, fun _ => rfl, .inr rfl, .refl _⟩)
    (.return rfl)

theorem lays_finally_clause :
    Lays text r r false (finallyClause g) fun clause => (clause.map fun body => body.map Node.statement).getD [] :=
  .of r fun _ => .bind .acceptKeyword fun _ => .ite
    (.bind (lays.block.goes (Nat.le_refl _)) fun _ => .pure ⟨Nat.le_refl _, fun _ => rfl, .inr rfl, .refl _⟩)
    (.return rfl)

theorem goes_try_statement : Goes text r start (Cut.fresh (r + 2)) (tryStatement g) (Statement.cut r) := by
  have light : r ≤ r + 2 := Nat.le_add_right r 2
  exact .bind .expectKeyword fun _ => .bind (lays.block.goes light) fun _ => .bind ((lays_catch_clause lays).goes light) fun _ =>
    .bind ((lays_finally_clause lays).goes light) fun _ => .ite (.bind .fail fun _ => .return rfl) (.return rfl)

theorem lays_case_test : Lays text r r true (caseTest g) (optionalNodes .expr) :=
  .of r fun _ => .bind .acceptKeyword fun _ => .ite
    (.bind ((lays_expression lays).goes (Nat.le_refl _)).allowingIn fun _ => .return rfl)
    (.bind (.expect (by simp)) fun _ => .return rfl)

theorem lays_case_body :
    Lays text r (r + 2) false (repeatRounds (caseBodyRound g) []) fun body => body.map .statement := by
  have one : ∀ (body : Body) (next : Spanned Statement),
      Cut.Below ⟨r + 2, false, none, (next :: body).reverse.map .statement⟩
        ⟨r + 2, false || true, none, body.reverse.map .statement ++ [.statement next]⟩ :=
    fun _ _ => ⟨Nat.le_refl _, fun _ => rfl, .inr rfl, by simp⟩
  have more : ∀ (start : Nat) (body : Body), Goes text r start ⟨r + 2, false, none, body.reverse.map .statement⟩ (do
      return .again ((← g.statement) :: body) : Parser (Round Body Body))
      (Round.cut (fun body => ⟨r + 2, false, none, body.reverse.map .statement⟩)
        fun body => ⟨r + 2, false, none, body.map .statement⟩) :=
    fun _ body => .bind (lays.statement.goes lays.deep) fun next => .pure (one body next)
  refine .of (r + 2) fun start => .repeat (fun body => ⟨r + 2, false, none, body.reverse.map .statement⟩) (fun body => ?_) []
  exact .look (looks_check _) fun _ => .look (looks_check _) fun _ => .look (looks_check _) fun _ => .ite (.return rfl)
    (.look looks_at_end fun _ => .ite (.bind .unexpected fun _ => more start body) (more start body))

theorem lays_switch_case : Lays text r (r + 2) true (switchCase g) SwitchCase.nodes :=
  .of (r + 2) fun _ => .bind ((lays_case_test lays).goes (Nat.le_add_right r 2)) fun _ => .bind .expectPunct fun _ =>
    .bind ((lays_case_body lays).goes (Nat.le_refl _)) fun _ => .return rfl

theorem lays_switch_cases :
    Lays text r (r + 2) false (repeatRounds (switchRound g) []) fun cases => cases.flatMap SwitchCase.nodes := by
  have one : ∀ (cases : List SwitchCase) (next : SwitchCase),
      Cut.Below ⟨r + 2, false, none, (next :: cases).reverse.flatMap SwitchCase.nodes⟩
        ⟨r + 2, false || true, none, cases.reverse.flatMap SwitchCase.nodes ++ next.nodes⟩ :=
    fun _ _ => ⟨Nat.le_refl _, fun _ => rfl, .inr rfl, by simp⟩
  refine .of (r + 2) fun _ =>
    .repeat (fun cases => ⟨r + 2, false, none, cases.reverse.flatMap SwitchCase.nodes⟩) (fun cases => ?_) []
  exact .bind .acceptPunct fun _ => .ite (.return rfl) (.bind ((lays_switch_case lays).goes (Nat.le_refl _)) fun next =>
    .pure (one cases next))

theorem goes_switch_statement : Goes text r start (Cut.fresh (r + 2)) (switchStatement g) (Statement.cut r) :=
  .bind .expectKeyword fun _ => .bind ((lays_paren_expression lays).goes (Nat.le_add_right r 2)) fun _ =>
    .bind .expectPunct fun _ => .bind ((lays_switch_cases lays).goes (Nat.le_refl _)) fun _ => .return rfl

theorem lays_for_init : Lays text r r false (forInit g) ForInit.nodes := by
  have declared : ∀ (start : Nat) (kind : VarKind), Goes text r start (Cut.fresh r) (do
      return .var (← varDeclarations g kind) : Parser ForInit) fun init => ⟨r, false, none, init.nodes⟩ :=
    fun _ kind => .bind ((lays_var_declarations lays kind).goes (Nat.le_refl _)) fun _ => .return rfl
  exact .of r fun start => .bind .acceptKeyword fun _ => .ite (declared start _) (.bind .acceptKeyword fun _ => .ite
    (declared start _) (.look (looks_check _) fun _ => .look looks_let_declares fun _ => .ite
      (.bind .advance fun _ => declared start _)
      (.bind ((lays_expression lays).goes (Nat.le_refl _)) fun _ =>
        .pure ⟨Nat.le_refl _, fun _ => rfl, .inr rfl, .refl _⟩)))

theorem lays_optional_expression (close : Punct) :
    Lays text r r false (optionalExpression g close) (optionalNodes .expr) :=
  .of r fun _ => .look (looks_check _) fun _ => .ite (.return rfl)
    (.bind ((lays_expression lays).goes (Nat.le_refl _)).allowingIn fun _ =>
      .pure ⟨Nat.le_refl _, fun _ => rfl, .inr rfl, .refl _⟩)

theorem goes_for_tail (init : Option ForInit) :
    Goes text r start ⟨r + 2, true, none, (init.map ForInit.nodes).getD []⟩ (forTail g init) (Statement.cut r) := by
  have light : r ≤ r + 2 := Nat.le_add_right r 2
  exact .bind .expectPunct fun _ => .bind ((lays_optional_expression lays _).goes light) fun _ => .bind .expectPunct fun _ =>
    .bind ((lays_optional_expression lays _).goes light) fun _ => .bind .expectPunct fun _ =>
      .bind (lays.statement.goes lays.deep) fun _ => .return rfl

theorem goes_for_each_tail (left : ForInit) (ofKeys : Bool) :
    Goes text r start ⟨r + 2, true, none, left.nodes⟩ (forEachTail g left ofKeys) (Statement.cut r) := by
  have light : r ≤ r + 2 := Nat.le_add_right r 2
  have tail : ∀ right, Goes text r start ⟨r + 2, true, none, left.nodes ++ [.expr right]⟩ (do
      let _ ← expectPunct .rParen
      return Statement.forEach left ofKeys right (← g.statement)) (Statement.cut r) :=
    fun _ => .bind .expectPunct fun _ => .bind (lays.statement.goes lays.deep) fun _ => .return rfl
  exact .bind .advance fun _ => .ite (.bind ((lays_expression lays).goes light).allowingIn fun right => tail right)
    (.bind (lays.assignment.goes light).allowingIn fun right => tail right)

theorem goes_for_statement : Goes text r start (Cut.fresh (r + 2)) (forStatement g) (Statement.cut r) :=
  .bind .expectKeyword fun _ => .bind .acceptWord fun _ => .bind .expectPunct fun _ => .look (looks_check _) fun _ => .ite
    (goes_for_tail lays none)
    (.bind ((lays_for_init lays).goes (Nat.le_add_right r 2)).within fun init => .look (looks_check _) fun _ => .ite
      (goes_for_each_tail lays init false) (.look (looks_check _) fun _ => .ite
        (goes_for_each_tail lays init true) (goes_for_tail lays (some init))))

theorem goes_expression_statement : Goes text r start (Cut.fresh (r + 2)) (expressionStatement g) (Statement.cut r) :=
  .bind ((lays_expression lays).goes (Nat.le_add_right r 2)) fun _ => .bind goes_consume_semicolon fun _ => .return rfl

theorem goes_labeled_statement (label : String) :
    Goes text r start (Cut.fresh (r + 2)) (labeledStatement g label) (Statement.cut r) :=
  .bind .advance fun _ => .bind .advance fun _ => .bind (lays.statement.goes lays.deep) fun _ => .return rfl

theorem goes_named_statement (token : Token) (name : String) (kind : token.kind = .identifier name) :
    GoesAt text r token start (Cut.fresh (r + 2)) (namedStatement g name) (Statement.cut r) :=
  .look looks_let_declares fun _ => .ite (goes_var_statement lays token (by simp [kind]) _)
    (.look looks_async_function_ahead fun _ => .ite
      (.bind (.advance (by simp [kind])) fun _ =>
        .bind ((lays_function_from lays true true).goes (Nat.le_add_right r 2)) fun _ => .return rfl)
      (.look (looks_peek_at 1) fun _ => .ite (.of (goes_labeled_statement lays name))
        (.of (goes_expression_statement lays))))

theorem goes_plain_statement (token : Token) :
    GoesAt text r token start (Cut.fresh (r + 2)) (plainStatement g token.kind) (Statement.cut r) := by
  have light : r ≤ r + 2 := Nat.le_add_right r 2
  unfold plainStatement
  split
  · next kind => exact .bind (.advance (by simp [kind])) fun _ => .return rfl
  · next name kind => exact goes_named_statement lays token name kind
  · next kind => exact goes_var_statement lays token (by simp [kind]) _
  · next kind => exact goes_var_statement lays token (by simp [kind]) _
  · exact .of (.bind ((lays_function_from lays _ _).goes light) fun _ => .return rfl)
  · exact .of (.bind ((lays_class_from lays (lays_call_member lays) true).first (r + 2) false) fun _ =>
      .pure ⟨light, id, .inr rfl, .refl _⟩)
  · exact .of (goes_if_statement lays)
  · exact .of (goes_for_statement lays)
  · exact .of (goes_while_statement lays)
  · exact .of (goes_do_statement lays)
  · exact .of (goes_with_statement lays)
  · next kind => exact goes_return_statement lays token (by simp [kind])
  · exact .of (goes_throw_statement lays)
  · exact .of (goes_try_statement lays)
  · exact .of (goes_switch_statement lays)
  · next kind => exact .bind (.advance (by simp [kind])) fun _ => .bind goes_jump_label fun _ => .return rfl
  · next kind => exact .bind (.advance (by simp [kind])) fun _ => .bind goes_jump_label fun _ => .return rfl
  · next kind => exact .bind (.advance (by simp [kind])) fun _ => .bind goes_consume_semicolon fun _ => .return rfl
  · exact .of (.look (looks_peek_at 1) fun token => by
      split
      · exact goes_expression_statement lays
      · exact goes_expression_statement lays
      · exact goes_import_declaration)
  · exact .of (goes_export_declaration lays)
  · exact .of (goes_expression_statement lays)

end

end ScriptSuite.Script
