import ScriptSuite.Proofs.Script.Recovery
import ScriptSuite.Proofs.Script.Semicolon.Showing
import ScriptSuite.Proofs.Script.Semicolon.Tokens

set_option autoImplicit false

namespace ScriptSuite.Script

structure Grammar.Finds (cue : Cue) (g : Grammar) : Prop where
  statement : cue.Finds g.statement fun value => [.statement value]
  block : cue.Finds g.block fun value => value.1.map .statement
  bindingTarget : cue.Finds g.bindingTarget fun value => [.pattern value]
  assignment : cue.Finds g.assignment fun value => [.expr value]
  binary : ∀ precedence, cue.Finds (g.binary precedence) fun value => [.expr value]
  unary : cue.Finds g.unary fun value => [.expr value]
  newExpression : cue.Finds g.newExpression fun value => [.expr value]

section

variable {α : Type} {cue : Cue} {known : Prop}

theorem tells_identifier : cue.Tells known identifier fun _ => known := .peek fun token => by
  split
  · next kind => exact .bind (.advance (by simp [kind])) fun _ => .pure id
  · exact .of .unexpected

theorem tells_identifier_name : cue.Tells known identifierName fun _ => known := .peek fun token => by
  split
  · next kind => exact .bind (.advance (by simp [kind])) fun _ => .pure id
  · next kind => exact .bind (.advance (by simp [kind])) fun _ => .pure id
  · next kind => exact .bind (.advance (by simp [kind])) fun _ => .pure id
  · exact .of .unexpected

theorem tells_string_literal : cue.Tells known stringLiteral fun _ => known := .peek fun token => by
  split
  · next kind => exact .bind (.advance (by simp [kind])) fun _ => .pure id
  · exact .of .unexpected

theorem tells_consume_semicolon : cue.Tells known consumeSemicolon fun _ => known :=
  .bind (.acceptPunct (by decide)) fun _ => .ite (.pure id) (.look (looks_peek_at 0) fun _ => .ite (.pure id) .unexpected)

theorem tells_declared_name (required : Bool) (wanted : Expectation) :
    cue.Tells known (declaredName required wanted) fun _ => known :=
  .peek fun token => by
    split
    · exact .of (.bind tells_identifier fun _ => .pure id)
    · exact .ite (.of .unexpected) (.of (.pure id))

theorem tells_async_modifier : cue.Tells known asyncModifier fun _ => known :=
  .check fun token => .look looks_next_ends_member fun _ => .look (looks_peek_at 1) fun _ => by
    split
    · next here =>
        have kind : token.kind = .identifier "async" := by simp_all
        exact .bind (.advance (by simp [kind])) fun _ => .pure id
    · exact .of (.pure id)

theorem tells_accessor_modifier : cue.Tells known accessorModifier fun _ => known :=
  .bind .acceptWord fun _ => .ite (.pure id) (.bind .acceptWord fun _ => .ite (.pure id) (.pure id))

theorem tells_method_modifiers : cue.Tells known methodModifiers fun _ => known :=
  .bind tells_async_modifier fun _ => .bind (.acceptPunct (by decide)) fun _ => .look looks_next_ends_member fun _ =>
    .ite (.pure id) (.bind tells_accessor_modifier fun _ => .pure id)

theorem tells_yield_delegate : cue.Tells known yieldDelegate fun _ => known :=
  .look (looks_peek_at 0) fun _ => .ite (.pure id) (.acceptPunct (by decide))

theorem tells_template (g : Grammar) (parts : List TemplatePart) : cue.Tells known (template g parts) fun _ => known := by
  have outside : ∀ source offset, cue.Tells known (substitution g source offset) fun _ => known := by
    intro source offset
    unfold substitution
    split
    · exact .fail
    · intro context state value after told success
      rw [on_fragment_run] at success
      unfold Outcome.outside at success
      split at success
      · cases success
      · split at success
        · cases success
          cases told with
          | ahead front coming before => exact .ahead front coming before
          | next here last => exact .next here last
          | known holds => exact .known holds
          | noted errors => exact .noted (by simp [errors])
        · cases success
  have joined : ∀ text, cue.Tells known (templateFrom g text parts) fun _ => known := by
    induction parts with
    | nil => exact fun text => .pure id
    | cons part rest ih =>
        cases part with
        | text more => exact fun text => ih (text ++ more)
        | substitution source offset =>
            exact fun text => .bind (outside source offset) fun _ => .bind (ih "") fun _ => .pure id
  exact joined ""

theorem tells_module_name : cue.Tells known moduleName fun _ => known := .peek fun token => by
  split
  · next kind => exact .bind (.advance (by simp [kind])) fun _ => .pure id
  · exact .of tells_identifier_name

theorem tells_names_list {item : Parser α} (tells : cue.Tells known item fun _ => known) :
    cue.Tells known (namesList item) fun _ => known :=
  .repeat (fun _ => known) (fun _ => .bind (.acceptPunct (by decide)) fun _ => .ite (.pure id) (.bind tells fun _ =>
    .look (looks_check _) fun _ => .ite (.pure id) (.bind (.expectPunct (by decide)) fun _ => .pure id))) []

theorem tells_imported_name : cue.Tells known importedName fun _ => known :=
  .bind tells_module_name fun _ => .bind .acceptWord fun _ => .ite (.bind tells_identifier fun _ => .pure id) (.pure id)

theorem tells_imported_names : cue.Tells known importedNames fun _ => known :=
  .bind (.acceptPunct (by decide)) fun _ => .ite
    (.bind .expectWord fun _ => .bind tells_identifier fun _ => .pure id)
    (.bind (.acceptPunct (by decide)) fun _ => .ite (tells_names_list tells_imported_name) .unexpected)

theorem tells_import_specifiers : cue.Tells known importSpecifiers fun _ => known := .peek fun token => by
  split
  · exact .of (.bind tells_identifier fun _ => .bind (.acceptPunct (by decide)) fun _ => .ite
      (.bind tells_imported_names fun _ => .pure id) (.pure id))
  · exact .of tells_imported_names

theorem tells_exported_name : cue.Tells known exportedName fun _ => known :=
  .bind tells_module_name fun _ => .bind .acceptWord fun _ => .ite (.bind tells_module_name fun _ => .pure id) (.pure id)

theorem tells_jump_label : cue.Tells known jumpLabel fun _ => known := .peek fun token => by
  split
  · next kind =>
      exact .ite (.of (.bind tells_consume_semicolon fun _ => .pure id))
        (.bind (.advance (by simp [kind])) fun _ => .bind tells_consume_semicolon fun _ => .pure id)
  · exact .of (.bind tells_consume_semicolon fun _ => .pure id)

theorem tells_import_declaration :
    cue.Tells (cue.Among []) importDeclaration fun value => cue.Around .statement value :=
  .bind .expectKeyword fun _ => .peek fun token => by
    split
    · next kind =>
        exact .bind (.advance (by simp [kind])) fun _ => .bind tells_consume_semicolon fun _ => .closing fun _ => rfl
    · exact .of (.bind tells_import_specifiers fun _ => .bind .expectWord fun _ => .bind tells_string_literal fun _ =>
        .bind tells_consume_semicolon fun _ => .closing fun _ => rfl)

theorem tells_exported_all : cue.Tells (cue.Among []) exportedAll fun value => cue.Around .statement value :=
  .bind (.bind .acceptWord fun _ => .ite (.bind tells_module_name fun _ => .pure id) (.pure id)) fun _ =>
    .bind .expectWord fun _ => .bind tells_string_literal fun _ => .bind tells_consume_semicolon fun _ => .closing fun _ => rfl

theorem tells_exported_names : cue.Tells (cue.Among []) exportedNames fun value => cue.Around .statement value :=
  .bind (tells_names_list tells_exported_name) fun _ =>
    .bind (.bind .acceptWord fun _ => .ite (.bind tells_string_literal fun _ => .pure id) (.pure id)) fun _ =>
      .bind tells_consume_semicolon fun _ => .closing fun _ => rfl

theorem tells_comma_list {close : Punct} {item : Parser α} {good : α → Prop}
    (tells : cue.Tells (cue.Among []) item good) :
    cue.Tells (cue.Among []) (commaList close item) fun items => ∃ item ∈ items, good item := by
  have rounds : cue.Tells (∃ item ∈ ([] : List α), good item) (commaList close item) fun items => ∃ item ∈ items, good item := by
    refine .repeat (fun items => ∃ item ∈ items, good item) (fun items => ?_) []
    exact .look (looks_check _) fun _ => .ite (.pure (by simp [Round.told])) (.bind tells.beside fun value =>
      .bind (.acceptPunct (by decide)) fun _ => .ite (.pure (by simp [Round.told, or_comm]))
        (.pure (by simp [Round.told, or_comm])))
  exact rounds.weaken (fun among => absurd among not_among_nothing) fun _ => id

theorem finds_comma_list {close : Punct} {item : Parser α} {nodes : α → List Node} (finds : cue.Finds item nodes) :
    cue.Finds (commaList close item) fun items => items.flatMap nodes :=
  (tells_comma_list finds).weaken id fun _ => among_flat_map.mpr

theorem finds_comma_list_map {close : Punct} {item : Parser α} {wrap : α → Node}
    (finds : cue.Finds item fun value => [wrap value]) :
    cue.Finds (commaList close item) fun items => items.map wrap := by
  simpa only [List.map_eq_flatMap] using finds_comma_list finds

theorem finds_holed_list {close : Punct} {item : Parser α} {wrap : α → Node}
    (finds : cue.Finds item fun value => [wrap value]) :
    cue.Finds (holedList close item) fun items => items.flatMap (optionalNodes wrap) := by
  refine .repeat (fun items => cue.Among (items.reverse.flatMap (optionalNodes wrap))) (fun items => ?_) []
  exact .look (looks_check _) fun _ => .ite (.pure id) (.bind (.acceptPunct (by decide)) fun _ => .ite
    (.pure (by simp [Round.told, optionalNodes])) (.bind finds.goes fun value => .bind (.acceptPunct (by decide)) fun _ =>
      .ite (.pure (by simp [Round.told, optionalNodes])) (.pure (by simp [Round.told, optionalNodes]))))

end

theorem operator_kind {α : Type} {operator? : TokenKind → Option α} {kind : TokenKind} {operator : α}
    (none : operator? (.punct .at) = none) (found : operator? kind = some operator) : kind ≠ .punct .at := by
  rintro rfl
  rw [none] at found
  cases found

section

variable {cue : Cue} {g : Grammar} (finds : g.Finds cue)
include finds

theorem finds_property_key : cue.Finds (propertyKey g) PropKey.nodes := .peek fun token => by
  split
  · exact .of (.bind tells_identifier_name fun _ => .pure id)
  · exact .of (.bind tells_identifier_name fun _ => .pure id)
  · exact .of (.bind tells_identifier_name fun _ => .pure id)
  · next kind => exact .bind (.advance (by simp [kind])) fun _ => .pure id
  · next kind => exact .bind (.advance (by simp [kind])) fun _ => .pure id
  · next kind => exact .bind (.advance (by simp [kind])) fun _ => .pure id
  · next kind =>
      exact .bind (.advance (by simp [kind])) fun _ => .bind finds.assignment.goes.allowingIn fun _ =>
        .bind (.expectPunct (by decide)) fun _ => .pure id
  · exact .of .unexpected

theorem finds_binding_element : cue.Finds (bindingElement g) fun value => [.pattern value] :=
  .look looks_start_offset fun _ => .bind finds.bindingTarget.goes fun _ => .bind (.acceptPunct (by decide)) fun _ => .ite
    (.bind finds.assignment.goes.allowingIn fun _ => .node fun _ => rfl) (.pure id)

theorem finds_rest_element : cue.Finds (restElement g) fun value => [.pattern value] :=
  .look looks_start_offset fun _ => .bind (.expectPunct (by decide)) fun _ => .bind finds.bindingTarget.goes fun _ =>
    .node fun _ => rfl

theorem finds_binding_or_rest : cue.Finds (bindingOrRest g) fun value => [.pattern value] :=
  .look (looks_check _) fun _ => .ite (finds_rest_element finds) (finds_binding_element finds)

theorem finds_pattern_prop : cue.Finds (patternProp g) PatternProp.nodes :=
  .bind (.acceptPunct (by decide)) fun _ => .ite (.bind finds.bindingTarget.goes fun _ => .pure id)
    (.look looks_start_offset fun _ => .bind (finds_property_key finds).goes fun key =>
      .bind (.acceptPunct (by decide)) fun _ => .ite (.bind (finds_binding_element finds).goes fun _ => .pure id) (by
        cases key with
        | ident name =>
            exact .bind (.node fun _ => rfl) fun _ => .bind (.acceptPunct (by decide)) fun _ => .ite
              (.bind finds.assignment.goes.allowingIn fun _ => .bind (.node fun _ => rfl) fun _ => .pure id) (.pure id)
        | _ => exact .unexpected))

theorem finds_object_pattern : cue.Finds (objectPattern g) Pattern.nodes :=
  .bind (.expectPunct (by decide)) fun _ => .bind (finds_comma_list (finds_pattern_prop finds)).goes fun _ =>
    .bind (.expectPunct (by decide)) fun _ => .pure id

theorem finds_array_pattern : cue.Finds (arrayPattern g) Pattern.nodes :=
  .bind (.expectPunct (by decide)) fun _ => .bind (finds_holed_list (finds_binding_or_rest finds)).goes fun _ =>
    .bind (.expectPunct (by decide)) fun _ => .pure id

theorem finds_binding_pattern : cue.Finds (bindingPattern g) Pattern.nodes := .peek fun token => by
  split
  · exact .of (.bind tells_identifier fun _ => .pure id)
  · exact .of (finds_object_pattern finds)
  · exact .of (finds_array_pattern finds)
  · exact .of .unexpected

theorem finds_binding_target_body : cue.Finds (bindingTargetBody g) fun value => [.pattern value] :=
  .look looks_start_offset fun _ => .bind (finds_binding_pattern finds) fun _ => .node fun _ => rfl

theorem finds_formal_params : cue.Finds (formalParams g) fun params => params.map .pattern :=
  .bind (.expectPunct (by decide)) fun _ => .bind (finds_comma_list_map (finds_binding_or_rest finds)).goes fun _ =>
    .bind (.expectPunct (by decide)) fun _ => .pure id

theorem finds_declarator : cue.Finds (declarator g) Declarator.nodes :=
  .bind finds.bindingTarget.goes fun _ => .bind (.acceptPunct (by decide)) fun _ => .ite
    (.bind finds.assignment.goes fun _ => .pure id) (.pure id)

theorem finds_var_declarations (kind : VarKind) : cue.Finds (varDeclarations g kind) VarDecl.nodes := by
  have declarators : cue.Finds (repeatRounds (declaratorRound g) []) fun items => items.flatMap Declarator.nodes := by
    refine .repeat (fun items => cue.Among (items.reverse.flatMap Declarator.nodes)) (fun items => ?_) []
    exact .bind (finds_declarator finds).goes fun _ => .bind (.acceptPunct (by decide)) fun _ =>
      .ite (.pure (by simp [Round.told])) (.pure (by simp [Round.told]))
  exact .bind declarators fun _ => .pure id

theorem finds_function_tail (isAsync isGenerator : Bool) :
    cue.Finds (functionTail g isAsync isGenerator) fun parts => parts.1.map .pattern ++ parts.2.map .statement :=
  .inFunction (.bind (finds_formal_params finds) fun _ => .bind finds.block.goes fun _ => .pure id)

theorem finds_function_from (isAsync requireName : Bool) : cue.Finds (functionFrom g isAsync requireName) Function.nodes :=
  .bind .expectKeyword fun _ => .bind (.acceptPunct (by decide)) fun _ => .bind (tells_declared_name _ _) fun _ =>
    .bind (finds_function_tail finds _ _) fun _ => .pure id

theorem finds_method_function (modifiers : MethodModifiers) : cue.Finds (methodFunction g modifiers) Function.nodes :=
  .bind (finds_function_tail finds _ _) fun _ => .pure id

theorem finds_keyed_member (isStatic : Bool) : cue.Finds (keyedMember g isStatic) ClassMember.nodes :=
  .bind tells_method_modifiers fun _ => .bind (finds_property_key finds) fun _ => .look (looks_check _) fun _ => .ite
    (.bind (finds_method_function finds _).goes fun _ => .pure id)
    (.bind (.acceptPunct (by decide)) fun _ => .ite
      (.bind finds.assignment.goes.inFunction fun _ => .pass (.bind tells_consume_semicolon fun _ => .pure id))
      (.pass (.bind tells_consume_semicolon fun _ => .pure fun among => by
        simpa [ClassMember.nodes, optionalNodes] using among)))

theorem finds_class_member : cue.Finds (classMember g) fun value => [.member value] :=
  .look looks_start_offset fun _ => .check fun token => .look looks_next_ends_member fun _ => by
    split
    · next here =>
        have kind : token.kind = .identifier "static" := by simp_all
        exact .bind (.advance (by simp [kind])) fun _ => .look (looks_check _) fun _ => .ite
          (.bind finds.block.inFunction fun _ => .node fun _ => rfl)
          (.bind (finds_keyed_member finds true) fun _ => .node fun _ => rfl)
    · exact .of (.bind (finds_keyed_member finds false) fun _ => .node fun _ => rfl)

theorem finds_class_from {heritage : Parser (Spanned Expr)} (ancestor : cue.Finds heritage fun value => [.expr value])
    (requireName : Bool) :
    cue.Finds (classFrom g heritage requireName) fun decl => optionalNodes .expr decl.heritage ++ decl.nodes := by
  have body : ∀ (name : Option String) (parent : Option (Spanned Expr)), cue.Tells (cue.Among (optionalNodes .expr parent)) (do
      let brace ← expectPunct .lBrace
      let members ← repeatRounds (classMemberRound g brace.span) []
      return (⟨name, parent, members⟩ : Class)) fun decl => cue.Among (optionalNodes .expr decl.heritage ++ decl.nodes) := by
    intro name parent
    have members : ∀ brace, cue.Finds (repeatRounds (classMemberRound g brace) []) fun members => members.map .member := by
      intro brace
      have more : ∀ members : List (Spanned ClassMember), cue.Tells (cue.Among (members.reverse.map .member)) (do
          if ← acceptPunct .semi then return .again members
          return .again ((← classMember g) :: members) :
            Parser (Round (List (Spanned ClassMember)) (List (Spanned ClassMember))))
          (Round.told (fun members => cue.Among (members.reverse.map .member)) fun members => cue.Among (members.map .member)) :=
        fun members => .bind (.acceptPunct (by decide)) fun _ => .ite (.pure id)
          (.bind (finds_class_member finds).goes fun _ => .pure (by simp [Round.told]))
      refine .repeat (fun members => cue.Among (members.reverse.map .member)) (fun members => ?_) []
      exact .bind (.acceptPunct (by decide)) fun _ => .ite (.pure id) (.look looks_at_end fun _ => .ite
        (.bind .fail fun _ => more members) (more members))
    exact .bind (.expectPunct (by decide)) fun brace => .bind (members brace.span).goes fun _ => .pure id
  exact .bind .expectKeyword fun _ => .bind (tells_declared_name _ _) fun name => .bind .acceptKeyword fun _ => .ite
    (.bind ancestor fun parent => .pass (body name (some parent))) (.pass (body name none))

theorem finds_expression : cue.Finds (expression g) fun value => [.expr value] := by
  have items : ∀ first : Spanned Expr, cue.Tells (cue.Among [.expr first]) (repeatRounds (sequenceRound g) [first])
      fun items => cue.Among (items.map .expr) := by
    intro first
    refine .repeat (fun items => cue.Among (items.reverse.map .expr)) (fun items => ?_) [first]
    exact .bind (.acceptPunct (by decide)) fun _ => .ite
      (.bind finds.assignment.goes fun _ => .pure (by simp [Round.told])) (.pure id)
  exact .bind finds.assignment fun first => .look (looks_check _) fun _ => .ite
    (.bind (items first) fun _ => .node fun _ => rfl) (.pure id)

theorem finds_arrow_params (isAsync : Bool) : cue.Finds (arrowParams g isAsync) fun params => params.map .pattern :=
  .peek fun token => by
    split
    · exact .of (.look looks_start_offset fun _ => .bind tells_identifier fun _ => .bind (.node fun _ => rfl) fun _ => .pure id)
    · exact .of (finds_formal_params finds).inFunction

theorem finds_arrow_body (isAsync : Bool) : cue.Finds (arrowBody g isAsync) ArrowBody.nodes :=
  .look (looks_check _) fun _ => .ite (.bind finds.block.inFunction fun _ => .pure id)
    (.bind finds.assignment.inFunction fun _ => .pure id)

theorem finds_arrow_function : cue.Finds (arrowFunction g) fun value => [.expr value] :=
  .look looks_start_offset fun start => .check fun token => .look (looks_peek_at 1) fun next => by
    have parts : ∀ isAsync, cue.Finds (do
        let params ← arrowParams g isAsync
        let _ ← expectPunct .arrow
        let body ← arrowBody g isAsync
        spannedFrom start (Expr.arrow params body isAsync)) fun value => [.expr value] :=
      fun _ => .bind (finds_arrow_params finds _) fun _ => .bind (.expectPunct (by decide)) fun _ =>
        .bind (finds_arrow_body finds _).goes fun _ => .node fun _ => rfl
    dsimp only
    split
    · next here =>
        have kind : token.kind = .identifier "async" := by simp_all
        exact .bind (.advance (by simp [kind])) fun _ => parts _
    · exact .of (parts _)

theorem finds_binary_from (minPrecedence : Nat) : cue.Finds (binaryFrom g minPrecedence) fun value => [.expr value] :=
  .look looks_start_offset fun start => .bind finds.unary fun left =>
    .repeat (fun left => cue.Among [.expr left]) (fun left => .look looks_context fun context => .peek fun token => by
      split
      · next op precedence found =>
          exact .ite (.of (.pure id)) (.bind (.advance (operator_kind rfl found)) fun _ => .bind (finds.binary _).goes fun _ =>
            .bind (.node fun _ => rfl) fun _ => .pure id)
      · exact .of (.pure id)) left

theorem finds_conditional : cue.Finds (conditional g) fun value => [.expr value] :=
  .look looks_start_offset fun _ => .bind (finds_binary_from finds 1) fun _ => .bind (.acceptPunct (by decide)) fun _ => .ite
    (.bind finds.assignment.goes.allowingIn fun _ => .bind (.expectPunct (by decide)) fun _ =>
      .bind finds.assignment.goes fun _ => .node fun _ => rfl)
    (.pure id)

theorem finds_assignment_tail : cue.Finds (assignmentTail g) fun value => [.expr value] :=
  .look looks_start_offset fun _ => .bind (finds_conditional finds) fun _ => .peek fun token => by
    split
    · next op found =>
        exact .bind (.advance (operator_kind rfl found)) fun _ => .bind finds.assignment.goes fun _ => .node fun _ => rfl
    · exact .of (.pure id)

theorem finds_yield_expression (token : Token) (word : token.kind = .identifier "yield") :
    cue.TellsAt token (cue.Among []) (yieldExpression g) fun value => cue.Among [.expr value] :=
  .look looks_start_offset fun _ => .bind (.advance (by simp [word])) fun _ => .bind tells_yield_delegate fun _ =>
    .look (looks_peek_at 0) fun _ => .ite (.bind finds.assignment fun _ => .node fun _ => rfl) (.node fun _ => rfl)

theorem finds_assignment_body : cue.Finds (assignmentBody g) fun value => [.expr value] :=
  .look looks_is_arrow_ahead fun _ => .ite (finds_arrow_function finds) (.look looks_context fun context => .check fun token => by
    split
    · next here => exact finds_yield_expression finds token (by simp_all)
    · exact .of (finds_assignment_tail finds))

theorem finds_computed_property : cue.Finds (computedProperty g) fun value => [.expr value] :=
  .bind (.expectPunct (by decide)) fun _ => .bind (finds_expression finds).allowingIn fun _ =>
    .bind (.expectPunct (by decide)) fun _ => .pure id

theorem finds_spread_or_assignment : cue.Finds (spreadOrAssignment g) fun value => [.expr value] :=
  .look looks_start_offset fun _ => .bind (.acceptPunct (by decide)) fun _ => .ite
    (.bind finds.assignment fun _ => .node fun _ => rfl) finds.assignment

theorem finds_arguments : cue.Finds (arguments g) fun args => args.map .expr :=
  .bind (.expectPunct (by decide)) fun _ => .allowingIn
    (.bind (finds_comma_list_map (finds_spread_or_assignment finds)) fun _ => .bind (.expectPunct (by decide)) fun _ => .pure id)

theorem finds_array_literal : cue.Finds (arrayLiteral g) fun items => items.flatMap (optionalNodes .expr) :=
  .bind (.expectPunct (by decide)) fun _ => .allowingIn
    (.bind (finds_holed_list (finds_spread_or_assignment finds)) fun _ => .bind (.expectPunct (by decide)) fun _ => .pure id)

theorem tells_property :
    cue.Tells (cue.Among []) (property g) fun value => cue.Among value.nodes ∨ ∃ name, value = .shorthand name := by
  have short : ∀ (known : Prop) name, cue.Tells known (shorthandProperty g name) fun value =>
      cue.Among value.nodes ∨ ∃ name, value = .shorthand name :=
    fun _ name => .bind (.acceptPunct (by decide)) fun _ => .ite
      (.bind finds.assignment.beside fun _ => .pure fun _ => .inr ⟨name, rfl⟩) (.pure fun _ => .inr ⟨name, rfl⟩)
  have keyed : cue.Tells (cue.Among []) (keyedProperty g) fun value => cue.Among value.nodes ∨ ∃ name, value = .shorthand name :=
    .bind tells_method_modifiers fun _ => .look (looks_peek_at 0) fun _ => .bind (finds_property_key finds) fun _ =>
      .look (looks_check _) fun _ => .ite (.bind (finds_method_function finds _).goes fun _ => .pure .inl)
        (.bind (.acceptPunct (by decide)) fun _ => .ite (.bind finds.assignment.goes fun _ => .pure .inl) (by
          split
          · exact short _ _
          · exact .unexpected))
  exact .bind (.acceptPunct (by decide)) fun _ => .ite (.bind finds.assignment fun _ => .pure .inl) keyed

theorem tells_object_literal :
    cue.Tells (cue.Among []) (objectLiteral g) fun props => cue.Around Node.expr (.object props) :=
  .bind (.expectPunct (by decide)) fun _ => .allowingIn (.bind (tells_comma_list (tells_property finds)) fun props =>
    .bind (.expectPunct (by decide)) fun _ => .pure (by
      rintro ⟨prop, inside, among | ⟨name, rfl⟩⟩ span
      · exact among_child (among_flat_map.mpr ⟨prop, inside, among⟩)
      · exact .drops inside))

theorem tells_import_expression (keyword : Token) :
    cue.Tells (cue.Among []) (importExpression g keyword) fun value => cue.Around Node.expr value :=
  .bind (.acceptPunct (by decide)) fun _ => .ite (.bind tells_identifier fun _ => .closing fun _ => rfl)
    (.bind (finds_arguments finds) fun _ => .pure fun among _ => among_child (among_mono (List.subset_cons_self _ _) among))

theorem tells_parenthesized : cue.Tells (cue.Among []) (parenthesized g) fun value => cue.Around Node.expr value :=
  .bind (finds_expression finds).allowingIn fun _ => .bind (.expectPunct (by decide)) fun _ => .closing fun _ => rfl

omit finds in
theorem tells_consuming (token : Token) (value : Expr) (other : token.kind ≠ .punct .at) :
    cue.TellsAt token (cue.Among []) (consuming value) fun value => cue.Around Node.expr value :=
  .bind (.advance other) fun _ => .pure fun among => absurd among not_among_nothing

theorem tells_name_or_async_function (token : Token) (name : String) (kind : token.kind = .identifier name) :
    cue.TellsAt token (cue.Among []) (nameOrAsyncFunction g name) fun value => cue.Around Node.expr value :=
  .look looks_async_function_ahead fun _ => .ite
    (.bind (.advance (by simp [kind])) fun _ => .bind (finds_function_from finds true false) fun _ => .closing fun _ => rfl)
    (.bind (.advance (by simp [kind])) fun _ => .closing fun _ => rfl)

theorem tells_primary_expr {heritage : Parser (Spanned Expr)} (ancestor : cue.Finds heritage fun value => [.expr value])
    (token : Token) :
    cue.TellsAt token (cue.Among []) (primaryExpr g heritage token) fun value => cue.Around Node.expr value := by
  unfold primaryExpr
  split
  · next name kind => exact tells_name_or_async_function finds token name kind
  · next kind => exact tells_consuming token _ (by simp [kind])
  · next kind => exact tells_consuming token _ (by simp [kind])
  · next kind => exact tells_consuming token _ (by simp [kind])
  · next kind => exact tells_consuming token _ (by simp [kind])
  · next kind =>
      exact .bind (.advance (by simp [kind])) fun _ => .bind (tells_template g _) fun _ =>
        .pure fun among => absurd among not_among_nothing
  · next kind => exact tells_consuming token _ (by simp [kind])
  · next kind => exact tells_consuming token _ (by simp [kind])
  · next kind => exact tells_consuming token _ (by simp [kind])
  · next kind => exact tells_consuming token _ (by simp [kind])
  · next kind => exact tells_consuming token _ (by simp [kind])
  · exact .of (.bind (finds_function_from finds false false) fun _ => .closing fun _ => rfl)
  · exact .of (.bind (finds_class_from finds ancestor false) fun _ => .closing fun _ => rfl)
  · next kind => exact .bind (.advance (by simp [kind])) fun keyword => tells_import_expression finds keyword
  · next kind => exact .bind (.advance (by simp [kind])) fun _ => tells_parenthesized finds
  · exact .of (.bind (finds_array_literal finds) fun _ => .closing fun _ => rfl)
  · exact .of (.bind (tells_object_literal finds) fun _ => .pure id)
  · exact .of .unexpected

theorem finds_primary {heritage : Parser (Spanned Expr)} (ancestor : cue.Finds heritage fun value => [.expr value]) :
    cue.Finds (primary g heritage) fun value => [.expr value] :=
  .peek fun token => .bind (tells_primary_expr finds ancestor token) fun _ => .around

theorem finds_member_only {heritage : Parser (Spanned Expr)} (ancestor : cue.Finds heritage fun value => [.expr value]) :
    cue.Finds (memberOnly g heritage) fun value => [.expr value] :=
  .look looks_start_offset fun _ => .bind (finds_primary finds ancestor) fun object =>
    .repeat (fun object => cue.Among [.expr object]) (fun _ => .bind (.acceptPunct (by decide)) fun _ => .ite
      (.bind tells_identifier_name fun _ => .bind (.node fun _ => rfl) fun _ => .pure id)
      (.look (looks_check _) fun _ => .ite
        (.bind (finds_computed_property finds).goes fun _ => .bind (.node fun _ => rfl) fun _ => .pure id) (.pure id))) object

theorem finds_new_from {heritage : Parser (Spanned Expr)} (ancestor : cue.Finds heritage fun value => [.expr value]) :
    cue.Finds (newFrom g heritage) fun value => [.expr value] := by
  have called : ∀ (start : Nat) (callee : Spanned Expr), cue.Tells (cue.Among [.expr callee]) (do
      let args ← if ← checkPunct .lParen then arguments g else pure []
      spannedFrom start (Expr.new callee args)) fun value => cue.Among [.expr value] :=
    fun _ _ => .look (looks_check _) fun _ => .ite (.bind (finds_arguments finds).goes fun _ => .node fun _ => rfl)
      (.pass (.node fun _ => rfl))
  exact .look looks_start_offset fun start => .bind .expectKeyword fun _ => .bind (.acceptPunct (by decide)) fun _ => .ite
    (.bind tells_identifier fun _ => .node fun _ => rfl)
    (.look (looks_check _) fun _ => .ite (.bind finds.newExpression fun callee => called start callee)
      (.bind (finds_member_only finds ancestor) fun callee => called start callee))

theorem tells_optional_link (object : Spanned Expr) :
    cue.Tells (cue.Among [.expr object]) (optionalLink g object) fun value => cue.Around Node.expr value :=
  .look (looks_check _) fun _ => .ite (.bind (finds_arguments finds).goes fun _ => .closing fun _ => rfl)
    (.look (looks_check _) fun _ => .ite (.bind (finds_computed_property finds).goes fun _ => .closing fun _ => rfl)
      (.bind tells_identifier_name fun _ => .closing fun _ => rfl))

theorem tells_chain_link (object : Spanned Expr) :
    cue.Tells (cue.Among [.expr object]) (chainLink g object) fun link =>
      (link.map fun value => cue.Around Node.expr value).getD (cue.Among [.expr object]) := .peek fun token => by
  split
  · next kind =>
      exact .bind (.advance (by simp [kind])) fun _ => .bind tells_identifier_name fun _ => .pure (around_of fun _ => rfl)
  · next kind => exact .bind (.advance (by simp [kind])) fun _ => .bind (tells_optional_link finds object) fun _ => .pure id
  · exact .of (.bind (finds_computed_property finds).goes fun _ => .pure (around_of fun _ => rfl))
  · exact .of (.bind (finds_arguments finds).goes fun _ => .pure (around_of fun _ => rfl))
  · next kind =>
      exact .bind (.advance (by simp [kind])) fun _ => .bind (tells_template g _) fun _ =>
        .pure fun among _ => among_child (among_mono (List.subset_append_left _ _) among)
  · exact .of (.pure id)

theorem finds_call_member_with {heritage : Parser (Spanned Expr)} (ancestor : cue.Finds heritage fun value => [.expr value]) :
    cue.Finds (callMemberWith g heritage) fun value => [.expr value] := by
  have chain : ∀ (start : Nat) (head : Spanned Expr),
      cue.Tells (cue.Among [.expr head]) (repeatRounds (chainRound g start) head) fun value => cue.Among [.expr value] := by
    refine fun start => .repeat (fun object => cue.Among [.expr object]) fun object => ?_
    refine .bind (tells_chain_link finds object) fun link => ?_
    cases link with
    | none => exact .pure id
    | some node => exact .bind .around fun _ => .pure id
  exact .look looks_start_offset fun start => .look (looks_check _) fun _ => .ite
    (.bind (finds_new_from finds ancestor) fun head => chain start head)
    (.bind (finds_primary finds ancestor) fun head => chain start head)

theorem finds_call_member : cue.Finds (callMember g) fun value => [.expr value] := by
  have deeper : ∀ fuel, cue.Finds (callMemberFrom g fuel) fun value => [.expr value] := by
    intro fuel
    induction fuel with
    | nil => exact .unexpected
    | cons token fuel ih => exact finds_call_member_with finds ih
  exact .look looks_upcoming deeper

theorem finds_unary_body : cue.Finds (unaryBody g) fun value => [.expr value] := by
  have updated : ∀ start, cue.Finds (postfixUpdate g start) fun value => [.expr value] :=
    fun start => .bind (finds_call_member finds) fun _ => .peek fun token => by
      split
      · next op found =>
          exact .ite (.of (.pure id)) (.bind (.advance (operator_kind rfl found)) fun _ => .node fun _ => rfl)
      · exact .of (.pure id)
  exact .look looks_start_offset fun start => .peek fun token => by
    dsimp only
    split
    · next op found =>
        exact .bind (.advance (operator_kind rfl found)) fun _ => .bind finds.unary fun _ => .node fun _ => rfl
    · next op none found => exact .bind (.advance (operator_kind rfl found)) fun _ => .bind finds.unary fun _ => .node fun _ => rfl
    · rw [await_ahead_bind]
      refine .of (.check fun token => ?_)
      split
      · next here =>
          have kind : token.kind = .identifier "await" := by simpa using here
          exact .look looks_context fun _ => .look (looks_peek_at 1) fun _ => .ite
            (.bind (.advance (by simp [kind])) fun _ => .bind finds.unary fun _ => .node fun _ => rfl) (.of (updated start))
      · exact .of (updated start)

theorem finds_exported_default : cue.Finds (exportedDefault g) fun value => [.expr value] := by
  have functions : ∀ start : Nat, cue.Finds (do
      let isAsync ← acceptWord "async"
      let function ← functionFrom g isAsync false
      spannedFrom start (Expr.function function)) fun value => [.expr value] :=
    fun _ => .bind .acceptWord fun _ => .bind (finds_function_from finds _ _) fun _ => .node fun _ => rfl
  exact .look looks_start_offset fun start => .look (looks_check _) fun _ => .look (looks_check _) fun _ =>
    .look looks_async_function_ahead fun _ => .ite (functions start) (.look (looks_check _) fun _ => .ite
      (.bind (finds_class_from finds (finds_call_member finds) false) fun _ => .node fun _ => rfl)
      (.bind finds.assignment.allowingIn fun _ => .bind tells_consume_semicolon fun _ => .pure id))

theorem tells_export_declaration :
    cue.Tells (cue.Among []) (exportDeclaration g) fun value => cue.Around Node.statement value :=
  .bind .expectKeyword fun _ => .bind .acceptKeyword fun _ => .ite
    (.bind (finds_exported_default finds) fun _ => .closing fun _ => rfl)
    (.bind (.acceptPunct (by decide)) fun _ => .ite tells_exported_all (.bind (.acceptPunct (by decide)) fun _ => .ite
      tells_exported_names (.look looks_declaration_ahead fun _ => .ite
        (.bind finds.statement fun _ => .closing fun _ => rfl) .unexpected)))

theorem tells_var_statement (token : Token) (other : token.kind ≠ .punct .at) (kind : VarKind) :
    cue.TellsAt token (cue.Among []) (varStatement g kind) fun value => cue.Around Node.statement value :=
  .bind (.advance other) fun _ => .bind (finds_var_declarations finds kind) fun _ =>
    .bind tells_consume_semicolon fun _ => .closing fun _ => rfl

theorem finds_paren_expression : cue.Finds (parenExpression g) fun value => [.expr value] :=
  .bind (.expectPunct (by decide)) fun _ => .bind (finds_expression finds).allowingIn fun _ =>
    .bind (.expectPunct (by decide)) fun _ => .pure id

theorem tells_if_statement : cue.Tells (cue.Among []) (ifStatement g) fun value => cue.Around Node.statement value :=
  .bind .expectKeyword fun _ => .bind (finds_paren_expression finds) fun _ => .bind finds.statement.goes fun _ =>
    .bind .acceptKeyword fun _ => .ite (.bind finds.statement.goes fun _ => .closing fun _ => rfl) (.closing fun _ => rfl)

theorem tells_while_statement (token : Token) (other : token.kind ≠ .punct .at) :
    cue.TellsAt token (cue.Among []) (whileStatement g) fun value => cue.Around Node.statement value :=
  .bind (.advance other) fun _ => .bind (finds_paren_expression finds) fun _ => .bind finds.statement.goes fun _ =>
    .closing fun _ => rfl

theorem tells_do_statement (token : Token) (other : token.kind ≠ .punct .at) :
    cue.TellsAt token (cue.Among []) (doStatement g) fun value => cue.Around Node.statement value :=
  .bind (.advance other) fun _ => .bind finds.statement fun _ => .bind .expectKeyword fun _ =>
    .bind (finds_paren_expression finds).goes fun _ => .bind (.acceptPunct (by decide)) fun _ => .closing fun _ => rfl

theorem tells_with_statement (token : Token) (other : token.kind ≠ .punct .at) :
    cue.TellsAt token (cue.Among []) (withStatement g) fun value => cue.Around Node.statement value :=
  .bind (.advance other) fun _ => .bind (finds_paren_expression finds) fun _ => .bind finds.statement.goes fun _ =>
    .closing fun _ => rfl

theorem tells_return_statement (token : Token) (other : token.kind ≠ .punct .at) :
    cue.TellsAt token (cue.Among []) (returnStatement g) fun value => cue.Around Node.statement value :=
  .bind (.advance other) fun _ => .look (looks_peek_at 0) fun _ => .ite
    (.bind tells_consume_semicolon fun _ => .closing fun _ => rfl)
    (.bind (finds_expression finds) fun _ => .bind tells_consume_semicolon fun _ => .closing fun _ => rfl)

theorem tells_throw_statement (token : Token) (other : token.kind ≠ .punct .at) :
    cue.TellsAt token (cue.Among []) (throwStatement g) fun value => cue.Around Node.statement value := by
  have thrown : cue.Tells (cue.Among []) (do
      let value ← expression g
      consumeSemicolon
      return Statement.throws value) fun value => cue.Around Node.statement value :=
    .bind (finds_expression finds) fun _ => .bind tells_consume_semicolon fun _ => .closing fun _ => rfl
  exact .bind (.advance other) fun _ => .look (looks_peek_at 0) fun _ => .ite (.bind .fail fun _ => thrown) thrown

theorem finds_catch_clause : cue.Finds (catchClause g) fun clause => (clause.map CatchClause.nodes).getD [] := by
  have param : cue.Finds (catchParam g) (optionalNodes .pattern) :=
    .bind (.acceptPunct (by decide)) fun _ => .ite
      (.bind finds.bindingTarget fun _ => .bind (.expectPunct (by decide)) fun _ => .pure id) (.pure id)
  exact .bind .acceptKeyword fun _ => .ite (.bind param fun _ => .bind finds.block.goes fun _ => .pure id) (.pure id)

theorem finds_finally_clause :
    cue.Finds (finallyClause g) fun clause => (clause.map fun body => body.map Node.statement).getD [] :=
  .bind .acceptKeyword fun _ => .ite (.bind finds.block fun _ => .pure id) (.pure id)

theorem tells_try_statement : cue.Tells (cue.Among []) (tryStatement g) fun value => cue.Around Node.statement value :=
  .bind .expectKeyword fun _ => .bind finds.block fun _ => .bind (finds_catch_clause finds).goes fun _ =>
    .bind (finds_finally_clause finds).goes fun _ => .ite (.bind .fail fun _ => .closing fun _ => rfl) (.closing fun _ => rfl)

theorem finds_case_body : cue.Finds (repeatRounds (caseBodyRound g) []) fun body => body.map .statement := by
  have more : ∀ body : Body, cue.Tells (cue.Among (body.reverse.map .statement)) (do
      return .again ((← g.statement) :: body) : Parser (Round Body Body))
      (Round.told (fun body => cue.Among (body.reverse.map .statement)) fun body => cue.Among (body.map .statement)) :=
    fun _ => .bind finds.statement.goes fun _ => .pure (by simp [Round.told])
  refine .repeat (fun body => cue.Among (body.reverse.map .statement)) (fun body => ?_) []
  exact .look (looks_check _) fun _ => .look (looks_check _) fun _ => .look (looks_check _) fun _ => .ite (.pure id)
    (.look looks_at_end fun _ => .ite (.bind .unexpected fun _ => more body) (more body))

theorem finds_switch_case : cue.Finds (switchCase g) SwitchCase.nodes := by
  have test : cue.Finds (caseTest g) (optionalNodes .expr) :=
    .bind .acceptKeyword fun _ => .ite (.bind (finds_expression finds).allowingIn fun _ => .pure id)
      (.bind (.expect TokenKind.noConfusion) fun _ => .pure id)
  exact .bind test fun _ => .bind (.expectPunct (by decide)) fun _ => .bind (finds_case_body finds).goes fun _ => .pure id

theorem tells_switch_statement : cue.Tells (cue.Among []) (switchStatement g) fun value => cue.Around Node.statement value := by
  have cases : cue.Finds (repeatRounds (switchRound g) []) fun cases => cases.flatMap SwitchCase.nodes := by
    refine .repeat (fun cases => cue.Among (cases.reverse.flatMap SwitchCase.nodes)) (fun cases => ?_) []
    exact .bind (.acceptPunct (by decide)) fun _ => .ite (.pure id)
      (.bind (finds_switch_case finds).goes fun _ => .pure (by simp [Round.told]))
  exact .bind .expectKeyword fun _ => .bind (finds_paren_expression finds) fun _ => .bind (.expectPunct (by decide)) fun _ =>
    .bind cases.goes fun _ => .closing fun _ => rfl

theorem finds_for_init : cue.Finds (forInit g) ForInit.nodes := by
  have declared : ∀ kind, cue.Finds (do return .var (← varDeclarations g kind)) ForInit.nodes :=
    fun kind => .bind (finds_var_declarations finds kind) fun _ => .pure id
  exact .bind .acceptKeyword fun _ => .ite (declared _) (.bind .acceptKeyword fun _ => .ite (declared _)
    (.check fun token => .look looks_let_declares fun _ => by
      split
      · next here =>
          have kind : token.kind = .identifier "let" := by simp_all
          exact .bind (.advance (by simp [kind])) fun _ => declared _
      · exact .of (.bind (finds_expression finds) fun _ => .pure id)))

theorem tells_for_tail (init : Option ForInit) :
    cue.Tells (cue.Among ((init.map ForInit.nodes).getD [])) (forTail g init) fun value => cue.Around Node.statement value := by
  have optional : ∀ close, cue.Finds (optionalExpression g close) (optionalNodes .expr) :=
    fun close => .look (looks_check _) fun _ => .ite (.pure id) (.bind (finds_expression finds).allowingIn fun _ => .pure id)
  exact .bind (.expectPunct (by decide)) fun _ => .bind (optional _).goes fun _ => .bind (.expectPunct (by decide)) fun _ =>
    .bind (optional _).goes fun _ => .bind (.expectPunct (by decide)) fun _ => .bind finds.statement.goes fun _ =>
      .closing fun _ => rfl

theorem tells_for_each_tail (token : Token) (other : token.kind ≠ .punct .at) (left : ForInit) (ofKeys : Bool) :
    cue.TellsAt token (cue.Among left.nodes) (forEachTail g left ofKeys) fun value => cue.Around Node.statement value := by
  have tail : ∀ right, cue.Tells (cue.Among (left.nodes ++ [.expr right])) (do
      let _ ← expectPunct .rParen
      return Statement.forEach left ofKeys right (← g.statement)) fun value => cue.Around Node.statement value :=
    fun _ => .bind (.expectPunct (by decide)) fun _ => .bind finds.statement.goes fun _ => .closing fun _ => rfl
  exact .bind (.advance other) fun _ => .ite (.bind (finds_expression finds).goes.allowingIn fun right => tail right)
    (.bind finds.assignment.goes.allowingIn fun right => tail right)

theorem tells_for_statement : cue.Tells (cue.Among []) (forStatement g) fun value => cue.Around Node.statement value :=
  .bind .expectKeyword fun _ => .bind .acceptWord fun _ => .bind (.expectPunct (by decide)) fun _ => .look (looks_check _) fun _ =>
    .ite (tells_for_tail finds none) (.bind (finds_for_init finds).within fun init => .check fun token => by
      split
      · next here => exact tells_for_each_tail finds token (by simp_all) init false
      · refine .of (.check fun token => ?_)
        split
        · next here => exact tells_for_each_tail finds token (by simp_all) init true
        · exact .of (tells_for_tail finds (some init)))

theorem tells_expression_statement :
    cue.Tells (cue.Among []) (expressionStatement g) fun value => cue.Around Node.statement value :=
  .bind (finds_expression finds) fun _ => .bind tells_consume_semicolon fun _ => .closing fun _ => rfl

-- The second token that is read is the colon, as the caller has seen.
theorem tells_labeled_statement {label : String} {context : Context} {state after : State} {value : Statement}
    (named : state.peek.kind = .identifier label) (labels : (state.peekAt 1).kind = .punct .colon)
    (told : cue.Told (cue.Among []) state) (success : labeledStatement g label context state = .ok value after) :
    cue.Told (cue.Around Node.statement value) after := by
  have atColon : state.advance.peek = state.peekAt 1 := advance_peek state (by simp [named]) (by simp [labels])
  have statement : cue.Tells (cue.Among []) (do return Statement.labeled label (← g.statement)) fun value =>
      cue.Around Node.statement value :=
    .bind finds.statement fun _ => .closing fun _ => rfl
  have behind := (told.advance (by simp [named])).advance (by simp [atColon, labels])
  exact statement context state.advance.advance value after behind success

theorem tells_named_statement (token : Token) (name : String) (kind : token.kind = .identifier name) :
    cue.TellsAt token (cue.Among []) (namedStatement g name) fun value => cue.Around Node.statement value := by
  refine .look looks_let_declares fun _ => .ite (tells_var_statement finds token (by simp [kind]) _)
    (.look looks_async_function_ahead fun _ => .ite (.bind (.advance (by simp [kind])) fun _ =>
      .bind (finds_function_from finds true true) fun _ => .closing fun _ => rfl) ?_)
  intro context state value after same told success
  rw [bind_run] at success
  dsimp only [peekAt] at success
  split at success
  · next labels => exact tells_labeled_statement finds (by rw [same, kind]) (by simpa using labels) told success
  · exact tells_expression_statement finds context state value after told success

theorem tells_plain_statement (token : Token) :
    cue.TellsAt token (cue.Among []) (plainStatement g token.kind) fun value => cue.Around Node.statement value := by
  unfold plainStatement
  split
  · next kind => exact .bind (.advance (by simp [kind])) fun _ => .closing fun _ => rfl
  · next name kind => exact tells_named_statement finds token name kind
  · next kind => exact tells_var_statement finds token (by simp [kind]) _
  · next kind => exact tells_var_statement finds token (by simp [kind]) _
  · exact .of (.bind (finds_function_from finds _ _) fun _ => .closing fun _ => rfl)
  · exact .of (.bind (finds_class_from finds (finds_call_member finds) true) fun _ => .closing fun _ => rfl)
  · exact .of (tells_if_statement finds)
  · exact .of (tells_for_statement finds)
  · next kind => exact tells_while_statement finds token (by simp [kind])
  · next kind => exact tells_do_statement finds token (by simp [kind])
  · next kind => exact tells_with_statement finds token (by simp [kind])
  · next kind => exact tells_return_statement finds token (by simp [kind])
  · next kind => exact tells_throw_statement finds token (by simp [kind])
  · exact .of (tells_try_statement finds)
  · exact .of (tells_switch_statement finds)
  · next kind => exact .bind (.advance (by simp [kind])) fun _ => .bind tells_jump_label fun _ => .closing fun _ => rfl
  · next kind => exact .bind (.advance (by simp [kind])) fun _ => .bind tells_jump_label fun _ => .closing fun _ => rfl
  · next kind => exact .bind (.advance (by simp [kind])) fun _ => .bind tells_consume_semicolon fun _ => .closing fun _ => rfl
  · exact .of (.look (looks_peek_at 1) fun token => by
      split
      · exact tells_expression_statement finds
      · exact tells_expression_statement finds
      · exact tells_import_declaration)
  · exact .of (tells_export_declaration finds)
  · exact .of (tells_expression_statement finds)

theorem finds_statement_body : cue.Finds (statementBody g) fun value => [.statement value] :=
  .peek fun token => .ite
    (.of (.bind finds.block fun _ => .pure fun among => among_one.mpr (among_child among)))
    (.bind (tells_plain_statement finds token) fun _ => .around)

end

end ScriptSuite.Script
