import ScriptSuite.Proofs.Script.Registers.Rules

set_option autoImplicit false

namespace ScriptSuite.Script

structure Grammar.Followed (sight : Sight) (levels : Nat) (g : Grammar) : Prop where
  statement : Follows sight levels g.statement
  block : Follows sight levels g.block
  bindingTarget : Follows sight levels g.bindingTarget
  assignment : Follows sight levels g.assignment
  binary : ∀ precedence, Follows sight levels (g.binary precedence)
  unary : Follows sight levels g.unary
  newExpression : Follows sight levels g.newExpression

section

variable {sight : Sight} {levels : Nat}

theorem follows_async_function_ahead : Follows sight levels asyncFunctionAhead :=
  .bind (follows_peek_at 1) fun _ => .pure _

theorem follows_next_ends_member : Follows sight levels nextEndsMember :=
  .bind (follows_peek_at 1) fun _ => by
    split
    · exact .pure _
    · exact .pure _

theorem follows_declared_name (required : Bool) (wanted : Expectation) :
    Follows sight levels (declaredName required wanted) :=
  .bind follows_peek fun _ => by
    split
    · exact .bind follows_identifier fun _ => .pure _
    · exact .ite (follows_unexpected _) (.pure _)

theorem follows_async_modifier : Follows sight levels asyncModifier :=
  .bind (follows_check_word _) fun _ => .bind follows_next_ends_member fun _ => .bind (follows_peek_at 1) fun _ =>
    .ite (.bind follows_advance fun _ => .pure _) (.pure _)

theorem follows_accessor_modifier : Follows sight levels accessorModifier :=
  .bind (follows_accept_word _) fun _ => .ite (.pure _) (.bind (follows_accept_word _) fun _ => .ite (.pure _) (.pure _))

theorem follows_method_modifiers : Follows sight levels methodModifiers :=
  .bind follows_async_modifier fun _ => .bind (follows_accept_punct _) fun _ => .bind follows_next_ends_member fun _ =>
    .ite (.pure _) (.bind follows_accessor_modifier fun _ => .pure _)

theorem follows_yield_delegate : Follows sight levels yieldDelegate :=
  .bind follows_peek fun _ => .ite (.pure _) (follows_accept_punct _)

theorem follows_await_ahead : Follows sight levels awaitAhead :=
  .bind (follows_check_word _) fun _ => .ite
    (.bind follows_context fun _ => .bind (follows_peek_at 1) fun _ => .pure _) (.pure _)

end

section

variable {sight : Sight} {levels : Nat} {g : Grammar} (entries : g.Followed sight levels)
include entries

theorem follows_property_key : Follows sight levels (propertyKey g) :=
  .bind follows_peek fun _ => by
    split
    · exact .bind follows_identifier_name fun _ => .pure _
    · exact .bind follows_identifier_name fun _ => .pure _
    · exact .bind follows_identifier_name fun _ => .pure _
    · exact .bind follows_advance fun _ => .pure _
    · exact .bind follows_advance fun _ => .pure _
    · exact .bind follows_advance fun _ => .pure _
    · exact .bind follows_advance fun _ => .bind entries.assignment.allowingIn fun _ =>
        .bind (follows_expect_punct _) fun _ => .pure _
    · exact follows_unexpected _

theorem follows_binding_element : Follows sight levels (bindingElement g) :=
  .bind follows_start_offset fun _ => .bind entries.bindingTarget fun _ => .bind (follows_accept_punct _) fun _ =>
    .ite (.bind entries.assignment.allowingIn fun _ => follows_spanned_from _ _) (.pure _)

theorem follows_rest_element : Follows sight levels (restElement g) :=
  .bind follows_start_offset fun _ => .bind (follows_expect_punct _) fun _ => .bind entries.bindingTarget fun _ =>
    follows_spanned_from _ _

theorem follows_binding_or_rest : Follows sight levels (bindingOrRest g) :=
  .bind (follows_check_punct _) fun _ => .ite (follows_rest_element entries) (follows_binding_element entries)

theorem follows_pattern_prop : Follows sight levels (patternProp g) :=
  .bind (follows_accept_punct _) fun _ => .ite (.bind entries.bindingTarget fun _ => .pure _)
    (.bind follows_start_offset fun _ => .bind (follows_property_key entries) fun key =>
      .bind (follows_accept_punct _) fun _ => .ite (.bind (follows_binding_element entries) fun _ => .pure _) (by
        split
        · exact .bind (follows_spanned_from _ _) fun _ => .bind (follows_accept_punct _) fun _ => .ite
            (.bind entries.assignment.allowingIn fun _ => .bind (follows_spanned_from _ _) fun _ => .pure _) (.pure _)
        · exact follows_unexpected _))

theorem follows_object_pattern : Follows sight levels (objectPattern g) :=
  .bind (follows_expect_punct _) fun _ => .bind (follows_comma_list (follows_pattern_prop entries) _) fun _ =>
    .bind (follows_expect_punct _) fun _ => .pure _

theorem follows_array_pattern : Follows sight levels (arrayPattern g) :=
  .bind (follows_expect_punct _) fun _ => .bind (follows_holed_list (follows_binding_or_rest entries) _) fun _ =>
    .bind (follows_expect_punct _) fun _ => .pure _

theorem follows_binding_pattern : Follows sight levels (bindingPattern g) :=
  .bind follows_peek fun _ => by
    split
    · exact .bind follows_identifier fun _ => .pure _
    · exact follows_object_pattern entries
    · exact follows_array_pattern entries
    · exact follows_unexpected _

theorem follows_binding_target_body : Follows sight levels (bindingTargetBody g) :=
  .bind follows_start_offset fun _ => .bind (follows_binding_pattern entries) fun _ => follows_spanned_from _ _

theorem follows_formal_params : Follows sight levels (formalParams g) :=
  .bind (follows_expect_punct _) fun _ => .bind (follows_comma_list (follows_binding_or_rest entries) _) fun _ =>
    .bind (follows_expect_punct _) fun _ => .pure _

theorem follows_declarator : Follows sight levels (declarator g) :=
  .bind entries.bindingTarget fun _ => .bind (follows_accept_punct _) fun _ =>
    .ite (.bind entries.assignment fun _ => .pure _) (.pure _)

theorem follows_declarator_round (declarators : List Declarator) : Follows sight levels (declaratorRound g declarators) :=
  .bind (follows_declarator entries) fun _ => .bind (follows_accept_punct _) fun _ => .ite (.pure _) (.pure _)

theorem follows_var_declarations (kind : VarKind) : Follows sight levels (varDeclarations g kind) :=
  .bind (follows_repeat_rounds (follows_declarator_round entries) []) fun _ => .pure _

theorem follows_function_tail (isAsync isGenerator : Bool) : Follows sight levels (functionTail g isAsync isGenerator) :=
  .inFunction (.bind (follows_formal_params entries) fun _ => .bind entries.block fun _ => .pure _)

theorem follows_function_from (isAsync requireName : Bool) : Follows sight levels (functionFrom g isAsync requireName) :=
  .bind (follows_expect_keyword _) fun _ => .bind (follows_accept_punct _) fun _ =>
    .bind (follows_declared_name _ _) fun _ => .bind (follows_function_tail entries _ _) fun _ => .pure _

theorem follows_method_function (modifiers : MethodModifiers) : Follows sight levels (methodFunction g modifiers) :=
  .bind (follows_function_tail entries _ _) fun _ => .pure _

theorem follows_keyed_member (isStatic : Bool) : Follows sight levels (keyedMember g isStatic) :=
  .bind follows_method_modifiers fun _ => .bind (follows_property_key entries) fun _ => .bind (follows_check_punct _) fun _ =>
    .ite (.bind (follows_method_function entries _) fun _ => .pure _) (.bind (follows_accept_punct _) fun _ => .ite
      (.bind entries.assignment.inFunction fun _ => .bind (.pure _) fun _ =>
        .bind follows_consume_semicolon fun _ => .pure _)
      (.bind (.pure _) fun _ => .bind follows_consume_semicolon fun _ => .pure _))

theorem follows_class_member : Follows sight levels (classMember g) :=
  .bind follows_start_offset fun _ => .bind (follows_check_word _) fun _ => .bind follows_next_ends_member fun _ => .ite
    (.bind follows_advance fun _ => .bind (follows_check_punct _) fun _ => .ite
      (.bind entries.block.inFunction fun _ => follows_spanned_from _ _)
      (.bind (follows_keyed_member entries true) fun _ => follows_spanned_from _ _))
    (.bind (follows_keyed_member entries false) fun _ => follows_spanned_from _ _)

theorem follows_class_member_round {brace : Span} (marked : sight.marked brace) (members : List (Spanned ClassMember)) :
    Follows sight levels (classMemberRound g brace members) :=
  .bind (follows_accept_punct _) fun _ => .ite (.pure _) (.bind follows_at_end fun _ => .check (follows_fail marked) fun _ =>
    .bind (follows_accept_punct _) fun _ => .ite (.pure _) (.bind (follows_class_member entries) fun _ => .pure _))

theorem follows_class_from {heritage : Parser (Spanned Expr)} (ancestor : Follows sight levels heritage)
    (requireName : Bool) : Follows sight levels (classFrom g heritage requireName) := by
  have body : ∀ (name : Option String) (parent : Option (Spanned Expr)), Follows sight levels (do
      let brace ← expectPunct .lBrace
      let members ← repeatRounds (classMemberRound g brace.span) []
      return (⟨name, parent, members⟩ : Class)) :=
    fun _ _ => .given (gives_expect _ _) fun brace seen =>
      .bind (follows_repeat_rounds (follows_class_member_round entries (sight.spans brace seen)) _) fun _ => .pure _
  exact .bind (follows_expect_keyword _) fun _ => .bind (follows_declared_name _ _) fun name =>
    .bind (follows_accept_keyword _) fun _ => .ite
      (.bind ancestor fun _ => .bind (.pure _) fun _ => body name _)
      (.bind (.pure _) fun _ => body name _)

theorem follows_sequence_round (items : List (Spanned Expr)) : Follows sight levels (sequenceRound g items) :=
  .bind (follows_accept_punct _) fun _ => .ite (.bind entries.assignment fun _ => .pure _) (.pure _)

theorem follows_expression : Follows sight levels (expression g) :=
  .bind entries.assignment fun _ => .bind (follows_check_punct _) fun _ => .ite
    (.bind (follows_repeat_rounds (follows_sequence_round entries) _) fun _ => follows_spanned_from _ _) (.pure _)

theorem follows_arrow_params (isAsync : Bool) : Follows sight levels (arrowParams g isAsync) :=
  .bind follows_peek fun _ => by
    split
    · exact .bind follows_start_offset fun _ => .bind follows_identifier fun _ =>
        .bind (follows_spanned_from _ _) fun _ => .pure _
    · exact (follows_formal_params entries).inFunction

theorem follows_arrow_body (isAsync : Bool) : Follows sight levels (arrowBody g isAsync) :=
  .bind (follows_check_punct _) fun _ => .ite (.bind entries.block.inFunction fun _ => .pure _)
    (.bind entries.assignment.inFunction fun _ => .pure _)

theorem follows_arrow_function : Follows sight levels (arrowFunction g) := by
  have parts : ∀ (start : Nat) (isAsync : Bool), Follows sight levels (do
      let params ← arrowParams g isAsync
      let _ ← expectPunct .arrow
      let body ← arrowBody g isAsync
      spannedFrom start (Expr.arrow params body isAsync)) :=
    fun _ _ => .bind (follows_arrow_params entries _) fun _ => .bind (follows_expect_punct _) fun _ =>
      .bind (follows_arrow_body entries _) fun _ => follows_spanned_from _ _
  exact .bind follows_start_offset fun start => .bind (follows_check_word _) fun _ => .bind (follows_peek_at 1) fun _ =>
    .ite (.bind follows_advance fun _ => parts start _) (parts start _)

theorem follows_yield_expression : Follows sight levels (yieldExpression g) :=
  .bind follows_start_offset fun _ => .bind follows_advance fun _ => .bind follows_yield_delegate fun _ =>
    .bind follows_peek fun _ => .ite (.bind entries.assignment fun _ => follows_spanned_from _ _) (follows_spanned_from _ _)

theorem follows_binary_round (start minPrecedence : Nat) (left : Spanned Expr) :
    Follows sight levels (binaryRound g start minPrecedence left) :=
  .bind follows_context fun _ => .bind follows_peek fun _ => by
    split
    · exact .ite (.pure _) (.bind follows_advance fun _ => .bind (entries.binary _) fun _ =>
        .bind (follows_spanned_from _ _) fun _ => .pure _)
    · exact .pure _

theorem follows_binary_from (minPrecedence : Nat) : Follows sight levels (binaryFrom g minPrecedence) :=
  .bind follows_start_offset fun start => .bind entries.unary fun _ =>
    follows_repeat_rounds (follows_binary_round entries start minPrecedence) _

theorem follows_conditional : Follows sight levels (conditional g) :=
  .bind follows_start_offset fun _ => .bind (follows_binary_from entries 1) fun _ =>
    .bind (follows_accept_punct _) fun _ => .ite
      (.bind entries.assignment.allowingIn fun _ => .bind (follows_expect_punct _) fun _ =>
        .bind entries.assignment fun _ => follows_spanned_from _ _)
      (.pure _)

theorem follows_assignment_tail : Follows sight levels (assignmentTail g) :=
  .bind follows_start_offset fun _ => .bind (follows_conditional entries) fun _ => .bind follows_peek fun _ => by
    split
    · exact .bind follows_advance fun _ => .bind entries.assignment fun _ => follows_spanned_from _ _
    · exact .pure _

theorem follows_assignment_body : Follows sight levels (assignmentBody g) :=
  .bind follows_is_arrow_ahead fun _ => .ite (follows_arrow_function entries) (.bind follows_context fun _ =>
    .bind (follows_check_word _) fun _ => .ite (follows_yield_expression entries) (follows_assignment_tail entries))

theorem follows_computed_property : Follows sight levels (computedProperty g) :=
  .bind (follows_expect_punct _) fun _ => .bind (follows_expression entries).allowingIn fun _ =>
    .bind (follows_expect_punct _) fun _ => .pure _

theorem follows_spread_or_assignment : Follows sight levels (spreadOrAssignment g) :=
  .bind follows_start_offset fun _ => .bind (follows_accept_punct _) fun _ => .ite
    (.bind entries.assignment fun _ => follows_spanned_from _ _) entries.assignment

theorem follows_arguments : Follows sight levels (arguments g) :=
  .bind (follows_expect_punct _) fun _ => .allowingIn
    (.bind (follows_comma_list (follows_spread_or_assignment entries) _) fun _ =>
      .bind (follows_expect_punct _) fun _ => .pure _)

theorem follows_array_literal : Follows sight levels (arrayLiteral g) :=
  .bind (follows_expect_punct _) fun _ => .allowingIn
    (.bind (follows_holed_list (follows_spread_or_assignment entries) _) fun _ =>
      .bind (follows_expect_punct _) fun _ => .pure _)

theorem follows_shorthand_property (name : String) : Follows sight levels (shorthandProperty g name) :=
  .bind (follows_accept_punct _) fun _ => .ite (.bind entries.assignment fun _ => .pure _) (.pure _)

theorem follows_keyed_property : Follows sight levels (keyedProperty g) :=
  .bind follows_method_modifiers fun _ => .bind follows_peek fun _ => .bind (follows_property_key entries) fun _ =>
    .bind (follows_check_punct _) fun _ => .ite (.bind (follows_method_function entries _) fun _ => .pure _)
      (.bind (follows_accept_punct _) fun _ => .ite (.bind entries.assignment fun _ => .pure _) (by
        split
        · exact follows_shorthand_property entries _
        · exact follows_unexpected _))

theorem follows_property : Follows sight levels (property g) :=
  .bind (follows_accept_punct _) fun _ => .ite (.bind entries.assignment fun _ => .pure _) (follows_keyed_property entries)

theorem follows_object_literal : Follows sight levels (objectLiteral g) :=
  .bind (follows_expect_punct _) fun _ => .allowingIn
    (.bind (follows_comma_list (follows_property entries) _) fun _ => .bind (follows_expect_punct _) fun _ => .pure _)

theorem follows_substitution (source : String) (offset : Nat)
    (lexes : Lexes sight.seen sight.marked (lexFragment source offset)) :
    Follows sight levels (substitution g source offset) := by
  unfold substitution
  split
  · next error lexed =>
      rw [lexed] at lexes
      exact follows_fail lexes
  · next tokens lexed =>
      rw [lexed] at lexes
      exact (follows_expression entries).onFragment lexes

theorem follows_template_from (text : String) (parts : List TemplatePart) (written : WrittenParts sight parts) :
    Follows sight levels (templateFrom g text parts) := by
  induction parts generalizing text with
  | nil => exact .pure _
  | cons part rest ih =>
      have later : WrittenParts sight rest := fun source offset inside => written source offset (.tail _ inside)
      cases part with
      | text more => exact ih (text ++ more) later
      | substitution source offset =>
          exact .bind (follows_substitution entries source offset (written source offset (.head _))) fun _ =>
            .bind (ih "" later) fun _ => .pure _

theorem follows_template (parts : List TemplatePart) (written : WrittenParts sight parts) :
    Follows sight levels (template g parts) :=
  follows_template_from entries "" parts written

theorem follows_import_expression (keyword : Token) : Follows sight levels (importExpression g keyword) :=
  .bind (follows_accept_punct _) fun _ => .ite (.bind follows_identifier fun _ => .pure _)
    (.bind (follows_arguments entries) fun _ => .pure _)

theorem follows_parenthesized : Follows sight levels (parenthesized g) :=
  .bind (follows_expression entries).allowingIn fun _ => .bind (follows_expect_punct _) fun _ => .pure _

theorem follows_name_or_async_function (name : String) : Follows sight levels (nameOrAsyncFunction g name) :=
  .bind follows_async_function_ahead fun _ => .ite
    (.bind follows_advance fun _ => .bind (follows_function_from entries true false) fun _ => .pure _)
    (.bind follows_advance fun _ => .pure _)

omit entries in
theorem follows_consuming (value : Expr) : Follows sight levels (consuming value) :=
  .bind follows_advance fun _ => .pure _

theorem follows_primary_expr {heritage : Parser (Spanned Expr)} (ancestor : Follows sight levels heritage) (token : Token)
    (seen : sight.seen token) : Follows sight levels (primaryExpr g heritage token) := by
  unfold primaryExpr
  split
  · exact follows_name_or_async_function entries _
  · exact follows_consuming _
  · exact follows_consuming _
  · exact follows_consuming _
  · exact follows_consuming _
  · next parts kind =>
      exact .bind follows_advance fun _ => .bind (follows_template entries parts fun source offset inside =>
        sight.lexes token parts source offset seen kind inside) fun _ => .pure _
  · exact follows_consuming _
  · exact follows_consuming _
  · exact follows_consuming _
  · exact follows_consuming _
  · exact follows_consuming _
  · exact .bind (follows_function_from entries _ _) fun _ => .pure _
  · exact .bind (follows_class_from entries ancestor _) fun _ => .pure _
  · exact .bind follows_advance fun keyword => follows_import_expression entries keyword
  · exact .bind follows_advance fun _ => follows_parenthesized entries
  · exact .bind (follows_array_literal entries) fun _ => .pure _
  · exact .bind (follows_object_literal entries) fun _ => .pure _
  · exact follows_unexpected _

theorem follows_primary {heritage : Parser (Spanned Expr)} (ancestor : Follows sight levels heritage) :
    Follows sight levels (primary g heritage) :=
  .given gives_peek fun token seen => .bind (follows_primary_expr entries ancestor token seen) fun _ =>
    follows_spanned_from _ _

theorem follows_member_round (start : Nat) (object : Spanned Expr) : Follows sight levels (memberRound g start object) :=
  .bind (follows_accept_punct _) fun _ => .ite
    (.bind follows_identifier_name fun _ => .bind (follows_spanned_from _ _) fun _ => .pure _)
    (.bind (follows_check_punct _) fun _ => .ite
      (.bind (follows_computed_property entries) fun _ => .bind (follows_spanned_from _ _) fun _ => .pure _) (.pure _))

theorem follows_member_only {heritage : Parser (Spanned Expr)} (ancestor : Follows sight levels heritage) :
    Follows sight levels (memberOnly g heritage) :=
  .bind follows_start_offset fun start => .bind (follows_primary entries ancestor) fun _ =>
    follows_repeat_rounds (follows_member_round entries start) _

theorem follows_new_from {heritage : Parser (Spanned Expr)} (ancestor : Follows sight levels heritage) :
    Follows sight levels (newFrom g heritage) := by
  have callee : ∀ (start : Nat) (found : Spanned Expr), Follows sight levels (do
      let args ← if ← checkPunct .lParen then arguments g else pure []
      spannedFrom start (Expr.new found args)) :=
    fun _ _ => .bind (follows_check_punct _) fun _ => .ite
      (.bind (follows_arguments entries) fun _ => follows_spanned_from _ _)
      (.bind (.pure _) fun _ => follows_spanned_from _ _)
  exact .bind follows_start_offset fun start => .bind (follows_expect_keyword _) fun _ =>
    .bind (follows_accept_punct _) fun _ => .ite (.bind follows_identifier fun _ => follows_spanned_from _ _)
      (.bind (follows_check_keyword _) fun _ => .ite
        (.bind entries.newExpression fun found => callee start found)
        (.bind (follows_member_only entries ancestor) fun found => callee start found))

theorem follows_optional_link (object : Spanned Expr) : Follows sight levels (optionalLink g object) :=
  .bind (follows_check_punct _) fun _ => .ite (.bind (follows_arguments entries) fun _ => .pure _)
    (.bind (follows_check_punct _) fun _ => .ite (.bind (follows_computed_property entries) fun _ => .pure _)
      (.bind follows_identifier_name fun _ => .pure _))

theorem follows_chain_link (object : Spanned Expr) : Follows sight levels (chainLink g object) :=
  .given gives_peek fun token seen => by
    split
    · exact .bind follows_advance fun _ => .bind follows_identifier_name fun _ => .pure _
    · exact .bind follows_advance fun _ => .bind (follows_optional_link entries object) fun _ => .pure _
    · exact .bind (follows_computed_property entries) fun _ => .pure _
    · exact .bind (follows_arguments entries) fun _ => .pure _
    · next parts kind =>
        exact .bind follows_advance fun _ => .bind (follows_template entries parts fun source offset inside =>
          sight.lexes token parts source offset seen kind inside) fun _ => .pure _
    · exact .pure _

theorem follows_chain_round (start : Nat) (object : Spanned Expr) : Follows sight levels (chainRound g start object) :=
  .bind (follows_chain_link entries object) fun link => by
    cases link with
    | some node => exact .bind (follows_spanned_from _ _) fun _ => .pure _
    | none => exact .pure _

theorem follows_call_member_with {heritage : Parser (Spanned Expr)} (ancestor : Follows sight levels heritage) :
    Follows sight levels (callMemberWith g heritage) :=
  .bind follows_start_offset fun start => .bind (follows_check_keyword _) fun _ => .ite
    (.bind (follows_new_from entries ancestor) fun _ => follows_repeat_rounds (follows_chain_round entries start) _)
    (.bind (follows_primary entries ancestor) fun _ => follows_repeat_rounds (follows_chain_round entries start) _)

theorem follows_call_member_from (fuel : List Token) : Follows sight levels (callMemberFrom g fuel) := by
  induction fuel with
  | nil => exact follows_unexpected _
  | cons _ fuel ih => exact follows_call_member_with entries ih

theorem follows_call_member : Follows sight levels (callMember g) :=
  .bind follows_upcoming fun fuel => follows_call_member_from entries fuel

theorem follows_new_expression_body : Follows sight levels (newExpressionBody g) :=
  follows_new_from entries (follows_call_member entries)

theorem follows_postfix_update (start : Nat) : Follows sight levels (postfixUpdate g start) :=
  .bind (follows_call_member entries) fun _ => .bind follows_peek fun _ => by
    split
    · exact .ite (.pure _) (.bind follows_advance fun _ => follows_spanned_from _ _)
    · exact .pure _

theorem follows_unary_body : Follows sight levels (unaryBody g) :=
  .bind follows_start_offset fun start => .bind follows_peek fun _ => by
    dsimp only
    split
    · exact .bind follows_advance fun _ => .bind entries.unary fun _ => follows_spanned_from _ _
    · exact .bind follows_advance fun _ => .bind entries.unary fun _ => follows_spanned_from _ _
    · exact .bind follows_await_ahead fun _ => .ite
        (.bind follows_advance fun _ => .bind entries.unary fun _ => follows_spanned_from _ _)
        (follows_postfix_update entries start)

end

end ScriptSuite.Script
