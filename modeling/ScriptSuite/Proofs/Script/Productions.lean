import ScriptSuite.Proofs.Script.Reading
import ScriptSuite.Script.Parser

set_option autoImplicit false

namespace ScriptSuite.Script

structure Grammar.Closed (g : Grammar) : Prop where
  statement : Reads 0 g.statement
  block : Reads 0 g.block
  bindingTarget : Closes 0 g.bindingTarget
  assignment : Reads 0 g.assignment
  binary : ∀ precedence, Closes 0 (g.binary precedence)
  unary : Reads 0 g.unary
  newExpression : Closes 0 g.newExpression

theorem closes_identifier : Closes 0 identifier := .peek fun token => by
  split
  · next kind => exact .advance (by simp [kind]) fun _ => .pure 0 _
  · exact (closes_unexpected _).at token

theorem closes_identifier_name : Closes 0 identifierName := .peek fun token => by
  split
  · next kind => exact .advance (by simp [kind]) fun _ => .pure 0 _
  · next kind => exact .advance (by simp [kind]) fun _ => .pure 0 _
  · next kind => exact .advance (by simp [kind]) fun _ => .pure 0 _
  · exact (closes_unexpected _).at token

theorem closes_string_literal : Closes 0 stringLiteral := .peek fun token => by
  split
  · next kind => exact .advance (by simp [kind]) fun _ => .pure 0 _
  · exact (closes_unexpected _).at token

theorem closes_consume_semicolon : Closes 0 consumeSemicolon :=
  .bind (closes_accept_punct .semi (by decide)) fun _ => .ite (.pure 0 _) (.bind ((looks_peek_at 0).closes 0) fun _ =>
    .ite (.pure 0 _) (closes_unexpected _))

theorem looks_async_function_ahead : Looks asyncFunctionAhead :=
  .bind (looks_peek_at 1) fun _ => .pure _

theorem looks_next_ends_member : Looks nextEndsMember :=
  .bind (looks_peek_at 1) fun token => by
    split
    · exact .pure _
    · exact .pure _

theorem closes_declared_name (required : Bool) (wanted : Expectation) : Closes 0 (declaredName required wanted) :=
  .peek fun token => by
    split
    · exact (Closes.bind closes_identifier fun _ => .pure 0 _).at token
    · exact .ite ((closes_unexpected _).at token) ((Closes.pure 0 _).at token)

theorem closes_async_modifier : Closes 0 asyncModifier :=
  .check fun token => .look looks_next_ends_member fun ends => .look (looks_peek_at 1) fun next => by
    split
    · next here =>
        have kind : token.kind = .identifier "async" := by simp_all
        exact .advance (by simp [kind]) fun _ => .pure 0 _
    · exact (Closes.pure 0 _).at token

theorem closes_accessor_modifier : Closes 0 accessorModifier :=
  .bind (closes_accept_word _) fun _ => .ite (.pure 0 _)
    (.bind (closes_accept_word _) fun _ => .ite (.pure 0 _) (.pure 0 _))

theorem closes_method_modifiers : Closes 0 methodModifiers :=
  .bind closes_async_modifier fun _ => .bind (closes_accept_punct .star (by decide)) fun _ =>
    .bind (looks_next_ends_member.closes 0) fun _ => .ite (.pure 0 _)
      (.bind closes_accessor_modifier fun _ => .pure 0 _)

theorem looks_is_arrow_ahead : Looks isArrowAhead :=
  fun _ state => ⟨arrowAhead state.rest, rfl⟩

theorem closes_yield_delegate : Closes 0 yieldDelegate :=
  .bind ((looks_peek_at 0).closes 0) fun _ => .ite (.pure 0 _) (closes_accept_punct .star (by decide))

def Outcome.outside {α : Type} (state : State) : Outcome α → Outcome α
  | .error failure _ => .error failure state
  | .ok value after =>
      if after.atEnd then .ok value { state with recovered := state.recovered ++ after.recovered }
      else .error ⟨.unexpected (.mark .rBrace) after.peek.kind, after.peek.span⟩ state

theorem on_fragment_run {α : Type} (parser : Parser α) (tokens : List Token) (context : Context) (state : State) :
    onFragment parser tokens context state =
      (parser { context with noIn := false } (.ofTokens tokens)).outside state := by
  unfold onFragment State.ofTokens
  dsimp only
  cases parser { context with noIn := false } ⟨tokens, (tokens.head?.map (·.span.stop)).getD 0, []⟩ <;> rfl

theorem closes_on_fragment {α : Type} (parser : Parser α) (tokens : List Token) : Closes 0 (onFragment parser tokens) := by
  intro context state
  rw [on_fragment_run]
  cases parser { context with noIn := false } (.ofTokens tokens) with
  | error error after => exact passes_refl 0 state
  | ok value after =>
      unfold Outcome.outside
      dsimp only
      split
      · exact ⟨consumes_refl _, List.prefix_append _ _, fun _ => Nat.le_refl _⟩
      · exact passes_refl 0 state

theorem unary_op_kind (kind : TokenKind) (op : UnaryOp) (found : unaryOp? kind = some op) :
    kind ≠ .punct .rBrace ∧ kind ≠ .endOfFile := by
  constructor <;> (rintro rfl; cases found)

theorem update_op_kind (kind : TokenKind) (op : UpdateOp) (found : updateOp? kind = some op) :
    kind ≠ .punct .rBrace ∧ kind ≠ .endOfFile := by
  constructor <;> (rintro rfl; cases found)

theorem assign_op_kind (kind : TokenKind) (op : AssignOp) (found : assignOp? kind = some op) :
    kind ≠ .punct .rBrace := by
  rintro rfl
  cases found

theorem binary_op_kind (noIn : Bool) (kind : TokenKind) (op : BinaryOp × Nat) (found : binaryOp? noIn kind = some op) :
    kind ≠ .punct .rBrace := by
  rintro rfl
  cases found

theorem await_ahead_only (context : Context) (state : State) (ahead : awaitAhead context state = .ok true state) :
    state.peek.kind = .identifier "await" := by
  by_cases same : state.peek.kind = .identifier "await"
  · exact same
  · unfold awaitAhead checkWord at ahead
    rw [bind_run, check_run, beq_eq_false_iff_ne.mpr same] at ahead
    cases ahead

theorem looks_await_ahead : Looks awaitAhead :=
  .bind (looks_check _) fun found => by
    split
    · exact .bind looks_context fun _ => .bind (looks_peek_at 1) fun _ => .pure _
    · exact .pure _

section

variable {g : Grammar} (closed : g.Closed)
include closed

theorem closes_property_key : Closes 0 (propertyKey g) := .peek fun token => by
  split
  · exact (Closes.bind closes_identifier_name fun _ => .pure 0 _).at token
  · exact (Closes.bind closes_identifier_name fun _ => .pure 0 _).at token
  · exact (Closes.bind closes_identifier_name fun _ => .pure 0 _).at token
  · next kind => exact .advance (by simp [kind]) fun _ => .pure 0 _
  · next kind => exact .advance (by simp [kind]) fun _ => .pure 0 _
  · next kind => exact .advance (by simp [kind]) fun _ => .pure 0 _
  · next kind =>
      exact .advance (by simp [kind]) fun _ => .bind closed.assignment.closes.within fun _ =>
        .bind (closes_expect_punct .rBracket (by decide)) fun _ => .pure 0 _
  · exact (closes_unexpected _).at token

theorem closes_binding_element : Closes 0 (bindingElement g) :=
  .bind closes_start_offset fun _ => .bind closed.bindingTarget fun _ =>
    .bind (closes_accept_punct .eq (by decide)) fun _ =>
      .ite (.bind closed.assignment.closes.within fun _ => closes_spanned_from _ _) (.pure 0 _)

theorem closes_rest_element : Closes 0 (restElement g) :=
  .bind closes_start_offset fun _ => .bind (closes_expect_punct .ellipsis (by decide)) fun _ =>
    .bind closed.bindingTarget fun _ => closes_spanned_from _ _

theorem closes_binding_or_rest : Closes 0 (bindingOrRest g) :=
  .bind (closes_check _) fun _ => .ite (closes_rest_element closed) (closes_binding_element closed)

theorem closes_pattern_prop : Closes 0 (patternProp g) :=
  .bind (closes_accept_punct .ellipsis (by decide)) fun _ => .ite
    (.bind closed.bindingTarget fun _ => .pure 0 _)
    (.bind closes_start_offset fun _ => .bind (closes_property_key closed) fun key =>
      .bind (closes_accept_punct .colon (by decide)) fun _ => .ite
        (.bind (closes_binding_element closed) fun _ => .pure 0 _) (by
          split
          · exact .bind (closes_spanned_from _ _) fun _ => .bind (closes_accept_punct .eq (by decide)) fun _ => .ite
              (.bind closed.assignment.closes.within fun _ => .bind (closes_spanned_from _ _) fun _ => .pure 0 _)
              (.pure 0 _)
          · exact closes_unexpected _))

theorem closes_object_pattern : Closes 0 (objectPattern g) :=
  (Reads.braced fun _ => .bind (closes_comma_list .rBrace (closes_pattern_prop closed)) fun _ =>
    .close fun _ => .pure 0 _).closes

theorem closes_array_pattern : Closes 0 (arrayPattern g) :=
  .bind (closes_expect_punct .lBracket (by decide)) fun _ =>
    .bind (closes_holed_list .rBracket (closes_binding_or_rest closed)) fun _ =>
      .bind (closes_expect_punct .rBracket (by decide)) fun _ => .pure 0 _

theorem closes_binding_pattern : Closes 0 (bindingPattern g) := .peek fun token => by
  split
  · exact (Closes.bind closes_identifier fun _ => .pure 0 _).at token
  · exact (closes_object_pattern closed).at token
  · exact (closes_array_pattern closed).at token
  · exact (closes_unexpected _).at token

theorem closes_binding_target_body : Closes 0 (bindingTargetBody g) :=
  .bind closes_start_offset fun _ => .bind (closes_binding_pattern closed) fun _ => closes_spanned_from _ _

theorem closes_formal_params : Closes 0 (formalParams g) :=
  .bind (closes_expect_punct .lParen (by decide)) fun _ =>
    .bind (closes_comma_list .rParen (closes_binding_or_rest closed)) fun _ =>
      .bind (closes_expect_punct .rParen (by decide)) fun _ => .pure 0 _

theorem closes_declarator : Closes 0 (declarator g) :=
  .bind closed.bindingTarget fun _ => .bind (closes_accept_punct .eq (by decide)) fun _ =>
    .ite (.bind closed.assignment.closes fun _ => .pure 0 _) (.pure 0 _)

theorem closes_declarator_round (declarators : List Declarator) : Closes 0 (declaratorRound g declarators) :=
  .bind (closes_declarator closed) fun _ => .bind (closes_accept_punct .comma (by decide)) fun _ =>
    .ite (.pure 0 _) (.pure 0 _)

theorem closes_var_declarations (kind : VarKind) : Closes 0 (varDeclarations g kind) :=
  .bind (closes_repeat_rounds (fun declarators => .plain (closes_declarator_round closed declarators)) []) fun _ =>
    .pure 0 _

theorem closes_function_tail (isAsync isGenerator : Bool) : Closes 0 (functionTail g isAsync isGenerator) :=
  .inFunction (.bind (closes_formal_params closed) fun _ => .bind closed.block.closes fun _ => .pure 0 _)

theorem reads_function_from (isAsync requireName : Bool) : Reads 0 (functionFrom g isAsync requireName) :=
  .first (reads_expect_keyword _) fun _ => .bind (closes_accept_punct .star (by decide)) fun _ =>
    .bind (closes_declared_name _ _) fun _ => .bind (closes_function_tail closed _ _) fun _ => .pure 0 _

theorem closes_method_function (modifiers : MethodModifiers) : Closes 0 (methodFunction g modifiers) :=
  .bind (closes_function_tail closed _ _) fun _ => .pure 0 _

theorem closes_keyed_member (isStatic : Bool) : Closes 0 (keyedMember g isStatic) :=
  .bind closes_method_modifiers fun _ => .bind (closes_property_key closed) fun _ => .bind (closes_check _) fun _ =>
    .ite (.bind (closes_method_function closed _) fun _ => .pure 0 _)
      (.bind (closes_accept_punct .eq (by decide)) fun _ =>
        .ite (.bind closed.assignment.closes.inFunction fun _ => .bind (.pure 0 _) fun _ =>
            .bind closes_consume_semicolon fun _ => .pure 0 _)
          (.bind (.pure 0 _) fun _ => .bind closes_consume_semicolon fun _ => .pure 0 _))

theorem closes_class_member : Closes 0 (classMember g) :=
  .bind closes_start_offset fun start => .check fun token => .look looks_next_ends_member fun ends => by
    split
    · next here =>
        have kind : token.kind = .identifier "static" := by simp_all
        exact .advance (by simp [kind]) fun _ => .bind (closes_check _) fun _ => .ite
          (.bind closed.block.closes.inFunction fun _ => closes_spanned_from _ _)
          (.bind (closes_keyed_member closed true) fun _ => closes_spanned_from _ _)
    · exact (Closes.bind (closes_keyed_member closed false) fun _ => closes_spanned_from _ _).at token

theorem closes_class_member_round (brace : Span) (members : List (Spanned ClassMember)) :
    RoundCloses 1 (classMemberRound g brace members) :=
  .close rfl (.bind (looks_at_end.closes 0) fun _ =>
    .ite (.bind (.fail 0 _) fun _ => .bind (closes_accept_punct .semi (by decide)) fun _ =>
        .ite (.pure 0 _) (.bind (closes_class_member closed) fun _ => .pure 0 _))
      (.bind (closes_accept_punct .semi (by decide)) fun _ =>
        .ite (.pure 0 _) (.bind (closes_class_member closed) fun _ => .pure 0 _)))

theorem reads_class_from {heritage : Parser (Spanned Expr)} (ancestor : Closes 0 heritage) (requireName : Bool) :
    Reads 0 (classFrom g heritage requireName) := by
  have body : ∀ (name : Option String) (parent : Option (Spanned Expr)), Closes 0 (do
      let brace ← expectPunct .lBrace
      let members ← repeatRounds (classMemberRound g brace.span) []
      return (⟨name, parent, members⟩ : Class)) :=
    fun _ _ => (Reads.braced fun _ => .andThen (closes_repeat_rounds (closes_class_member_round closed _) _) fun _ =>
      .pure 0 _).closes
  exact .first (reads_expect_keyword _) fun _ => .bind (closes_declared_name _ _) fun name =>
    .bind (closes_accept_keyword _) fun _ => .ite
      (.bind ancestor fun _ => .bind (.pure 0 _) fun _ => body name _)
      (.bind (.pure 0 _) fun _ => body name _)

theorem closes_sequence_round (items : List (Spanned Expr)) : Closes 0 (sequenceRound g items) :=
  .bind (closes_accept_punct .comma (by decide)) fun _ => .ite
    (.bind closed.assignment.closes fun _ => .pure 0 _) (.pure 0 _)

theorem reads_expression : Reads 0 (expression g) :=
  .first closed.assignment fun _ => .bind (closes_check _) fun _ => .ite
    (.bind (closes_repeat_rounds (fun items => .plain (closes_sequence_round closed items)) _) fun _ =>
      closes_spanned_from _ _)
    (.pure 0 _)

theorem closes_arrow_params (isAsync : Bool) : Closes 0 (arrowParams g isAsync) := .peek fun token => by
  split
  · exact (Closes.bind closes_start_offset fun _ => .bind closes_identifier fun _ =>
      .bind (closes_spanned_from _ _) fun _ => .pure 0 _).at token
  · exact (closes_formal_params closed).inFunction.at token

theorem closes_arrow_body (isAsync : Bool) : Closes 0 (arrowBody g isAsync) :=
  .bind (closes_check _) fun _ => .ite (.bind closed.block.closes.inFunction fun _ => .pure 0 _)
    (.bind closed.assignment.closes.inFunction fun _ => .pure 0 _)

theorem reads_arrow_function : Reads 0 (arrowFunction g) :=
  .later closes_start_offset fun start => .check fun token => .look (looks_peek_at 1) fun next => by
    have parts : ∀ isAsync, Reads 0 (do
        let params ← arrowParams g isAsync
        let _ ← expectPunct .arrow
        let body ← arrowBody g isAsync
        spannedFrom start (Expr.arrow params body isAsync)) :=
      fun _ => .later (closes_arrow_params closed _) fun _ => .first (reads_expect_punct .arrow (by decide)) fun _ =>
        .bind (closes_arrow_body closed _) fun _ => closes_spanned_from _ _
    dsimp only
    split
    · next here =>
        have kind : token.kind = .identifier "async" := by simp_all
        exact .advance (by simp [kind]) fun _ => (parts _).closes
    · exact (parts _).at token

theorem reads_yield_expression (token : Token) (word : token.kind = .identifier "yield") :
    ReadsAt token 0 (yieldExpression g) :=
  .look (.bind (looks_peek_at 0) fun _ => .pure _) fun _ => .advance (by simp [word]) fun _ =>
    .bind closes_yield_delegate fun _ => .bind ((looks_peek_at 0).closes 0) fun _ => .ite
      (.bind closed.assignment.closes fun _ => closes_spanned_from _ _) (closes_spanned_from _ _)

theorem closes_binary_round (start minPrecedence : Nat) (left : Spanned Expr) :
    Closes 0 (binaryRound g start minPrecedence left) :=
  .bind (looks_context.closes 0) fun context => .peek fun token => by
    split
    · next op precedence found =>
        exact .ite ((Closes.pure 0 _).at token) (.advance (binary_op_kind _ _ _ found) fun _ =>
          .bind (closed.binary _) fun _ => .bind (closes_spanned_from _ _) fun _ => .pure 0 _)
    · exact (Closes.pure 0 _).at token

theorem reads_binary_from (minPrecedence : Nat) : Reads 0 (binaryFrom g minPrecedence) :=
  .later closes_start_offset fun _ => .first closed.unary fun _ =>
    closes_repeat_rounds (fun _ => .plain (closes_binary_round closed _ _ _)) _

theorem reads_conditional : Reads 0 (conditional g) :=
  .later closes_start_offset fun _ => .first (reads_binary_from closed 1) fun _ =>
    .bind (closes_accept_punct .question (by decide)) fun _ => .ite
      (.bind closed.assignment.closes.allowingIn fun _ => .bind (closes_expect_punct .colon (by decide)) fun _ =>
        .bind closed.assignment.closes fun _ => closes_spanned_from _ _)
      (.pure 0 _)

theorem reads_assignment_tail : Reads 0 (assignmentTail g) :=
  .later closes_start_offset fun _ => .first (reads_conditional closed) fun _ => .peek fun token => by
    split
    · next op found =>
        exact .advance (assign_op_kind _ op found) fun _ => .bind closed.assignment.closes fun _ => closes_spanned_from _ _
    · exact (Closes.pure 0 _).at token

theorem reads_assignment_body : Reads 0 (assignmentBody g) :=
  .later (looks_is_arrow_ahead.closes 0) fun _ => .ite (reads_arrow_function closed)
    (.later (looks_context.closes 0) fun context => .check fun token => by
      split
      · next here => exact reads_yield_expression closed token (by simp_all)
      · exact (reads_assignment_tail closed).at token)

theorem reads_computed_property : Reads 0 (computedProperty g) :=
  .first (reads_expect_punct .lBracket (by decide)) fun _ => .bind (reads_expression closed).closes.allowingIn fun _ =>
    .bind (closes_expect_punct .rBracket (by decide)) fun _ => .pure 0 _

theorem closes_spread_or_assignment : Closes 0 (spreadOrAssignment g) :=
  .bind closes_start_offset fun _ => .bind (closes_accept_punct .ellipsis (by decide)) fun _ => .ite
    (.bind closed.assignment.closes fun _ => closes_spanned_from _ _) closed.assignment.closes

theorem reads_arguments : Reads 0 (arguments g) :=
  .first (reads_expect_punct .lParen (by decide)) fun _ => .allowingIn
    (.bind (closes_comma_list .rParen (closes_spread_or_assignment closed)) fun _ =>
      .bind (closes_expect_punct .rParen (by decide)) fun _ => .pure 0 _)

theorem reads_array_literal : Reads 0 (arrayLiteral g) :=
  .first (reads_expect_punct .lBracket (by decide)) fun _ => .allowingIn
    (.bind (closes_holed_list .rBracket (closes_spread_or_assignment closed)) fun _ =>
      .bind (closes_expect_punct .rBracket (by decide)) fun _ => .pure 0 _)

theorem closes_shorthand_property (name : String) : Closes 0 (shorthandProperty g name) :=
  .bind (closes_accept_punct .eq (by decide)) fun _ => .ite
    (.bind closed.assignment.closes fun _ => .pure 0 _) (.pure 0 _)

theorem closes_keyed_property : Closes 0 (keyedProperty g) :=
  .bind closes_method_modifiers fun _ => .bind ((looks_peek_at 0).closes 0) fun _ =>
    .bind (closes_property_key closed) fun _ => .bind (closes_check _) fun _ => .ite
      (.bind (closes_method_function closed _) fun _ => .pure 0 _)
      (.bind (closes_accept_punct .colon (by decide)) fun _ => .ite
        (.bind closed.assignment.closes fun _ => .pure 0 _) (by
          split
          · exact closes_shorthand_property closed _
          · exact closes_unexpected _))

theorem closes_property : Closes 0 (property g) :=
  .bind (closes_accept_punct .ellipsis (by decide)) fun _ => .ite
    (.bind closed.assignment.closes fun _ => .pure 0 _) (closes_keyed_property closed)

theorem reads_object_literal : Reads 0 (objectLiteral g) :=
  .braced fun _ => .allowingIn (.bind (closes_comma_list .rBrace (closes_property closed)) fun _ =>
    .close fun _ => .pure 0 _)

omit closed in
theorem closes_substitution (source : String) (offset : Nat) : Closes 0 (substitution g source offset) := by
  unfold substitution
  split
  · exact .fail 0 _
  · exact closes_on_fragment _ _

omit closed in
theorem closes_template_from (text : String) (parts : List TemplatePart) : Closes 0 (templateFrom g text parts) := by
  induction parts generalizing text with
  | nil => exact .pure 0 _
  | cons part rest ih =>
      cases part with
      | text more => exact ih (text ++ more)
      | substitution source offset =>
          exact .bind (closes_substitution source offset) fun _ => .bind (ih "") fun _ => .pure 0 _

omit closed in
theorem closes_template (parts : List TemplatePart) : Closes 0 (template g parts) :=
  closes_template_from "" parts

theorem closes_import_expression (keyword : Token) : Closes 0 (importExpression g keyword) :=
  .bind (closes_accept_punct .dot (by decide)) fun _ => .ite (.bind closes_identifier fun _ => .pure 0 _)
    (.bind (reads_arguments closed).closes fun _ => .pure 0 _)

theorem closes_parenthesized : Closes 0 (parenthesized g) :=
  .bind (reads_expression closed).closes.allowingIn fun _ => .bind (closes_expect_punct .rParen (by decide)) fun _ =>
    .pure 0 _

theorem reads_name_or_async_function (token : Token) (name : String) (kind : token.kind = .identifier name) :
    ReadsAt token 0 (nameOrAsyncFunction g name) :=
  .look looks_async_function_ahead fun ahead => .ite
    (.advance (by simp [kind]) fun _ => .bind (reads_function_from closed true false).closes fun _ => .pure 0 _)
    (.advance (by simp [kind]) fun _ => .pure 0 _)

omit closed in
theorem reads_consuming (token : Token) (value : Expr)
    (plain : token.kind ≠ .punct .rBrace ∧ token.kind ≠ .endOfFile) : ReadsAt token 0 (consuming value) :=
  .advance plain fun _ => .pure 0 _

theorem reads_primary_expr {heritage : Parser (Spanned Expr)} (ancestor : Closes 0 heritage) (token : Token) :
    ReadsAt token 0 (primaryExpr g heritage token) := by
  unfold primaryExpr
  split
  · next name kind => exact reads_name_or_async_function closed token name kind
  · next kind => exact reads_consuming token _ (by simp [kind])
  · next kind => exact reads_consuming token _ (by simp [kind])
  · next kind => exact reads_consuming token _ (by simp [kind])
  · next kind => exact reads_consuming token _ (by simp [kind])
  · next kind =>
      exact .advance (by simp [kind]) fun _ => .bind (closes_template _) fun _ => .pure 0 _
  · next kind => exact reads_consuming token _ (by simp [kind])
  · next kind => exact reads_consuming token _ (by simp [kind])
  · next kind => exact reads_consuming token _ (by simp [kind])
  · next kind => exact reads_consuming token _ (by simp [kind])
  · next kind => exact reads_consuming token _ (by simp [kind])
  · exact (Reads.first (reads_function_from closed false false) fun _ => .pure 0 _).at token
  · exact (Reads.first (reads_class_from closed ancestor false) fun _ => .pure 0 _).at token
  · next kind => exact .advance (by simp [kind]) fun keyword => closes_import_expression closed keyword
  · next kind => exact .advance (by simp [kind]) fun _ => closes_parenthesized closed
  · exact (Reads.first (reads_array_literal closed) fun _ => .pure 0 _).at token
  · exact (Reads.first (reads_object_literal closed) fun _ => .pure 0 _).at token
  · exact (reads_unexpected _).at token

theorem reads_primary {heritage : Parser (Spanned Expr)} (ancestor : Closes 0 heritage) :
    Reads 0 (primary g heritage) :=
  .peek fun token => .bind (reads_primary_expr closed ancestor token) fun _ => closes_spanned_from _ _

theorem closes_member_round (start : Nat) (object : Spanned Expr) : Closes 0 (memberRound g start object) :=
  .bind (closes_accept_punct .dot (by decide)) fun _ => .ite
    (.bind closes_identifier_name fun _ => .bind (closes_spanned_from _ _) fun _ => .pure 0 _)
    (.bind (closes_check _) fun _ => .ite
      (.bind (reads_computed_property closed).closes fun _ => .bind (closes_spanned_from _ _) fun _ => .pure 0 _)
      (.pure 0 _))

theorem closes_member_only {heritage : Parser (Spanned Expr)} (ancestor : Closes 0 heritage) :
    Closes 0 (memberOnly g heritage) :=
  .bind closes_start_offset fun _ => .bind (reads_primary closed ancestor).closes fun _ =>
    closes_repeat_rounds (fun _ => .plain (closes_member_round closed _ _)) _

theorem reads_new_from {heritage : Parser (Spanned Expr)} (ancestor : Closes 0 heritage) :
    Reads 0 (newFrom g heritage) := by
  have arguments : ∀ (start : Nat) (callee : Spanned Expr), Closes 0 (do
      let args ← if ← checkPunct .lParen then arguments g else pure []
      spannedFrom start (Expr.new callee args)) :=
    fun _ _ => .bind (closes_check _) fun _ => .ite
      (.bind (reads_arguments closed).closes fun _ => closes_spanned_from _ _)
      (.bind (.pure 0 _) fun _ => closes_spanned_from _ _)
  exact .later closes_start_offset fun start => .first (reads_expect_keyword _) fun _ =>
    .bind (closes_accept_punct .dot (by decide)) fun _ => .ite
      (.bind closes_identifier fun _ => closes_spanned_from _ _)
      (.bind (closes_check _) fun _ => .ite
        (.bind closed.newExpression fun _ => arguments start _)
        (.bind (closes_member_only closed ancestor) fun _ => arguments start _))

theorem closes_optional_link (object : Spanned Expr) : Closes 0 (optionalLink g object) :=
  .bind (closes_check _) fun _ => .ite (.bind (reads_arguments closed).closes fun _ => .pure 0 _)
    (.bind (closes_check _) fun _ => .ite (.bind (reads_computed_property closed).closes fun _ => .pure 0 _)
      (.bind closes_identifier_name fun _ => .pure 0 _))

theorem closes_chain_link (object : Spanned Expr) : Closes 0 (chainLink g object) := .peek fun token => by
  split
  · next kind => exact .advance (by simp [kind]) fun _ => .bind closes_identifier_name fun _ => .pure 0 _
  · next kind =>
      exact .advance (by simp [kind]) fun _ => .bind (closes_optional_link closed object) fun _ => .pure 0 _
  · exact (Closes.bind (reads_computed_property closed).closes fun _ => .pure 0 _).at token
  · exact (Closes.bind (reads_arguments closed).closes fun _ => .pure 0 _).at token
  · next kind => exact .advance (by simp [kind]) fun _ => .bind (closes_template _) fun _ => .pure 0 _
  · exact (Closes.pure 0 _).at token

theorem closes_chain_round (start : Nat) (object : Spanned Expr) : Closes 0 (chainRound g start object) :=
  .bind (closes_chain_link closed object) fun link => by
    split
    · exact .bind (closes_spanned_from _ _) fun _ => .pure 0 _
    · exact .pure 0 _

theorem reads_call_member_with {heritage : Parser (Spanned Expr)} (ancestor : Closes 0 heritage) :
    Reads 0 (callMemberWith g heritage) := by
  have chain : ∀ start head, Closes 0 (repeatRounds (chainRound g start) head) :=
    fun _ _ => closes_repeat_rounds (fun _ => .plain (closes_chain_round closed _ _)) _
  exact .later closes_start_offset fun start => .later (closes_check _) fun _ => .ite
    (.first (reads_new_from closed ancestor) fun _ => chain start _)
    (.first (reads_primary closed ancestor) fun _ => chain start _)

theorem reads_call_member_from (fuel : List Token) : Reads 0 (callMemberFrom g fuel) := by
  induction fuel with
  | nil => exact reads_unexpected _
  | cons token fuel ih => exact reads_call_member_with closed ih.closes

theorem reads_call_member : Reads 0 (callMember g) :=
  .later (looks_upcoming.closes 0) fun fuel => reads_call_member_from closed fuel

theorem closes_new_expression_body : Closes 0 (newExpressionBody g) :=
  (reads_new_from closed (reads_call_member closed).closes).closes

theorem reads_postfix_update (start : Nat) : Reads 0 (postfixUpdate g start) :=
  .first (reads_call_member closed) fun target => .peek fun token => by
    split
    · next op found =>
        exact .ite ((Closes.pure 0 _).at token) (.advance (update_op_kind _ op found).1 fun _ => closes_spanned_from _ _)
    · exact (Closes.pure 0 _).at token

theorem reads_unary_body : Reads 0 (unaryBody g) :=
  .later closes_start_offset fun start => .peek fun token => by
    dsimp only
    split
    · next found =>
        exact .advance (unary_op_kind _ _ found) fun _ => .bind closed.unary.closes fun _ => closes_spanned_from _ _
    · next found =>
        exact .advance (update_op_kind _ _ found) fun _ => .bind closed.unary.closes fun _ => closes_spanned_from _ _
    · exact (Reads.test looks_await_ahead await_ahead_only
        (fun token word => .advance (by simp [word]) fun _ => .bind closed.unary.closes fun _ => closes_spanned_from _ _)
        (reads_postfix_update closed start)).at token

end

theorem closes_module_name : Closes 0 moduleName := .peek fun token => by
  split
  · next kind => exact .advance (by simp [kind]) fun _ => .pure 0 _
  · exact closes_identifier_name.at token

theorem round_closes_names {α : Type} {item : Parser α} (closes : Closes 0 item) (items : List α) :
    RoundCloses 1 (namesRound item items) :=
  .close rfl (.bind closes fun _ => .bind (closes_check _) fun _ => .ite (.pure 0 _)
    (.bind (closes_expect_punct .comma (by decide)) fun _ => .pure 0 _))

theorem closes_names_list {α : Type} {item : Parser α} (closes : Closes 0 item) : Closes 1 (namesList item) :=
  closes_repeat_rounds (round_closes_names closes) []

theorem closes_imported_name : Closes 0 importedName :=
  .bind closes_module_name fun _ => .bind (closes_accept_word _) fun _ => .ite
    (.bind closes_identifier fun _ => .pure 0 _) (.pure 0 _)

theorem closes_imported_names : Closes 0 importedNames :=
  .bind (closes_accept_punct .star (by decide)) fun _ => .ite
    (.bind (closes_expect_word _) fun _ => .bind closes_identifier fun _ => .pure 0 _)
    (.accept_braced (closes_names_list closes_imported_name) (closes_unexpected _))

theorem closes_import_specifiers : Closes 0 importSpecifiers := .peek fun token => by
  split
  · exact (Closes.bind closes_identifier fun _ => .bind (closes_accept_punct .comma (by decide)) fun _ => .ite
      (.bind closes_imported_names fun _ => .pure 0 _) (.pure 0 _)).at token
  · exact closes_imported_names.at token

theorem reads_import_declaration : Reads 0 importDeclaration :=
  .first (reads_expect_keyword _) fun _ => .peek fun token => by
    split
    · next kind =>
        exact .advance (by simp [kind]) fun _ => .bind closes_consume_semicolon fun _ => .pure 0 _
    · exact (Closes.bind closes_import_specifiers fun _ => .bind (closes_expect_word _) fun _ =>
        .bind closes_string_literal fun _ => .bind closes_consume_semicolon fun _ => .pure 0 _).at token

theorem closes_exported_alias : Closes 0 exportedAlias :=
  .bind (closes_accept_word _) fun _ => .ite (.bind closes_module_name fun _ => .pure 0 _) (.pure 0 _)

theorem closes_exported_all : Closes 0 exportedAll :=
  .bind closes_exported_alias fun _ => .bind (closes_expect_word _) fun _ => .bind closes_string_literal fun _ =>
    .bind closes_consume_semicolon fun _ => .pure 0 _

theorem closes_exported_name : Closes 0 exportedName :=
  .bind closes_module_name fun _ => .bind (closes_accept_word _) fun _ => .ite
    (.bind closes_module_name fun _ => .pure 0 _) (.pure 0 _)

theorem closes_exported_source : Closes 0 exportedSource :=
  .bind (closes_accept_word _) fun _ => .ite (.bind closes_string_literal fun _ => .pure 0 _) (.pure 0 _)

theorem closes_exported_names : Closes 1 exportedNames :=
  .andThen (closes_names_list closes_exported_name) fun _ => .bind closes_exported_source fun _ =>
    .bind closes_consume_semicolon fun _ => .pure 0 _

theorem looks_let_declares : Looks letDeclares :=
  .bind (looks_peek_at 1) fun token => by
    split
    · exact .pure _
    · exact .pure _
    · exact .pure _

theorem looks_declaration_ahead : Looks declarationAhead :=
  .bind (looks_peek_at 0) fun token => by
    split
    · exact .pure _
    · exact looks_let_declares
    · exact looks_async_function_ahead
    · exact .pure _

section

variable {g : Grammar} (closed : g.Closed)
include closed

theorem closes_exported_default : Closes 0 (exportedDefault g) := by
  have functions : ∀ start : Nat, Closes 0 (do
      let isAsync ← acceptWord "async"
      let function ← functionFrom g isAsync false
      spannedFrom start (Expr.function function)) :=
    fun _ => .bind (closes_accept_word _) fun _ => .bind (reads_function_from closed _ _).closes fun _ =>
      closes_spanned_from _ _
  exact .bind closes_start_offset fun start => .bind (closes_check _) fun _ => .bind (closes_check _) fun _ =>
    .bind (looks_async_function_ahead.closes 0) fun _ => .ite (functions start)
      (.bind (closes_check _) fun _ => .ite
        (.bind (reads_class_from closed (reads_call_member closed).closes false).closes fun _ => closes_spanned_from _ _)
        (.bind closed.assignment.closes.allowingIn fun _ => .bind closes_consume_semicolon fun _ => .pure 0 _))

theorem reads_export_declaration : Reads 0 (exportDeclaration g) :=
  .first (reads_expect_keyword _) fun _ => .bind (closes_accept_keyword _) fun _ => .ite
    (.bind (closes_exported_default closed) fun _ => .pure 0 _)
    (.bind (closes_accept_punct .star (by decide)) fun _ => .ite closes_exported_all
      (.accept_braced closes_exported_names (.bind (looks_declaration_ahead.closes 0) fun _ => .ite
        (.bind closed.statement.closes fun _ => .pure 0 _) (closes_unexpected _))))

theorem reads_var_statement (token : Token) (plain : token.kind ≠ .punct .rBrace ∧ token.kind ≠ .endOfFile) (kind : VarKind) :
    ReadsAt token 0 (varStatement g kind) :=
  .advance plain fun _ => .bind (closes_var_declarations closed kind) fun _ =>
    .bind closes_consume_semicolon fun _ => .pure 0 _

theorem closes_paren_expression : Closes 0 (parenExpression g) :=
  .bind (closes_expect_punct .lParen (by decide)) fun _ => .bind (reads_expression closed).closes.allowingIn fun _ =>
    .bind (closes_expect_punct .rParen (by decide)) fun _ => .pure 0 _

theorem reads_if_statement : Reads 0 (ifStatement g) :=
  .first (reads_expect_keyword _) fun _ => .bind (closes_paren_expression closed) fun _ =>
    .bind closed.statement.closes fun _ => .bind (closes_accept_keyword _) fun _ => .ite
      (.bind closed.statement.closes fun _ => .pure 0 _) (.pure 0 _)

theorem reads_while_statement (token : Token) (plain : token.kind ≠ .punct .rBrace ∧ token.kind ≠ .endOfFile) :
    ReadsAt token 0 (whileStatement g) :=
  .advance plain fun _ => .bind (closes_paren_expression closed) fun _ => .bind closed.statement.closes fun _ =>
    .pure 0 _

theorem reads_do_statement (token : Token) (plain : token.kind ≠ .punct .rBrace ∧ token.kind ≠ .endOfFile) :
    ReadsAt token 0 (doStatement g) :=
  .advance plain fun _ => .bind closed.statement.closes fun _ => .bind (reads_expect_keyword _).closes fun _ =>
    .bind (closes_paren_expression closed) fun _ => .bind (closes_accept_punct .semi (by decide)) fun _ => .pure 0 _

theorem reads_with_statement (token : Token) (plain : token.kind ≠ .punct .rBrace ∧ token.kind ≠ .endOfFile) :
    ReadsAt token 0 (withStatement g) :=
  .advance plain fun _ => .bind (closes_paren_expression closed) fun _ => .bind closed.statement.closes fun _ =>
    .pure 0 _

theorem reads_return_statement (token : Token) (plain : token.kind ≠ .punct .rBrace ∧ token.kind ≠ .endOfFile) :
    ReadsAt token 0 (returnStatement g) :=
  .advance plain fun _ => .bind ((looks_peek_at 0).closes 0) fun _ => .ite
    (.bind closes_consume_semicolon fun _ => .pure 0 _)
    (.bind (reads_expression closed).closes fun _ => .bind closes_consume_semicolon fun _ => .pure 0 _)

theorem reads_throw_statement (token : Token) (plain : token.kind ≠ .punct .rBrace ∧ token.kind ≠ .endOfFile) :
    ReadsAt token 0 (throwStatement g) := by
  have thrown : Closes 0 (do
      let value ← expression g
      consumeSemicolon
      return Statement.throws value) :=
    .bind (reads_expression closed).closes fun _ => .bind closes_consume_semicolon fun _ => .pure 0 _
  exact .advance plain fun _ => .bind ((looks_peek_at 0).closes 0) fun _ => .ite
    (.bind (.fail 0 _) fun _ => thrown) thrown

theorem closes_catch_param : Closes 0 (catchParam g) :=
  .bind (closes_accept_punct .lParen (by decide)) fun _ => .ite
    (.bind closed.bindingTarget fun _ => .bind (closes_expect_punct .rParen (by decide)) fun _ => .pure 0 _)
    (.pure 0 _)

theorem closes_catch_clause : Closes 0 (catchClause g) :=
  .bind (closes_accept_keyword _) fun _ => .ite
    (.bind (closes_catch_param closed) fun _ => .bind closed.block.closes fun _ => .pure 0 _) (.pure 0 _)

theorem closes_finally_clause : Closes 0 (finallyClause g) :=
  .bind (closes_accept_keyword _) fun _ => .ite (.bind closed.block.closes fun _ => .pure 0 _) (.pure 0 _)

theorem reads_try_statement : Reads 0 (tryStatement g) :=
  .first (reads_expect_keyword _) fun _ => .bind closed.block.closes fun _ => .bind (closes_catch_clause closed) fun _ =>
    .bind (closes_finally_clause closed) fun _ => .ite (.bind (.fail 0 _) fun _ => .pure 0 _) (.pure 0 _)

theorem closes_case_test : Closes 0 (caseTest g) :=
  .bind (closes_accept_keyword _) fun _ => .ite
    (.bind (reads_expression closed).closes.allowingIn fun _ => .pure 0 _)
    (.bind (reads_expect _ _ (by simp)).closes fun _ => .pure 0 _)

theorem closes_case_body_round (body : Body) : Closes 0 (caseBodyRound g body) :=
  .bind (closes_check _) fun _ => .bind (closes_check _) fun _ => .bind (closes_check _) fun _ => .ite (.pure 0 _)
    (.bind (looks_at_end.closes 0) fun _ => .ite
      (.bind (closes_unexpected _) fun _ => .bind closed.statement.closes fun _ => .pure 0 _)
      (.bind closed.statement.closes fun _ => .pure 0 _))

theorem closes_switch_case : Closes 0 (switchCase g) :=
  .bind (closes_case_test closed) fun _ => .bind (closes_expect_punct .colon (by decide)) fun _ =>
    .bind (closes_repeat_rounds (fun _ => .plain (closes_case_body_round closed _)) _) fun _ => .pure 0 _

theorem round_closes_switch (cases : List SwitchCase) : RoundCloses 1 (switchRound g cases) :=
  .close rfl (.bind (closes_switch_case closed) fun _ => .pure 0 _)

theorem reads_switch_statement : Reads 0 (switchStatement g) :=
  .later (reads_expect_keyword _).closes fun _ => .later (closes_paren_expression closed) fun _ => .braced fun _ =>
    .andThen (closes_repeat_rounds (round_closes_switch closed) _) fun _ => .pure 0 _

omit closed in
theorem closes_jump_label : Closes 0 jumpLabel := .peek fun token => by
  split
  · next kind =>
      exact .ite ((Closes.bind closes_consume_semicolon fun _ => .pure 0 _).at token)
        (.advance (by simp [kind]) fun _ => .bind closes_consume_semicolon fun _ => .pure 0 _)
  · exact (Closes.bind closes_consume_semicolon fun _ => .pure 0 _).at token

theorem closes_for_init : Closes 0 (forInit g) :=
  .bind (closes_accept_keyword _) fun _ => .ite (.bind (closes_var_declarations closed _) fun _ => .pure 0 _)
    (.bind (closes_accept_keyword _) fun _ => .ite (.bind (closes_var_declarations closed _) fun _ => .pure 0 _)
      (.check fun token => .look looks_let_declares fun declares => by
        split
        · next here =>
            have kind : token.kind = .identifier "let" := by simp_all
            exact .advance (by simp [kind]) fun _ => .bind (closes_var_declarations closed _) fun _ => .pure 0 _
        · exact (Closes.bind (reads_expression closed).closes fun _ => .pure 0 _).at token))

theorem closes_optional_expression (close : Punct) : Closes 0 (optionalExpression g close) :=
  .bind (closes_check _) fun _ => .ite (.pure 0 _) (.bind (reads_expression closed).closes.allowingIn fun _ => .pure 0 _)

theorem closes_for_tail (init : Option ForInit) : Closes 0 (forTail g init) :=
  .bind (closes_expect_punct .semi (by decide)) fun _ => .bind (closes_optional_expression closed _) fun _ =>
    .bind (closes_expect_punct .semi (by decide)) fun _ => .bind (closes_optional_expression closed _) fun _ =>
      .bind (closes_expect_punct .rParen (by decide)) fun _ => .bind closed.statement.closes fun _ => .pure 0 _

theorem closes_for_each_tail (token : Token) (notClosing : token.kind ≠ .punct .rBrace) (left : ForInit)
    (ofKeys : Bool) : ClosesAt token 0 (forEachTail g left ofKeys) := by
  have tail : ∀ right, Closes 0 (do
      let _ ← expectPunct .rParen
      return Statement.forEach left ofKeys right (← g.statement)) :=
    fun _ => .bind (closes_expect_punct .rParen (by decide)) fun _ => .bind closed.statement.closes fun _ => .pure 0 _
  exact .advance notClosing fun _ => .ite (.bind (reads_expression closed).closes.allowingIn fun _ => tail _)
    (.bind closed.assignment.closes.allowingIn fun _ => tail _)

theorem reads_for_statement : Reads 0 (forStatement g) :=
  .first (reads_expect_keyword _) fun _ => .bind (closes_accept_word _) fun _ =>
    .bind (closes_expect_punct .lParen (by decide)) fun _ => .bind (closes_check _) fun _ => .ite
      (closes_for_tail closed none)
      (.bind (closes_for_init closed).forbiddingIn fun init => .check fun token => by
        split
        · next here => exact closes_for_each_tail closed token (by simp_all) init false
        · exact (Closes.check fun next => by
            split
            · next here => exact closes_for_each_tail closed next (by simp_all) init true
            · exact (closes_for_tail closed _).at next).at token)

theorem reads_expression_statement : Reads 0 (expressionStatement g) :=
  .first (reads_expression closed) fun _ => .bind closes_consume_semicolon fun _ => .pure 0 _

theorem reads_import_statement : Reads 0 (importStatement g) :=
  .later ((looks_peek_at 1).closes 0) fun token => by
    split
    · exact reads_expression_statement closed
    · exact reads_expression_statement closed
    · exact reads_import_declaration

-- The second token that is read is the colon, as the caller has seen.
theorem labeled_statement_passes (label : String) (context : Context) (state : State)
    (named : state.peek.kind = .identifier label) (labels : (state.peekAt 1).kind = .punct .colon) :
    Passes 0 state (labeledStatement g label context state).state := by
  have atColon : state.advance.peek = state.peekAt 1 := advance_peek state (by simp [named]) (by simp [labels])
  have name := advance_passes state (by simp [named])
  have colon := advance_passes state.advance (by simp [atColon, labels])
  have statement : Closes 0 (do return Statement.labeled label (← g.statement)) :=
    .bind closed.statement.closes fun _ => .pure 0 _
  exact passes_trans (passes_trans name colon) (statement context state.advance.advance)

theorem reads_named_statement (token : Token) (name : String) (kind : token.kind = .identifier name) :
    ReadsAt token 0 (namedStatement g name) := by
  have second : Closes 1 (do
      let _ ← advance
      return Statement.labeled name (← g.statement)) :=
    .andThen (fun _ state => advance_closes_one state) fun _ => .bind closed.statement.closes fun _ => .pure 0 _
  refine .look looks_let_declares fun declares => .ite (reads_var_statement closed token (by simp [kind]) _) ?_
  refine .look looks_async_function_ahead fun ahead => .ite
    (.advance (by simp [kind]) fun _ => .bind (reads_function_from closed true true).closes fun _ => .pure 0 _) ?_
  constructor
  · intro context state same
    rw [bind_run]
    by_cases labels : (state.peekAt 1).kind = .punct .colon
    · have passed := labeled_statement_passes closed name context state (by rw [same, kind]) labels
      simpa [peekAt, labels] using passed
    · have passed := (reads_expression_statement closed).closes context state
      simpa [peekAt, labels] using passed
  · have labeled : ReadsAt token 1 (labeledStatement g name) := .advance (by simp [kind]) fun _ => second
    have either : ∀ next : Token, ShortensAt token
        (if next.kind == .punct .colon then labeledStatement g name else expressionStatement g) := by
      intro next
      split
      · exact labeled.shortens
      · exact ((reads_expression_statement closed).at token).shortens
    exact fun context state value after same => either (state.peekAt 1) context state value after same

theorem reads_plain_statement (token : Token) : ReadsAt token 0 (plainStatement g token.kind) := by
  unfold plainStatement
  split
  · next kind => exact .advance (by simp [kind]) fun _ => .pure 0 _
  · next name kind => exact reads_named_statement closed token name kind
  · next kind => exact reads_var_statement closed token (by simp [kind]) _
  · next kind => exact reads_var_statement closed token (by simp [kind]) _
  · exact (Reads.first (reads_function_from closed _ _) fun _ => .pure 0 _).at token
  · exact (Reads.first (reads_class_from closed (reads_call_member closed).closes _) fun _ => .pure 0 _).at token
  · exact (reads_if_statement closed).at token
  · exact (reads_for_statement closed).at token
  · next kind => exact reads_while_statement closed token (by simp [kind])
  · next kind => exact reads_do_statement closed token (by simp [kind])
  · next kind => exact reads_with_statement closed token (by simp [kind])
  · next kind => exact reads_return_statement closed token (by simp [kind])
  · next kind => exact reads_throw_statement closed token (by simp [kind])
  · exact (reads_try_statement closed).at token
  · exact (reads_switch_statement closed).at token
  · next kind => exact .advance (by simp [kind]) fun _ => .bind closes_jump_label fun _ => .pure 0 _
  · next kind => exact .advance (by simp [kind]) fun _ => .bind closes_jump_label fun _ => .pure 0 _
  · next kind => exact .advance (by simp [kind]) fun _ => .bind closes_consume_semicolon fun _ => .pure 0 _
  · exact (reads_import_statement closed).at token
  · exact (reads_export_declaration closed).at token
  · exact (reads_expression_statement closed).at token

theorem reads_statement_body : Reads 0 (statementBody g) := .peek fun token => by
  split
  · exact (Reads.first closed.block fun _ => .pure 0 _).at token
  · exact (reads_plain_statement closed token).bind fun _ => closes_spanned_from _ _

end

end ScriptSuite.Script
