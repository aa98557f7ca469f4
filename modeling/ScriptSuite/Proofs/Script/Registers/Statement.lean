import ScriptSuite.Proofs.Script.Registers.Expression

set_option autoImplicit false

namespace ScriptSuite.Script

section

variable {sight : Sight} {levels : Nat}

theorem follows_module_name : Follows sight levels moduleName :=
  .bind follows_peek fun _ => by
    split
    · exact .bind follows_advance fun _ => .pure _
    · exact follows_identifier_name

theorem follows_imported_name : Follows sight levels importedName :=
  .bind follows_module_name fun _ => .bind (follows_accept_word _) fun _ => .ite
    (.bind follows_identifier fun _ => .pure _) (.pure _)

theorem follows_imported_names : Follows sight levels importedNames :=
  .bind (follows_accept_punct _) fun _ => .ite
    (.bind (follows_expect_word _) fun _ => .bind follows_identifier fun _ => .pure _)
    (.bind (follows_accept_punct _) fun _ => .ite (follows_names_list follows_imported_name) (follows_unexpected _))

theorem follows_import_specifiers : Follows sight levels importSpecifiers :=
  .bind follows_peek fun _ => by
    split
    · exact .bind follows_identifier fun _ => .bind (follows_accept_punct _) fun _ => .ite
        (.bind follows_imported_names fun _ => .pure _) (.pure _)
    · exact follows_imported_names

theorem follows_import_declaration : Follows sight levels importDeclaration :=
  .bind (follows_expect_keyword _) fun _ => .bind follows_peek fun _ => by
    split
    · exact .bind follows_advance fun _ => .bind follows_consume_semicolon fun _ => .pure _
    · exact .bind follows_import_specifiers fun _ => .bind (follows_expect_word _) fun _ =>
        .bind follows_string_literal fun _ => .bind follows_consume_semicolon fun _ => .pure _

theorem follows_exported_alias : Follows sight levels exportedAlias :=
  .bind (follows_accept_word _) fun _ => .ite (.bind follows_module_name fun _ => .pure _) (.pure _)

theorem follows_exported_all : Follows sight levels exportedAll :=
  .bind follows_exported_alias fun _ => .bind (follows_expect_word _) fun _ => .bind follows_string_literal fun _ =>
    .bind follows_consume_semicolon fun _ => .pure _

theorem follows_exported_name : Follows sight levels exportedName :=
  .bind follows_module_name fun _ => .bind (follows_accept_word _) fun _ => .ite
    (.bind follows_module_name fun _ => .pure _) (.pure _)

theorem follows_exported_source : Follows sight levels exportedSource :=
  .bind (follows_accept_word _) fun _ => .ite (.bind follows_string_literal fun _ => .pure _) (.pure _)

theorem follows_exported_names : Follows sight levels exportedNames :=
  .bind (follows_names_list follows_exported_name) fun _ => .bind follows_exported_source fun _ =>
    .bind follows_consume_semicolon fun _ => .pure _

theorem follows_let_declares : Follows sight levels letDeclares :=
  .bind (follows_peek_at 1) fun _ => by
    split
    · exact .pure _
    · exact .pure _
    · exact .pure _

theorem follows_declaration_ahead : Follows sight levels declarationAhead :=
  .bind follows_peek fun _ => by
    split
    · exact .pure _
    · exact follows_let_declares
    · exact follows_async_function_ahead
    · exact .pure _

theorem follows_jump_label : Follows sight levels jumpLabel :=
  .bind follows_peek fun _ => by
    split
    · exact .ite (.bind follows_consume_semicolon fun _ => .pure _)
        (.bind follows_advance fun _ => .bind follows_consume_semicolon fun _ => .pure _)
    · exact .bind follows_consume_semicolon fun _ => .pure _

theorem follows_recover (before : List Token) {error : SyntaxError} (marked : sight.marked error.span) :
    Follows sight levels (recover before error) :=
  .bind follows_at_end fun _ => .check (follows_fail marked) fun _ =>
    .bind (follows_record_error marked) fun _ => .bind follows_synchronize fun _ => .bind follows_upcoming fun _ =>
      .bind (follows_check_punct _) fun _ => .ite (.bind follows_advance fun _ => .pure _) (.pure _)

end

section

variable {sight : Sight} {levels : Nat} {g : Grammar} (entries : g.Followed sight levels)
include entries

theorem follows_exported_default : Follows sight levels (exportedDefault g) := by
  have functions : ∀ start : Nat, Follows sight levels (do
      let isAsync ← acceptWord "async"
      let function ← functionFrom g isAsync false
      spannedFrom start (Expr.function function)) :=
    fun _ => .bind (follows_accept_word _) fun _ => .bind (follows_function_from entries _ _) fun _ =>
      follows_spanned_from _ _
  exact .bind follows_start_offset fun start => .bind (follows_check_keyword _) fun _ => .bind (follows_check_word _) fun _ =>
    .bind follows_async_function_ahead fun _ => .ite (functions start)
      (.bind (follows_check_keyword _) fun _ => .ite
        (.bind (follows_class_from entries (follows_call_member entries) false) fun _ => follows_spanned_from _ _)
        (.bind entries.assignment.allowingIn fun _ => .bind follows_consume_semicolon fun _ => .pure _))

theorem follows_export_declaration : Follows sight levels (exportDeclaration g) :=
  .bind (follows_expect_keyword _) fun _ => .bind (follows_accept_keyword _) fun _ => .ite
    (.bind (follows_exported_default entries) fun _ => .pure _)
    (.bind (follows_accept_punct _) fun _ => .ite follows_exported_all
      (.bind (follows_accept_punct _) fun _ => .ite follows_exported_names
        (.bind follows_declaration_ahead fun _ => .ite (.bind entries.statement fun _ => .pure _)
          (follows_unexpected _))))

theorem follows_var_statement (kind : VarKind) : Follows sight levels (varStatement g kind) :=
  .bind follows_advance fun _ => .bind (follows_var_declarations entries kind) fun _ =>
    .bind follows_consume_semicolon fun _ => .pure _

theorem follows_paren_expression : Follows sight levels (parenExpression g) :=
  .bind (follows_expect_punct _) fun _ => .bind (follows_expression entries).allowingIn fun _ =>
    .bind (follows_expect_punct _) fun _ => .pure _

theorem follows_if_statement : Follows sight levels (ifStatement g) :=
  .bind (follows_expect_keyword _) fun _ => .bind (follows_paren_expression entries) fun _ =>
    .bind entries.statement fun _ => .bind (follows_accept_keyword _) fun _ => .ite
      (.bind entries.statement fun _ => .pure _) (.pure _)

theorem follows_while_statement : Follows sight levels (whileStatement g) :=
  .bind follows_advance fun _ => .bind (follows_paren_expression entries) fun _ => .bind entries.statement fun _ => .pure _

theorem follows_do_statement : Follows sight levels (doStatement g) :=
  .bind follows_advance fun _ => .bind entries.statement fun _ => .bind (follows_expect_keyword _) fun _ =>
    .bind (follows_paren_expression entries) fun _ => .bind (follows_accept_punct _) fun _ => .pure _

theorem follows_with_statement : Follows sight levels (withStatement g) :=
  .bind follows_advance fun _ => .bind (follows_paren_expression entries) fun _ => .bind entries.statement fun _ => .pure _

theorem follows_return_statement : Follows sight levels (returnStatement g) :=
  .bind follows_advance fun _ => .bind follows_peek fun _ => .ite
    (.bind follows_consume_semicolon fun _ => .pure _)
    (.bind (follows_expression entries) fun _ => .bind follows_consume_semicolon fun _ => .pure _)

theorem follows_throw_statement : Follows sight levels (throwStatement g) :=
  .bind follows_advance fun _ => .given gives_peek fun next seen => .check (follows_fail (sight.spans next seen)) fun _ =>
    .bind (follows_expression entries) fun _ => .bind follows_consume_semicolon fun _ => .pure _

theorem follows_catch_param : Follows sight levels (catchParam g) :=
  .bind (follows_accept_punct _) fun _ => .ite
    (.bind entries.bindingTarget fun _ => .bind (follows_expect_punct _) fun _ => .pure _) (.pure _)

theorem follows_catch_clause : Follows sight levels (catchClause g) :=
  .bind (follows_accept_keyword _) fun _ => .ite
    (.bind (follows_catch_param entries) fun _ => .bind entries.block fun _ => .pure _) (.pure _)

theorem follows_finally_clause : Follows sight levels (finallyClause g) :=
  .bind (follows_accept_keyword _) fun _ => .ite (.bind entries.block fun _ => .pure _) (.pure _)

theorem follows_try_statement : Follows sight levels (tryStatement g) :=
  .given (gives_expect _ _) fun keyword seen => .bind entries.block fun _ => .bind (follows_catch_clause entries) fun _ =>
    .bind (follows_finally_clause entries) fun _ => .check (follows_fail (sight.spans keyword seen)) fun _ => .pure _

theorem follows_case_test : Follows sight levels (caseTest g) :=
  .bind (follows_accept_keyword _) fun _ => .ite (.bind (follows_expression entries).allowingIn fun _ => .pure _)
    (.bind (follows_expect _ _) fun _ => .pure _)

theorem follows_case_body_round (body : Body) : Follows sight levels (caseBodyRound g body) :=
  .bind (follows_check_keyword _) fun _ => .bind (follows_check_keyword _) fun _ => .bind (follows_check_punct _) fun _ =>
    .ite (.pure _) (.bind follows_at_end fun _ => .ite
      (.bind (follows_unexpected _) fun _ => .bind entries.statement fun _ => .pure _)
      (.bind entries.statement fun _ => .pure _))

theorem follows_switch_case : Follows sight levels (switchCase g) :=
  .bind (follows_case_test entries) fun _ => .bind (follows_expect_punct _) fun _ =>
    .bind (follows_repeat_rounds (follows_case_body_round entries) _) fun _ => .pure _

theorem follows_switch_round (cases : List SwitchCase) : Follows sight levels (switchRound g cases) :=
  .bind (follows_accept_punct _) fun _ => .ite (.pure _) (.bind (follows_switch_case entries) fun _ => .pure _)

theorem follows_switch_statement : Follows sight levels (switchStatement g) :=
  .bind (follows_expect_keyword _) fun _ => .bind (follows_paren_expression entries) fun _ =>
    .bind (follows_expect_punct _) fun _ => .bind (follows_repeat_rounds (follows_switch_round entries) _) fun _ => .pure _

theorem follows_for_init : Follows sight levels (forInit g) :=
  .bind (follows_accept_keyword _) fun _ => .ite (.bind (follows_var_declarations entries _) fun _ => .pure _)
    (.bind (follows_accept_keyword _) fun _ => .ite (.bind (follows_var_declarations entries _) fun _ => .pure _)
      (.bind (follows_check_word _) fun _ => .bind follows_let_declares fun _ => .ite
        (.bind follows_advance fun _ => .bind (follows_var_declarations entries _) fun _ => .pure _)
        (.bind (follows_expression entries) fun _ => .pure _)))

theorem follows_optional_expression (close : Punct) : Follows sight levels (optionalExpression g close) :=
  .bind (follows_check_punct _) fun _ => .ite (.pure _) (.bind (follows_expression entries).allowingIn fun _ => .pure _)

theorem follows_for_tail (init : Option ForInit) : Follows sight levels (forTail g init) :=
  .bind (follows_expect_punct _) fun _ => .bind (follows_optional_expression entries _) fun _ =>
    .bind (follows_expect_punct _) fun _ => .bind (follows_optional_expression entries _) fun _ =>
      .bind (follows_expect_punct _) fun _ => .bind entries.statement fun _ => .pure _

theorem follows_for_each_tail (left : ForInit) (ofKeys : Bool) : Follows sight levels (forEachTail g left ofKeys) := by
  have tail : ∀ right, Follows sight levels (do
      let _ ← expectPunct .rParen
      return Statement.forEach left ofKeys right (← g.statement)) :=
    fun _ => .bind (follows_expect_punct _) fun _ => .bind entries.statement fun _ => .pure _
  exact .bind follows_advance fun _ => .ite (.bind (follows_expression entries).allowingIn fun _ => tail _)
    (.bind entries.assignment.allowingIn fun _ => tail _)

theorem follows_for_statement : Follows sight levels (forStatement g) :=
  .bind (follows_expect_keyword _) fun _ => .bind (follows_accept_word _) fun _ => .bind (follows_expect_punct _) fun _ =>
    .bind (follows_check_punct _) fun _ => .ite (follows_for_tail entries none)
      (.bind (follows_for_init entries).forbiddingIn fun init => .bind (follows_check_word _) fun _ => .ite
        (follows_for_each_tail entries init false)
        (.bind (follows_check_keyword _) fun _ => .ite (follows_for_each_tail entries init true)
          (follows_for_tail entries _)))

theorem follows_expression_statement : Follows sight levels (expressionStatement g) :=
  .bind (follows_expression entries) fun _ => .bind follows_consume_semicolon fun _ => .pure _

theorem follows_labeled_statement (label : String) : Follows sight levels (labeledStatement g label) :=
  .bind follows_advance fun _ => .bind follows_advance fun _ => .bind entries.statement fun _ => .pure _

theorem follows_named_statement (name : String) : Follows sight levels (namedStatement g name) :=
  .bind follows_let_declares fun _ => .ite (follows_var_statement entries _)
    (.bind follows_async_function_ahead fun _ => .ite
      (.bind follows_advance fun _ => .bind (follows_function_from entries true true) fun _ => .pure _)
      (.bind (follows_peek_at 1) fun _ => .ite (follows_labeled_statement entries name)
        (follows_expression_statement entries)))

theorem follows_import_statement : Follows sight levels (importStatement g) :=
  .bind (follows_peek_at 1) fun _ => by
    split
    · exact follows_expression_statement entries
    · exact follows_expression_statement entries
    · exact follows_import_declaration

theorem follows_plain_statement (first : TokenKind) : Follows sight levels (plainStatement g first) := by
  unfold plainStatement
  split
  · exact .bind follows_advance fun _ => .pure _
  · exact follows_named_statement entries _
  · exact follows_var_statement entries _
  · exact follows_var_statement entries _
  · exact .bind (follows_function_from entries _ _) fun _ => .pure _
  · exact .bind (follows_class_from entries (follows_call_member entries) _) fun _ => .pure _
  · exact follows_if_statement entries
  · exact follows_for_statement entries
  · exact follows_while_statement entries
  · exact follows_do_statement entries
  · exact follows_with_statement entries
  · exact follows_return_statement entries
  · exact follows_throw_statement entries
  · exact follows_try_statement entries
  · exact follows_switch_statement entries
  · exact .bind follows_advance fun _ => .bind follows_jump_label fun _ => .pure _
  · exact .bind follows_advance fun _ => .bind follows_jump_label fun _ => .pure _
  · exact .bind follows_advance fun _ => .bind follows_consume_semicolon fun _ => .pure _
  · exact follows_import_statement entries
  · exact follows_export_declaration entries
  · exact follows_expression_statement entries

theorem follows_statement_body : Follows sight levels (statementBody g) :=
  .bind follows_peek fun token => .ite (.bind entries.block fun _ => .pure _)
    (.bind (follows_plain_statement entries token.kind) fun _ => follows_spanned_from _ _)

theorem follows_block_round {brace : Span} (marked : sight.marked brace) (body : Body) :
    Follows sight levels (blockRound g brace body) :=
  .bind (follows_check_punct _) fun _ => .ite (.bind follows_advance fun _ => .pure _)
    (.bind follows_at_end fun _ => .check (follows_fail marked) fun _ => .bind follows_upcoming fun before =>
      .given (gives_attempt entries.statement) fun result named => by
        cases result with
        | ok statement => exact .pure _
        | error error => exact .bind (follows_recover before named) fun _ => .pure _)

theorem follows_block_body : Follows sight levels (blockBody g) :=
  .given (gives_expect _ _) fun brace seen =>
    follows_repeat_rounds (follows_block_round entries (sight.spans brace seen)) []

theorem follows_program_round (body : Body) : Follows sight levels (programRound g body) :=
  .bind follows_at_end fun _ => .ite (.pure _) (.bind entries.statement fun _ => .pure _)

theorem follows_program_body : Follows sight levels (programBody g) :=
  follows_repeat_rounds (follows_program_round entries) []

end

theorem of_levels_followed (sight : Sight) (levels : Nat) : (Grammar.ofLevels levels).Followed sight levels := by
  induction levels with
  | zero =>
      exact ⟨follows_too_deep, follows_too_deep, follows_too_deep, follows_too_deep, fun _ => follows_too_deep,
        follows_too_deep, follows_too_deep⟩
  | succ levels ih =>
      exact ⟨.nested .statement (follows_statement_body ih), .nested .block (follows_block_body ih),
        .nested .bindingTarget (follows_binding_target_body ih), .nested .assignment (follows_assignment_body ih),
        fun precedence => .nested (.binary precedence) (follows_binary_from ih precedence),
        .nested .unary (follows_unary_body ih), .nested .newExpression (follows_new_expression_body ih)⟩

end ScriptSuite.Script
