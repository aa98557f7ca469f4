import ScriptSuite.Proofs.Script.FunctionBody
import ScriptSuite.Proofs.Script.Rounds

/-!
The parser gets on. No method moves the cursor backwards or over the end of the file, and every round of a loop that
asks for another one has read a token, so that what ends a loop or a nest of heritages is never the bound on it.
-/
set_option autoImplicit false

namespace ScriptSuite.Script

variable {α β σ : Type}

def Moves (parser : Parser α) : Prop :=
  ∀ context state, Consumes state.rest (parser context state).state.rest

theorem Closes.moves {count : Nat} {parser : Parser α} (closes : Closes count parser) : Moves parser :=
  fun context state => (closes context state).consumed

theorem Reads.moves {count : Nat} {parser : Parser α} (reads : Reads count parser) : Moves parser :=
  reads.closes.moves

theorem RoundCloses.moves {count : Nat} {round : Parser (Round σ α)} (closes : RoundCloses count round) :
    Moves round := by
  intro context state
  have passed := closes context state
  cases result : round context state with
  | ok step after =>
      rw [result] at passed
      cases step with
      | again next => exact passed.consumed
      | done value => exact passed.consumed
  | error error after =>
      rw [result] at passed
      exact passed.consumed

theorem Moves.pure (value : α) : Moves (Pure.pure value : Parser α) :=
  (Closes.pure 0 value).moves

theorem Moves.bind {first : Parser α} {second : α → Parser β} (one : Moves first)
    (two : ∀ value, Moves (second value)) : Moves (first >>= second) := by
  intro context state
  have moved := one context state
  rw [bind_run]
  cases result : first context state with
  | ok value after =>
      rw [result] at moved
      exact consumes_trans moved (two value context after)
  | error error after =>
      rw [result] at moved
      exact moved

theorem Moves.ite {condition : Prop} [Decidable condition] {yes no : Parser α} (one : Moves yes) (two : Moves no) :
    Moves (if condition then yes else no) := by
  split
  · exact one
  · exact two

theorem moves_advance : Moves advance :=
  fun _ state => (advance_closes_one state).consumed

theorem Moves.advance {next : Token → Parser α} (moves : ∀ token, Moves (next token)) :
    Moves (ScriptSuite.Script.advance >>= next) :=
  .bind moves_advance moves

theorem moves_accept (kind : TokenKind) : Moves (accept kind) :=
  .bind (closes_check kind).moves fun _ => .ite (.advance fun _ => .pure true) (.pure false)

theorem moves_expect (kind : TokenKind) (wanted : Expectation) : Moves (expect kind wanted) :=
  .bind (closes_check kind).moves fun _ => .ite moves_advance (closes_unexpected wanted).moves

theorem moves_recover (before : List Token) (error : SyntaxError) : Moves (recover before error) := by
  intro context state
  rw [recover_run]
  split
  · exact consumes_refl _
  · exact (resuming_passes state before error).consumed

inductive Production (g : Grammar) : {α : Type} → Parser α → Prop where
  | advance : Production g advance
  | accept (kind : TokenKind) : Production g (accept kind)
  | expect (kind : TokenKind) (wanted : Expectation) : Production g (expect kind wanted)
  | identifier : Production g identifier
  | identifierName : Production g identifierName
  | stringLiteral : Production g stringLiteral
  | consumeSemicolon : Production g consumeSemicolon
  | propertyKey : Production g (propertyKey g)
  | bindingElement : Production g (bindingElement g)
  | restElement : Production g (restElement g)
  | bindingOrRest : Production g (bindingOrRest g)
  | patternProp : Production g (patternProp g)
  | objectPattern : Production g (objectPattern g)
  | arrayPattern : Production g (arrayPattern g)
  | bindingPattern : Production g (bindingPattern g)
  | bindingTarget : Production g (bindingTargetBody g)
  | formalParams : Production g (formalParams g)
  | declarator : Production g (declarator g)
  | varDeclarations (kind : VarKind) : Production g (varDeclarations g kind)
  | functionTail (isAsync isGenerator : Bool) : Production g (functionTail g isAsync isGenerator)
  | declaredName (required : Bool) (wanted : Expectation) : Production g (declaredName required wanted)
  | functionFrom (isAsync requireName : Bool) : Production g (functionFrom g isAsync requireName)
  | asyncModifier : Production g asyncModifier
  | accessorModifier : Production g accessorModifier
  | methodModifiers : Production g methodModifiers
  | methodFunction (modifiers : MethodModifiers) : Production g (methodFunction g modifiers)
  | keyedMember (isStatic : Bool) : Production g (keyedMember g isStatic)
  | classMember : Production g (classMember g)
  | classFrom (requireName : Bool) : Production g (classFrom g (callMember g) requireName)
  | expression : Production g (expression g)
  | assignment : Production g (assignmentBody g)
  | assignmentTail : Production g (assignmentTail g)
  | arrowFunction : Production g (arrowFunction g)
  | arrowParams (isAsync : Bool) : Production g (arrowParams g isAsync)
  | arrowBody (isAsync : Bool) : Production g (arrowBody g isAsync)
  | yieldDelegate : Production g yieldDelegate
  | yieldExpression : Production g (yieldExpression g)
  | conditional : Production g (conditional g)
  | binary (minPrecedence : Nat) : Production g (binaryFrom g minPrecedence)
  | unary : Production g (unaryBody g)
  | postfixUpdate (start : Nat) : Production g (postfixUpdate g start)
  | newExpression : Production g (newExpressionBody g)
  | callMember : Production g (callMember g)
  | chainLink (object : Spanned Expr) : Production g (chainLink g object)
  | optionalLink (object : Spanned Expr) : Production g (optionalLink g object)
  | memberOnly : Production g (memberOnly g (callMember g))
  | primary : Production g (primary g (callMember g))
  | primaryExpr (token : Token) : Production g (primaryExpr g (callMember g) token)
  | consuming (value : Expr) : Production g (consuming value)
  | nameOrAsyncFunction (name : String) : Production g (nameOrAsyncFunction g name)
  | parenthesized : Production g (parenthesized g)
  | importExpression (keyword : Token) : Production g (importExpression g keyword)
  | template (parts : List TemplatePart) : Production g (template g parts)
  | substitution (source : String) (offset : Nat) : Production g (substitution g source offset)
  | computedProperty : Production g (computedProperty g)
  | spreadOrAssignment : Production g (spreadOrAssignment g)
  | arguments : Production g (arguments g)
  | arrayLiteral : Production g (arrayLiteral g)
  | objectLiteral : Production g (objectLiteral g)
  | property : Production g (property g)
  | keyedProperty : Production g (keyedProperty g)
  | shorthandProperty (name : String) : Production g (shorthandProperty g name)
  | moduleName : Production g moduleName
  | importedName : Production g importedName
  | importedNames : Production g importedNames
  | importSpecifiers : Production g importSpecifiers
  | importDeclaration : Production g importDeclaration
  | exportedDefault : Production g (exportedDefault g)
  | exportedAlias : Production g exportedAlias
  | exportedAll : Production g exportedAll
  | exportedName : Production g exportedName
  | exportedSource : Production g exportedSource
  | exportedNames : Production g exportedNames
  | exportDeclaration : Production g (exportDeclaration g)
  | varStatement (kind : VarKind) : Production g (varStatement g kind)
  | parenExpression : Production g (parenExpression g)
  | ifStatement : Production g (ifStatement g)
  | whileStatement : Production g (whileStatement g)
  | doStatement : Production g (doStatement g)
  | withStatement : Production g (withStatement g)
  | returnStatement : Production g (returnStatement g)
  | throwStatement : Production g (throwStatement g)
  | catchParam : Production g (catchParam g)
  | catchClause : Production g (catchClause g)
  | finallyClause : Production g (finallyClause g)
  | tryStatement : Production g (tryStatement g)
  | caseTest : Production g (caseTest g)
  | switchCase : Production g (switchCase g)
  | switchStatement : Production g (switchStatement g)
  | jumpLabel : Production g jumpLabel
  | forInit : Production g (forInit g)
  | optionalExpression (close : Punct) : Production g (optionalExpression g close)
  | forTail (init : Option ForInit) : Production g (forTail g init)
  | forEachTail (left : ForInit) (ofKeys : Bool) : Production g (forEachTail g left ofKeys)
  | forStatement : Production g (forStatement g)
  | expressionStatement : Production g (expressionStatement g)
  | labeledStatement (label : String) : Production g (labeledStatement g label)
  | namedStatement (name : String) : Production g (namedStatement g name)
  | importStatement : Production g (importStatement g)
  | emptyStatement : Production g emptyStatement
  | debuggerStatement : Production g debuggerStatement
  | breakStatement : Production g breakStatement
  | continueStatement : Production g continueStatement
  | plainStatement (first : TokenKind) : Production g (plainStatement g first)
  | statement : Production g (statementBody g)
  | synchronize : Production g synchronize
  | recover (before : List Token) (error : SyntaxError) : Production g (recover before error)
  | block : Production g (blockBody g)
  | program : Production g (programBody g)

-- The loops of the parser, each by what one round of it does.
inductive Repetition (g : Grammar) : {σ α : Type} → (σ → Parser (Round σ α)) → Prop where
  | program : Repetition g (programRound g)
  | block (brace : Span) : Repetition g (blockRound g brace)
  | classBody (brace : Span) : Repetition g (classMemberRound g brace)
  | switch : Repetition g (switchRound g)
  | caseBody : Repetition g (caseBodyRound g)
  | importedNames : Repetition g (namesRound importedName)
  | exportedNames : Repetition g (namesRound exportedName)
  | params : Repetition g (commaRound .rParen (bindingOrRest g))
  | arguments : Repetition g (commaRound .rParen (spreadOrAssignment g))
  | properties : Repetition g (commaRound .rBrace (property g))
  | patternProps : Repetition g (commaRound .rBrace (patternProp g))
  | arrayItems : Repetition g (holedRound .rBracket (spreadOrAssignment g))
  | arrayPatternItems : Repetition g (holedRound .rBracket (bindingOrRest g))
  | declarators : Repetition g (declaratorRound g)
  | sequence : Repetition g (sequenceRound g)
  | binary (start minPrecedence : Nat) : Repetition g (binaryRound g start minPrecedence)
  | chain (start : Nat) : Repetition g (chainRound g start)
  | members (start : Nat) : Repetition g (memberRound g start)

section

variable {g : Grammar} (closed : g.Closed)
include closed

theorem moves_function_from (isAsync requireName : Bool) : Moves (functionFrom g isAsync requireName) :=
  (reads_function_from closed isAsync requireName).moves

theorem moves_class_from (requireName : Bool) : Moves (classFrom g (callMember g) requireName) :=
  (reads_class_from closed (reads_call_member closed).closes requireName).moves

theorem moves_expression : Moves (expression g) :=
  (reads_expression closed).moves

omit closed in
theorem moves_consuming (value : Expr) : Moves (consuming value) :=
  .advance fun _ => .pure value

theorem moves_name_or_async_function (name : String) : Moves (nameOrAsyncFunction g name) :=
  .bind (looks_async_function_ahead.closes 0).moves fun _ => .ite
    (.advance fun _ => .bind (moves_function_from closed true false) fun _ => .pure _) (moves_consuming (.ident name))

theorem moves_primary_expr (token : Token) : Moves (primaryExpr g (callMember g) token) := by
  unfold primaryExpr
  split
  · exact moves_name_or_async_function closed _
  · exact moves_consuming _
  · exact moves_consuming _
  · exact moves_consuming _
  · exact moves_consuming _
  · exact .advance fun _ => .bind (closes_template _).moves fun _ => .pure _
  · exact moves_consuming _
  · exact moves_consuming _
  · exact moves_consuming _
  · exact moves_consuming _
  · exact moves_consuming _
  · exact .bind (moves_function_from closed false false) fun _ => .pure _
  · exact .bind (moves_class_from closed false) fun _ => .pure _
  · exact .advance fun keyword => (closes_import_expression closed keyword).moves
  · exact .advance fun _ => (closes_parenthesized closed).moves
  · exact .bind (reads_array_literal closed).moves fun _ => .pure _
  · exact .bind (reads_object_literal closed).moves fun _ => .pure _
  · exact (reads_unexpected _).moves

theorem moves_yield_expression : Moves (yieldExpression g) :=
  .bind closes_start_offset.moves fun _ => .advance fun _ => .bind closes_yield_delegate.moves fun _ =>
    .bind ((looks_peek_at 0).closes 0).moves fun _ => .ite
      (.bind closed.assignment.moves fun _ => (closes_spanned_from _ _).moves) (closes_spanned_from _ _).moves

theorem moves_var_statement (kind : VarKind) : Moves (varStatement g kind) :=
  .advance fun _ => .bind (closes_var_declarations closed kind).moves fun _ =>
    .bind closes_consume_semicolon.moves fun _ => .pure _

theorem moves_while_statement : Moves (whileStatement g) :=
  .advance fun _ => .bind (closes_paren_expression closed).moves fun _ => .bind closed.statement.moves fun _ => .pure _

theorem moves_do_statement : Moves (doStatement g) :=
  .advance fun _ => .bind closed.statement.moves fun _ => .bind (moves_expect _ _) fun _ =>
    .bind (closes_paren_expression closed).moves fun _ => .bind (moves_accept _) fun _ => .pure _

theorem moves_with_statement : Moves (withStatement g) :=
  .advance fun _ => .bind (closes_paren_expression closed).moves fun _ => .bind closed.statement.moves fun _ => .pure _

theorem moves_return_statement : Moves (returnStatement g) :=
  .advance fun _ => .bind ((looks_peek_at 0).closes 0).moves fun _ => .ite
    (.bind closes_consume_semicolon.moves fun _ => .pure _)
    (.bind (moves_expression closed) fun _ => .bind closes_consume_semicolon.moves fun _ => .pure _)

theorem moves_throw_statement : Moves (throwStatement g) := by
  have thrown : Moves (do
      let value ← expression g
      consumeSemicolon
      return Statement.throws value) :=
    .bind (moves_expression closed) fun _ => .bind closes_consume_semicolon.moves fun _ => .pure _
  exact .advance fun _ => .bind ((looks_peek_at 0).closes 0).moves fun _ => .ite
    (.bind (Closes.fail 0 _).moves fun _ => thrown) thrown

theorem moves_for_each_tail (left : ForInit) (ofKeys : Bool) : Moves (forEachTail g left ofKeys) := by
  have tail : ∀ right, Moves (do
      let _ ← expectPunct .rParen
      return Statement.forEach left ofKeys right (← g.statement)) :=
    fun _ => .bind (moves_expect _ _) fun _ => .bind closed.statement.moves fun _ => .pure _
  exact .advance fun _ => .ite (.bind (reads_expression closed).closes.allowingIn.moves fun _ => tail _)
    (.bind closed.assignment.closes.allowingIn.moves fun _ => tail _)

theorem moves_expression_statement : Moves (expressionStatement g) :=
  (reads_expression_statement closed).moves

theorem moves_labeled_statement (label : String) : Moves (labeledStatement g label) :=
  .advance fun _ => .advance fun _ => .bind closed.statement.moves fun _ => .pure _

theorem moves_named_statement (name : String) : Moves (namedStatement g name) :=
  .bind (looks_let_declares.closes 0).moves fun _ => .ite (moves_var_statement closed _)
    (.bind (looks_async_function_ahead.closes 0).moves fun _ => .ite
      (.advance fun _ => .bind (moves_function_from closed true true) fun _ => .pure _)
      (.bind ((looks_peek_at 1).closes 0).moves fun _ => .ite (moves_labeled_statement closed name)
        (moves_expression_statement closed)))

omit closed in
theorem moves_debugger_statement : Moves debuggerStatement :=
  .advance fun _ => .bind closes_consume_semicolon.moves fun _ => .pure _

omit closed in
theorem moves_break_statement : Moves breakStatement :=
  .advance fun _ => .bind closes_jump_label.moves fun _ => .pure _

omit closed in
theorem moves_continue_statement : Moves continueStatement :=
  .advance fun _ => .bind closes_jump_label.moves fun _ => .pure _

theorem moves_plain_statement (first : TokenKind) : Moves (plainStatement g first) := by
  unfold plainStatement
  split
  · exact .advance fun _ => .pure _
  · exact moves_named_statement closed _
  · exact moves_var_statement closed _
  · exact moves_var_statement closed _
  · exact .bind (moves_function_from closed false true) fun _ => .pure _
  · exact .bind (moves_class_from closed true) fun _ => .pure _
  · exact (reads_if_statement closed).moves
  · exact (reads_for_statement closed).moves
  · exact moves_while_statement closed
  · exact moves_do_statement closed
  · exact moves_with_statement closed
  · exact moves_return_statement closed
  · exact moves_throw_statement closed
  · exact (reads_try_statement closed).moves
  · exact (reads_switch_statement closed).moves
  · exact moves_break_statement
  · exact moves_continue_statement
  · exact moves_debugger_statement
  · exact (reads_import_statement closed).moves
  · exact (reads_export_declaration closed).moves
  · exact moves_expression_statement closed

theorem closes_program_round (body : Body) : Closes 0 (programRound g body) :=
  .bind (looks_at_end.closes 0) fun _ => .ite (.pure 0 _) (.bind closed.statement.closes fun _ => .pure 0 _)

theorem closes_program_body : Closes 0 (programBody g) :=
  closes_repeat_rounds (fun body => .plain (closes_program_round closed body)) []

theorem production_moves {parser : Parser α} (production : Production g parser) : Moves parser := by
  have ancestor := (reads_call_member closed).closes
  cases production with
  | advance => exact moves_advance
  | accept kind => exact moves_accept kind
  | expect kind wanted => exact moves_expect kind wanted
  | identifier => exact closes_identifier.moves
  | identifierName => exact closes_identifier_name.moves
  | stringLiteral => exact closes_string_literal.moves
  | consumeSemicolon => exact closes_consume_semicolon.moves
  | propertyKey => exact (closes_property_key closed).moves
  | bindingElement => exact (closes_binding_element closed).moves
  | restElement => exact (closes_rest_element closed).moves
  | bindingOrRest => exact (closes_binding_or_rest closed).moves
  | patternProp => exact (closes_pattern_prop closed).moves
  | objectPattern => exact (closes_object_pattern closed).moves
  | arrayPattern => exact (closes_array_pattern closed).moves
  | bindingPattern => exact (closes_binding_pattern closed).moves
  | bindingTarget => exact (closes_binding_target_body closed).moves
  | formalParams => exact (closes_formal_params closed).moves
  | declarator => exact (closes_declarator closed).moves
  | varDeclarations kind => exact (closes_var_declarations closed kind).moves
  | functionTail isAsync isGenerator => exact (closes_function_tail closed isAsync isGenerator).moves
  | declaredName required wanted => exact (closes_declared_name required wanted).moves
  | functionFrom isAsync requireName => exact moves_function_from closed isAsync requireName
  | asyncModifier => exact closes_async_modifier.moves
  | accessorModifier => exact closes_accessor_modifier.moves
  | methodModifiers => exact closes_method_modifiers.moves
  | methodFunction modifiers => exact (closes_method_function closed modifiers).moves
  | keyedMember isStatic => exact (closes_keyed_member closed isStatic).moves
  | classMember => exact (closes_class_member closed).moves
  | classFrom requireName => exact moves_class_from closed requireName
  | expression => exact moves_expression closed
  | assignment => exact (reads_assignment_body closed).moves
  | assignmentTail => exact (reads_assignment_tail closed).moves
  | arrowFunction => exact (reads_arrow_function closed).moves
  | arrowParams isAsync => exact (closes_arrow_params closed isAsync).moves
  | arrowBody isAsync => exact (closes_arrow_body closed isAsync).moves
  | yieldDelegate => exact closes_yield_delegate.moves
  | yieldExpression => exact moves_yield_expression closed
  | conditional => exact (reads_conditional closed).moves
  | binary minPrecedence => exact (reads_binary_from closed minPrecedence).moves
  | unary => exact (reads_unary_body closed).moves
  | postfixUpdate start => exact (reads_postfix_update closed start).moves
  | newExpression => exact (closes_new_expression_body closed).moves
  | callMember => exact ancestor.moves
  | chainLink object => exact (closes_chain_link closed object).moves
  | optionalLink object => exact (closes_optional_link closed object).moves
  | memberOnly => exact (closes_member_only closed ancestor).moves
  | primary => exact (reads_primary closed ancestor).moves
  | primaryExpr token => exact moves_primary_expr closed token
  | consuming value => exact moves_consuming value
  | nameOrAsyncFunction name => exact moves_name_or_async_function closed name
  | parenthesized => exact (closes_parenthesized closed).moves
  | importExpression keyword => exact (closes_import_expression closed keyword).moves
  | template parts => exact (closes_template parts).moves
  | substitution source offset => exact (closes_substitution source offset).moves
  | computedProperty => exact (reads_computed_property closed).moves
  | spreadOrAssignment => exact (closes_spread_or_assignment closed).moves
  | arguments => exact (reads_arguments closed).moves
  | arrayLiteral => exact (reads_array_literal closed).moves
  | objectLiteral => exact (reads_object_literal closed).moves
  | property => exact (closes_property closed).moves
  | keyedProperty => exact (closes_keyed_property closed).moves
  | shorthandProperty name => exact (closes_shorthand_property closed name).moves
  | moduleName => exact closes_module_name.moves
  | importedName => exact closes_imported_name.moves
  | importedNames => exact closes_imported_names.moves
  | importSpecifiers => exact closes_import_specifiers.moves
  | importDeclaration => exact reads_import_declaration.moves
  | exportedDefault => exact (closes_exported_default closed).moves
  | exportedAlias => exact closes_exported_alias.moves
  | exportedAll => exact closes_exported_all.moves
  | exportedName => exact closes_exported_name.moves
  | exportedSource => exact closes_exported_source.moves
  | exportedNames => exact closes_exported_names.moves
  | exportDeclaration => exact (reads_export_declaration closed).moves
  | varStatement kind => exact moves_var_statement closed kind
  | parenExpression => exact (closes_paren_expression closed).moves
  | ifStatement => exact (reads_if_statement closed).moves
  | whileStatement => exact moves_while_statement closed
  | doStatement => exact moves_do_statement closed
  | withStatement => exact moves_with_statement closed
  | returnStatement => exact moves_return_statement closed
  | throwStatement => exact moves_throw_statement closed
  | catchParam => exact (closes_catch_param closed).moves
  | catchClause => exact (closes_catch_clause closed).moves
  | finallyClause => exact (closes_finally_clause closed).moves
  | tryStatement => exact (reads_try_statement closed).moves
  | caseTest => exact (closes_case_test closed).moves
  | switchCase => exact (closes_switch_case closed).moves
  | switchStatement => exact (reads_switch_statement closed).moves
  | jumpLabel => exact closes_jump_label.moves
  | forInit => exact (closes_for_init closed).moves
  | optionalExpression close => exact (closes_optional_expression closed close).moves
  | forTail init => exact (closes_for_tail closed init).moves
  | forEachTail left ofKeys => exact moves_for_each_tail closed left ofKeys
  | forStatement => exact (reads_for_statement closed).moves
  | expressionStatement => exact moves_expression_statement closed
  | labeledStatement label => exact moves_labeled_statement closed label
  | namedStatement name => exact moves_named_statement closed name
  | importStatement => exact (reads_import_statement closed).moves
  | emptyStatement => exact .advance fun _ => .pure _
  | debuggerStatement => exact moves_debugger_statement
  | breakStatement => exact moves_break_statement
  | continueStatement => exact moves_continue_statement
  | plainStatement first => exact moves_plain_statement closed first
  | statement => exact (reads_statement_body closed).moves
  | synchronize => exact fun _ state => skip_to_boundary_consumes 0 state.lastEnd state.rest
  | recover before error => exact moves_recover before error
  | block => exact (reads_block_body closed).moves
  | program => exact (closes_program_body closed).moves

theorem repetition_moves {round : σ → Parser (Round σ α)} (repetition : Repetition g round) (seed : σ) :
    Moves (round seed) := by
  cases repetition with
  | program => exact (closes_program_round closed seed).moves
  | block brace => exact (round_closes_block closed brace seed).moves
  | classBody brace => exact (closes_class_member_round closed brace seed).moves
  | switch => exact (round_closes_switch closed seed).moves
  | caseBody => exact (closes_case_body_round closed seed).moves
  | importedNames => exact (round_closes_names closes_imported_name seed).moves
  | exportedNames => exact (round_closes_names closes_exported_name seed).moves
  | params => exact (closes_comma_round _ (closes_binding_or_rest closed) seed).moves
  | arguments => exact (closes_comma_round _ (closes_spread_or_assignment closed) seed).moves
  | properties => exact (closes_comma_round _ (closes_property closed) seed).moves
  | patternProps => exact (closes_comma_round _ (closes_pattern_prop closed) seed).moves
  | arrayItems => exact (closes_holed_round _ (closes_spread_or_assignment closed) seed).moves
  | arrayPatternItems => exact (closes_holed_round _ (closes_binding_or_rest closed) seed).moves
  | declarators => exact (closes_declarator_round closed seed).moves
  | sequence => exact (closes_sequence_round closed seed).moves
  | binary start minPrecedence => exact (closes_binary_round closed start minPrecedence seed).moves
  | chain start => exact (closes_chain_round closed start seed).moves
  | members start => exact (closes_member_round closed start seed).moves

theorem repetition_shortens {round : σ → Parser (Round σ α)} (repetition : Repetition g round) : RoundShortens round := by
  cases repetition with
  | program => exact program_round_shortens closed
  | block brace => exact block_round_shortens closed brace
  | classBody brace => exact class_member_round_shortens closed brace
  | switch => exact switch_round_shortens closed
  | caseBody => exact case_body_round_shortens closed
  | importedNames => exact names_round_shortens reads_imported_name
  | exportedNames => exact names_round_shortens reads_exported_name
  | params => exact comma_round_shortens _ (closes_binding_or_rest closed)
  | arguments => exact comma_round_shortens _ (closes_spread_or_assignment closed)
  | properties => exact comma_round_shortens _ (closes_property closed)
  | patternProps => exact comma_round_shortens _ (closes_pattern_prop closed)
  | arrayItems => exact holed_round_shortens _ (closes_spread_or_assignment closed)
  | arrayPatternItems => exact holed_round_shortens _ (closes_binding_or_rest closed)
  | declarators => exact declarator_round_shortens closed
  | sequence => exact sequence_round_shortens closed
  | binary start minPrecedence => exact binary_round_shortens closed start minPrecedence
  | chain start => exact chain_round_shortens closed start
  | members start => exact member_round_shortens closed start

end

theorem bind_congr {first : Parser α} {next other : α → Parser β} {context : Context} {state : State}
    (agree : ∀ value after, first context state = .ok value after → next value context after = other value context after) :
    (first >>= next) context state = (first >>= other) context state := by
  rw [bind_run, bind_run]
  cases result : first context state with
  | ok value after => exact agree value after result
  | error error after => rfl

theorem bind_congr_first {first other : Parser α} {next : α → Parser β} {context : Context} {state : State}
    (agree : first context state = other context state) :
    (first >>= next) context state = (other >>= next) context state := by
  rw [bind_run, bind_run, agree]

def AgreeBelow (length : Nat) (one two : Parser (Spanned Expr)) : Prop :=
  ∀ context state, state.rest.length < length → one context state = two context state

theorem AgreeBelow.mono {one two : Parser (Spanned Expr)} {more fewer : Nat} (agree : AgreeBelow more one two)
    (bound : fewer ≤ more) : AgreeBelow fewer one two :=
  fun context state below => agree context state (Nat.lt_of_lt_of_le below bound)

section

variable {g : Grammar} {one two : Parser (Spanned Expr)} {context : Context} {state : State}

theorem class_from_agrees (agree : AgreeBelow state.rest.length one two) (requireName : Bool) :
    classFrom g one requireName context state = classFrom g two requireName context state := by
  refine bind_congr fun word opened read => bind_congr fun name named naming =>
    bind_congr fun isDerived behind derived => ?_
  have shorter := (reads_expect_keyword .classWord).shortens context state word opened read
  have nameLength := closes_length (closes_declared_name _ _) naming
  have wordLength := closes_length (closes_accept_keyword _) derived
  cases isDerived with
  | false => rfl
  | true => exact bind_congr_first (agree context behind (by omega))

theorem primary_agrees (agree : AgreeBelow state.rest.length one two) :
    primary g one context state = primary g two context state := by
  have inner : ∀ token, primaryExpr g one token context state = primaryExpr g two token context state := by
    rintro ⟨kind, span, newlineBefore⟩
    cases kind with
    | keyword word =>
        cases word with
        | classWord => exact bind_congr_first (class_from_agrees agree false)
        | _ => rfl
    | punct mark => cases mark <;> rfl
    | _ => rfl
  exact bind_congr_first (inner state.peek)

theorem member_only_agrees (agree : AgreeBelow state.rest.length one two) :
    memberOnly g one context state = memberOnly g two context state :=
  bind_congr_first (primary_agrees agree)

theorem new_from_agrees (agree : AgreeBelow state.rest.length one two) :
    newFrom g one context state = newFrom g two context state := by
  refine bind_congr fun start here looked => bind_congr fun word opened read => bind_congr fun isMeta behind dotted => ?_
  have sameLength := closes_length closes_start_offset looked
  have wordLength := closes_length (reads_expect_keyword .newWord).closes read
  have dotLength := closes_length (closes_accept_punct .dot (by decide)) dotted
  cases isMeta with
  | true => rfl
  | false =>
      refine bind_congr fun isNew next checked => ?_
      have checkLength := closes_length (closes_check _) checked
      cases isNew with
      | true => rfl
      | false => exact bind_congr_first (member_only_agrees (agree.mono (by omega)))

theorem call_member_with_agrees (agree : AgreeBelow state.rest.length one two) :
    callMemberWith g one context state = callMemberWith g two context state := by
  refine bind_congr fun start here looked => bind_congr fun isNew next checked => ?_
  have sameLength := closes_length closes_start_offset looked
  have checkLength := closes_length (closes_check _) checked
  cases isNew with
  | true => exact bind_congr_first (new_from_agrees (agree.mono (by omega)))
  | false => exact bind_congr_first (primary_agrees (agree.mono (by omega)))

theorem call_member_with_at_end (ended : state.rest = []) :
    callMemberWith g one context state = unexpected .expression context state := by
  cases state with
  | mk tokens lastEnd recovered =>
      cases ended
      rfl

theorem call_member_from_enough (context : Context) (fuel more : List Token) (state : State)
    (enough : state.rest.length ≤ fuel.length) (enoughMore : state.rest.length ≤ more.length) :
    callMemberFrom g fuel context state = callMemberFrom g more context state := by
  induction fuel generalizing more context state with
  | nil =>
      have ended : state.rest = [] := List.length_eq_zero_iff.mp (Nat.le_zero.mp enough)
      cases more with
      | nil => rfl
      | cons token more => exact (call_member_with_at_end ended).symm
  | cons token fuel ih =>
      cases more with
      | nil =>
          have ended : state.rest = [] := List.length_eq_zero_iff.mp (Nat.le_zero.mp enoughMore)
          exact call_member_with_at_end ended
      | cons other more =>
          refine call_member_with_agrees fun context after shorter => ?_
          rw [List.length_cons] at enough enoughMore
          exact ih context more after (by omega) (by omega)

-- The tokens to come are fuel enough for the heritages that are nested in one another.
theorem call_member_unfold (context : Context) (state : State) :
    callMember g context state = callMemberWith g (callMember g) context state := by
  have whole : ∀ state : State, callMember g context state = callMemberFrom g state.rest context state := fun _ => rfl
  rw [whole]
  cases tokens : state.rest with
  | nil => exact (call_member_with_at_end tokens).symm
  | cons token rest =>
      refine call_member_with_agrees fun context after shorter => ?_
      rw [tokens, List.length_cons] at shorter
      exact call_member_from_enough context rest after.rest after (by omega) (Nat.le_refl _)

end

theorem starts_with_arrow_before_end (front tail : List Token) (last : Token) :
    startsWithArrow (front ++ last :: tail) = startsWithArrow (front ++ [last]) := by
  cases front with
  | nil => rfl
  | cons token front => rfl

theorem arrow_after_closing_before_end (depth : Nat) (front tail : List Token) (last : Token)
    (isEnd : last.kind = .endOfFile) :
    arrowAfterClosing depth (front ++ last :: tail) = arrowAfterClosing depth (front ++ [last]) := by
  induction front generalizing depth with
  | nil => simp [arrowAfterClosing, isEnd, isOpening, isClosing]
  | cons token front ih =>
      simp only [List.cons_append, arrowAfterClosing, ih, starts_with_arrow_before_end]

theorem arrow_head_before_end (front tail : List Token) (last : Token) (isEnd : last.kind = .endOfFile) :
    arrowHead (front ++ last :: tail) = arrowHead (front ++ [last]) := by
  cases front with
  | nil => simp [arrowHead, isEnd]
  | cons token front =>
      simp only [List.cons_append, arrowHead, arrow_after_closing_before_end 1 front tail last isEnd,
        starts_with_arrow_before_end]

theorem arrow_ahead_before_end (front tail : List Token) (last : Token) (isEnd : last.kind = .endOfFile) :
    arrowAhead (front ++ last :: tail) = arrowAhead (front ++ [last]) := by
  match front with
  | [] =>
      have head := arrow_head_before_end [] tail last isEnd
      cases tail with
      | nil => rfl
      | cons token tail => simpa [arrowAhead, isEnd] using head
  | [first] =>
      have head := arrow_head_before_end [] tail last isEnd
      have whole := arrow_head_before_end [first] tail last isEnd
      simp only [List.nil_append, List.cons_append] at head whole ⊢
      simp only [arrowAhead, head, whole]
  | first :: second :: front =>
      have head := arrow_head_before_end (second :: front) tail last isEnd
      have whole := arrow_head_before_end (first :: second :: front) tail last isEnd
      simp only [List.cons_append] at head whole ⊢
      simp only [arrowAhead, head, whole]

-- Skipping stops at the end of the tokens, before a mark of a boundary or behind a semicolon.
theorem skip_stops_at_boundary (depth lastEnd : Nat) (tokens : List Token) :
    (∀ token ∈ (skipToBoundary depth lastEnd tokens).1.head?,
        token.kind = .endOfFile ∨ token.kind = .punct .rBrace ∨ startsStatement token.kind = true) ∨
      ∃ read semi, tokens = read ++ semi :: (skipToBoundary depth lastEnd tokens).1 ∧ semi.kind = .punct .semi := by
  induction tokens generalizing depth lastEnd with
  | nil => exact .inl (by simp [skipToBoundary])
  | cons token rest ih =>
      have onward : ∀ deeper stop, (∀ token ∈ (skipToBoundary deeper stop rest).1.head?,
            token.kind = .endOfFile ∨ token.kind = .punct .rBrace ∨ startsStatement token.kind = true) ∨
          ∃ read semi, token :: rest = read ++ semi :: (skipToBoundary deeper stop rest).1 ∧
            semi.kind = .punct .semi := by
        intro deeper stop
        refine (ih deeper stop).imp id ?_
        rintro ⟨read, semi, tokens, mark⟩
        exact ⟨token :: read, semi, congrArg (token :: ·) tokens, mark⟩
      unfold skipToBoundary
      split
      · next ended => exact .inl (by simp [ended])
      · split
        · exact onward _ _
        · split
          · next closing => exact .inl (by simp [closing.1])
          · split
            · exact onward _ _
            · split
              · next semi => exact .inr ⟨[], token, rfl, semi.1⟩
              · split
                · next starts => exact .inl (by simp [starts.2.2])
                · exact onward _ _

-- What getting on means for a grammar and the methods that stand above it.
structure Grammar.GetsOn (g : Grammar) : Prop where
  moves : ∀ {α : Type} (parser : Parser α), Production g parser → Moves parser
  statement : Shortens g.statement
  assignment : Shortens g.assignment
  rounds : ∀ {σ α : Type} (round : σ → Parser (Round σ α)), Repetition g round →
    (∀ seed, Moves (round seed)) ∧ RoundShortens round
  loops : ∀ {σ α : Type} (round : σ → Parser (Round σ α)), Repetition g round → ∀ start context state,
    ∃ last final, Reaches round context start state last final ∧
      ((∃ result after, round last context final = .ok (.done result) after ∧
          repeatRounds round start context state = .ok result after) ∨
        ∃ error after, round last context final = .error error after ∧
          repeatRounds round start context state = .error error after)
  heritages : ∀ context state, callMember g context state = callMemberWith g (callMember g) context state

theorem gets_on {g : Grammar} (closed : g.Closed) : g.GetsOn where
  moves := fun _ production => production_moves closed production
  statement := closed.statement.shortens
  assignment := closed.assignment.shortens
  rounds := fun _ repetition => ⟨repetition_moves closed repetition, repetition_shortens closed repetition⟩
  loops := fun _ repetition => repeat_rounds_ends (repetition_shortens closed repetition)
  heritages := call_member_unfold

theorem consumes_keeps_end {front after : List Token} {last : Token}
    (isEnd : last.kind = .endOfFile) (consumed : Consumes (front ++ [last]) after) :
    ∃ behind, after = behind ++ [last] ∧ behind <:+ front := by
  obtain ⟨read, tokens, present⟩ := consumed
  induction read generalizing front with
  | nil => exact ⟨front, tokens.symm, List.suffix_rfl⟩
  | cons token read ih =>
      cases front with
      | nil =>
          obtain ⟨same, -⟩ := List.cons.inj tokens
          exact absurd (same ▸ isEnd) (present token (List.mem_cons_self ..))
      | cons first front =>
          obtain ⟨-, tokens⟩ := List.cons.inj tokens
          obtain ⟨behind, same, suffix⟩ := ih tokens fun other inside => present other (List.mem_cons_of_mem token inside)
          exact ⟨behind, same, suffix.trans (List.suffix_cons first front)⟩

-- A parse ends in a round of the top level that has come to the end of the file, or that fails before it.
theorem parse_ends (front : List Token) (last : Token) (present : ∀ token ∈ front, token.kind ≠ .endOfFile)
    (isEnd : last.kind = .endOfFile) :
    ∃ body final, Reaches (programRound Grammar.full) .top [] (State.ofTokens (front ++ [last])) body final ∧
      ((final.rest = [last] ∧ parse (front ++ [last]) = .ok ⟨body.reverse, final.recovered⟩) ∨
        ∃ error failed behind, Grammar.full.statement .top final = .error error failed ∧
          failed.rest = behind ++ [last] ∧ parse (front ++ [last]) = .error error) := by
  have closed := of_levels_closed maxNesting
  have shortens := program_round_shortens closed
  obtain ⟨body, final, reaches, outcome⟩ :=
    repeat_rounds_ends shortens [] .top (State.ofTokens (front ++ [last]))
  have rounds : ∀ body, RoundCloses 0 (programRound (Grammar.ofLevels maxNesting) body) :=
    fun body => .plain (closes_program_round closed body)
  have moved := reaches_passes rounds reaches
  obtain ⟨behind, rest, suffix⟩ := consumes_keeps_end isEnd moved.consumed
  refine ⟨body, final, reaches, ?_⟩
  rcases outcome with ⟨result, after, step, whole⟩ | ⟨error, failed, step, whole⟩
  · left
    change programRound Grammar.full body .top final = _ at step
    rw [program_round_run] at step
    split at step
    · next ended =>
        cases step
        have none : behind = [] := by
          cases behind with
          | nil => rfl
          | cons token behind =>
              have first : final.peek = token := by simp [State.peek, State.peekAt, rest]
              exact absurd (first ▸ ended) (present token (suffix.subset (List.mem_cons_self ..)))
        refine ⟨by rw [rest, none]; rfl, ?_⟩
        unfold parse programBody
        rw [show Grammar.full = Grammar.ofLevels maxNesting from rfl, whole]
    · split at step <;> cases step
  · right
    change programRound Grammar.full body .top final = _ at step
    rw [program_round_run] at step
    split at step
    · cases step
    · cases attempted : Grammar.full.statement .top final with
      | ok statement after =>
          rw [attempted] at step
          cases step
      | error other stuck =>
          rw [attempted] at step
          cases step
          have passed := closed.statement.moves .top final
          rw [show Grammar.ofLevels maxNesting = Grammar.full from rfl, attempted, rest] at passed
          obtain ⟨left, remaining, -⟩ := consumes_keeps_end isEnd passed
          refine ⟨error, failed, left, rfl, remaining, ?_⟩
          unfold parse programBody
          rw [show Grammar.full = Grammar.ofLevels maxNesting from rfl, whole]

/-- Over a stream that ends in its only end of file a parse ends by itself, and every method and loop below it gets on. -/
theorem parse_makes_progress (front : List Token) (last : Token) (present : ∀ token ∈ front, token.kind ≠ .endOfFile)
    (isEnd : last.kind = .endOfFile) :
    (∃ body final, Reaches (programRound Grammar.full) .top [] (State.ofTokens (front ++ [last])) body final ∧
      ((final.rest = [last] ∧ parse (front ++ [last]) = .ok ⟨body.reverse, final.recovered⟩) ∨
        ∃ error failed behind, Grammar.full.statement .top final = .error error failed ∧
          failed.rest = behind ++ [last] ∧ parse (front ++ [last]) = .error error)) ∧
    (∀ levels, (Grammar.ofLevels levels).GetsOn) ∧
    (∀ levels, ∀ {α : Type} (parser : Parser α), Production (Grammar.ofLevels levels) parser →
      ∀ context state behind, state.rest = behind ++ [last] → behind <:+ front →
        ∃ left, (parser context state).state.rest = left ++ [last] ∧ left <:+ behind) ∧
    (∀ behind tail, behind <:+ front → arrowAhead (behind ++ last :: tail) = arrowAhead (behind ++ [last])) ∧
    ∀ depth lastEnd tokens, Consumes tokens (skipToBoundary depth lastEnd tokens).1 ∧
      ((∀ token ∈ (skipToBoundary depth lastEnd tokens).1.head?,
          token.kind = .endOfFile ∨ token.kind = .punct .rBrace ∨ startsStatement token.kind = true) ∨
        ∃ read semi, tokens = read ++ semi :: (skipToBoundary depth lastEnd tokens).1 ∧ semi.kind = .punct .semi) := by
  refine ⟨parse_ends front last present isEnd, fun levels => gets_on (of_levels_closed levels), ?_, ?_, ?_⟩
  · intro levels α parser production context state behind tokens _
    have moved := production_moves (of_levels_closed levels) production context state
    rw [tokens] at moved
    exact consumes_keeps_end isEnd moved
  · exact fun behind tail _ => arrow_ahead_before_end behind tail last isEnd
  · exact fun depth lastEnd tokens => ⟨skip_to_boundary_consumes depth lastEnd tokens,
      skip_stops_at_boundary depth lastEnd tokens⟩

-- `{ ) ; x }`, where the block skips a closing bracket that nothing has opened.
def strayBracket : List Token :=
  [⟨.punct .lBrace, ⟨0, 1⟩, false⟩, ⟨.punct .rParen, ⟨2, 3⟩, false⟩, ⟨.punct .semi, ⟨4, 5⟩, false⟩,
    ⟨.identifier "x", ⟨6, 7⟩, false⟩, ⟨.punct .rBrace, ⟨8, 9⟩, false⟩]

theorem stray_bracket_makes_progress :
    (∀ token ∈ strayBracket, token.kind ≠ .endOfFile) ∧
      ∃ body final, Reaches (programRound Grammar.full) .top []
          (State.ofTokens (strayBracket ++ [⟨.endOfFile, ⟨9, 9⟩, false⟩])) body final ∧
        ((final.rest = [⟨.endOfFile, ⟨9, 9⟩, false⟩] ∧
            parse (strayBracket ++ [⟨.endOfFile, ⟨9, 9⟩, false⟩]) = .ok ⟨body.reverse, final.recovered⟩) ∨
          ∃ error failed behind, Grammar.full.statement .top final = .error error failed ∧
            failed.rest = behind ++ [⟨.endOfFile, ⟨9, 9⟩, false⟩] ∧
            parse (strayBracket ++ [⟨.endOfFile, ⟨9, 9⟩, false⟩]) = .error error) :=
  ⟨by decide, (parse_makes_progress strayBracket ⟨.endOfFile, ⟨9, 9⟩, false⟩ (by decide) rfl).1⟩

end ScriptSuite.Script
