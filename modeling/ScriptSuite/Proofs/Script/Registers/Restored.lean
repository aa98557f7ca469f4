import ScriptSuite.Proofs.Script.Progress
import ScriptSuite.Proofs.Script.Registers.Statement

set_option autoImplicit false

namespace ScriptSuite.Script

-- The methods of the parser over a grammar for the levels that are left to it.
inductive Method (g : Grammar) : {α : Type} → Parser α → Prop where
  | production {α : Type} {parser : Parser α} (production : Production g parser) : Method g parser
  | round {σ α : Type} {round : σ → Parser (Round σ α)} (repetition : Repetition g round) (start : σ) :
      Method g (round start)
  | loop {σ α : Type} {round : σ → Parser (Round σ α)} (repetition : Repetition g round) (start : σ) :
      Method g (repeatRounds round start)
  | statement : Method g g.statement
  | block : Method g g.block
  | bindingTarget : Method g g.bindingTarget
  | assignment : Method g g.assignment
  | binary (precedence : Nat) : Method g (g.binary precedence)
  | unary : Method g g.unary
  | newExpression : Method g g.newExpression
  | peekAt (distance : Nat) : Method g (peekAt distance)
  | atEnd : Method g atEnd
  | check (kind : TokenKind) : Method g (check kind)
  | unexpected {α : Type} (wanted : Expectation) : Method g (unexpected wanted : Parser α)
  | spanFrom (start : Nat) : Method g (spanFrom start)
  | isArrowAhead : Method g isArrowAhead
  | nextEndsMember : Method g nextEndsMember
  | asyncFunctionAhead : Method g asyncFunctionAhead
  | letDeclares : Method g letDeclares
  | declarationAhead : Method g declarationAhead
  | awaitAhead : Method g awaitAhead
  | allowingIn {α : Type} {parser : Parser α} (method : Method g parser) : Method g (allowingIn parser)
  | forbiddingIn {α : Type} {parser : Parser α} (method : Method g parser) : Method g (forbiddingIn parser)
  | inFunction {α : Type} {parser : Parser α} (isAsync isGenerator : Bool) (method : Method g parser) :
      Method g (inFunction isAsync isGenerator parser)

section

variable {α σ : Type} {levels : Nat} {g : Grammar} (entries : g.Followed .everything levels)
include entries

theorem production_follows {parser : Parser α} (production : Production g parser) : Follows .everything levels parser := by
  cases production with
  | advance => exact follows_advance
  | accept kind => exact follows_accept kind
  | expect kind wanted => exact follows_expect kind wanted
  | identifier => exact follows_identifier
  | identifierName => exact follows_identifier_name
  | stringLiteral => exact follows_string_literal
  | consumeSemicolon => exact follows_consume_semicolon
  | propertyKey => exact follows_property_key entries
  | bindingElement => exact follows_binding_element entries
  | restElement => exact follows_rest_element entries
  | bindingOrRest => exact follows_binding_or_rest entries
  | patternProp => exact follows_pattern_prop entries
  | objectPattern => exact follows_object_pattern entries
  | arrayPattern => exact follows_array_pattern entries
  | bindingPattern => exact follows_binding_pattern entries
  | bindingTarget => exact follows_binding_target_body entries
  | formalParams => exact follows_formal_params entries
  | declarator => exact follows_declarator entries
  | varDeclarations kind => exact follows_var_declarations entries kind
  | functionTail isAsync isGenerator => exact follows_function_tail entries isAsync isGenerator
  | declaredName required wanted => exact follows_declared_name required wanted
  | functionFrom isAsync requireName => exact follows_function_from entries isAsync requireName
  | asyncModifier => exact follows_async_modifier
  | accessorModifier => exact follows_accessor_modifier
  | methodModifiers => exact follows_method_modifiers
  | methodFunction modifiers => exact follows_method_function entries modifiers
  | keyedMember isStatic => exact follows_keyed_member entries isStatic
  | classMember => exact follows_class_member entries
  | classFrom requireName => exact follows_class_from entries (follows_call_member entries) requireName
  | expression => exact follows_expression entries
  | assignment => exact follows_assignment_body entries
  | assignmentTail => exact follows_assignment_tail entries
  | arrowFunction => exact follows_arrow_function entries
  | arrowParams isAsync => exact follows_arrow_params entries isAsync
  | arrowBody isAsync => exact follows_arrow_body entries isAsync
  | yieldDelegate => exact follows_yield_delegate
  | yieldExpression => exact follows_yield_expression entries
  | conditional => exact follows_conditional entries
  | binary minPrecedence => exact follows_binary_from entries minPrecedence
  | unary => exact follows_unary_body entries
  | postfixUpdate start => exact follows_postfix_update entries start
  | newExpression => exact follows_new_expression_body entries
  | callMember => exact follows_call_member entries
  | chainLink object => exact follows_chain_link entries object
  | optionalLink object => exact follows_optional_link entries object
  | memberOnly => exact follows_member_only entries (follows_call_member entries)
  | primary => exact follows_primary entries (follows_call_member entries)
  | primaryExpr token => exact follows_primary_expr entries (follows_call_member entries) token trivial
  | consuming value => exact follows_consuming value
  | nameOrAsyncFunction name => exact follows_name_or_async_function entries name
  | parenthesized => exact follows_parenthesized entries
  | importExpression keyword => exact follows_import_expression entries keyword
  | template parts => exact follows_template entries parts fun _ _ _ => lexes_anything _
  | substitution source offset => exact follows_substitution entries source offset (lexes_anything _)
  | computedProperty => exact follows_computed_property entries
  | spreadOrAssignment => exact follows_spread_or_assignment entries
  | arguments => exact follows_arguments entries
  | arrayLiteral => exact follows_array_literal entries
  | objectLiteral => exact follows_object_literal entries
  | property => exact follows_property entries
  | keyedProperty => exact follows_keyed_property entries
  | shorthandProperty name => exact follows_shorthand_property entries name
  | moduleName => exact follows_module_name
  | importedName => exact follows_imported_name
  | importedNames => exact follows_imported_names
  | importSpecifiers => exact follows_import_specifiers
  | importDeclaration => exact follows_import_declaration
  | exportedDefault => exact follows_exported_default entries
  | exportedAlias => exact follows_exported_alias
  | exportedAll => exact follows_exported_all
  | exportedName => exact follows_exported_name
  | exportedSource => exact follows_exported_source
  | exportedNames => exact follows_exported_names
  | exportDeclaration => exact follows_export_declaration entries
  | varStatement kind => exact follows_var_statement entries kind
  | parenExpression => exact follows_paren_expression entries
  | ifStatement => exact follows_if_statement entries
  | whileStatement => exact follows_while_statement entries
  | doStatement => exact follows_do_statement entries
  | withStatement => exact follows_with_statement entries
  | returnStatement => exact follows_return_statement entries
  | throwStatement => exact follows_throw_statement entries
  | catchParam => exact follows_catch_param entries
  | catchClause => exact follows_catch_clause entries
  | finallyClause => exact follows_finally_clause entries
  | tryStatement => exact follows_try_statement entries
  | caseTest => exact follows_case_test entries
  | switchCase => exact follows_switch_case entries
  | switchStatement => exact follows_switch_statement entries
  | jumpLabel => exact follows_jump_label
  | forInit => exact follows_for_init entries
  | optionalExpression close => exact follows_optional_expression entries close
  | forTail init => exact follows_for_tail entries init
  | forEachTail left ofKeys => exact follows_for_each_tail entries left ofKeys
  | forStatement => exact follows_for_statement entries
  | expressionStatement => exact follows_expression_statement entries
  | labeledStatement label => exact follows_labeled_statement entries label
  | namedStatement name => exact follows_named_statement entries name
  | importStatement => exact follows_import_statement entries
  | emptyStatement => exact .bind follows_advance fun _ => .pure _
  | debuggerStatement => exact .bind follows_advance fun _ => .bind follows_consume_semicolon fun _ => .pure _
  | breakStatement => exact .bind follows_advance fun _ => .bind follows_jump_label fun _ => .pure _
  | continueStatement => exact .bind follows_advance fun _ => .bind follows_jump_label fun _ => .pure _
  | plainStatement first => exact follows_plain_statement entries first
  | statement => exact follows_statement_body entries
  | synchronize => exact follows_synchronize
  | recover before error => exact follows_recover before trivial
  | block => exact follows_block_body entries
  | program => exact follows_program_body entries

theorem repetition_follows {round : σ → Parser (Round σ α)} (repetition : Repetition g round) (start : σ) :
    Follows .everything levels (round start) := by
  cases repetition with
  | program => exact follows_program_round entries start
  | block brace => exact follows_block_round entries trivial start
  | classBody brace => exact follows_class_member_round entries trivial start
  | switch => exact follows_switch_round entries start
  | caseBody => exact follows_case_body_round entries start
  | importedNames => exact follows_names_round follows_imported_name start
  | exportedNames => exact follows_names_round follows_exported_name start
  | params => exact follows_comma_round (follows_binding_or_rest entries) _ start
  | arguments => exact follows_comma_round (follows_spread_or_assignment entries) _ start
  | properties => exact follows_comma_round (follows_property entries) _ start
  | patternProps => exact follows_comma_round (follows_pattern_prop entries) _ start
  | arrayItems => exact follows_holed_round (follows_spread_or_assignment entries) _ start
  | arrayPatternItems => exact follows_holed_round (follows_binding_or_rest entries) _ start
  | declarators => exact follows_declarator_round entries start
  | sequence => exact follows_sequence_round entries start
  | binary first minPrecedence => exact follows_binary_round entries first minPrecedence start
  | chain first => exact follows_chain_round entries first start
  | members first => exact follows_member_round entries first start

theorem method_follows {parser : Parser α} (method : Method g parser) : Follows .everything levels parser := by
  induction method with
  | production production => exact production_follows entries production
  | round repetition start => exact repetition_follows entries repetition start
  | loop repetition start => exact follows_repeat_rounds (repetition_follows entries repetition) start
  | statement => exact entries.statement
  | block => exact entries.block
  | bindingTarget => exact entries.bindingTarget
  | assignment => exact entries.assignment
  | binary precedence => exact entries.binary precedence
  | unary => exact entries.unary
  | newExpression => exact entries.newExpression
  | peekAt distance => exact follows_peek_at distance
  | atEnd => exact follows_at_end
  | check kind => exact follows_check kind
  | unexpected wanted => exact follows_unexpected wanted
  | spanFrom start => exact follows_span_from start
  | isArrowAhead => exact follows_is_arrow_ahead
  | nextEndsMember => exact follows_next_ends_member
  | asyncFunctionAhead => exact follows_async_function_ahead
  | letDeclares => exact follows_let_declares
  | declarationAhead => exact follows_declaration_ahead
  | awaitAhead => exact follows_await_ahead
  | allowingIn method ih => exact ih.allowingIn
  | forbiddingIn method ih => exact ih.forbiddingIn
  | inFunction isAsync isGenerator method ih => exact ih.inFunction

end

-- Every method has a run from every registers and state.
theorem method_runs {α : Type} {parser : Parser α} (entry : Registers) (method : Method entry.grammar parser)
    (state : State) : Runs parser entry state (parser entry.context state) entry := by
  have seen : Sight.everything.Sees state := ⟨fun _ _ => trivial, trivial, fun _ _ => trivial⟩
  obtain ⟨outcome, runs, -⟩ := method_follows (of_levels_followed .everything _) method entry state rfl seen
  rw [runs.sound]
  exact runs

def Outcome.following (statements : Body) (skipped : List SyntaxError) : Outcome (Body × Span) → Outcome (Body × Span)
  | .ok block after => .ok (statements ++ block.1, block.2) (after.behind skipped)
  | .error failure after => .error failure (after.behind skipped)

def blockRest (g : Grammar) (brace : Span) (context : Context) (state : State) : Outcome (Body × Span) :=
  repeatRounds (blockRound g brace) [] context { state with recovered := [] }

/-- The block opened at `opening` has read the statements `body` when the next one fails; it goes on at `resumed`. -/
inductive SkipsTo (g : Grammar) (context : Context) (opening : State) : Token → Body → State → Prop where
  | recovers {brace : Token} {inside state failed resumed : State} {body : Body} {error : SyntaxError}
      (opened : expectPunct .lBrace context opening = .ok brace inside)
      (reached : Reaches (blockRound g brace.span) context [] inside body state)
      (notClosing : state.peek.kind ≠ .punct .rBrace) (present : state.peek.kind ≠ .endOfFile)
      (failure : g.statement context state = .error error failed)
      (recovered : recover state.rest error context failed = .ok () resumed) :
      SkipsTo g context opening brace body.reverse resumed

section

variable (g : Grammar) (brace : Span) (later body : Body) (context : Context)

theorem block_round_following (state : State) :
    blockRound g brace (later ++ body) context state =
      match blockRound g brace later context state with
      | .ok (.again next) after => .ok (.again (next ++ body)) after
      | .ok (.done block) after => .ok (.done (body.reverse ++ block.1, block.2)) after
      | .error error after => .error error after := by
  by_cases closing : state.peek.kind = .punct .rBrace
  · rw [block_round_closes g brace _ context state closing, block_round_closes g brace _ context state closing,
      List.reverse_append]
  · by_cases ended : state.peek.kind = .endOfFile
    · rw [block_round_unclosed g brace _ context state ended, block_round_unclosed g brace _ context state ended]
    · rw [block_round_attempts g brace _ context state closing ended, block_round_attempts g brace _ context state closing ended]
      cases g.statement context state with
      | ok statement after => rfl
      | error error failed =>
          dsimp only
          split <;> rfl

theorem block_rounds_following (fuel : List Token) (state : State) :
    repeatFrom (blockRound g brace) fuel (later ++ body) context state =
      (repeatFrom (blockRound g brace) fuel later context state).following body.reverse [] := by
  induction fuel generalizing later state with
  | nil =>
      rw [repeatFrom, repeatFrom, bind_run, bind_run, block_round_following]
      cases blockRound g brace later context state with
      | error error after => rfl
      | ok result after => cases result <;> rfl
  | cons _ fuel ih =>
      rw [repeatFrom, repeatFrom, bind_run, bind_run, block_round_following]
      cases blockRound g brace later context state with
      | error error after => rfl
      | ok result after =>
          cases result with
          | again next => exact ih next after
          | done block => rfl

end

theorem block_rest_following (entry : Registers) (brace : Span) (state : State) :
    repeatRounds (blockRound entry.grammar brace) [] entry.context state =
      (blockRest entry.grammar brace entry.context state).following [] state.recovered := by
  have runs := (method_runs entry (.loop (.block brace) []) { state with recovered := [] }).behind state.recovered
  have same : State.behind state.recovered { state with recovered := [] } = state := by
    simp [State.behind]
  rw [same] at runs
  rw [runs.sound, blockRest]
  cases repeatRounds (blockRound entry.grammar brace) [] entry.context { state with recovered := [] } <;> rfl

theorem skipping_block_rest {entry : Registers} {opening resumed : State} {brace : Token} {body : Body}
    (skips : SkipsTo entry.grammar entry.context opening brace body resumed) :
    blockBody entry.grammar entry.context opening =
      (blockRest entry.grammar brace.span entry.context resumed).following body resumed.recovered := by
  cases skips with
  | @recovers inside state failed _ read error opened reached notClosing present failure recovered =>
      have closed : entry.grammar.Closed := of_levels_closed _
      have shortens := block_round_shortens closed brace.span
      have step : blockRound entry.grammar brace.span read entry.context state = .ok (.again read) resumed := by
        rw [block_round_attempts _ _ _ _ _ notClosing present, failure]
        rw [recover_run] at recovered
        dsimp only
        split at recovered
        · cases recovered
        · next inner =>
            cases recovered
            rw [if_neg inner]
      have whole : blockBody entry.grammar entry.context opening =
          repeatRounds (blockRound entry.grammar brace.span) read entry.context resumed := by
        unfold blockBody
        rw [bind_run, opened]
        dsimp only
        rw [repeat_rounds_reaches shortens reached, repeat_rounds_unfold shortens, step]
      have rest : repeatRounds (blockRound entry.grammar brace.span) read entry.context resumed =
          (repeatRounds (blockRound entry.grammar brace.span) [] entry.context resumed).following read.reverse [] :=
        block_rounds_following _ brace.span [] read entry.context resumed.rest resumed
      rw [whole, rest, block_rest_following]
      cases blockRest entry.grammar brace.span entry.context resumed with
      | ok block after => simp [Outcome.following, State.behind]
      | error error after => simp [Outcome.following, State.behind]

/-- Whatever becomes of a method, it leaves the registers that it found. A block that skips a failed statement goes on as it
would from there on its own, in the context it was entered with. -/
theorem errors_restore_registers (entry : Registers) :
    (∀ {α : Type} {parser : Parser α}, Method entry.grammar parser → ∀ state : State,
      Runs parser entry state (parser entry.context state) entry ∧
        ∀ outcome exit, Runs parser entry state outcome exit → outcome = parser entry.context state ∧ exit = entry) ∧
    ∀ (opening resumed : State) (brace : Token) (body : Body),
      SkipsTo entry.grammar entry.context opening brace body resumed →
        blockBody entry.grammar entry.context opening =
          (blockRest entry.grammar brace.span entry.context resumed).following body resumed.recovered :=
  ⟨fun method state => ⟨method_runs entry method state, fun _ _ runs => ⟨runs.sound.symm, runs.restores⟩⟩,
    fun _ _ _ _ skips => skipping_block_rest skips⟩

-- `a in b }`, behind `{ for (] ;`, whose head fails where `in` is no operator.
def behindHeader : List Token :=
  [⟨.identifier "a", ⟨11, 12⟩, false⟩, ⟨.keyword .inWord, ⟨13, 15⟩, false⟩, ⟨.identifier "b", ⟨16, 17⟩, false⟩,
    ⟨.punct .rBrace, ⟨18, 19⟩, false⟩, ⟨.endOfFile, ⟨19, 19⟩, false⟩]

def brokenHeader : State :=
  .ofTokens (⟨.punct .lBrace, ⟨0, 1⟩, false⟩ :: ⟨.keyword .forWord, ⟨2, 5⟩, false⟩ :: ⟨.punct .lParen, ⟨6, 7⟩, false⟩ ::
    ⟨.punct .rBracket, ⟨7, 8⟩, false⟩ :: ⟨.punct .semi, ⟨9, 10⟩, false⟩ :: behindHeader)

theorem broken_header_restores_registers :
    SkipsTo (.ofLevels maxNesting) .top brokenHeader ⟨.punct .lBrace, ⟨0, 1⟩, false⟩ []
        ⟨behindHeader, 10, [⟨.unexpected .expression (.punct .rBracket), ⟨7, 8⟩⟩]⟩ ∧
      blockBody (.ofLevels maxNesting) .top brokenHeader =
        (blockRest (.ofLevels maxNesting) ⟨0, 1⟩ .top
          ⟨behindHeader, 10, [⟨.unexpected .expression (.punct .rBracket), ⟨7, 8⟩⟩]⟩).following []
          [⟨.unexpected .expression (.punct .rBracket), ⟨7, 8⟩⟩] ∧
      blockRest (.ofLevels maxNesting) ⟨0, 1⟩ .top ⟨behindHeader, 10, []⟩ =
        .ok ([⟨.expr ⟨.binary ⟨.ident "a", ⟨11, 12⟩⟩ .isIn ⟨.ident "b", ⟨16, 17⟩⟩, ⟨11, 17⟩⟩, ⟨11, 17⟩⟩], ⟨0, 19⟩)
          ⟨[⟨.endOfFile, ⟨19, 19⟩, false⟩], 19, []⟩ := by
  have skips : SkipsTo (.ofLevels maxNesting) .top brokenHeader ⟨.punct .lBrace, ⟨0, 1⟩, false⟩ []
      ⟨behindHeader, 10, [⟨.unexpected .expression (.punct .rBracket), ⟨7, 8⟩⟩]⟩ :=
    .recovers rfl (.here [] _) (by decide) (by decide) rfl rfl
  exact ⟨skips, (errors_restore_registers ⟨0, false, false, false⟩).2 _ _ _ [] skips, rfl⟩

end ScriptSuite.Script
