import ScriptSuite.Proofs.Script.Echo.Expression
import ScriptSuite.Proofs.Script.FunctionBody

set_option autoImplicit false

namespace ScriptSuite.Script

variable {distance : Nat} {token : Token}

theorem echoes_module_name : Echoes distance inside moduleName moduleName := .peek fun token _ => by
  obtain ⟨kind, span, newline⟩ := token
  cases kind with
  | string name => exact .advance rfl fun _ => .pure rfl rfl
  | _ => exact echoes_identifier_name _

theorem echoes_imported_name : Echoes distance inside importedName importedName :=
  .bind echoes_module_name fun _ => .bind (echoes_accept_word _) fun _ => .ite
    (.bind echoes_identifier fun _ => .pure rfl rfl) (.pure rfl rfl)

theorem echoes_imported_names : Echoes distance inside importedNames importedNames :=
  .bind (echoes_accept_punct .star rfl) fun _ => .ite
    (.bind (echoes_expect_word _) fun _ => .bind echoes_identifier fun _ => .pure rfl rfl)
    (.acceptOpened rfl (echoes_names_list reads_imported_name echoes_imported_name) (echoes_unexpected _))

theorem echoes_import_specifiers : Echoes distance inside importSpecifiers importSpecifiers := .peek fun token _ => by
  obtain ⟨kind, span, newline⟩ := token
  cases kind with
  | identifier name =>
      exact .bind (echoes_identifier _) fun _ => .bind (echoes_accept_punct .comma rfl) fun _ => .ite
        (.bind echoes_imported_names fun _ => .pure rfl rfl) (.pure rfl rfl)
  | _ => exact echoes_imported_names _

theorem echoes_import_declaration : Echoes distance outer importDeclaration importDeclaration :=
  .bind (echoes_expect_keyword _) fun _ => .peek fun token _ => by
    have named : Echoes distance outer (do
        let specifiers ← importSpecifiers
        let _ ← expectWord "from"
        let source ← stringLiteral
        consumeSemicolon
        return Statement.imports specifiers source) (do
        let specifiers ← importSpecifiers
        let _ ← expectWord "from"
        let source ← stringLiteral
        consumeSemicolon
        return Statement.imports specifiers source) :=
      .bind echoes_import_specifiers fun _ => .bind (echoes_expect_word _) fun _ => .bind echoes_string_literal fun _ =>
        .andThen echoes_consume_semicolon fun _ => .pure (by simp)
    obtain ⟨kind, span, newline⟩ := token
    cases kind with
    | string source => exact .advance rfl fun _ => .andThen echoes_consume_semicolon fun _ => .pure rfl
    | _ => exact named _

theorem echoes_exported_alias : Echoes distance inside exportedAlias exportedAlias :=
  .bind (echoes_accept_word _) fun _ => .ite (.bind echoes_module_name fun _ => .pure rfl rfl) (.pure rfl rfl)

theorem echoes_exported_all : Echoes distance outer exportedAll exportedAll :=
  .bind echoes_exported_alias fun _ => .bind (echoes_expect_word _) fun _ => .bind echoes_string_literal fun _ =>
    .andThen echoes_consume_semicolon fun _ => .pure (by simp)

theorem echoes_exported_name : Echoes distance inside exportedName exportedName :=
  .bind echoes_module_name fun _ => .bind (echoes_accept_word _) fun _ => .ite
    (.bind echoes_module_name fun _ => .pure rfl rfl) (.pure rfl rfl)

theorem echoes_exported_source : Echoes distance inside exportedSource exportedSource :=
  .bind (echoes_accept_word _) fun _ => .ite (.bind echoes_string_literal fun _ => .pure rfl rfl) (.pure rfl rfl)

theorem echoes_exported_names : Echoes distance (fun value => (outer value).deeper) exportedNames exportedNames :=
  .joined (echoes_names_list reads_exported_name echoes_exported_name) (fun _ => outer)
    (fun _ => .bind echoes_exported_source fun _ => .andThen echoes_consume_semicolon fun _ => .pure (by simp))
    ⟨fun _ _ => rfl, fun _ _ => rfl, fun _ isLoose => Bool.noConfusion isLoose⟩

theorem looks_alike_declaration_ahead : LooksAlike distance declarationAhead declarationAhead := fun token => .peek (by
  obtain ⟨kind, span, newline⟩ := token
  cases kind with
  | identifier name =>
      dsimp only [Token.moved, TokenKind.moved]
      split
      · exact .pure rfl
      · exact looks_ahead_let_declares.shown _ TokenKind.noConfusion
      · exact looks_ahead_async_function.shown _ TokenKind.noConfusion
      · exact .pure rfl
  | _ => exact .pure rfl)

section

variable {g : Grammar} (closed : g.Closed) (alike : g.Echoes distance)
include closed alike

theorem echoes_exported_default : Echoes distance outer (exportedDefault g) (exportedDefault g) :=
  .bind echoes_start_offset fun start => .bind (echoes_check _ rfl) fun _ => fun token => .check rfl
    (.lookAhead looks_ahead_async_function (fun semi _ _ _ _ _ => by simp [semi]) fun _ =>
      .any (.ite (.bind (echoes_accept_word _) fun _ => .bind (echoes_function_from closed alike _ _) fun _ =>
          (quiet_spanned_from _ (by simp)).echoes fun _ => rfl)
        (.bind (echoes_check _ rfl) fun _ => .ite
          (.bind (echoes_class_from closed alike (echoes_call_member closed alike) _) fun _ =>
            (quiet_spanned_from _ (by simp)).echoes fun _ => rfl)
          (.bind alike.assignment.allowingIn fun _ => .andThen echoes_consume_semicolon fun _ => .pure rfl))))

theorem echoes_export_declaration : Echoes distance outer (exportDeclaration g) (exportDeclaration g) :=
  .bind (echoes_expect_keyword _) fun _ => .bind (echoes_accept_keyword _) fun _ => .ite
    (.andThen (echoes_exported_default closed alike) fun _ => .pure (by simp))
    (.bind (echoes_accept_punct .star rfl) fun _ => .ite echoes_exported_all
      (.acceptOpened rfl echoes_exported_names
        (.bind (LooksAt.echoes looks_alike_declaration_ahead) fun _ => .ite
          (.andThen alike.statement fun _ => .pure (by simp)) (echoes_unexpected _))))

theorem echoes_var_statement (kind : VarKind) (inert : token.kind.inert = true) :
    EchoesAt distance token outer (varStatement g kind) (varStatement g kind) :=
  .advance inert fun _ => .bind (echoes_var_declarations closed alike kind) fun _ =>
    .andThen echoes_consume_semicolon fun _ => .pure (by simp)

theorem echoes_paren_expression : Echoes distance inside (parenExpression g) (parenExpression g) :=
  .opened rfl fun _ => .bind (echoes_expression closed alike).allowingIn fun _ => .closed rfl fun _ => .pure rfl rfl

theorem echoes_if_statement : Echoes distance outer (ifStatement g) (ifStatement g) :=
  .bind (echoes_expect_keyword _) fun _ => .bind (echoes_paren_expression closed alike) fun condition =>
    .continued (Statement.conditional condition · none) alike.statement
      (fun _ => .bind (echoes_accept_keyword _) fun _ => .ite
        (.andThen alike.statement fun _ => .pure (by simp)) (.pure (by simp) rfl))
      fun yes context state other => by
        have refused : acceptKeyword .elseWord context state = .ok false state := by
          rw [acceptKeyword, accept_run, if_neg other]
        rw [bind_run, refused]
        rfl

theorem echoes_while_statement (inert : token.kind.inert = true) :
    EchoesAt distance token outer (whileStatement g) (whileStatement g) :=
  .advance inert fun _ => .bind (echoes_paren_expression closed alike) fun _ => .andThen alike.statement fun _ => .pure (by simp)

theorem echoes_with_statement (inert : token.kind.inert = true) :
    EchoesAt distance token outer (withStatement g) (withStatement g) :=
  .advance inert fun _ => .bind (echoes_paren_expression closed alike) fun _ => .andThen alike.statement fun _ => .pure (by simp)

theorem echoes_do_statement (inert : token.kind.inert = true) :
    EchoesAt distance token outer (doStatement g) (doStatement g) :=
  .advance inert fun _ => .past alike.statement (fun _ => (stuck_of_reads (reads_expect_keyword _)).bind) fun _ =>
    .bind (echoes_expect_keyword _) fun _ => .bind (echoes_paren_expression closed alike) fun _ =>
      .acceptSemi (.pure (by simp)) (fun _ _ _ _ => rfl) (.pure (by simp) rfl)

theorem echoes_return_statement (inert : token.kind.inert = true) :
    EchoesAt distance token outer (returnStatement g) (returnStatement g) :=
  .advance inert fun _ => .peek fun _ _ => .branch (by simp)
    (fun _ => .any (.andThen echoes_consume_semicolon fun _ => .pure (by simp)))
    fun _ => .any (.bind (echoes_expression closed alike) fun _ => .andThen echoes_consume_semicolon fun _ => .pure (by simp))

theorem echoes_throw_statement (inert : token.kind.inert = true) :
    EchoesAt distance token outer (throwStatement g) (throwStatement g) := by
  have thrown : Echoes distance outer (do
      let value ← expression g
      consumeSemicolon
      return Statement.throws value) (do
      let value ← expression g
      consumeSemicolon
      return Statement.throws value) :=
    .bind (echoes_expression closed alike) fun _ => .andThen echoes_consume_semicolon fun _ => .pure (by simp)
  exact .advance inert fun _ => .peek fun next _ => .branch (by simp) (fun _ => .any (.bind (.fail rfl) fun _ => thrown))
    fun _ => .any thrown

omit closed in
theorem echoes_catch_param : Echoes distance inside (catchParam g) (catchParam g) :=
  .acceptOpened rfl (.bind alike.bindingTarget fun _ => .closed rfl fun _ => .pure rfl rfl) (.pure rfl rfl)

omit closed in
theorem echoes_catch_clause : Echoes distance inside (catchClause g) (catchClause g) :=
  .bind (echoes_accept_keyword _) fun _ => .ite
    (.bind (echoes_catch_param alike) fun _ => .bind alike.block fun _ => .pure (by simp) rfl) (.pure rfl rfl)

omit closed in
theorem echoes_finally_clause : Echoes distance inside (finallyClause g) (finallyClause g) :=
  .bind (echoes_accept_keyword _) fun _ => .ite (.bind alike.block fun _ => .pure rfl rfl) (.pure rfl rfl)

omit closed in
theorem echoes_try_statement : Echoes distance outer (tryStatement g) (tryStatement g) :=
  .bind (echoes_expect_keyword _) fun _ => .bind alike.block fun _ => .bind (echoes_catch_clause alike) fun handler =>
    .bind (echoes_finally_clause alike) fun finalizer => fun _ => .branch (by cases handler <;> cases finalizer <;> simp)
      (fun _ => .any (.bind (.fail rfl) fun _ => .pure (by simp) rfl)) fun _ => .pure (by simp) rfl

theorem echoes_case_test : Echoes distance inside (caseTest g) (caseTest g) :=
  .bind (echoes_accept_keyword _) fun _ => .ite (.bind (echoes_expression closed alike).allowingIn fun _ => .pure rfl rfl)
    (.bind (echoes_expect _ _ rfl rfl) fun _ => .pure rfl rfl)

omit closed in
theorem echoes_case_body_round (body : Body) :
    Echoes distance (rounds true 0) (caseBodyRound g body) (caseBodyRound g (Movable.moved distance body)) := by
  have next : Echoes distance (rounds true 0) (do return .again ((← g.statement) :: body) : Parser (Round Body Body))
      (do return .again ((← g.statement) :: Movable.moved distance body)) :=
    .map alike.statement (fun _ => rfl) fun _ => rfl
  exact .bind (echoes_check _ rfl) fun _ => .bind (echoes_check _ rfl) fun _ => .bind (echoes_check _ rfl) fun _ => .ite
    (.pure (by simp) rfl) (.bind (LooksAt.echoes looks_alike_at_end) fun _ => .ite
      (.bind (echoes_unexpected _) fun _ => next) next)

end

theorem stuck_case_body_round (g : Grammar) (body : Body) : Stuck (caseBodyRound g body) :=
  .check TokenKind.noConfusion (.check TokenKind.noConfusion (.check TokenKind.noConfusion (.atEnd
    (stuck_unexpected _).bind)))

theorem echoes_jump_label : Echoes distance outer jumpLabel jumpLabel := .peek fun token _ => by
  have nothing : Echoes distance outer (do
      consumeSemicolon
      return (none : Option String)) (do
      consumeSemicolon
      return none) := .andThen echoes_consume_semicolon fun _ => .pure rfl
  obtain ⟨kind, span, newline⟩ := token
  cases kind with
  | identifier name =>
      exact .ite (.any nothing) (.advance rfl fun _ => .andThen echoes_consume_semicolon fun _ => .pure rfl)
  | _ => exact .any nothing

theorem echoes_empty_statement (kind : token.kind = .punct .semi) :
    EchoesAt distance token outer emptyStatement emptyStatement :=
  .settle (echoes_at_advance ⟨true, 0⟩ (by simp [kind]) (by simp [closing, kind, isOpening, isClosing]) fun _ => rfl)
    (fun _ => .pure rfl) fun _ _ _ _ _ => rfl

theorem echoes_debugger_statement (inert : token.kind.inert = true) :
    EchoesAt distance token outer debuggerStatement debuggerStatement :=
  .advance inert fun _ => .andThen echoes_consume_semicolon fun _ => .pure rfl

theorem echoes_break_statement (inert : token.kind.inert = true) :
    EchoesAt distance token outer breakStatement breakStatement :=
  .advance inert fun _ => .andThen echoes_jump_label fun _ => .pure (by simp)

theorem echoes_continue_statement (inert : token.kind.inert = true) :
    EchoesAt distance token outer continueStatement continueStatement :=
  .advance inert fun _ => .andThen echoes_jump_label fun _ => .pure (by simp)

section

variable {g : Grammar} (closed : g.Closed) (alike : g.Echoes distance)
include closed alike

theorem echoes_switch_case : Echoes distance inside (switchCase g) (switchCase g) :=
  .bind (echoes_case_test closed alike) fun _ => .bind (echoes_expect_punct .colon rfl) fun _ =>
    .bind (.repeatRounds (case_body_round_shortens closed) (echoes_case_body_round alike)
      (fun _ => stuck_case_body_round g) rfl) fun _ => .pure (by simp) rfl

theorem echoes_switch_round (cases : List SwitchCase) :
    Echoes distance (rounds false 1) (switchRound g cases) (switchRound g (Movable.moved distance cases)) :=
  .acceptBrace (.pure (by simp)) (fun _ _ _ ended => by cases ended; rfl)
    (.bind (echoes_switch_case closed alike) fun _ => .pure rfl rfl)

theorem echoes_switch_statement : Echoes distance inside (switchStatement g) (switchStatement g) :=
  .bind (echoes_expect_keyword _) fun _ => .bind (echoes_paren_expression closed alike) fun _ => .opened rfl fun _ =>
    .andThen (.repeatRounds (switch_round_shortens closed) (echoes_switch_round closed alike)
      (fun isLoose => Bool.noConfusion isLoose) rfl) fun _ => .pure (by simp)

theorem echoes_for_init : Echoes distance inside (forInit g) (forInit g) := by
  have declared := fun kind => echoes_var_declarations closed alike kind
  exact .bind (echoes_accept_keyword _) fun _ => .ite (.bind (declared _) fun _ => .pure (by simp) rfl)
    (.bind (echoes_accept_keyword _) fun _ => .ite (.bind (declared _) fun _ => .pure (by simp) rfl)
      fun token => .check rfl (.lookAhead looks_ahead_let_declares (fun semi _ _ _ _ _ => by simp [semi]) fun _ =>
        .branch Iff.rfl
          (fun here => by
            have kind : token.kind = .identifier "let" := by simp_all
            exact .advance (by rw [kind]; rfl) fun _ => .bind (declared _) fun _ => .pure (by simp) rfl)
          fun _ => .any (.bind (echoes_expression closed alike) fun _ => .pure (by simp) rfl)))

theorem echoes_optional_expression (close : Punct) :
    Echoes distance inside (optionalExpression g close) (optionalExpression g close) :=
  .bind (echoes_check _ rfl) fun _ => .ite (.pure rfl rfl)
    (.bind (echoes_expression closed alike).allowingIn fun _ => .pure rfl rfl)

omit alike in
theorem stuck_optional_expression (close : Punct) : Stuck (optionalExpression g close) :=
  .check TokenKind.noConfusion (stuck_of_reads (reads_expression closed)).allowingIn.bind

theorem echoes_for_tail (init : Option ForInit) :
    Echoes distance (fun value => (outer value).deeper) (forTail g init) (forTail g (Movable.moved distance init)) :=
  .past echoes_expect_semi (fun _ => (stuck_optional_expression closed _).bind) fun _ =>
    .bind (echoes_optional_expression closed alike _) fun _ =>
      .past echoes_expect_semi (fun _ => (stuck_optional_expression closed _).bind) fun _ =>
        .bind (echoes_optional_expression closed alike _) fun _ => .closed rfl fun _ =>
          .andThen alike.statement fun _ => .pure (by simp)

theorem echoes_for_each_tail (left : ForInit) (ofKeys : Bool) (inert : token.kind.inert = true) :
    EchoesAt distance token (fun value => (outer value).deeper) (forEachTail g left ofKeys)
      (forEachTail g (left.moved distance) ofKeys) := by
  have behind : ∀ right, Echoes distance (fun value => (outer value).deeper) (do
      let _ ← expectPunct .rParen
      return Statement.forEach left ofKeys right (← g.statement)) (do
      let _ ← expectPunct .rParen
      return Statement.forEach (left.moved distance) ofKeys (Movable.moved distance right) (← g.statement)) :=
    fun _ => .closed rfl fun _ => .andThen alike.statement fun _ => .pure (by simp)
  exact .advance inert fun _ => .ite (.bind (echoes_expression closed alike).allowingIn behind)
    (.bind alike.assignment.allowingIn behind)

theorem echoes_for_statement : Echoes distance outer (forStatement g) (forStatement g) :=
  .bind (echoes_expect_keyword _) fun _ => .bind (echoes_accept_word _) fun _ => .opened rfl fun _ =>
    .bind (echoes_check _ rfl) fun _ => .ite (echoes_for_tail closed alike none)
      (.bind (echoes_for_init closed alike).forbiddingIn fun init => fun token => .check rfl (.branch Iff.rfl
        (fun word => echoes_for_each_tail closed alike init false (by rw [beq_iff_eq.mp word]; rfl))
        fun _ => .check rfl (.branch Iff.rfl
          (fun word => echoes_for_each_tail closed alike init true (by rw [beq_iff_eq.mp word]; rfl))
          fun _ => .any (echoes_for_tail closed alike (some init)))))

theorem echoes_expression_statement : Echoes distance outer (expressionStatement g) (expressionStatement g) :=
  .bind (echoes_expression closed alike) fun _ => .andThen echoes_consume_semicolon fun _ => .pure (by simp)

omit closed alike in
theorem labeled_run (name label : String) (context : Context) (state : State) (word : state.peek.kind = .identifier name)
    (colon : (state.peekAt 1).kind = .punct .colon) :
    labeledStatement g label context state = (do
      let _ ← advance
      let _ ← expectPunct .colon
      return Statement.labeled label (← g.statement)) context state := by
  obtain ⟨rest, tokens⟩ := peek_present state (by simp [word])
  cases rest with
  | nil => simp [State.peekAt, tokens] at colon
  | cons second rest =>
      have marked : second.kind = .punct .colon := by simpa [State.peekAt, tokens] using colon
      refine bind_congr fun first after read => ?_
      cases read
      have here : state.advance.peek.kind = .punct .colon := by
        rw [advance_rest state _ _ tokens (by simp [word])]
        exact marked
      refine bind_congr_first ?_
      rw [expectPunct, expect_run, if_pos here]
      rfl

omit closed alike in
theorem labeled_ahead_run (name : String) (context : Context) (state : State) (word : state.peek.kind = .identifier name) :
    (peekAt 1 >>= fun next => if next.kind == .punct .colon then labeledStatement g name else expressionStatement g)
        context state =
      (peekAt 1 >>= fun next => if next.kind == .punct .colon then (do
          let _ ← advance
          let _ ← expectPunct .colon
          return Statement.labeled name (← g.statement))
        else expressionStatement g) context state := by
  refine bind_congr fun next after read => ?_
  cases read
  by_cases colon : (state.peekAt 1).kind = .punct .colon
  · rw [if_pos (beq_iff_eq.mpr colon), if_pos (beq_iff_eq.mpr colon)]
    exact labeled_run name name context state word colon
  · rw [if_neg (by simpa using colon), if_neg (by simpa using colon)]

theorem echoes_named_statement (name : String) (word : token.kind = .identifier name) :
    EchoesAt distance token outer (namedStatement g name) (namedStatement g name) := by
  have other : token.kind ≠ .punct .semi := by simp [word]
  have inert : token.kind.inert = true := by rw [word]; rfl
  have labeled : EchoesAt distance token outer
      (peekAt 1 >>= fun next => if next.kind == .punct .colon then (do
          let _ ← advance
          let _ ← expectPunct .colon
          return Statement.labeled name (← g.statement))
        else expressionStatement g)
      (peekAt 1 >>= fun next => if next.kind == .punct .colon then (do
          let _ ← advance
          let _ ← expectPunct .colon
          return Statement.labeled name (← g.statement))
        else expressionStatement g) :=
    .look (looks_ahead_token.shown token other) fun next => .branch (by simp)
      (fun _ => .advance inert fun _ => .bind (echoes_expect_punct .colon rfl) fun _ =>
        .andThen alike.statement fun _ => .pure (by simp))
      fun _ => .any (echoes_expression_statement closed alike)
  exact .look (looks_ahead_let_declares.shown token other) fun _ => .ite (echoes_var_statement closed alike _ inert)
    (.look (looks_ahead_async_function.shown token other) fun _ => .ite
      (.advance inert fun _ => .bind (echoes_function_from closed alike _ _) fun _ => .pure (by simp) rfl)
      (labeled.congr (fun context state same => labeled_ahead_run name context state (by rw [same, word]))
        fun context state same => labeled_ahead_run name context _ (by rw [moved_peek, moved_token_kind, same, word]; rfl)))

theorem echoes_import_statement (word : token.kind = .keyword .importWord) :
    EchoesAt distance token outer (importStatement g) (importStatement g) :=
  .look (looks_ahead_token.shown token (by simp [word])) fun next => by
    obtain ⟨kind, span, newline⟩ := next
    cases kind with
    | punct mark =>
        cases mark with
        | lParen => exact .any (echoes_expression_statement closed alike)
        | dot => exact .any (echoes_expression_statement closed alike)
        | _ => exact .any echoes_import_declaration
    | _ => exact .any echoes_import_declaration

theorem echoes_plain_statement :
    EchoesAt distance token outer (plainStatement g token.kind) (plainStatement g (token.kind.moved distance)) := by
  obtain ⟨kind, span, newline⟩ := token
  have otherwise : Echoes distance outer (expressionStatement g) (expressionStatement g) :=
    echoes_expression_statement closed alike
  cases kind with
  | identifier name => exact echoes_named_statement closed alike name rfl
  | punct mark =>
      cases mark with
      | semi => exact echoes_empty_statement rfl
      | _ => exact otherwise _
  | keyword word =>
      cases word with
      | varWord => exact echoes_var_statement closed alike _ rfl
      | constWord => exact echoes_var_statement closed alike _ rfl
      | functionWord => exact .bind (echoes_function_from closed alike _ _ _) fun _ => .pure (by simp) rfl
      | classWord =>
          exact .bind (echoes_class_from closed alike (echoes_call_member closed alike) _ _) fun _ => .pure (by simp) rfl
      | ifWord => exact echoes_if_statement closed alike _
      | forWord => exact echoes_for_statement closed alike _
      | whileWord => exact echoes_while_statement closed alike rfl
      | doWord => exact echoes_do_statement closed alike rfl
      | withWord => exact echoes_with_statement closed alike rfl
      | returnWord => exact echoes_return_statement closed alike rfl
      | throwWord => exact echoes_throw_statement closed alike rfl
      | tryWord => exact echoes_try_statement alike _
      | switchWord => exact (echoes_switch_statement closed alike).loosely _
      | breakWord => exact echoes_break_statement rfl
      | continueWord => exact echoes_continue_statement rfl
      | debuggerWord => exact echoes_debugger_statement rfl
      | importWord => exact echoes_import_statement closed alike rfl
      | exportWord => exact echoes_export_declaration closed alike _
      | _ => exact otherwise _
  | _ => exact otherwise _

theorem echoes_statement_body : Echoes distance outer (statementBody g) (statementBody g) := .peek fun token _ =>
  .branch (by simp) (fun _ => .any (.bind alike.block fun _ => .pure (by simp) rfl))
    fun _ => .settle (echoes_plain_statement closed alike) (fun _ => quiet_spanned_from _ rfl) fun _ _ _ _ _ => rfl

end

theorem moved_starts_statement (kind : TokenKind) : startsStatement (kind.moved distance) = startsStatement kind := by
  cases kind <;> rfl

theorem moved_skip_to_boundary (depth lastEnd : Nat) (tokens : List Token) :
    skipToBoundary depth (lastEnd + distance) (Movable.moved distance tokens) =
      Movable.moved distance (skipToBoundary depth lastEnd tokens) := by
  induction tokens generalizing depth lastEnd with
  | nil => rfl
  | cons token rest ih =>
      have later := fun depth => ih depth token.span.stop
      have stop : (token.moved distance).span.stop = token.span.stop + distance := rfl
      simp only [moved_cons, moved_token, skipToBoundary, moved_token_kind, moved_is_opening, moved_is_closing, stop, later,
        moved_eq_punct, moved_eq_end, moved_token_newline, moved_starts_statement]
      repeat' split
      all_goals rfl

theorem moved_resuming (state : State) (before : List Token) (error : SyntaxError) :
    (state.moved distance).resuming (Movable.moved distance before) (error.moved distance) =
      (state.resuming before error).moved distance := by
  have skipped : (state.moved distance).skipping (error.moved distance) = (state.skipping error).moved distance := by
    unfold State.skipping State.moved
    simp only [moved_skip_to_boundary, moved_append]
    rfl
  have length : ((state.skipping error).moved distance).rest.length = (state.skipping error).rest.length :=
    moved_length distance _
  have close : ((state.skipping error).moved distance).peek.kind ≠ .punct .rBrace ↔
      (state.skipping error).peek.kind ≠ .punct .rBrace := by
    rw [moved_peek, moved_token_kind, ne_eq, moved_eq_punct]
  unfold State.resuming
  rw [skipped]
  simp only [length, moved_length, close, moved_advance]
  split <;> rfl

section

variable {g : Grammar} (closed : g.Closed) (alike : g.Echoes distance)
include closed alike

omit closed in
theorem echoes_attempt (brace : Span) (body : Body) (notClosing : token.kind ≠ .punct .rBrace)
    (present : token.kind ≠ .endOfFile) :
    EchoesAt distance token (rounds true 1) (blockRound g brace body)
      (blockRound g (brace.shift distance) (Movable.moved distance body)) := by
  refine ⟨?_, ?_, ?_⟩
  · intro context state same anchored
    subst same
    obtain ⟨runs, kept⟩ := alike.statement.shifts context state anchored
    rw [block_round_attempts g brace body context state notClosing present,
      block_round_attempts g _ _ context (state.moved distance)
        (by rw [moved_peek, moved_token_kind, ne_eq, moved_eq_punct]; exact notClosing)
        (by rw [moved_peek, moved_token_kind, ne_eq, moved_eq_end]; exact present), runs]
    cases outcome : g.statement context state with
    | ok statement after =>
        rw [outcome] at kept
        exact ⟨rfl, kept⟩
    | error error failed =>
        rw [outcome] at kept
        have stops : (failed.moved distance).peek.kind = .endOfFile ↔ failed.peek.kind = .endOfFile := by
          rw [moved_peek, moved_token_kind, moved_eq_end]
        dsimp only [Outcome.moved]
        by_cases stuck : failed.peek.kind = .endOfFile
        · rw [if_pos stuck, if_pos (stops.mpr stuck)]
          exact ⟨rfl, kept⟩
        · rw [if_neg stuck, if_neg fun same => stuck (stops.mp same)]
          refine ⟨congrArg (Outcome.ok _) (moved_resuming failed state.rest error), fun token inside => ?_⟩
          exact kept token ((resuming_passes failed state.rest error).suffix.subset inside)
  · intro context state value after same anchored success clean
    subst same
    obtain ⟨-, statement, outcome, rfl⟩ := block_step_quiet (block_round_step success) notClosing clean
    exact alike.statement.balances anchored outcome clean
  · intro context front last lastEnd value after tail remainder head calm success clean
    have seen : ∀ tokens, (State.peek ⟨front ++ tokens, lastEnd, []⟩).kind = token.kind :=
      fun tokens => congrArg Token.kind (peek_front head tokens lastEnd [])
    obtain ⟨-, statement, outcome, rfl⟩ := block_step_quiet (block_round_step success) (by rwa [seen]) clean
    obtain ⟨behind, stop, suffix, leaves, same, other⟩ := alike.statement.prolongs remainder calm outcome clean
    refine ⟨behind, stop, suffix, leaves, same, ?_⟩
    rw [block_round_attempts g brace body context _ (by rwa [seen]) (by rwa [seen]), other]

omit closed in
theorem echoes_block_round (brace : Span) (body : Body) :
    Echoes distance (rounds true 1) (blockRound g brace body)
      (blockRound g (brace.shift distance) (Movable.moved distance body)) := by
  intro token
  by_cases closing : token.kind = .punct .rBrace
  · have finished : EchoesAt distance token (rounds true 1)
        (advance >>= fun close => Pure.pure (.done (body.reverse, brace.merge close.span) : Round Body (Body × Span)))
        (advance >>= fun close =>
          Pure.pure (.done ((Movable.moved distance body).reverse, (brace.shift distance).merge close.span))) :=
      .settle (echoes_at_advance ⟨false, 1⟩ (by simp [closing]) (by simp [Script.closing, closing, isOpening, isClosing])
        (by simp [closing])) (fun close => .pure (by simp [moved_merge, Token.moved])) fun _ _ _ _ ended => by
          cases ended
          rfl
    exact finished.congr (fun context state same => block_round_closes g brace body context state (by rw [same, closing]))
      fun context state same => block_round_closes g _ _ context _ (by rw [moved_peek, moved_token_kind, same, closing]; rfl)
  · by_cases ended : token.kind = .endOfFile
    · have failed : Echoes distance (rounds true 1) (Parser.fail ⟨.unclosedBlock, brace⟩ : Parser (Round Body (Body × Span)))
          (Parser.fail ⟨.unclosedBlock, brace.shift distance⟩) := .fail rfl
      exact (failed token).congr
        (fun context state same => block_round_unclosed g brace body context state (by rw [same, ended]))
        fun context state same => block_round_unclosed g _ _ context _ (by rw [moved_peek, moved_token_kind, same, ended]; rfl)
    · exact echoes_attempt alike brace body closing ended

omit closed alike in
theorem stuck_block_round (g : Grammar) (brace : Span) (body : Body) : Stuck (blockRound g brace body) :=
  .check TokenKind.noConfusion (.atEnd (Stuck.fail _).bind)

theorem echoes_block_body : Echoes distance inside (blockBody g) (blockBody g) :=
  .opened rfl fun brace => .repeatRounds (block_round_shortens closed brace.span) (echoes_block_round alike brace.span)
    (fun _ => stuck_block_round g brace.span) rfl

end

theorem echoes_too_deep {α : Type} [Movable α] {ending : α → Ending} : Echoes distance ending tooDeep tooDeep :=
  .peek fun _ _ => .any (.fail rfl)

theorem of_levels_echo (levels distance : Nat) : (Grammar.ofLevels levels).Echoes distance := by
  induction levels with
  | zero =>
      exact ⟨echoes_too_deep, echoes_too_deep, echoes_too_deep, echoes_too_deep, fun _ => echoes_too_deep, echoes_too_deep,
        echoes_too_deep⟩
  | succ levels ih =>
      have closed := of_levels_closed levels
      exact ⟨echoes_statement_body closed ih, echoes_block_body closed ih, echoes_binding_target_body closed ih,
        echoes_assignment_body closed ih, echoes_binary_from closed ih, echoes_unary_body closed ih,
        echoes_new_expression_body closed ih⟩

end ScriptSuite.Script
