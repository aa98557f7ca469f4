import ScriptSuite.Proofs.Script.Echo.Statement
import ScriptSuite.Proofs.Script.Semicolon.Expression

set_option autoImplicit false

namespace ScriptSuite.Script

variable {α β : Type} {joint : Joint}

namespace Joint

variable (joint : Joint)

def Beyond : Start :=
  ⟨fun state => ∃ name, state.peek.kind = .identifier name, fun state mate => joint.behind state.rest mate.rest⟩

def endings (node : α → Statement) : Landing α :=
  ⟨fun value rest mate =>
      joint.loose rest mate ∨ (node value).closable = true ∧ joint.past rest ∧ mate = joint.onward,
    fun value rest => joint.past rest ∧ (node value).closable = false⟩

end Joint

section

variable [Spanless α] [Spanless β] {landing : Landing α} {late : Landing β} {start : Start} {parser mate other mateOther : Parser α}

omit [Spanless α] [Spanless β] in
theorem behind_peek {state mate : State} (behind : joint.behind state.rest mate.rest) :
    ∃ name, state.peek.kind = .identifier name ∧ mate.peek.kind = .identifier name := by
  obtain ⟨name, isName⟩ := joint.isName
  obtain ⟨rest, lastEnd, recovered⟩ := state
  obtain ⟨rest', lastEnd', recovered'⟩ := mate
  obtain ⟨here, there⟩ := behind
  dsimp only at here there
  refine ⟨name, by rw [here, peek_cons, isName], ?_⟩
  rw [there, Joint.onward]
  split
  · rw [peek_cons, isName]
  · rw [peek_cons, Token.onNewLine, isName]

theorem Carries.loose (tracking : Carries joint.Tracking landing parser mate) (beyond : Carries joint.Beyond landing parser mate) :
    Carries (Standing joint.loose) landing parser mate :=
  .either tracking beyond (fun _ => id) fun _ _ => id

theorem Carries.onTrack (carries : Carries (Standing joint.loose) landing parser mate) :
    Carries joint.Tracking landing parser mate :=
  carries.weaken (fun _ _ => trivial) (fun _ _ => .inl) (fun _ _ _ => .inl) fun _ _ => id

theorem Carries.beyond (carries : Carries (Standing joint.loose) landing parser mate) : Carries joint.Beyond landing parser mate :=
  carries.weaken (fun _ _ => trivial) (fun _ _ => .inr) (fun _ _ _ => .inl) fun _ _ => id

theorem Carries.named (carries : Carries joint.Beyond landing other mateOther)
    (first : ∀ context (state : State) name, state.peek.kind = .identifier name → parser context state = other context state)
    (second : ∀ context (state : State) name, state.peek.kind = .identifier name →
      mate context state = mateOther context state) : Carries joint.Beyond landing parser mate := by
  constructor
  · rintro context state value after ⟨name, word⟩ success
    rw [first context state name word] at success
    exact carries.grows context state value after ⟨name, word⟩ success
  · intro context state other value after behind untouched success
    obtain ⟨name, here, there⟩ := behind_peek behind
    rw [first context state name here] at success
    rw [second context other name there]
    exact carries.carries context state other value after behind untouched success

omit [Spanless α] in
theorem named_check {kind : TokenKind} (blind : kind.blind = true) {next : Bool → Parser α} (context : Context) (state : State)
    (name : String) (word : state.peek.kind = .identifier name) :
    (check kind >>= next) context state = next false context state := by
  have differs : state.peek.kind ≠ kind := by
    rintro same
    rw [← same, word] at blind
    cases blind
  rw [bind_run, check_run, beq_eq_false_iff_ne.mpr differs]

omit [Spanless α] in
theorem named_accept {kind : TokenKind} (blind : kind.blind = true) {next : Bool → Parser α} (context : Context) (state : State)
    (name : String) (word : state.peek.kind = .identifier name) :
    (accept kind >>= next) context state = next false context state := by
  have differs : state.peek.kind ≠ kind := by
    rintro same
    rw [← same, word] at blind
    cases blind
  rw [bind_run, accept_run, if_neg differs]

theorem Carries.checkBeyond {kind : TokenKind} (blind : kind.blind = true) {next nextMate : Bool → Parser α}
    (no : Carries joint.Beyond landing (next false) (nextMate false)) :
    Carries joint.Beyond landing (Script.check kind >>= next) (Script.check kind >>= nextMate) :=
  no.named (named_check blind) (named_check blind)

theorem Carries.acceptBeyond {kind : TokenKind} (blind : kind.blind = true) {next nextMate : Bool → Parser α}
    (no : Carries joint.Beyond landing (next false) (nextMate false)) :
    Carries joint.Beyond landing (accept kind >>= next) (accept kind >>= nextMate) :=
  no.named (named_accept blind) (named_accept blind)

theorem Carries.atEndBeyond {next nextMate : Bool → Parser α} (no : Carries joint.Beyond landing (next false) (nextMate false)) :
    Carries joint.Beyond landing (atEnd >>= next) (atEnd >>= nextMate) :=
  .checkBeyond (rfl : TokenKind.endOfFile.blind = true) no

theorem carries_expect_loose {kind : TokenKind} (blind : kind.blind = true) (other : kind.other = true) (wanted : Expectation) :
    Carries (Standing joint.loose) joint.inside (expect kind wanted) (expect kind wanted) :=
  .loose (carries_expect other wanted) (.checkBeyond blind (.unexpected wanted))

theorem Carries.thenLoose (one : Carries start joint.outer parser mate) {next nextMate : α → Parser β}
    (two : ∀ value seen, Alike value seen → Carries (Standing joint.loose) late (next value) (nextMate seen)) :
    Carries start late (parser >>= next) (mate >>= nextMate) :=
  one.bind (fun _ _ _ _ _ never => never.elim) two

end

section

variable [Spanless α] {start : Start} {node : α → Statement}

theorem carries_result {value seen : α} (alike : Alike value seen) :
    Carries (Standing joint.loose) (joint.endings node) (Pure.pure value) (Pure.pure seen) :=
  .pure_at alike fun _ _ => .inl

theorem carries_whole {value seen : α} (alike : Alike value seen) :
    Carries joint.Tracking (joint.endings node) (Pure.pure value) (Pure.pure seen) :=
  (carries_result alike).onTrack

theorem carries_closed {value seen : α} (alike : Alike value seen) (plain : (node value).closable = false) :
    Carries joint.Tracking (joint.endings node) (consumeSemicolon >>= fun _ => Pure.pure value)
      (consumeSemicolon >>= fun _ => Pure.pure seen) :=
  .unlessLost carries_consume_semicolon_past (fun _ => .pure fun _ past => ⟨past, plain⟩) fun _ _ _ => carries_whole alike

theorem carries_closable {value seen : α} (alike : Alike value seen) (closable : (node value).closable = true) :
    Carries joint.Tracking (joint.endings node) (consumeSemicolon >>= fun _ => Pure.pure value)
      (consumeSemicolon >>= fun _ => Pure.pure seen) :=
  .bind carries_consume_semicolon (fun _ _ _ _ _ never => never.elim) fun _ _ _ =>
    .pure_at alike fun _ _ met => met.imp .inl fun past => ⟨closable, past⟩

end

theorem halts_module_name : Halts moduleName :=
  .peek (fun _ _ => halts_identifier_name) fun _ _ => halts_identifier_name

theorem carries_module_name : Carries joint.Tracking joint.inside moduleName moduleName :=
  .peek
    (fun kind _ _ _ => by
      cases kind with
      | string name => exact .advance TokenKind.noConfusion fun _ _ _ => .pure rfl
      | _ => exact carries_identifier_name.at)
    fun _ _ _ _ => carries_identifier_name.at

theorem carries_imported_name : Carries joint.Tracking (joint.losing joint.short) importedName importedName :=
  .thenSame carries_module_name fun _ => .unlessLostSame (carries_accept_word _)
    (fun _ => .ite (.first halts_identifier joint.short_barred) (.pure fun _ => id))
    fun _ => .ite (.thenSame carries_identifier fun _ => .pure rfl) (.pure rfl)

theorem carries_imported_names : Carries joint.Tracking joint.inside importedNames importedNames :=
  .thenSame (carries_accept_punct rfl) fun _ => .ite
    (.then (carries_expect_word _) fun _ _ _ => .thenSame carries_identifier fun _ => .pure rfl)
    (.thenSame (carries_accept_punct rfl) fun _ => .ite (carries_names_list reads_imported_name carries_imported_name)
      (.unexpected _))

theorem halts_imported_names : Halts importedNames :=
  .unaccepted (fun _ => id) rfl (.unaccepted (fun _ => id) rfl (falls_unexpected _))

theorem carries_import_specifiers : Carries joint.Tracking joint.inside importSpecifiers importSpecifiers :=
  .halting
    (fun kind _ _ _ => .peeked (by
      cases kind with
      | identifier name =>
          exact .thenSame carries_identifier.at fun _ => .thenSame (carries_accept_punct rfl) fun _ => .ite
            (.then carries_imported_names fun _ _ names => .pure (alike_cons rfl names)) (.pure rfl)
      | _ => exact carries_imported_names.at))
    (.peek (fun _ _ => halts_imported_names) fun _ _ => halts_imported_names)

theorem carries_import_declaration : Carries joint.Tracking (joint.endings id) importDeclaration importDeclaration := by
  have named : Carries joint.Tracking (joint.endings id) (do
      let specifiers ← importSpecifiers
      let _ ← expectWord "from"
      let source ← stringLiteral
      consumeSemicolon
      return Statement.imports specifiers source) (do
      let specifiers ← importSpecifiers
      let _ ← expectWord "from"
      let source ← stringLiteral
      consumeSemicolon
      return Statement.imports specifiers source) :=
    .then carries_import_specifiers fun _ _ specifiers => .then (carries_expect_word _) fun _ _ _ =>
      .thenSame carries_string_literal fun _ => carries_closed (by simp_all [Alike]) rfl
  have halts : Halts importSpecifiers :=
    .peek (fun _ _ => halts_imported_names) fun _ _ => halts_imported_names
  exact .then (carries_expect_keyword _) fun _ _ _ => .halting
    (fun kind _ _ _ => .peeked (by
      cases kind with
      | string source => exact .advance TokenKind.noConfusion fun _ _ _ => carries_closed rfl rfl
      | _ => exact named.at))
    (.peek (fun _ _ => .first halts) fun _ _ => .first halts)

theorem carries_exported_alias : Carries joint.Tracking (joint.losing joint.short) exportedAlias exportedAlias :=
  .unlessLostSame (carries_accept_word _) (fun _ => .ite (.first halts_module_name joint.short_barred) (.pure fun _ => id))
    fun _ => .ite (.thenSame carries_module_name fun _ => .pure rfl) (.pure rfl)

theorem carries_exported_all : Carries joint.Tracking (joint.endings id) exportedAll exportedAll :=
  .unlessLostSame carries_exported_alias (fun _ => .first (halts_expect rfl _) joint.short_barred) fun _ =>
    .then (carries_expect_word _) fun _ _ _ => .thenSame carries_string_literal fun _ => carries_closed rfl rfl

theorem carries_exported_name : Carries joint.Tracking (joint.losing joint.short) exportedName exportedName :=
  .thenSame carries_module_name fun _ => .unlessLostSame (carries_accept_word _)
    (fun _ => .ite (.first halts_module_name joint.short_barred) (.pure fun _ => id))
    fun _ => .ite (.thenSame carries_module_name fun _ => .pure rfl) (.pure rfl)

theorem carries_exported_source : Carries joint.Tracking (joint.losing joint.short) exportedSource exportedSource :=
  .unlessLostSame (carries_accept_word _) (fun _ => .ite (.first halts_string_literal joint.short_barred) (.pure fun _ => id))
    fun _ => .ite (.thenSame carries_string_literal fun _ => .pure rfl) (.pure rfl)

theorem carries_exported_names : Carries joint.Tracking (joint.endings id) exportedNames exportedNames :=
  .then (carries_names_list reads_exported_name carries_exported_name) fun _ _ names =>
    .unlessLostSame carries_exported_source
      (fun _ => .bind falls_consume_semicolon fun _ => .pure fun _ past => ⟨past, rfl⟩)
      fun _ => carries_closed (by simp_all [Alike]) rfl

section

variable {h g : Grammar} (closed : g.Closed) (carried : Grammar.Carried joint h g)
include closed carried

theorem carries_exported_default :
    Carries joint.Tracking (joint.losing joint.past) (exportedDefault h) (exportedDefault g) := by
  have halts : Halts (exportedDefault h) :=
    .look looks_start_offset fun _ => .check rfl (.check rfl (.look looks_async_function_ahead fun _ => by
      rw [Bool.false_and, Bool.or_false, if_neg Bool.false_ne_true]
      exact .unchecked (fun _ => id) rfl (.first carried.assignmentHalts.within fun _ => id)))
  refine .halting (fun kind _ _ _ => .offset fun start other => .check (.check (.functionAhead rfl fun found seen same => ?_))) halts
  have asks : (kind == .keyword .functionWord || (kind == .identifier "async" && found)) =
      (kind == .keyword .functionWord || (kind == .identifier "async" && seen)) := by
    by_cases word : kind = .identifier "async"
    · subst word
      rw [same TokenKind.noConfusion]
    · rw [beq_eq_false_iff_ne.mpr word, Bool.false_and, Bool.false_and]
  dsimp only at asks ⊢
  rw [asks]
  exact .ite
    (.at (.unlessLostSame (carries_accept_word _) (fun _ => .first (.first (halts_expect rfl _)) joint.short_barred) fun _ =>
      .then (carries_function_from closed carried _ _) fun _ _ function => carries_spanned_from (by simp_all [Alike])))
    (.at (.thenSame (carries_check rfl) fun _ => .ite
      (.then (carries_class_from closed carried (carries_call_member closed carried) _) fun _ _ decl =>
        carries_spanned_from (by simp_all [Alike]))
      (.then carried.assignment.allowingIn fun _ _ value =>
        .unlessLost carries_consume_semicolon_past (fun _ => .pure fun _ => id) fun _ _ _ => .pure value)))

theorem carries_export_declaration :
    Carries joint.Tracking (joint.endings id) (exportDeclaration h) (exportDeclaration g) := by
  have halts : Halts (declarationAhead >>= fun found => if found = true then h.statement >>= fun statement =>
      Pure.pure (Statement.exportsDeclaration statement) else unexpected .exportedDeclaration) := by
    intro context state value after stands success
    have none : state.peek.kind.declaresBefore (state.peekAt 1) = false := by
      rcases barred_peek stands with semi | at_
      · rw [semi]
        rfl
      · rw [at_]
        rfl
    rw [bind_run, declaration_ahead_run, none] at success
    exact halts_unexpected _ context state value after stands success
  exact .then (carries_expect_keyword _) fun _ _ _ => .thenSame (carries_accept_keyword _) fun _ => .ite
    (.unlessLost (carries_exported_default closed carried) (fun _ => .pure fun _ past => ⟨past, rfl⟩) fun _ _ value =>
      carries_whole (by simp_all [Alike]))
    (.thenSame (carries_accept_punct rfl) fun _ => .ite carries_exported_all
      (.thenSame (carries_accept_punct rfl) fun _ => .ite carries_exported_names
        (.halting (fun kind _ _ _ => .declarationAhead rfl fun _ => .ite
            (.at (.thenLoose carried.statement.onTrack fun _ _ statement => carries_result (by simp_all [Alike])))
            (.unexpected _))
          halts)))

theorem carries_var_statement {kind : TokenKind} {one two : Span} {newline : Bool} (other : kind ≠ .punct .semi)
    (declares : VarKind) :
    Carries (joint.Showing ⟨kind, one, newline⟩ ⟨kind, two, newline⟩) (joint.endings id) (varStatement h declares)
      (varStatement g declares) :=
  .advance other fun _ _ _ => .then (carries_var_declarations closed carried declares) fun _ _ decl =>
    carries_closable (by simp_all [Alike]) rfl

theorem carries_paren_expression : Carries joint.Tracking joint.inside (parenExpression h) (parenExpression g) :=
  .then (carries_expect_punct rfl) fun _ _ _ => .then (carries_expression closed carried).allowingIn fun _ _ value =>
    .then (carries_expect_punct rfl) fun _ _ _ => .pure value

-- The name behind the tick is no `else`.
theorem carries_if_statement : Carries joint.Tracking (joint.endings id) (ifStatement h) (ifStatement g) :=
  .then (carries_expect_keyword _) fun _ _ _ => .then (carries_paren_expression closed carried) fun _ _ condition =>
    .thenLoose carried.statement.onTrack fun _ _ yes => .loose
      (.thenSame (carries_accept_keyword _) fun _ => .ite
        (.thenLoose carried.statement.onTrack fun _ _ no => carries_result (by simp_all [Alike]))
        (carries_whole (by simp_all [Alike])))
      (.acceptBeyond rfl (carries_result (by simp_all [Alike])).beyond)

theorem carries_while_statement {one two : Span} {newline : Bool} :
    Carries (joint.Showing ⟨.keyword .whileWord, one, newline⟩ ⟨.keyword .whileWord, two, newline⟩) (joint.endings id)
      (whileStatement h) (whileStatement g) :=
  .advance TokenKind.noConfusion fun _ _ _ => .then (carries_paren_expression closed carried) fun _ _ condition =>
    .thenLoose carried.statement.onTrack fun _ _ body => carries_result (by simp_all [Alike])

theorem carries_with_statement {one two : Span} {newline : Bool} :
    Carries (joint.Showing ⟨.keyword .withWord, one, newline⟩ ⟨.keyword .withWord, two, newline⟩) (joint.endings id)
      (withStatement h) (withStatement g) :=
  .advance TokenKind.noConfusion fun _ _ _ => .then (carries_paren_expression closed carried) fun _ _ object =>
    .thenLoose carried.statement.onTrack fun _ _ body => carries_result (by simp_all [Alike])

theorem carries_do_statement {one two : Span} {newline : Bool} :
    Carries (joint.Showing ⟨.keyword .doWord, one, newline⟩ ⟨.keyword .doWord, two, newline⟩) (joint.endings id)
      (doStatement h) (doStatement g) :=
  .advance TokenKind.noConfusion fun _ _ _ => .thenLoose carried.statement.onTrack fun _ _ body =>
    .then (carries_expect_loose rfl rfl _) fun _ _ _ => .then (carries_paren_expression closed carried) fun _ _ condition =>
      .unlessLostSame carries_accept_semi (fun _ => .pure fun _ past => ⟨past, rfl⟩) fun _ => carries_whole (by simp_all [Alike])

theorem carries_return_statement {one two : Span} {newline : Bool} :
    Carries (joint.Showing ⟨.keyword .returnWord, one, newline⟩ ⟨.keyword .returnWord, two, newline⟩) (joint.endings id)
      (returnStatement h) (returnStatement g) := by
  have falls : ∀ {token : Token}, Falls joint.short (joint.endings id).lost (if statementEnds token = true then do
        consumeSemicolon
        return Statement.returns none
      else do
        let value ← expression h
        consumeSemicolon
        return Statement.returns (some value)) :=
    .ite (.bind falls_consume_semicolon fun _ => .pure fun _ past => ⟨past, rfl⟩)
      (.first (halts_expression carried) joint.short_barred)
  exact .advance TokenKind.noConfusion fun _ _ _ => .unlessApart
    (fun _ _ _ _ => .peeked (.ite (.at (carries_closed rfl rfl)) (.at (.then (carries_expression closed carried) fun _ _ value =>
      carries_closed (by simp_all [Alike]) rfl))))
    (.peek joint.short_barred (fun _ _ => falls) fun _ _ => falls)

theorem carries_throw_statement {one two : Span} {newline : Bool} :
    Carries (joint.Showing ⟨.keyword .throwWord, one, newline⟩ ⟨.keyword .throwWord, two, newline⟩) (joint.endings id)
      (throwStatement h) (throwStatement g) := by
  have thrown : Carries joint.Tracking (joint.endings id) (do
      let value ← expression h
      consumeSemicolon
      return Statement.throws value) (do
      let value ← expression g
      consumeSemicolon
      return Statement.throws value) :=
    .then (carries_expression closed carried) fun _ _ value => carries_closed (by simp_all [Alike]) rfl
  have halts : Halts (do
      let value ← expression h
      consumeSemicolon
      return Statement.throws value) :=
    .first (halts_expression carried)
  exact .advance TokenKind.noConfusion fun _ _ _ => .halting
    (fun _ _ _ _ => .peeked (.ite (.then (.fail _) fun _ _ _ => thrown) thrown.at))
    (.peek (fun _ _ => .ite (Halts.first (falls_fail _)) halts) fun _ _ => .ite (Halts.first (falls_fail _)) halts)

omit closed in
theorem carries_catch_param : Carries joint.Tracking joint.inside (catchParam h) (catchParam g) :=
  .thenSame (carries_accept_punct rfl) fun _ => .ite
    (.then carried.bindingTarget fun _ _ param => .then (carries_expect_punct rfl) fun _ _ _ => .pure (alike_some param))
    (.pure rfl)

omit closed in
theorem carries_catch_clause : Carries joint.Tracking joint.inside (catchClause h) (catchClause g) :=
  .thenSame (carries_accept_keyword _) fun _ => .ite
    (.then (carries_catch_param carried) fun _ _ param => .then carried.block fun block other body => by
      obtain ⟨body, span⟩ := block
      obtain ⟨otherBody, otherSpan⟩ := other
      exact .pure (by simp_all [Alike]))
    (.pure rfl)

omit closed in
theorem carries_finally_clause : Carries joint.Tracking joint.inside (finallyClause h) (finallyClause g) :=
  .thenSame (carries_accept_keyword _) fun _ => .ite
    (.then carried.block fun block other body => by
      obtain ⟨body, span⟩ := block
      obtain ⟨otherBody, otherSpan⟩ := other
      exact .pure (by simp_all [Alike]))
    (.pure rfl)

omit closed in
theorem carries_try_statement : Carries joint.Tracking (joint.endings id) (tryStatement h) (tryStatement g) :=
  .then (carries_expect_keyword _) fun _ _ _ => .then carried.block fun block other body => by
    obtain ⟨body, span⟩ := block
    obtain ⟨otherBody, otherSpan⟩ := other
    refine .then (carries_catch_clause carried) fun handler seen handled =>
      .then (carries_finally_clause carried) fun finalizer last final => ?_
    have one : handler.isNone = seen.isNone := by cases handler <;> cases seen <;> first | rfl | cases handled
    have two : finalizer.isNone = last.isNone := by cases finalizer <;> cases last <;> first | rfl | cases final
    rw [one, two]
    exact .ite (.then (.fail _) fun _ _ _ => carries_whole (by simp_all [Alike])) (carries_whole (by simp_all [Alike]))

theorem carries_case_test : Carries joint.Tracking joint.inside (caseTest h) (caseTest g) :=
  .thenSame (carries_accept_keyword _) fun _ => .ite
    (.then (carries_expression closed carried).allowingIn fun _ _ test => .pure (alike_some test))
    (.then (carries_expect rfl _) fun _ _ _ => .pure rfl)

omit closed in
theorem carries_case_body_round {body seen : Body} (same : Alike body seen) :
    Carries (Standing joint.loose) (Landing.rounds joint.loose (fun _ => False) joint.inside) (caseBodyRound h body)
      (caseBodyRound g seen) := by
  have next : Carries (Standing joint.loose) (Landing.rounds joint.loose (fun _ => False) joint.inside)
      (do return .again ((← h.statement) :: body) : Parser (Round Body Body))
      (do return .again ((← g.statement) :: seen)) :=
    .thenLoose carried.statement fun _ _ statement => .pure_at (congrArg Round.again (alike_cons statement same)) fun _ _ => id
  exact .loose
    (.thenSame (carries_check rfl) fun _ => .thenSame (carries_check rfl) fun _ => .thenSame (carries_check rfl) fun _ => .ite
      (.pure_at (congrArg Round.done (alike_reverse same)) fun _ _ => id)
      (.thenSame carries_at_end fun _ => .ite (.then (.unexpected _) fun _ _ _ => next.onTrack) next.onTrack))
    (.checkBeyond rfl (.checkBeyond rfl (.checkBeyond rfl (.atEndBeyond next.beyond))))

theorem carries_switch_case : Carries joint.Tracking joint.inside (switchCase h) (switchCase g) :=
  .then (carries_case_test closed carried) fun _ _ test => .then (carries_expect_punct rfl) fun _ _ _ =>
    .then (Carries.onTrack (.repeatRounds (case_body_round_shortens closed) (fun _ _ => carries_case_body_round carried)
      (fun _ _ _ _ _ never => never.elim) rfl)) fun _ _ body => .pure (by simp_all [Alike])

theorem carries_switch_statement : Carries joint.Tracking (joint.endings id) (switchStatement h) (switchStatement g) :=
  .then (carries_expect_keyword _) fun _ _ _ => .then (carries_paren_expression closed carried) fun _ _ discriminant =>
    .then (carries_expect_punct rfl) fun _ _ _ => .then
      (.repeatTurning (switch_round_shortens closed)
        (fun _ _ same => .thenSame (carries_accept_punct rfl) fun _ => .ite (carries_done (alike_reverse same))
          (.then (carries_switch_case closed carried) fun _ _ next => carries_again (alike_cons next same))) rfl)
      fun _ _ cases => carries_whole (by simp_all [Alike])

omit closed carried in
theorem carries_jump_label : Carries joint.Tracking (joint.losing joint.past) jumpLabel jumpLabel := by
  have nothing : Carries joint.Tracking (joint.losing joint.past) (do
      consumeSemicolon
      return (none : Option String)) (do
      consumeSemicolon
      return none) := .unlessLost carries_consume_semicolon_past (fun _ => .pure fun _ => id) fun _ _ _ => .pure rfl
  have none : Falls joint.short (fun _ => joint.past) (do
      consumeSemicolon
      return (none : Option String)) := .bind falls_consume_semicolon fun _ => .pure fun _ => id
  exact .unlessApart
    (fun kind _ _ _ => .peeked (by
      cases kind with
      | identifier name =>
          exact .ite nothing.at (.advance TokenKind.noConfusion fun _ _ _ =>
            .unlessLost carries_consume_semicolon_past (fun _ => .pure fun _ => id) fun _ _ _ => .pure rfl)
      | _ => exact nothing.at))
    (.peek joint.short_barred (fun _ _ => none) fun _ _ => none)

end

def letOrExpression (g : Grammar) : Parser ForInit := do
  if (← checkWord "let") && (← letDeclares) then
    let _ ← advance
    return .var (← varDeclarations g .«let»)
  return .expr (← expression g)

section

variable {h g : Grammar} (closed : g.Closed) (carried : Grammar.Carried joint h g)
include closed carried

omit closed in
theorem halts_let_or_expression : Halts (letOrExpression h) :=
  .check rfl (.look looks_let_declares fun _ => by
    rw [Bool.false_and, if_neg Bool.false_ne_true]
    exact .first (halts_expression carried))

theorem carries_let_or_expression : Carries joint.Tracking joint.inside (letOrExpression h) (letOrExpression g) := by
  have value : Carries joint.Tracking joint.inside (expression h >>= fun value => Pure.pure (ForInit.expr value))
      (expression g >>= fun value => Pure.pure (ForInit.expr value)) :=
    .then (carries_expression closed carried) fun _ _ value => .pure (by simp_all [Alike])
  refine .halting (fun kind _ _ _ => .check (.letAhead rfl fun found seen same => ?_)) (halts_let_or_expression carried)
  by_cases word : kind = .identifier "let"
  · subst word
    rw [same rfl]
    exact .ite (.advance TokenKind.noConfusion fun _ _ _ => .then (carries_var_declarations closed carried _) fun _ _ decl =>
      .pure (by simp_all [Alike])) value.at
  · rw [beq_eq_false_iff_ne.mpr word]
    exact value.at

omit closed in
theorem halts_for_init : Halts (forInit h) :=
  .unaccepted (fun _ => id) rfl (.unaccepted (fun _ => id) rfl (halts_let_or_expression carried))

theorem carries_for_init : Carries joint.Tracking joint.inside (forInit h) (forInit g) :=
  .thenSame (carries_accept_keyword _) fun _ => .ite
    (.then (carries_var_declarations closed carried _) fun _ _ decl => .pure (by simp_all [Alike]))
    (.thenSame (carries_accept_keyword _) fun _ => .ite
      (.then (carries_var_declarations closed carried _) fun _ _ decl => .pure (by simp_all [Alike]))
      (carries_let_or_expression closed carried))

omit closed in
theorem falls_optional_expression (close : Punct) :
    Falls joint.short (fun _ => joint.short) (optionalExpression h close) :=
  .look (looks_check _) fun _ => .ite (.pure fun _ => id) (.first (halts_expression carried).within joint.short_barred)

omit closed in
theorem falls_optional_past {close : Punct} (differs : TokenKind.punct .at ≠ .punct close) {lost : β → List Token → Prop}
    {next : Option (Spanned Expr) → Parser β} : Falls joint.past lost (optionalExpression h close >>= next) := by
  have halts : Falls joint.past (fun _ _ => False) (optionalExpression h close) :=
    .uncheckedPast differs (.first (halts_expression carried).within joint.past_barred)
  have none : ∀ value, Falls (fun _ => False) lost (next value) := fun _ _ _ _ _ never => never.elim
  exact .bind halts none

theorem carries_optional_expression (close : Punct) :
    Carries joint.Tracking (joint.losing joint.short) (optionalExpression h close) (optionalExpression g close) :=
  .unlessApart
    (fun _ _ _ _ => .check (.ite (.at (.pure rfl)) (.at (.then (carries_expression closed carried).allowingIn fun _ _ value =>
      .pure (alike_some value)))))
    (falls_optional_expression carried close)

theorem carries_for_tail {init other : Option ForInit} (same : Alike init other) :
    Carries joint.Tracking (joint.endings id) (forTail h init) (forTail g other) :=
  .unlessLost carries_expect_semi (fun _ => falls_optional_past carried (by simp)) fun _ _ _ =>
    .unlessLost (carries_optional_expression closed carried _)
      (fun _ => .bind falls_expect_semi fun _ => falls_optional_past carried (by simp)) fun _ _ test =>
        .unlessLost carries_expect_semi (fun _ => falls_optional_past carried (by simp)) fun _ _ _ =>
          .unlessLost (carries_optional_expression closed carried _) (fun _ => .first (halts_expect rfl _) joint.short_barred)
            fun _ _ update => .then (carries_expect_punct rfl) fun _ _ _ =>
              .thenLoose carried.statement.onTrack fun _ _ body => carries_result (by simp_all [Alike])

omit closed in
theorem falls_for_tail {lost : Statement → List Token → Prop} (init : Option ForInit) :
    Falls joint.short lost (forTail h init) :=
  .bind falls_expect_semi fun _ => falls_optional_past carried (by simp)

theorem carries_for_each_tail {kind : TokenKind} {one two : Span} {newline : Bool} (plain : kind ≠ .punct .semi)
    {left other : ForInit} (same : Alike left other) (ofKeys : Bool) :
    Carries (joint.Showing ⟨kind, one, newline⟩ ⟨kind, two, newline⟩) (joint.endings id) (forEachTail h left ofKeys)
      (forEachTail g other ofKeys) := by
  have behind : ∀ {right seen : Spanned Expr}, Alike right seen → Carries joint.Tracking (joint.endings id) (do
      let _ ← expectPunct .rParen
      return Statement.forEach left ofKeys right (← h.statement)) (do
      let _ ← expectPunct .rParen
      return Statement.forEach other ofKeys seen (← g.statement)) :=
    fun right => .then (carries_expect_punct rfl) fun _ _ _ => .thenLoose carried.statement.onTrack fun _ _ body =>
      carries_result (by simp_all [Alike])
  exact .advance plain fun _ _ _ => .ite (.then (carries_expression closed carried).allowingIn fun _ _ right => behind right)
    (.then carried.assignment.allowingIn fun _ _ right => behind right)

theorem carries_for_statement : Carries joint.Tracking (joint.endings id) (forStatement h) (forStatement g) :=
  .then (carries_expect_keyword _) fun _ _ _ => .unlessLostSame (carries_accept_word _)
    (fun _ => .first (halts_expect rfl _) joint.short_barred) fun _ => .then (carries_expect_punct rfl) fun _ _ _ => .unlessApart
      (fun _ _ _ _ => .check (.ite (.at (carries_for_tail closed carried rfl))
        (.at (.then (carries_for_init closed carried).forbiddingIn fun _ _ init => .unlessApart
          (fun kind _ _ _ => .check (.branch
            (fun word => carries_for_each_tail closed carried (by rintro rfl; cases beq_iff_eq.mp word) init false)
            fun _ => .check (.branch
              (fun word => carries_for_each_tail closed carried (by rintro rfl; cases beq_iff_eq.mp word) init true)
              fun _ => (carries_for_tail closed carried (alike_some init)).at)))
          (.unchecked joint.short_barred rfl (.unchecked joint.short_barred rfl (falls_for_tail carried _)))))))
      (.look (looks_check _) fun _ => .ite (falls_for_tail carried _)
        (.first (Halts.within (halts_for_init carried)) joint.short_barred))

theorem carries_expression_statement :
    Carries joint.Tracking (joint.endings id) (expressionStatement h) (expressionStatement g) :=
  .then (carries_expression closed carried) fun _ _ value => carries_closable (by simp_all [Alike]) rfl

theorem carries_named_statement (name : String) {one two : Span} {newline : Bool} :
    Carries (joint.Showing ⟨.identifier name, one, newline⟩ ⟨.identifier name, two, newline⟩) (joint.endings id)
      (namedStatement h name) (namedStatement g name) := by
  have labeled : Carries (joint.Showing ⟨.identifier name, one, newline⟩ ⟨.identifier name, two, newline⟩) (joint.endings id)
      (peekAt 1 >>= fun next => if next.kind == .punct .colon then (do
          let _ ← advance
          let _ ← expectPunct .colon
          return Statement.labeled name (← h.statement))
        else expressionStatement h)
      (peekAt 1 >>= fun next => if next.kind == .punct .colon then (do
          let _ ← advance
          let _ ← expectPunct .colon
          return Statement.labeled name (← g.statement))
        else expressionStatement g) :=
    .ahead (fun second behind sees => by
      have same : (second.kind == .punct .colon) = (behind.kind == .punct .colon) := by
        cases sees with
        | same => rfl
        | past semi => cases semi
        | apart => rfl
      rw [same]
      exact .ite
        (.advance TokenKind.noConfusion fun _ _ _ => .then (carries_expect_punct rfl) fun _ _ _ =>
          .thenLoose carried.statement.onTrack fun _ _ body => carries_result (by simp_all [Alike]))
        (carries_expression_statement closed carried).at) rfl
  refine .letAhead rfl fun found seen same => ?_
  have declares : (name == "let" && found) = (name == "let" && seen) := by
    by_cases isLet : name = "let"
    · rw [same (congrArg _ isLet)]
    · rw [beq_eq_false_iff_ne.mpr isLet, Bool.false_and, Bool.false_and]
  rw [declares]
  refine .ite (carries_var_statement closed carried TokenKind.noConfusion _) (.functionAhead rfl fun found seen same => ?_)
  rw [same TokenKind.noConfusion]
  exact .ite
    (.advance TokenKind.noConfusion fun _ _ _ => .then (carries_function_from closed carried _ _) fun _ _ function =>
      carries_whole (by simp_all [Alike]))
    (labeled.congr (fun context state here => labeled_ahead_run name context state (by rw [here]))
      fun context state here => labeled_ahead_run name context state (by rw [here]))

theorem carries_import_statement {one two : Span} {newline : Bool} :
    Carries (joint.Showing ⟨.keyword .importWord, one, newline⟩ ⟨.keyword .importWord, two, newline⟩) (joint.endings id)
      (importStatement h) (importStatement g) :=
  .ahead (fun second behind sees => by
    cases sees with
    | same kind one two newline =>
        cases kind with
        | punct mark =>
            cases mark with
            | lParen => exact (carries_expression_statement closed carried).at
            | dot => exact (carries_expression_statement closed carried).at
            | _ => exact carries_import_declaration.at
        | _ => exact carries_import_declaration.at
    | past semi => cases semi
    | apart => exact carries_import_declaration.at) rfl

omit closed carried in
theorem carries_empty_statement {one two : Span} {newline : Bool} :
    Carries (joint.Showing ⟨.punct .semi, one, newline⟩ ⟨.punct .semi, two, newline⟩) (joint.endings id) emptyStatement
      emptyStatement :=
  .unlessLost (carries_advance_past fun _ _ => id) (fun _ => .pure fun _ past => ⟨past, rfl⟩) fun _ _ _ => carries_whole rfl

omit closed carried in
theorem carries_jump {word : Keyword} {one two : Span} {newline : Bool} {jump : Option String → Statement}
    (plain : ∀ label, (jump label).closable = false) :
    Carries (joint.Showing ⟨.keyword word, one, newline⟩ ⟨.keyword word, two, newline⟩) (joint.endings id)
      (advance >>= fun _ => jumpLabel >>= fun label => Pure.pure (jump label))
      (advance >>= fun _ => jumpLabel >>= fun label => Pure.pure (jump label)) :=
  .advance TokenKind.noConfusion fun _ _ _ => .unlessLostSame carries_jump_label
    (fun label => .pure fun _ past => ⟨past, plain label⟩) fun _ => carries_whole rfl

theorem carries_plain_statement (kind : TokenKind) (one two : Span) (newline : Bool) :
    Carries (joint.Showing ⟨kind, one, newline⟩ ⟨kind, two, newline⟩) (joint.endings id) (plainStatement h kind)
      (plainStatement g kind) := by
  have otherwise : Carries (joint.Showing ⟨kind, one, newline⟩ ⟨kind, two, newline⟩) (joint.endings id)
      (expressionStatement h) (expressionStatement g) :=
    (carries_expression_statement closed carried).at
  cases kind with
  | identifier name => exact carries_named_statement closed carried name
  | punct mark =>
      cases mark with
      | semi => exact carries_empty_statement
      | _ => exact otherwise
  | keyword word =>
      cases word with
      | varWord => exact carries_var_statement closed carried TokenKind.noConfusion _
      | constWord => exact carries_var_statement closed carried TokenKind.noConfusion _
      | functionWord =>
          exact .at (.then (carries_function_from closed carried _ _) fun _ _ function => carries_whole (by simp_all [Alike]))
      | classWord =>
          exact .at (.then (carries_class_from closed carried (carries_call_member closed carried) _) fun _ _ decl =>
            carries_whole (by simp_all [Alike]))
      | ifWord => exact (carries_if_statement closed carried).at
      | forWord => exact (carries_for_statement closed carried).at
      | whileWord => exact carries_while_statement closed carried
      | doWord => exact carries_do_statement closed carried
      | withWord => exact carries_with_statement closed carried
      | returnWord => exact carries_return_statement closed carried
      | throwWord => exact carries_throw_statement closed carried
      | tryWord => exact (carries_try_statement carried).at
      | switchWord => exact (carries_switch_statement closed carried).at
      | breakWord => exact carries_jump fun _ => rfl
      | continueWord => exact carries_jump fun _ => rfl
      | debuggerWord => exact .advance TokenKind.noConfusion fun _ _ _ => carries_closed rfl rfl
      | importWord => exact carries_import_statement closed carried
      | exportWord => exact (carries_export_declaration closed carried).at
      | _ => exact otherwise
  | _ => exact otherwise

omit closed carried in
theorem falls_empty_statement : Falls joint.short (joint.endings id).lost emptyStatement :=
  .bind falls_advance fun _ => .pure fun _ past => ⟨past, rfl⟩

omit closed carried in
theorem falls_spanned_statement (start : Nat) (statement : Statement) :
    Falls ((joint.endings id).lost statement) (joint.endings Spanned.node).lost (spannedFrom start statement) := by
  intro context state value after lost success
  cases success
  exact lost

theorem carries_statement_body :
    Carries joint.Tracking (joint.endings Spanned.node) (statementBody h) (statementBody g) := by
  have falls : Falls joint.short (joint.endings Spanned.node).lost (statementBody h) :=
    .peek joint.short_barred
      (fun _ _ => by
        rw [if_neg (by simp)]
        exact .bind falls_empty_statement (falls_spanned_statement _))
      fun _ _ => by
        rw [if_neg (by simp)]
        exact .first (.first (halts_expression carried)) joint.short_barred
  refine .unlessApart (fun kind one two newline => .peeked (.ite ?_ ?_)) falls
  · exact .then carried.block.at fun block other body => by
      obtain ⟨body, span⟩ := block
      obtain ⟨otherBody, otherSpan⟩ := other
      exact carries_whole (by simp_all [Alike])
  · exact .bind (carries_plain_statement closed carried kind one two newline) (falls_spanned_statement _)
      fun statement seen same => carries_spanned_at same fun _ _ _ => id

omit closed carried in
theorem loose_kind {state mate : State} (stands : joint.loose state.rest mate.rest) {kind : TokenKind} (blind : kind.blind = true) :
    state.peek.kind = kind ↔ mate.peek.kind = kind := by
  rcases stands with tracks | behind
  · have same := sees_blind (tracks_sees tracks) blind
    rw [← beq_iff_eq, same, beq_iff_eq]
  · obtain ⟨name, here, there⟩ := behind_peek behind
    rw [here, there]

omit closed carried in
theorem loose_reads {state mate : State} (stands : joint.loose state.rest mate.rest) (closing : state.peek.kind = .punct .rBrace) :
    joint.Tracks state.advance.rest mate.advance.rest := by
  rcases stands with tracks | behind
  · rcases tracks_advance tracks (closing.trans ((loose_kind (.inl tracks) rfl).mp closing).symm) with tracked | ⟨semi, _⟩
    · exact tracked
    · rw [closing] at semi
      cases semi
  · obtain ⟨name, here, -⟩ := behind_peek behind
    rw [closing] at here
    cases here

omit closed in
theorem carries_block_round (brace other : Span) {body seen : Body} (same : Alike body seen) :
    Carries (Standing joint.loose) (Landing.rounds joint.loose (fun _ => False) joint.inside) (blockRound h brace body)
      (blockRound g other seen) := by
  constructor
  · intro context state value after _ success clean
    have step := block_round_step success
    by_cases closing : state.peek.kind = .punct .rBrace
    · cases step with
      | ends _ => rwa [advance_recovered] at clean
      | reads notClosing => exact absurd closing notClosing
      | skips notClosing => exact absurd closing notClosing
    · obtain ⟨-, statement, read, -⟩ := block_step_quiet step closing clean
      exact carried.statement.grows context state statement after trivial read clean
  · intro context state mate value after stands untouched success clean
    have looks := fun kind (blind : TokenKind.blind kind = true) => @loose_kind joint _ _ stands _ blind
    have step := block_round_step success
    by_cases closing : state.peek.kind = .punct .rBrace
    · cases step with
      | ends _ =>
          refine .inr ⟨_, mate.advance, block_round_closes g other seen context mate ((looks _ rfl).mp closing), ?_,
            loose_reads stands closing, by rw [advance_recovered]; exact untouched⟩
          simp_all [Alike]
      | reads notClosing => exact absurd closing notClosing
      | skips notClosing => exact absurd closing notClosing
    · obtain ⟨present, statement, read, rfl⟩ := block_step_quiet step closing clean
      rcases carried.statement.carries context state mate statement after stands untouched read clean with never | carries
      · exact never.elim
      · obtain ⟨mateStatement, final, ran, alike, met, kept⟩ := carries
        refine .inr ⟨.again (mateStatement :: seen), final, ?_, congrArg Round.again (alike_cons alike same), met, kept⟩
        rw [block_round_attempts g other seen context mate (fun there => closing ((looks _ rfl).mpr there))
          fun ended => present ((looks _ rfl).mpr ended), ran]

theorem carries_block_body : Carries joint.Tracking joint.inside (blockBody h) (blockBody g) :=
  .then (carries_expect_punct rfl) fun brace other _ => Carries.onTrack
    (.repeatRounds (block_round_shortens closed other.span) (fun _ _ => carries_block_round carried brace.span other.span)
      (fun _ _ _ _ _ never => never.elim) rfl)

end

end ScriptSuite.Script
