import ScriptSuite.Proofs.Script.Rounds
import ScriptSuite.Proofs.Script.Stepping

set_option autoImplicit false

namespace ScriptSuite.Script

variable {α β : Type}

def Token.onNewLine (token : Token) : Token :=
  { token with newlineBefore := true }

def BeginsAt (token : Token) (parser : Parser α) : Prop :=
  ∀ context rest lastEnd stop recovered value after, (rest = [] → stop = lastEnd) →
    parser context ⟨token :: rest, lastEnd, recovered⟩ = .ok value after →
    token.kind ≠ .keyword .elseWord ∧
      parser context ⟨token.onNewLine :: rest, stop, recovered⟩ = .ok value after

def Begins (parser : Parser α) : Prop :=
  ∀ token : Token, token.kind ≠ .endOfFile → BeginsAt token parser

def SeesAt (token : Token) (view : Parser α) : Prop :=
  ∀ context rest lastEnd stop recovered, (rest = [] → stop = lastEnd) → ∃ value,
    view context ⟨token :: rest, lastEnd, recovered⟩ = .ok value ⟨token :: rest, lastEnd, recovered⟩ ∧
      view context ⟨token.onNewLine :: rest, stop, recovered⟩ =
        .ok value ⟨token.onNewLine :: rest, stop, recovered⟩

section

variable {token : Token}

theorem BeginsAt.bind {parser : Parser α} {next : α → Parser β} (begins : BeginsAt token parser) :
    BeginsAt token (parser >>= next) := by
  intro context rest lastEnd stop recovered value after last success
  obtain ⟨middle, between, read, finished⟩ := bind_ok success
  obtain ⟨noElse, other⟩ := begins context rest lastEnd stop recovered middle between last read
  exact ⟨noElse, by rw [bind_run, other]; exact finished⟩

theorem BeginsAt.look {view : Parser α} {next : α → Parser β} (sees : SeesAt token view)
    (each : ∀ value, BeginsAt token (next value)) : BeginsAt token (view >>= next) := by
  intro context rest lastEnd stop recovered value after last success
  obtain ⟨seen, here, there⟩ := sees context rest lastEnd stop recovered last
  rw [bind_run, here] at success
  rw [bind_run, there]
  exact each seen context rest lastEnd stop recovered value after last success

theorem BeginsAt.peek {next : Token → Parser α} (same : next token.onNewLine = next token)
    (each : BeginsAt token (next token)) : BeginsAt token (Script.peek >>= next) := by
  intro context rest lastEnd stop recovered value after last success
  have there : (Script.peek >>= next) context ⟨token.onNewLine :: rest, stop, recovered⟩ =
      next token.onNewLine context ⟨token.onNewLine :: rest, stop, recovered⟩ := rfl
  rw [there, same]
  exact each context rest lastEnd stop recovered value after last success

theorem BeginsAt.check {kind : TokenKind} {next : Bool → Parser α} (each : BeginsAt token (next (token.kind == kind))) :
    BeginsAt token (Script.check kind >>= next) :=
  each

theorem BeginsAt.ite {condition : Prop} [Decidable condition] {yes no : Parser α} (one : condition → BeginsAt token yes)
    (two : BeginsAt token no) : BeginsAt token (if condition then yes else no) := by
  split
  · next holds => exact one holds
  · exact two

theorem BeginsAt.unexpected (wanted : Expectation) : BeginsAt token (Script.unexpected wanted : Parser α) := by
  intro context rest lastEnd stop recovered value after last success
  cases success

theorem BeginsAt.advance {next : Token → Parser α} (present : token.kind ≠ .endOfFile)
    (noElse : token.kind ≠ .keyword .elseWord) (same : next token.onNewLine = next token) :
    BeginsAt token (Script.advance >>= next) := by
  intro context rest lastEnd stop recovered value after last success
  have reads : ∀ (first : Token) lastEnd, first.kind ≠ .endOfFile →
      (Script.advance >>= next) context ⟨first :: rest, lastEnd, recovered⟩ =
        next first context ⟨rest, first.span.stop, recovered⟩ := by
    intro first lastEnd present
    change next first context (State.advance ⟨first :: rest, lastEnd, recovered⟩) = _
    rw [advance_rest _ first rest rfl present]
  rw [reads token lastEnd present] at success
  rw [reads token.onNewLine stop present, same]
  exact ⟨noElse, success⟩

theorem BeginsAt.expect {kind : TokenKind} {wanted : Expectation} {next : Token → Parser α} (present : token.kind ≠ .endOfFile)
    (noElse : kind ≠ .keyword .elseWord) (same : next token.onNewLine = next token) :
    BeginsAt token (Script.expect kind wanted >>= next) := by
  rw [expect_bind]
  exact .check (.ite (fun here => .advance present (by rw [beq_iff_eq.mp here]; exact noElse) same) (.unexpected wanted))

theorem sees_start_offset : SeesAt token startOffset :=
  fun _ _ _ _ _ _ => ⟨token.span.start, rfl, rfl⟩

theorem sees_context : SeesAt token Parser.context :=
  fun context _ _ _ _ _ => ⟨context, rfl, rfl⟩

theorem sees_next : SeesAt token (peekAt 1) := by
  intro context rest lastEnd stop recovered last
  cases rest with
  | nil =>
      rw [last rfl]
      exact ⟨_, rfl, rfl⟩
  | cons second rest => exact ⟨second, rfl, rfl⟩

theorem sees_let_declares : SeesAt token letDeclares := by
  intro context rest lastEnd stop recovered last
  cases rest with
  | nil => exact ⟨false, rfl, rfl⟩
  | cons second rest =>
      obtain ⟨kind, span, newline⟩ := second
      cases kind <;> exact ⟨_, rfl, rfl⟩

theorem sees_async_function : SeesAt token asyncFunctionAhead := by
  intro context rest lastEnd stop recovered last
  cases rest with
  | nil => exact ⟨false, rfl, rfl⟩
  | cons second rest => exact ⟨_, rfl, rfl⟩

theorem sees_arrow_ahead : SeesAt token isArrowAhead := by
  intro context rest lastEnd stop recovered last
  refine ⟨arrowAhead (token :: rest), rfl, congrArg (Outcome.ok · _) ?_⟩
  obtain ⟨kind, span, newline⟩ := token
  cases rest <;> rfl

end

structure Grammar.Begins (g : Grammar) : Prop where
  statement : Script.Begins g.statement
  block : Script.Begins g.block
  assignment : Script.Begins g.assignment
  unary : Script.Begins g.unary

section

variable {g : Grammar} {token : Token}

theorem BeginsAt.within {α : Type} {change : Context → Context} {parser : Parser α} (begins : BeginsAt token parser) :
    BeginsAt token (Parser.within change parser) :=
  fun context => begins (change context)

theorem begins_identifier : Begins identifier := fun token present => .peek rfl (by
  obtain ⟨kind, span, newline⟩ := token
  cases kind with
  | identifier name => exact .advance present TokenKind.noConfusion rfl
  | _ => exact .unexpected _)

theorem begins_function_from (isAsync requireName : Bool) : Begins (functionFrom g isAsync requireName) :=
  fun _ present => .expect present (by simp) rfl

theorem begins_class_from (heritage : Parser (Spanned Expr)) (requireName : Bool) :
    Begins (classFrom g heritage requireName) :=
  fun _ present => .expect present (by simp) rfl

theorem begins_name_or_async_function (name : String) (kind : token.kind = .identifier name) :
    BeginsAt token (nameOrAsyncFunction g name) := by
  have present : token.kind ≠ .endOfFile := by simp [kind]
  have noElse : token.kind ≠ .keyword .elseWord := by simp [kind]
  exact .look sees_async_function fun _ => .ite (fun _ => .advance present noElse rfl) (.advance present noElse rfl)

theorem begins_primary_expr (heritage : Parser (Spanned Expr)) (token : Token) (present : token.kind ≠ .endOfFile) :
    BeginsAt token (primaryExpr g heritage token) := by
  obtain ⟨kind, span, newline⟩ := token
  have consumed : ∀ value, (TokenKind.keyword .elseWord) ≠ kind → BeginsAt ⟨kind, span, newline⟩ (consuming value) :=
    fun value noElse => .advance present noElse.symm rfl
  cases kind with
  | identifier name => exact begins_name_or_async_function name rfl
  | number value => exact consumed _ TokenKind.noConfusion
  | bigint literal => exact consumed _ TokenKind.noConfusion
  | string value => exact consumed _ TokenKind.noConfusion
  | regex pattern flags => exact consumed _ TokenKind.noConfusion
  | template parts => exact .advance present TokenKind.noConfusion rfl
  | keyword word =>
      cases word with
      | trueWord => exact consumed _ (by simp)
      | falseWord => exact consumed _ (by simp)
      | nullWord => exact consumed _ (by simp)
      | thisWord => exact consumed _ (by simp)
      | superWord => exact consumed _ (by simp)
      | functionWord => exact (begins_function_from _ _ _ present).bind
      | classWord => exact (begins_class_from _ _ _ present).bind
      | importWord => exact .advance present (by simp) rfl
      | _ => exact .unexpected _
  | punct mark =>
      cases mark with
      | lParen => exact .advance present TokenKind.noConfusion rfl
      | lBracket => exact (BeginsAt.expect present TokenKind.noConfusion rfl).bind
      | lBrace => exact (BeginsAt.expect present TokenKind.noConfusion rfl).bind
      | _ => exact .unexpected _
  | _ => exact .unexpected _

theorem begins_primary (heritage : Parser (Spanned Expr)) : Begins (primary g heritage) :=
  fun token present => .peek rfl (begins_primary_expr heritage token present).bind

theorem begins_new_from (heritage : Parser (Spanned Expr)) : Begins (newFrom g heritage) :=
  fun _ present => .look sees_start_offset fun _ => .expect present (by simp) rfl

theorem begins_call_member_with (heritage : Parser (Spanned Expr)) : Begins (callMemberWith g heritage) :=
  fun token present => .look sees_start_offset fun _ => .check
    (.ite (fun _ => (begins_new_from heritage token present).bind) (begins_primary heritage token present).bind)

-- Only the number of the tokens to come counts, not the tokens.
theorem begins_call_member : Begins (callMember g) := by
  intro token present context rest lastEnd stop recovered value after last success
  exact begins_call_member_with (callMemberFrom g rest) token present context rest lastEnd stop recovered value after last
    success

theorem begins_postfix_update (start : Nat) : Begins (postfixUpdate g start) :=
  fun token present => (begins_call_member token present).bind

theorem begins_unary_body : Begins (unaryBody g) := fun token present => .look sees_start_offset fun start => .peek rfl (by
  have noElse : (unaryOp? token.kind ≠ none ∨ updateOp? token.kind ≠ none) → token.kind ≠ .keyword .elseWord := by
    rintro found same
    simp [same, unaryOp?, updateOp?] at found
  dsimp only
  cases found : unaryOp? token.kind with
  | some op => exact .advance present (noElse (by simp [found])) rfl
  | none =>
      cases here : updateOp? token.kind with
      | some op => exact .advance present (noElse (by simp [here])) rfl
      | none =>
          dsimp only
          rw [await_ahead_bind]
          refine .check (.ite (fun word => ?_) (begins_postfix_update start token present))
          have kind : token.kind = .identifier "await" := by simpa using word
          exact .look sees_context fun _ => .look sees_next fun _ => .ite
            (fun _ => .advance present (by simp [kind]) rfl) (begins_postfix_update start token present))

theorem begins_arrow_params (isAsync : Bool) : Begins (arrowParams g isAsync) := fun token present => .peek rfl (by
  obtain ⟨kind, span, newline⟩ := token
  cases kind with
  | identifier name => exact .look sees_start_offset fun _ => (begins_identifier _ present).bind
  | _ => exact .within (.expect present (by simp) rfl))

theorem begins_arrow_function : Begins (arrowFunction g) := fun token present => .look sees_start_offset fun _ => .check
  (.look sees_next fun _ => .ite
    (fun here => .advance present (by rintro same; simp [same] at here) rfl)
    (begins_arrow_params _ token present).bind)

theorem begins_expression_statement (begins : Begins g.assignment) : Begins (expressionStatement g) :=
  fun token present => BeginsAt.bind (begins token present).bind

variable (begins : g.Begins)
include begins

theorem begins_assignment_body : Begins (assignmentBody g) := fun token present => .look sees_arrow_ahead fun _ => .ite
  (fun _ => begins_arrow_function token present) (.look sees_context fun _ => .check (.ite
    (fun here => by
      have kind : token.kind = .identifier "yield" := by simp_all
      exact .look sees_start_offset fun _ => .advance present (by simp [kind]) rfl)
    (.look sees_start_offset fun _ => BeginsAt.bind (.look sees_start_offset fun _ => BeginsAt.bind
      (.look sees_start_offset fun _ => (begins.unary token present).bind)))))

theorem begins_named_statement (name : String) (kind : token.kind = .identifier name) :
    BeginsAt token (namedStatement g name) := by
  have present : token.kind ≠ .endOfFile := by simp [kind]
  have noElse : token.kind ≠ .keyword .elseWord := by simp [kind]
  exact .look sees_let_declares fun _ => .ite (fun _ => .advance present noElse rfl)
    (.look sees_async_function fun _ => .ite (fun _ => .advance present noElse rfl)
      (.look sees_next fun _ => .ite (fun _ => .advance present noElse rfl)
        (begins_expression_statement begins.assignment token present)))

theorem begins_plain_statement (present : token.kind ≠ .endOfFile) : BeginsAt token (plainStatement g token.kind) := by
  obtain ⟨kind, span, newline⟩ := token
  have otherwise := begins_expression_statement begins.assignment ⟨kind, span, newline⟩ present
  cases kind with
  | identifier name => exact begins_named_statement begins name rfl
  | punct mark =>
      cases mark with
      | semi => exact .advance present TokenKind.noConfusion rfl
      | _ => exact otherwise
  | keyword word =>
      cases word with
      | varWord => exact .advance present (by simp) rfl
      | constWord => exact .advance present (by simp) rfl
      | functionWord => exact (begins_function_from _ _ _ present).bind
      | classWord => exact (begins_class_from _ _ _ present).bind
      | ifWord => exact .expect present (by simp) rfl
      | forWord => exact .expect present (by simp) rfl
      | whileWord => exact .advance present (by simp) rfl
      | doWord => exact .advance present (by simp) rfl
      | withWord => exact .advance present (by simp) rfl
      | returnWord => exact .advance present (by simp) rfl
      | throwWord => exact .advance present (by simp) rfl
      | tryWord => exact .expect present (by simp) rfl
      | switchWord => exact .expect present (by simp) rfl
      | breakWord => exact .advance present (by simp) rfl
      | continueWord => exact .advance present (by simp) rfl
      | debuggerWord => exact .advance present (by simp) rfl
      | importWord =>
          refine .look sees_next fun next => ?_
          obtain ⟨kind, span, newline⟩ := next
          have declared : BeginsAt ⟨.keyword .importWord, _, _⟩ importDeclaration := .expect present (by simp) rfl
          cases kind with
          | punct mark =>
              cases mark with
              | lParen => exact otherwise
              | dot => exact otherwise
              | _ => exact declared
          | _ => exact declared
      | exportWord => exact .expect present (by simp) rfl
      | _ => exact otherwise
  | _ => exact otherwise

theorem begins_statement_body : Begins (statementBody g) := fun token present => .peek rfl
  (.ite (fun _ => (begins.block token present).bind) (begins_plain_statement begins present).bind)

omit begins in
theorem begins_block_body : Begins (blockBody g) :=
  fun _ present => .expect present (by simp) rfl

end

theorem begins_too_deep {α : Type} : Begins (tooDeep : Parser α) := by
  intro token present context rest lastEnd stop recovered value after last success
  cases success

theorem of_levels_begin (levels : Nat) : (Grammar.ofLevels levels).Begins := by
  induction levels with
  | zero => exact ⟨begins_too_deep, begins_too_deep, begins_too_deep, begins_too_deep⟩
  | succ levels ih =>
      exact ⟨begins_statement_body ih, begins_block_body, begins_assignment_body ih, begins_unary_body⟩

end ScriptSuite.Script
