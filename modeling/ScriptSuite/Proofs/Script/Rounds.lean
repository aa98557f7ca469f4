import ScriptSuite.Proofs.Script.Productions
import ScriptSuite.Proofs.Script.Repetition

set_option autoImplicit false

namespace ScriptSuite.Script

variable {α β σ : Type}

def ShortensFor (wanted : α → Prop) (parser : Parser α) : Prop :=
  ∀ context state value after, parser context state = .ok value after → wanted value →
    after.rest.length < state.rest.length

def ShortensForAt (token : Token) (wanted : α → Prop) (parser : Parser α) : Prop :=
  ∀ context state value after, state.peek = token → parser context state = .ok value after → wanted value →
    after.rest.length < state.rest.length

def Asks (step : Round σ α) : Prop :=
  ∃ next, step = .again next

theorem round_shortens_of {round : σ → Parser (Round σ α)} (shortens : ∀ start, ShortensFor Asks (round start)) :
    RoundShortens round :=
  fun start context state next after step => shortens start context state _ after step ⟨next, rfl⟩

theorem ShortensFor.peek {wanted : α → Prop} {next : Token → Parser α}
    (shortens : ∀ token, ShortensForAt token wanted (next token)) : ShortensFor wanted (peek >>= next) :=
  fun context state value after => shortens state.peek context state value after rfl

theorem ReadsAt.always {token : Token} {parser : Parser α} (reads : ReadsAt token 0 parser) (wanted : α → Prop) :
    ShortensForAt token wanted parser :=
  fun context state value after same success _ => reads.shortens context state value after same success

theorem ShortensFor.never {wanted : α → Prop} {value : α} (unwanted : ¬wanted value) :
    ShortensFor wanted (Pure.pure value : Parser α) := by
  intro context state value after success held
  cases success
  exact absurd held unwanted

theorem shortens_for_done (value : α) : ShortensFor Asks (Pure.pure (.done value) : Parser (Round σ α)) := by
  refine .never ?_
  rintro ⟨next, same⟩
  cases same

theorem ShortensFor.ite {wanted : α → Prop} {condition : Prop} [Decidable condition] {yes no : Parser α}
    (one : ShortensFor wanted yes) (two : ShortensFor wanted no) :
    ShortensFor wanted (if condition then yes else no) := by
  split
  · exact one
  · exact two

theorem ShortensFor.later {wanted : β → Prop} {first : Parser α} {second : α → Parser β} (one : Closes 0 first)
    (two : ∀ value, ShortensFor wanted (second value)) : ShortensFor wanted (first >>= second) := by
  intro context state value after success held
  obtain ⟨middle, between, read, finished⟩ := bind_ok success
  exact Nat.lt_of_lt_of_le (two middle context between value after finished held) (closes_length one read)

theorem ShortensFor.either {sure : α → Prop} {wanted : β → Prop} {first : Parser α} {second : α → Parser β}
    (one : ShortensFor sure first) (closes : Closes 0 first) (behind : ∀ value, Closes 0 (second value))
    (two : ∀ value, ¬sure value → ShortensFor wanted (second value)) : ShortensFor wanted (first >>= second) := by
  intro context state value after success held
  obtain ⟨middle, between, read, finished⟩ := bind_ok success
  by_cases certain : sure middle
  · exact Nat.lt_of_le_of_lt (closes_length (behind middle) finished) (one context state middle between read certain)
  · exact Nat.lt_of_lt_of_le (two middle certain context between value after finished held) (closes_length closes read)

theorem shortens_for_accept (kind : TokenKind) (present : kind ≠ .endOfFile) : ShortensFor (· = true) (accept kind) := by
  intro context state value after success held
  rw [accept_run] at success
  split at success
  · next same =>
      cases success
      exact advance_shortens state (by rw [same]; exact present)
  · cases success
    cases held

theorem comma_round_shortens (close : Punct) {item : Parser α} (closes : Closes 0 item) :
    RoundShortens (commaRound close item) :=
  round_shortens_of fun items => .later (closes_check _) fun _ => .ite (shortens_for_done _) (.later closes fun value =>
    .either (shortens_for_accept _ (by simp)) (closes_accept_punct .comma (by decide))
      (fun _ => .ite (.pure 0 _) (.pure 0 _)) fun more refused => by
        rw [if_neg refused]
        exact shortens_for_done _)

theorem ShortensFor.of_reads {count : Nat} {parser : Parser α} (reads : Reads count parser) (wanted : α → Prop) :
    ShortensFor wanted parser :=
  fun context state value after success _ => reads.shortens context state value after success

theorem ShortensFor.unless_accepted {kind : TokenKind} {result : α} {next : Bool → Parser (Round σ α)}
    (last : next true = Pure.pure (.done result)) (others : ShortensFor Asks (next false)) :
    ShortensFor Asks (accept kind >>= next) := by
  intro context state value after success asks
  rw [bind_run, accept_run] at success
  by_cases same : state.peek.kind = kind
  · rw [if_pos same] at success
    dsimp only at success
    rw [last] at success
    exact Nat.lt_of_lt_of_le (shortens_for_done result context state.advance value after success asks)
      (passes_length (advance_closes_one state))
  · rw [if_neg same] at success
    exact others context state value after success asks

theorem reads_identifier_name : Reads 0 identifierName := .peek fun token => by
  split
  · next kind => exact .advance (by simp [kind]) fun _ => .pure 0 _
  · next kind => exact .advance (by simp [kind]) fun _ => .pure 0 _
  · next kind => exact .advance (by simp [kind]) fun _ => .pure 0 _
  · exact (reads_unexpected _).at token

theorem reads_module_name : Reads 0 moduleName := .peek fun token => by
  split
  · next kind => exact .advance (by simp [kind]) fun _ => .pure 0 _
  · exact reads_identifier_name.at token

theorem reads_imported_name : Reads 0 importedName :=
  .first reads_module_name fun _ => .bind (closes_accept_word _) fun _ =>
    .ite (.bind closes_identifier fun _ => .pure 0 _) (.pure 0 _)

theorem reads_exported_name : Reads 0 exportedName :=
  .first reads_module_name fun _ => .bind (closes_accept_word _) fun _ =>
    .ite (.bind closes_module_name fun _ => .pure 0 _) (.pure 0 _)

theorem names_round_shortens {item : Parser α} (reads : Reads 0 item) : RoundShortens (namesRound item) :=
  round_shortens_of fun items => .unless_accepted rfl
    (.of_reads (.first reads fun value => .bind (closes_check _) fun _ => .ite (.pure 0 _)
      (.bind (closes_expect_punct .comma (by decide)) fun _ => .pure 0 _)) _)

theorem holed_round_shortens (close : Punct) {item : Parser α} (closes : Closes 0 item) :
    RoundShortens (holedRound close item) :=
  round_shortens_of fun items => .later (closes_check _) fun _ => .ite (shortens_for_done _)
    (.either (shortens_for_accept _ (by simp)) (closes_accept_punct .comma (by decide))
      (fun _ => .ite (.pure 0 _) (.bind closes fun _ => .bind (closes_accept_punct .comma (by decide)) fun _ =>
        .ite (.pure 0 _) (.pure 0 _)))
      fun hole refused => by
        rw [if_neg refused]
        exact .later closes fun value =>
          .either (shortens_for_accept _ (by simp)) (closes_accept_punct .comma (by decide))
            (fun _ => .ite (.pure 0 _) (.pure 0 _)) fun more refused => by
              rw [if_neg refused]
              exact shortens_for_done _)

section

variable {g : Grammar} (closed : g.Closed)
include closed

theorem chain_link_shortens (object : Spanned Expr) : ShortensFor (· ≠ none) (chainLink g object) := .peek fun token => by
  split
  · next kind =>
      exact (ReadsAt.advance (by simp [kind]) fun _ => .bind closes_identifier_name fun _ => .pure 0 _).always _
  · next kind =>
      exact (ReadsAt.advance (by simp [kind]) fun _ => .bind (closes_optional_link closed object) fun _ =>
        .pure 0 _).always _
  · exact ((Reads.first (reads_computed_property closed) fun _ => .pure 0 _).at token).always _
  · exact ((Reads.first (reads_arguments closed) fun _ => .pure 0 _).at token).always _
  · next kind =>
      exact (ReadsAt.advance (by simp [kind]) fun _ => .bind (closes_template _) fun _ => .pure 0 _).always _
  · intro context state link after _ success present
    cases success
    exact absurd rfl present

theorem chain_round_shortens (start : Nat) : RoundShortens (chainRound g start) :=
  round_shortens_of fun object => .either (chain_link_shortens closed object) (closes_chain_link closed object)
    (fun link => by
      cases link with
      | none => exact .pure 0 _
      | some node => exact .bind (closes_spanned_from _ _) fun _ => .pure 0 _)
    fun link absent => by
      cases Classical.not_not.mp absent
      exact shortens_for_done _

theorem reads_property_key : Reads 0 (propertyKey g) := .peek fun token => by
  split
  · exact (Reads.first reads_identifier_name fun _ => .pure 0 _).at token
  · exact (Reads.first reads_identifier_name fun _ => .pure 0 _).at token
  · exact (Reads.first reads_identifier_name fun _ => .pure 0 _).at token
  · next kind => exact .advance (by simp [kind]) fun _ => .pure 0 _
  · next kind => exact .advance (by simp [kind]) fun _ => .pure 0 _
  · next kind => exact .advance (by simp [kind]) fun _ => .pure 0 _
  · next kind =>
      exact .advance (by simp [kind]) fun _ => .bind closed.assignment.closes.within fun _ =>
        .bind (closes_expect_punct .rBracket (by decide)) fun _ => .pure 0 _
  · exact (reads_unexpected _).at token

theorem reads_keyed_member (isStatic : Bool) : Reads 0 (keyedMember g isStatic) :=
  .later closes_method_modifiers fun _ => .first (reads_property_key closed) fun _ => .bind (closes_check _) fun _ =>
    .ite (.bind (closes_method_function closed _) fun _ => .pure 0 _)
      (.bind (closes_accept_punct .eq (by decide)) fun _ =>
        .ite (.bind closed.assignment.closes.inFunction fun _ => .bind (.pure 0 _) fun _ =>
            .bind closes_consume_semicolon fun _ => .pure 0 _)
          (.bind (.pure 0 _) fun _ => .bind closes_consume_semicolon fun _ => .pure 0 _))

theorem reads_class_member : Reads 0 (classMember g) :=
  .later closes_start_offset fun start => .check fun token => .look looks_next_ends_member fun ends => by
    split
    · next here =>
        have kind : token.kind = .identifier "static" := by simp_all
        exact .advance (by simp [kind]) fun _ => .bind (closes_check _) fun _ => .ite
          (.bind closed.block.closes.inFunction fun _ => closes_spanned_from _ _)
          (.bind (closes_keyed_member closed true) fun _ => closes_spanned_from _ _)
    · exact (Reads.first (reads_keyed_member closed false) fun _ => closes_spanned_from _ _).at token

theorem class_member_round_shortens (brace : Span) : RoundShortens (classMemberRound g brace) := by
  have members : ∀ members, ShortensFor Asks (do
      if ← acceptPunct .semi then return .again members
      return .again ((← classMember g) :: members) :
        Parser (Round (List (Spanned ClassMember)) (List (Spanned ClassMember)))) := fun members =>
    .either (shortens_for_accept _ (by simp)) (closes_accept_punct .semi (by decide))
      (fun _ => .ite (.pure 0 _) (.bind (closes_class_member closed) fun _ => .pure 0 _)) fun empty refused => by
        rw [if_neg refused]
        exact .of_reads (.first (reads_class_member closed) fun _ => .pure 0 _) _
  exact round_shortens_of fun start => .unless_accepted rfl (.later (looks_at_end.closes 0) fun _ => .ite
    (.later (.fail 0 _) fun _ => members start) (members start))

theorem sequence_round_shortens : RoundShortens (sequenceRound g) :=
  round_shortens_of fun items => .either (shortens_for_accept _ (by simp)) (closes_accept_punct .comma (by decide))
    (fun _ => .ite (.bind closed.assignment.closes fun _ => .pure 0 _) (.pure 0 _)) fun more refused => by
      rw [if_neg refused]
      exact shortens_for_done _

theorem declarator_round_shortens : RoundShortens (declaratorRound g) :=
  round_shortens_of fun declarators => .later (closes_declarator closed) fun _ =>
    .either (shortens_for_accept _ (by simp)) (closes_accept_punct .comma (by decide))
      (fun _ => .ite (.pure 0 _) (.pure 0 _)) fun more refused => by
        rw [if_neg refused]
        exact shortens_for_done _

theorem binary_round_shortens (start minPrecedence : Nat) : RoundShortens (binaryRound g start minPrecedence) :=
  round_shortens_of fun left => .later (looks_context.closes 0) fun context => .peek fun token => by
    split
    · next op precedence found =>
        have present : token.kind ≠ .endOfFile := by
          intro ended
          rw [ended] at found
          cases found
        split
        · intro context state step after _ success asks
          exact shortens_for_done left context state step after success asks
        · exact (ReadsAt.advance ⟨binary_op_kind _ _ _ found, present⟩ fun _ => .bind (closed.binary _) fun _ =>
            .bind (closes_spanned_from _ _) fun _ => .pure 0 _).always _
    · intro context state step after _ success asks
      exact shortens_for_done left context state step after success asks

theorem member_round_shortens (start : Nat) : RoundShortens (memberRound g start) :=
  round_shortens_of fun object => .either (shortens_for_accept _ (by simp)) (closes_accept_punct .dot (by decide))
    (fun _ => .ite (.bind closes_identifier_name fun _ => .bind (closes_spanned_from _ _) fun _ => .pure 0 _)
      (.bind (closes_check _) fun _ => .ite
        (.bind (reads_computed_property closed).closes fun _ => .bind (closes_spanned_from _ _) fun _ => .pure 0 _)
        (.pure 0 _))) fun dot refused => by
      rw [if_neg refused]
      exact .later (closes_check _) fun _ => .ite
        (.of_reads (.first (reads_computed_property closed) fun _ => .bind (closes_spanned_from _ _) fun _ =>
          .pure 0 _) _) (shortens_for_done _)

theorem case_body_round_shortens : RoundShortens (caseBodyRound g) :=
  round_shortens_of fun _ => .later (closes_check _) fun _ => .later (closes_check _) fun _ =>
    .later (closes_check _) fun _ => .ite (shortens_for_done _) (.later (looks_at_end.closes 0) fun _ => .ite
      (.later (closes_unexpected _) fun _ => .of_reads (.first closed.statement fun _ => .pure 0 _) _)
      (.of_reads (.first closed.statement fun _ => .pure 0 _) _))

theorem case_test_shortens : ShortensFor (fun _ => True) (caseTest g) :=
  .either (shortens_for_accept _ (by simp)) (closes_accept_keyword _)
    (fun _ => .ite (.bind (reads_expression closed).closes.allowingIn fun _ => .pure 0 _)
      (.bind (reads_expect _ _ (by simp)).closes fun _ => .pure 0 _)) fun isCase refused => by
      rw [if_neg refused]
      exact .of_reads (.first (reads_expect _ _ (by simp)) fun _ => .pure 0 _) _

theorem switch_round_shortens : RoundShortens (switchRound g) := by
  have read : ShortensFor (fun _ => True) (switchCase g) :=
    .either (case_test_shortens closed) (closes_case_test closed)
      (fun _ => .bind (closes_expect_punct .colon (by decide)) fun _ =>
        .bind (closes_repeat_rounds (fun _ => .plain (closes_case_body_round closed _)) _) fun _ => .pure 0 _)
      fun _ unread => absurd trivial unread
  exact round_shortens_of fun cases => .unless_accepted rfl
    (.either read (closes_switch_case closed) (fun _ => .pure 0 _) fun _ unread => absurd trivial unread)

end

end ScriptSuite.Script
