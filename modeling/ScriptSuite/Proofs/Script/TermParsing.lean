import ScriptSuite.Proofs.Script.Spelling

set_option autoImplicit false

namespace ScriptSuite.Script

theorem starts_with_arrow_calm (tokens : List Token) (calm : ∀ token ∈ tokens, token.kind ≠ .punct .arrow) :
    startsWithArrow tokens = false := by
  cases tokens with
  | nil => rfl
  | cons token rest =>
      have plain := calm token (List.mem_cons_self ..)
      simp [startsWithArrow, plain]

theorem arrow_after_closing_calm (depth : Nat) (tokens : List Token)
    (calm : ∀ token ∈ tokens, token.kind ≠ .punct .arrow) : arrowAfterClosing depth tokens = false := by
  induction tokens generalizing depth with
  | nil => rfl
  | cons token rest ih =>
      have behind : ∀ other ∈ rest, other.kind ≠ .punct .arrow :=
        fun other inside => calm other (List.mem_cons_of_mem token inside)
      unfold arrowAfterClosing
      split
      · exact ih _ behind
      · split
        · split
          · exact starts_with_arrow_calm rest behind
          · exact ih _ behind
        · split
          · rfl
          · exact ih _ behind

theorem arrow_head_calm (tokens : List Token) (calm : ∀ token ∈ tokens, token.kind ≠ .punct .arrow) :
    arrowHead tokens = false := by
  cases tokens with
  | nil => rfl
  | cons token rest =>
      have behind : ∀ other ∈ rest, other.kind ≠ .punct .arrow :=
        fun other inside => calm other (List.mem_cons_of_mem token inside)
      simp only [arrowHead]
      split
      · exact starts_with_arrow_calm rest behind
      · exact arrow_after_closing_calm 1 rest behind
      · rfl

theorem arrow_ahead_calm (tokens : List Token) (calm : ∀ token ∈ tokens, token.kind ≠ .punct .arrow) :
    arrowAhead tokens = false := by
  unfold arrowAhead
  split
  · next first second rest =>
      split
      · exact arrow_head_calm _ fun other inside => calm other (List.mem_cons_of_mem first inside)
      · exact arrow_head_calm _ calm
  · exact arrow_head_calm _ calm

section

variable {levels need : Nat} {before after kinds : List TokenKind}

theorem context_step : Parses levels 0 kinds kinds (· = Context.top) Parser.context :=
  ⟨fun _ state ahead => ⟨_, state, rfl, ahead, rfl⟩, fun few => absurd few (Nat.not_lt_zero levels)⟩

theorem parses_assignment_body {accepts : Spanned Expr → Prop} {g : Grammar}
    (parses : Parses levels need before after accepts (assignmentTail g)) :
    Parses levels need before after accepts (assignmentBody g) := by
  have noArrow : Parses levels 0 before before (· = false) isArrowAhead := by
    refine ⟨fun _ state ahead => ⟨_, state, rfl, ahead, ?_⟩, fun few => absurd few (Nat.not_lt_zero levels)⟩
    exact arrow_ahead_calm state.rest fun token inside => (ahead.calm token inside).2
  refine .step noArrow fun _ none => ?_
  subst none
  refine .step context_step fun _ here => ?_
  subst here
  exact .check parses

theorem parses_call_member {kind : TokenKind} {accepts : Spanned Expr → Prop} {g : Grammar}
    (parses : ∀ heritage, Parses levels need (kind :: kinds) after accepts (callMemberWith g heritage)) :
    Parses levels need (kind :: kinds) after accepts (callMember g) := by
  constructor
  · intro enough state ahead
    obtain ⟨rest, tokens, -⟩ := ahead_cons ahead
    have run : callMember g .top state = callMemberWith g (callMemberFrom g rest) .top state := by
      unfold callMember
      rw [bind_run, upcoming, tokens]
      rfl
    rw [run]
    exact (parses _).enough enough state ahead
  · intro few state ahead
    obtain ⟨rest, tokens, -⟩ := ahead_cons ahead
    have run : callMember g .top state = callMemberWith g (callMemberFrom g rest) .top state := by
      unfold callMember
      rw [bind_run, upcoming, tokens]
      rfl
    rw [run]
    exact (parses _).tooFew few state ahead

theorem parses_operand {accepts : Spanned Expr → Prop} {g : Grammar} (ends : EndsAt assignmentRank kinds)
    (parses : Parses levels need before kinds accepts (binaryFrom g 1)) :
    Parses levels need before kinds accepts (assignmentTail g) := by
  obtain ⟨noQuestion, noAssignment⟩ := ends_assignments ends
  have test : Parses levels need before kinds accepts (conditional g) :=
    .startOffset fun _ => .finish parses fun _ fine => .refuse noQuestion (.pure fine)
  refine .startOffset fun _ => .finish test fun _ fine => .peek fun token same _ => ?_
  rw [same, noAssignment]
  exact .pure fine

theorem parses_single {accepts : Spanned Expr → Prop} {g : Grammar} (ends : EndsAt sequenceRank kinds)
    (parses : Parses levels need before kinds accepts g.assignment) :
    Parses levels need before kinds accepts (expression g) :=
  .finish parses fun _ fine => .unchecked (ends_sequences ends) (.pure fine)

theorem parses_unmodified {kind : TokenKind} {accepts : Spanned Expr → Prop} {g : Grammar}
    (leads : leadsCall kind = true)
    (parses : ∀ start, Parses levels need (kind :: kinds) after accepts (postfixUpdate g start)) :
    Parses levels need (kind :: kinds) after accepts (unaryBody g) := by
  obtain ⟨noUnary, noUpdate, noAwait, -⟩ := leads_call_plain kind leads
  refine .startOffset fun start => .peek fun token same _ => ?_
  have here : token.kind = kind := same
  dsimp only
  rw [here, noUnary, noUpdate]
  have notAhead : Parses levels 0 (kind :: kinds) (kind :: kinds) (· = false) awaitAhead :=
    .unchecked noAwait (.pure rfl)
  refine .step notAhead fun _ none => ?_
  subst none
  exact parses start

theorem parses_bare {accepts : Spanned Expr → Prop} {g : Grammar} (start : Nat) (ends : EndsAt updateRank kinds)
    (parses : Parses levels need before kinds accepts (callMember g)) :
    Parses levels need before kinds accepts (postfixUpdate g start) := by
  refine .finish parses fun _ fine => .peek fun token same _ => ?_
  rw [same, ends_updates ends]
  exact .pure fine

theorem chain_link_absent {g : Grammar} (object : Spanned Expr) (ends : EndsAt callRank kinds) :
    Parses levels 0 kinds kinds (· = none) (chainLink g object) := by
  have noLink := ends_links ends
  refine .peek fun token same _ => ?_
  rw [← same] at noLink
  split
  · next kind => simp [kind, linksChain] at noLink
  · next kind => simp [kind, linksChain] at noLink
  · next kind => simp [kind, linksChain] at noLink
  · next kind => simp [kind, linksChain] at noLink
  · next kind => simp [kind, linksChain] at noLink
  · exact .pure rfl

theorem chain_ends {accepts : Spanned Expr → Prop} {g : Grammar} (start : Nat) (object : Spanned Expr)
    (ends : EndsAt callRank kinds) (fine : accepts object) :
    Repeats levels 0 kinds kinds accepts (chainRound g start) object := by
  refine .done (.step (chain_link_absent object ends) fun link none => ?_)
  subst none
  exact .pure ⟨object, rfl, fine⟩

theorem chain_goes_on {accepts : Spanned Expr → Prop} {g : Grammar} {link : List TokenKind} {term : Term} {a b : Nat}
    (start : Nat) (object : Spanned Expr) (present : link ≠ [])
    (reads : Parses levels a (link ++ kinds) kinds (fun node => ∃ next, node = some next ∧ Denotes term next)
      (chainLink g object))
    (more : ∀ start next, Denotes term next.node → Repeats levels b kinds after accepts (chainRound g start) next) :
    Repeats levels (max a b) (link ++ kinds) after accepts (chainRound g start) object := by
  have shorter : kinds.length < (link ++ kinds).length := by
    have positive := List.length_pos_iff.mpr present
    rw [List.length_append]
    omega
  refine .again shorter (.finish reads fun node found => ?_) (more start)
  obtain ⟨next, rfl, denotes⟩ := found
  exact .finish spanned_from_step fun value same => .pure ⟨value, rfl, by rw [same]; exact denotes⟩

-- A call or a member with no link of its own is followed by the links of the terms around it.
theorem parses_chain_head {accepts : Spanned Expr → Prop} {g : Grammar} {kind : TokenKind} {tail : List TokenKind}
    {term : Term} {a b : Nat} (leads : leadsCall kind = true)
    (reads : ∀ heritage, Parses levels a (kind :: tail) kinds (fun value => Denotes term value.node) (primary g heritage))
    (more : ∀ start next, Denotes term next.node → Repeats levels b kinds after accepts (chainRound g start) next) :
    Parses levels (max a b) (kind :: tail) after accepts (callMember g) :=
  parses_call_member fun heritage => .startOffset fun start => .unchecked (leads_call_plain kind leads).2.2.2
    (.bind (reads heritage) fun next denotes => (more start next denotes).parses)

theorem operators_end {accepts : Spanned Expr → Prop} {g : Grammar} (start precedence : Nat) (left : Spanned Expr)
    (low : precedence ≤ 12) (ends : EndsAt (binaryRank precedence) kinds) (fine : accepts left) :
    Repeats levels 0 kinds kinds accepts (binaryRound g start precedence) left := by
  refine .done (.step context_step fun context here => .peek fun token same _ => ?_)
  subst here
  have top : binaryOp? Context.top.noIn token.kind = binaryOp? false (leading kinds) := by rw [same]; rfl
  rw [top]
  cases operator : binaryOp? false (leading kinds) with
  | none => exact .pure ⟨left, rfl, fine⟩
  | some found =>
      obtain ⟨op, found⟩ := found
      have bound := ends_operators (binaryRank precedence) ends (by unfold binaryRank updateRank; omega) op found operator
      have weak : found < precedence := by
        unfold binaryRank at bound
        omega
      dsimp only
      rw [if_pos weak]
      exact .pure ⟨left, rfl, fine⟩

theorem operators_go_on {accepts : Spanned Expr → Prop} {g : Grammar} {right : List TokenKind} {one two : Term} {a b : Nat}
    (start precedence : Nat) (left : Spanned Expr) (op : BinaryOp) (tight : precedence ≤ op.precedence)
    (denotes : Denotes one left.node)
    (reads : Parses levels a (right ++ kinds) kinds (fun value => Denotes two value.node)
      (g.binary (rightPrecedence op op.precedence)))
    (more : ∀ next, Denotes (.binary one op two) next.node →
      Repeats levels b kinds after accepts (binaryRound g start precedence) next) :
    Repeats levels (max a b) (op.kind :: right ++ kinds) after accepts (binaryRound g start precedence) left := by
  have shorter : kinds.length < (op.kind :: right ++ kinds).length := by
    rw [List.length_append, List.length_cons]
    omega
  have present : op.kind ≠ .endOfFile := by cases op <;> decide
  refine .again shorter (.step context_step fun context here => .peek fun token same _ => ?_) more
  subst here
  have operator : binaryOp? Context.top.noIn token.kind = some (op, op.precedence) := by
    rw [same]
    exact binary_op_of_kind op
  rw [operator]
  dsimp only
  rw [if_neg (Nat.not_lt.mpr tight)]
  exact .advance present fun _ => .finish reads fun value second => .finish spanned_from_step fun next same =>
    .pure ⟨next, rfl, by rw [same]; exact .binary op denotes second⟩

end

namespace Term

-- A token that continues the right operand at the end of the term is at least as strong as this.
def limit : Term → Nat
  | .binary _ op _ => op.rightRank
  | _ => unaryRank

def ReadsChain (term : Term) : Prop :=
  ∀ levels need kinds after accepts,
    (∀ start next, Denotes term next.node →
      Repeats levels need kinds after accepts (chainRound (Grammar.ofLevels levels) start) next) →
    Parses levels (max term.depth need) (term.render ++ kinds) after accepts (callMember (Grammar.ofLevels levels))

def ReadsUnary (term : Term) : Prop :=
  ∀ kinds, EndsAt unaryRank kinds → ∀ levels,
    Parses levels term.depth (term.render ++ kinds) kinds (fun value => Denotes term value.node)
      (unaryBody (Grammar.ofLevels levels))

def ReadsOperators (term : Term) : Prop :=
  ∀ levels need precedence kinds after accepts, binaryRank precedence ≤ term.rank → EndsAt term.limit kinds →
    (∀ start left, Denotes term left.node →
      Repeats levels need kinds after accepts (binaryRound (Grammar.ofLevels levels) start precedence) left) →
    Parses levels (max (operandLevels term.rank term.depth) need) (term.render ++ kinds) after accepts
      (binaryFrom (Grammar.ofLevels levels) precedence)

def ReadsAssignment (term : Term) : Prop :=
  ∀ kinds, EndsAt assignmentRank kinds → ∀ levels,
    Parses levels (operandLevels term.rank term.depth) (term.render ++ kinds) kinds
      (fun value => Denotes term value.node) (assignmentBody (Grammar.ofLevels levels))

def ReadsExpression (term : Term) : Prop :=
  ∀ kinds, EndsAt sequenceRank kinds → ∀ levels,
    Parses levels term.levels (term.render ++ kinds) kinds (fun value => Denotes term value.node)
      (expression (Grammar.ofLevels levels))

structure Readable (term : Term) : Prop where
  chain : callRank ≤ term.rank → term.ReadsChain
  unary : unaryRank ≤ term.rank → term.ReadsUnary
  operators : binaryRank 1 ≤ term.rank → term.ReadsOperators
  assignment : assignmentRank ≤ term.rank → term.ReadsAssignment
  expression : term.ReadsExpression

theorem right_rank_low (op : BinaryOp) : op.rightRank < unaryRank := by
  cases op <;> decide

theorem right_rank_high (op : BinaryOp) : binaryRank op.precedence ≤ op.rightRank := by
  cases op <;> decide

theorem right_precedence_low (op : BinaryOp) : rightPrecedence op op.precedence ≤ 12 := by
  cases op <;> decide

theorem limit_of_right (op : BinaryOp) (right : Term) (tight : op.rightRank ≤ right.rank) :
    op.rightRank ≤ right.limit := by
  cases right with
  | binary left inner value => exact Nat.le_trans tight (right_rank_high inner)
  | _ => exact Nat.le_of_lt (right_rank_low op)

theorem operator_strength (op : BinaryOp) : strength op.kind = binaryRank op.precedence := by
  cases op <;> decide

theorem operator_ends_left (op : BinaryOp) (left : Term) (tight : op.leftRank ≤ left.rank) (kinds : List TokenKind) :
    EndsAt left.limit (op.kind :: kinds) := by
  show strength op.kind < left.limit
  rw [operator_strength]
  have low : binaryRank op.precedence < unaryRank := Nat.lt_of_le_of_lt (right_rank_high op) (right_rank_low op)
  cases left with
  | binary first inner second =>
      show binaryRank op.precedence < inner.rightRank
      have both : op.leftRank ≤ binaryRank inner.precedence := tight
      revert both
      cases op <;> cases inner <;> decide
  | _ => exact low

theorem limit_operand (term : Term) : binaryRank 1 ≤ term.limit := by
  cases term with
  | binary left op right => exact Nat.le_trans (by cases op <;> decide) (right_rank_high op)
  | _ => exact (by decide : binaryRank 1 ≤ unaryRank)

variable {term : Term}

theorem expression_of_assignment (tight : assignmentRank ≤ term.rank) (reads : term.ReadsAssignment) :
    term.ReadsExpression := by
  intro kinds ends levels
  have single : term.rank ≠ sequenceRank := by
    intro same
    rw [same] at tight
    exact absurd tight (by decide)
  have need : term.levels = operandLevels term.rank term.depth + 1 := if_neg single
  rw [need]
  exact parses_single ends (assignment_deeper (reads kinds (ends.mono (by decide))) levels)

theorem parses_operators (tight : binaryRank 1 ≤ term.rank) (reads : term.ReadsOperators) (levels : Nat)
    (kinds : List TokenKind) (ends : EndsAt (binaryRank 1) kinds) :
    Parses levels (operandLevels term.rank term.depth) (term.render ++ kinds) kinds
      (fun value => Denotes term value.node) (binaryFrom (Grammar.ofLevels levels) 1) := by
  have whole := reads levels 0 1 kinds kinds (fun value => Denotes term value.node) tight
    (ends.mono (limit_operand term))
    fun start left denotes => operators_end start 1 left (by decide) ends denotes
  rwa [Nat.max_zero] at whole

theorem assignment_of_operators (tight : binaryRank 1 ≤ term.rank) (reads : term.ReadsOperators) :
    term.ReadsAssignment :=
  fun kinds ends levels => parses_assignment_body
    (parses_operand ends (parses_operators tight reads levels kinds (ends.mono (by decide))))

theorem operators_of_unary (tight : unaryRank ≤ term.rank) (reads : term.ReadsUnary)
    (limit : term.limit = unaryRank) : term.ReadsOperators := by
  intro levels need precedence kinds after accepts _ ends more
  rw [limit] at ends
  have operand : operandLevels term.rank term.depth = term.depth + 1 := if_pos tight
  rw [operand]
  exact .startOffset fun start => .bind (unary_deeper (reads kinds ends) levels) fun left denotes =>
    (more start left denotes).parses

theorem unary_of_chain (fits : term.Fits) (tight : updateRank ≤ term.rank) (reads : term.ReadsChain) :
    term.ReadsUnary := by
  intro kinds ends levels
  obtain ⟨kind, rest, spelled, -, leads⟩ := render_leads term fits
  have whole := reads levels 0 kinds kinds (fun value => Denotes term value.node)
    fun start next denotes => chain_ends start next (ends.mono (by decide)) denotes
  rw [Nat.max_zero, spelled] at whole
  rw [spelled]
  exact parses_unmodified (leads tight) fun start => parses_bare start (ends.mono (by decide)) whole

end Term

end ScriptSuite.Script
