import ScriptSuite.Proofs.Script.FunctionBody
import ScriptSuite.Proofs.Script.TermList

set_option autoImplicit false

namespace ScriptSuite.Script

namespace Term

variable {term : Term}

theorem readable_of_expression (rank : term.rank = sequenceRank) (reads : term.ReadsExpression) : term.Readable where
  chain high := absurd (rank ▸ high) (by decide)
  unary high := absurd (rank ▸ high) (by decide)
  operators high := absurd (rank ▸ high) (by decide)
  assignment high := absurd (rank ▸ high) (by decide)
  expression := reads

theorem readable_of_assignment (rank : term.rank = assignmentRank) (reads : term.ReadsAssignment) : term.Readable where
  chain high := absurd (rank ▸ high) (by decide)
  unary high := absurd (rank ▸ high) (by decide)
  operators high := absurd (rank ▸ high) (by decide)
  assignment _ := reads
  expression := expression_of_assignment (Nat.le_of_eq rank.symm) reads

theorem readable_of_operators (tight : binaryRank 1 ≤ term.rank) (rank : term.rank < unaryRank)
    (reads : term.ReadsOperators) : term.Readable where
  chain high := absurd (Nat.lt_of_le_of_lt high rank) (by decide)
  unary high := absurd (Nat.lt_of_le_of_lt high rank) (by decide)
  operators _ := reads
  assignment _ := assignment_of_operators tight reads
  expression := expression_of_assignment (Nat.le_trans (by decide) tight) (assignment_of_operators tight reads)

theorem readable_of_unary (tight : unaryRank ≤ term.rank) (rank : term.rank < callRank) (limit : term.limit = unaryRank)
    (reads : term.ReadsUnary) : term.Readable :=
  have operators := operators_of_unary tight reads limit
  have assignment := assignment_of_operators (Nat.le_trans (by decide) tight) operators
  { chain := fun high => absurd (Nat.lt_of_le_of_lt high rank) (by decide)
    unary := fun _ => reads
    operators := fun _ => operators
    assignment := fun _ => assignment
    expression := expression_of_assignment (Nat.le_trans (by decide) tight) assignment }

theorem readable_of_chain (fits : term.Fits) (rank : term.rank = callRank) (limit : term.limit = unaryRank)
    (reads : term.ReadsChain) : term.Readable :=
  have unary := unary_of_chain fits (rank ▸ (by decide)) reads
  have operators := operators_of_unary (rank ▸ (by decide)) unary limit
  have assignment := assignment_of_operators (rank ▸ (by decide)) operators
  { chain := fun _ => reads
    unary := fun _ => unary
    operators := fun _ => operators
    assignment := fun _ => assignment
    expression := expression_of_assignment (rank ▸ (by decide)) assignment }

theorem readable_of_primary (fits : term.Fits) (rank : term.rank = callRank) (limit : term.limit = unaryRank)
    (reads : ∀ levels kinds heritage, Parses levels term.depth (term.render ++ kinds) kinds
      (fun value => Denotes term value.node) (primary (Grammar.ofLevels levels) heritage)) : term.Readable := by
  refine readable_of_chain fits rank limit fun levels need kinds after accepts more => ?_
  obtain ⟨kind, rest, spelled, -, leads⟩ := render_leads term fits
  have here := fun heritage => reads levels kinds heritage
  rw [spelled] at here ⊢
  exact parses_chain_head (leads (rank ▸ (by decide))) here more

end Term

section

variable {levels need : Nat} {before after kinds : List TokenKind} {g : Grammar}

theorem parses_primary {kind : TokenKind} {term : Term} (heritage : Parser (Spanned Expr))
    (parses : ∀ token, token.kind = kind → Parses levels need (kind :: kinds) after (Denotes term)
      (primaryExpr g heritage token)) :
    Parses levels need (kind :: kinds) after (fun value => Denotes term value.node) (primary g heritage) :=
  .peek fun token same _ => .finish (parses token same) fun node denotes =>
    spanned_from_step.weaken fun value same => by rw [same]; exact denotes

theorem parses_consuming {kind : TokenKind} {term : Term} {value : Expr} (present : kind ≠ .endOfFile)
    (denotes : Denotes term value) : Parses levels 0 (kind :: kinds) kinds (Denotes term) (consuming value) :=
  .advance present fun _ => .pure denotes

end

namespace Term

theorem name_readable (text : String) (fits : (name text).Fits) : (name text).Readable := by
  refine readable_of_primary fits rfl rfl fun levels kinds heritage => parses_primary heritage fun token same => ?_
  unfold primaryExpr
  rw [same]
  refine .look (fun state => ⟨_, rfl⟩) fun ahead => ?_
  have other : (text == "async") = false := beq_eq_false_iff_ne.mpr fits.1
  rw [other, Bool.false_and, if_neg Bool.false_ne_true]
  exact .advance (by simp) fun _ => .pure (.name text)

theorem literal_readable (value : Literal) : (literal value).Readable := by
  refine readable_of_primary trivial rfl rfl fun levels kinds heritage => parses_primary heritage fun token same => ?_
  unfold primaryExpr
  rw [same]
  have denotes := Denotes.literal value
  have present := literal_present value
  cases value with
  | bool value => cases value <;> exact parses_consuming present denotes
  | _ => exact parses_consuming present denotes

theorem this_readable : this.Readable := by
  refine readable_of_primary trivial rfl rfl fun levels kinds heritage => parses_primary heritage fun token same => ?_
  unfold primaryExpr
  rw [same]
  exact parses_consuming (by simp) .this

theorem paren_readable (inner : Term) (fits : inner.Fits) (readable : inner.Readable) : (paren inner).Readable := by
  refine readable_of_primary fits rfl rfl fun levels kinds heritage => ?_
  have whole := readable.expression (.punct .rParen :: kinds)
    (Elements.closing_ends .rParen (.inl rfl) _ (by decide) kinds) levels
  have spelled : (paren inner).render ++ kinds = .punct .lParen :: (inner.render ++ .punct .rParen :: kinds) := by
    simp [Term.render]
  rw [spelled]
  refine parses_primary heritage fun token same => ?_
  unfold primaryExpr
  rw [same]
  exact .advance (by simp) fun _ => .finish (parses_allowing_in whole) fun value denotes =>
    .expect (by simp) fun _ => .pure (.paren denotes)

theorem array_readable (items : Elements) (fits : items.Fit) (each : items.EachReads) : (array items).Readable := by
  refine readable_of_primary fits rfl rfl fun levels kinds heritage => ?_
  have list := (Elements.reads_holed items each levels kinds []).parses
  have spelled : (array items).render ++ kinds = .punct .lBracket :: (items.render ++ .punct .rBracket :: kinds) := by
    simp [Term.render]
  have literal : Parses levels items.depth (.punct .lBracket :: (items.render ++ .punct .rBracket :: kinds)) kinds
      (DenoteAll items) (arrayLiteral (Grammar.ofLevels levels)) := by
    refine .expect (by simp) fun _ => parses_allowing_in (.finish list fun values found => ?_)
    obtain ⟨read, same, denotes⟩ := found
    rw [same]
    exact .expect (by simp) fun _ => .pure (by simpa using denotes)
  rw [spelled]
  refine parses_primary heritage fun token same => ?_
  unfold primaryExpr
  rw [same]
  exact .finish literal fun values denotes => .pure (.array denotes)

theorem parses_identifier_name (levels : Nat) (kinds : List TokenKind) (name : MemberName) :
    Parses levels 0 (name.kind :: kinds) kinds (· = name.text) identifierName := by
  have present := member_name_present name
  refine .peek fun token same _ => ?_
  rw [same]
  cases name with
  | identifier name => exact .advance present fun _ => .pure rfl
  | keyword word => exact .advance present fun _ => .pure rfl
  | privateName name => exact .advance present fun _ => .pure rfl

theorem parses_computed_property (property : Term) (readable : property.Readable) (levels : Nat)
    (kinds : List TokenKind) :
    Parses levels property.levels (.punct .lBracket :: (property.render ++ .punct .rBracket :: kinds)) kinds
      (fun value => Denotes property value.node) (computedProperty (Grammar.ofLevels levels)) := by
  have whole := readable.expression (.punct .rBracket :: kinds)
    (Elements.closing_ends .rBracket (.inr rfl) _ (by decide) kinds) levels
  exact .expect (by simp) fun _ => .finish (parses_allowing_in whole) fun value denotes =>
    .expect (by simp) fun _ => .pure denotes

theorem parses_arguments (args : Elements) (each : args.EachReads) (full : args.hasHole = false) (levels : Nat)
    (kinds : List TokenKind) :
    Parses levels args.depth (.punct .lParen :: (args.render ++ .punct .rParen :: kinds)) kinds
      (fun values => DenoteAll args (values.map some)) (arguments (Grammar.ofLevels levels)) := by
  have list := (Elements.reads_args args each full levels kinds []).parses
  refine .expect (by simp) fun _ => parses_allowing_in (.finish list fun values found => ?_)
  obtain ⟨read, same, denotes⟩ := found
  rw [same]
  exact .expect (by simp) fun _ => .pure (by simpa using denotes)

theorem member_link (object : Term) (name : MemberName) (chained : Bool) (value : Spanned Expr)
    (left : Denotes object value.node) (levels : Nat) (kinds : List TokenKind) :
    Parses levels 0 ([.punct (if chained then .questionDot else .dot), name.kind] ++ kinds) kinds
      (fun link => ∃ next, link = some next ∧ Denotes (member object name chained) next)
      (chainLink (Grammar.ofLevels levels) value) := by
  have named := parses_identifier_name levels kinds name
  refine .peek fun token same _ => ?_
  rw [same]
  cases chained with
  | false =>
      refine .advance (by simp) fun _ => .finish named fun text spelled => .pure ⟨_, rfl, ?_⟩
      rw [spelled]
      exact .member name false left
  | true =>
      have noParen : leading (name.kind :: kinds) ≠ .punct .lParen := by cases name <;> simp [leading, MemberName.kind]
      have noBracket : leading (name.kind :: kinds) ≠ .punct .lBracket := by
        cases name <;> simp [leading, MemberName.kind]
      have link : Parses levels 0 (name.kind :: kinds) kinds (Denotes (member object name true))
          (optionalLink (Grammar.ofLevels levels) value) := by
        refine .unchecked noParen (.unchecked noBracket (.finish named fun text spelled => .pure ?_))
        rw [spelled]
        exact .member name true left
      exact .advance (by simp) fun _ => .finish link fun next denotes => .pure ⟨next, rfl, denotes⟩

theorem member_readable (object : Term) (name : MemberName) (chained : Bool) (fits : (member object name chained).Fits)
    (readable : object.Readable) : (member object name chained).Readable := by
  refine readable_of_chain fits rfl rfl fun levels need kinds after accepts more => ?_
  have spelled : (member object name chained).render ++ kinds =
      object.render ++ ([.punct (if chained then .questionDot else .dot), name.kind] ++ kinds) := by
    simp [Term.render]
  rw [spelled]
  refine readable.chain fits.2 levels need _ after accepts fun start value left => ?_
  have goes := chain_goes_on start value (by simp) (member_link object name chained value left levels kinds) more
  rwa [Nat.zero_max] at goes

theorem index_link (object property : Term) (chained : Bool) (value : Spanned Expr) (left : Denotes object value.node)
    (readable : property.Readable) (levels : Nat) (kinds : List TokenKind) :
    Parses levels property.levels
      (linkKinds chained ++ .punct .lBracket :: (property.render ++ [.punct .rBracket]) ++ kinds) kinds
      (fun link => ∃ next, link = some next ∧ Denotes (index object property chained) next)
      (chainLink (Grammar.ofLevels levels) value) := by
  have computed := parses_computed_property property readable levels kinds
  have spelled : linkKinds chained ++ .punct .lBracket :: (property.render ++ [.punct .rBracket]) ++ kinds =
      linkKinds chained ++ .punct .lBracket :: (property.render ++ .punct .rBracket :: kinds) := by
    simp
  rw [spelled]
  refine .peek fun token same _ => ?_
  rw [same]
  cases chained with
  | false => exact .finish computed fun key inside => .pure ⟨_, rfl, .index false left inside⟩
  | true =>
      have link : Parses levels property.levels (.punct .lBracket :: (property.render ++ .punct .rBracket :: kinds)) kinds
          (Denotes (index object property true)) (optionalLink (Grammar.ofLevels levels) value) :=
        .unchecked (by simp [leading]) (.checked (.finish computed fun key inside => .pure (.index true left inside)))
      exact .advance (by simp) fun _ => .finish link fun next denotes => .pure ⟨next, rfl, denotes⟩

theorem index_readable (object property : Term) (chained : Bool) (fits : (index object property chained).Fits)
    (readableObject : object.Readable) (readable : property.Readable) : (index object property chained).Readable := by
  refine readable_of_chain fits rfl rfl fun levels need kinds after accepts more => ?_
  have spelled : (index object property chained).render ++ kinds = object.render ++
      (linkKinds chained ++ .punct .lBracket :: (property.render ++ [.punct .rBracket]) ++ kinds) := by
    simp [Term.render]
  have depth : (index object property chained).depth = max object.depth property.levels := rfl
  rw [spelled, depth, Nat.max_assoc]
  refine readableObject.chain fits.2.1 levels _ _ after accepts fun start value left => ?_
  exact chain_goes_on start value (by simp) (index_link object property chained value left readable levels kinds) more

theorem call_link (callee : Term) (args : Elements) (chained : Bool) (value : Spanned Expr)
    (left : Denotes callee value.node) (each : args.EachReads) (full : args.hasHole = false) (levels : Nat)
    (kinds : List TokenKind) :
    Parses levels args.depth (linkKinds chained ++ .punct .lParen :: (args.render ++ [.punct .rParen]) ++ kinds) kinds
      (fun link => ∃ next, link = some next ∧ Denotes (call callee args chained) next)
      (chainLink (Grammar.ofLevels levels) value) := by
  have values := parses_arguments args each full levels kinds
  have spelled : linkKinds chained ++ .punct .lParen :: (args.render ++ [.punct .rParen]) ++ kinds =
      linkKinds chained ++ .punct .lParen :: (args.render ++ .punct .rParen :: kinds) := by
    simp
  rw [spelled]
  refine .peek fun token same _ => ?_
  rw [same]
  cases chained with
  | false => exact .finish values fun read inside => .pure ⟨_, rfl, .call false left inside⟩
  | true =>
      have link : Parses levels args.depth (.punct .lParen :: (args.render ++ .punct .rParen :: kinds)) kinds
          (Denotes (call callee args true)) (optionalLink (Grammar.ofLevels levels) value) :=
        .checked (.finish values fun read inside => .pure (.call true left inside))
      exact .advance (by simp) fun _ => .finish link fun next denotes => .pure ⟨next, rfl, denotes⟩

theorem call_readable (callee : Term) (args : Elements) (chained : Bool) (fits : (call callee args chained).Fits)
    (readable : callee.Readable) (each : args.EachReads) : (call callee args chained).Readable := by
  refine readable_of_chain fits rfl rfl fun levels need kinds after accepts more => ?_
  have spelled : (call callee args chained).render ++ kinds = callee.render ++
      (linkKinds chained ++ .punct .lParen :: (args.render ++ [.punct .rParen]) ++ kinds) := by
    simp [Term.render]
  have depth : (call callee args chained).depth = max callee.depth args.depth := rfl
  rw [spelled, depth, Nat.max_assoc]
  refine readable.chain fits.2.1 levels _ _ after accepts fun start value left => ?_
  exact chain_goes_on start value (by simp)
    (call_link callee args chained value left each fits.2.2.2 levels kinds) more

theorem unary_readable (op : UnaryOp) (operand : Term) (fits : (unary op operand).Fits) (readable : operand.Readable) :
    (unary op operand).Readable := by
  refine readable_of_unary (Nat.le_refl _) (by decide : unaryRank < callRank) rfl fun kinds ends levels => ?_
  have inner := unary_deeper (readable.unary fits.2 kinds ends) levels
  refine .startOffset fun start => .peek fun token same _ => ?_
  have kind : token.kind = op.kind := same
  have present : op.kind ≠ .endOfFile := by cases op <;> decide
  dsimp only
  rw [kind, unary_op_of_kind]
  exact .advance present fun _ => .finish inner fun value denotes =>
    spanned_from_step.weaken fun read same => by rw [same]; exact .unary op denotes

theorem update_present (op : UpdateOp) : op.kind ≠ .endOfFile := by
  cases op <;> decide

theorem prior_update_readable (op : UpdateOp) (target : Term) (fits : (update op true target).Fits)
    (readable : target.Readable) : (update op true target).Readable := by
  refine readable_of_unary (Nat.le_refl _) (by decide : unaryRank < callRank) rfl fun kinds ends levels => ?_
  have inner := unary_deeper (readable.unary fits.2 kinds ends) levels
  refine .startOffset fun start => .peek fun token same _ => ?_
  have kind : token.kind = op.kind := same
  have noUnary : unaryOp? op.kind = none := by cases op <;> rfl
  dsimp only
  rw [kind, noUnary, update_op_of_kind]
  exact .advance (update_present op) fun _ => .finish inner fun value denotes =>
    spanned_from_step.weaken fun read same => by rw [same]; exact .update op true denotes

theorem later_update_readable (op : UpdateOp) (target : Term) (fits : (update op false target).Fits)
    (readable : target.Readable) : (update op false target).Readable := by
  refine readable_of_unary (by decide : unaryRank ≤ updateRank) (by decide : updateRank < callRank) rfl
    fun kinds ends levels => ?_
  obtain ⟨kind, rest, spelled, -, leads⟩ := render_leads target fits.1
  have bound : updateRank ≤ target.rank := Nat.le_trans (by decide) fits.2
  have noLink : EndsAt callRank (op.kind :: kinds) := by cases op <;> exact (by decide : updateRank < callRank)
  have inner := readable.chain fits.2 levels 0 (op.kind :: kinds) (op.kind :: kinds)
    (fun value => Denotes target value.node) fun start next denotes => chain_ends start next noLink denotes
  have whole : (update op false target).render ++ kinds = target.render ++ op.kind :: kinds := by simp [Term.render]
  rw [Nat.max_zero, spelled] at inner
  rw [whole, spelled]
  refine parses_unmodified (leads bound) fun start => .finish inner fun value denotes => .peek fun token same sameLine => ?_
  have here : token.kind = op.kind := same
  rw [here, update_op_of_kind]
  dsimp only
  rw [sameLine, if_neg Bool.false_ne_true]
  exact .advance (update_present op) fun _ => spanned_from_step.weaken fun read same => by
    rw [same]
    exact .update op false denotes

-- The left operand is followed by the operator as by one of those around the term; the right one reads on as far as
-- its rank allows.
theorem binary_readable (left right : Term) (op : BinaryOp) (fits : (binary left op right).Fits)
    (readableLeft : left.Readable) (readableRight : right.Readable) : (binary left op right).Readable := by
  obtain ⟨-, tightLeft, -, tightRight⟩ := fits
  have low : binaryRank op.precedence < unaryRank := Nat.lt_of_le_of_lt (right_rank_high op) (right_rank_low op)
  have least : binaryRank 1 ≤ binaryRank op.precedence := by cases op <;> decide
  refine readable_of_operators least low fun levels need precedence kinds after accepts tight ends more => ?_
  have leftRank : binaryRank op.precedence ≤ left.rank := Nat.le_trans (by cases op <;> decide) tightLeft
  have rightRank : binaryRank 1 ≤ right.rank := Nat.le_trans (by cases op <;> decide) tightRight
  have inner : ∀ levels, Parses levels (operandLevels right.rank right.depth) (right.render ++ kinds) kinds
      (fun value => Denotes right value.node)
      (binaryFrom (Grammar.ofLevels levels) (rightPrecedence op op.precedence)) := by
    intro levels
    have whole := readableRight.operators rightRank levels 0 (rightPrecedence op op.precedence) kinds kinds
      (fun value => Denotes right value.node) tightRight (ends.mono (limit_of_right op right tightRight))
      fun start value denotes => operators_end start _ value (right_precedence_low op) ends denotes
    rwa [Nat.max_zero] at whole
  have spelled : (binary left op right).render ++ kinds = left.render ++ (op.kind :: right.render ++ kinds) := by
    simp [Term.render]
  have depth : operandLevels (binary left op right).rank (binary left op right).depth =
      max (operandLevels left.rank left.depth) (itemLevels right.rank right.depth) :=
    if_neg (Nat.not_le.mpr low)
  rw [spelled, depth, Nat.max_assoc]
  refine readableLeft.operators (Nat.le_trans least leftRank) levels _ precedence _ after accepts
    (Nat.le_trans tight leftRank) (operator_ends_left op left tightLeft _) fun start value denotes => ?_
  have tightEnough : precedence ≤ op.precedence := Nat.le_of_add_le_add_right tight
  exact operators_go_on start precedence value op tightEnough denotes
    (binary_deeper (rightPrecedence op op.precedence) inner levels) (more start)

theorem conditional_readable (test yes no : Term) (fits : (conditional test yes no).Fits)
    (readableTest : test.Readable) (readableYes : yes.Readable) (readableNo : no.Readable) :
    (conditional test yes no).Readable := by
  obtain ⟨-, tightTest, -, tightYes, -, tightNo⟩ := fits
  refine readable_of_assignment rfl fun kinds ends levels => ?_
  have spelled : (conditional test yes no).render ++ kinds =
      test.render ++ .punct .question :: (yes.render ++ .punct .colon :: (no.render ++ kinds)) := by
    simp [Term.render]
  have depth : operandLevels (conditional test yes no).rank (conditional test yes no).depth =
      max (operandLevels test.rank test.depth) (max (itemLevels yes.rank yes.depth) (itemLevels no.rank no.depth)) :=
    if_neg (by decide : ¬ unaryRank ≤ assignmentRank)
  have first := parses_operators tightTest (readableTest.operators tightTest) levels
    (.punct .question :: (yes.render ++ .punct .colon :: (no.render ++ kinds)))
    (by decide : strength (.punct .question) < binaryRank 1)
  have second := assignment_deeper (readableYes.assignment tightYes (.punct .colon :: (no.render ++ kinds))
    (by decide : strength (.punct .colon) < assignmentRank)) levels
  have third := assignment_deeper (readableNo.assignment tightNo kinds ends) levels
  have whole : Parses levels
      (max (operandLevels test.rank test.depth) (max (itemLevels yes.rank yes.depth) (itemLevels no.rank no.depth)))
      (test.render ++ .punct .question :: (yes.render ++ .punct .colon :: (no.render ++ kinds))) kinds
      (fun value => Denotes (conditional test yes no) value.node)
      (ScriptSuite.Script.conditional (Grammar.ofLevels levels)) :=
    .startOffset fun start => .bind first fun one denotesTest => .accept (by simp)
      (.bind (parses_allowing_in second) fun two denotesYes => .expect (by simp) fun _ =>
        .finish third fun three denotesNo => spanned_from_step.weaken fun read same => by
          rw [same]
          exact .conditional denotesTest denotesYes denotesNo)
  rw [spelled, depth]
  refine parses_assignment_body (.startOffset fun start => .finish whole fun read denotes => .peek fun token same _ => ?_)
  rw [same, (ends_assignments ends).2]
  exact .pure denotes

theorem assign_readable (target value : Term) (op : AssignOp) (fits : (assign target op value).Fits)
    (readableTarget : target.Readable) (readableValue : value.Readable) : (assign target op value).Readable := by
  obtain ⟨-, tightTarget, -, tightValue⟩ := fits
  refine readable_of_assignment rfl fun kinds ends levels => ?_
  have spelled : (assign target op value).render ++ kinds = target.render ++ op.kind :: (value.render ++ kinds) := by
    simp [Term.render]
  have depth : operandLevels (assign target op value).rank (assign target op value).depth =
      max (operandLevels target.rank target.depth) (itemLevels value.rank value.depth) :=
    if_neg (by decide : ¬ unaryRank ≤ assignmentRank)
  have weak : strength op.kind < binaryRank 1 := by cases op <;> decide
  have present : op.kind ≠ .endOfFile := by cases op <;> decide
  have noQuestion : op.kind ≠ .punct .question := by cases op <;> decide
  have first := parses_operators tightTarget (readableTarget.operators tightTarget) levels
    (op.kind :: (value.render ++ kinds)) weak
  have second := assignment_deeper (readableValue.assignment tightValue kinds ends) levels
  have left : Parses levels (operandLevels target.rank target.depth)
      (target.render ++ op.kind :: (value.render ++ kinds)) (op.kind :: (value.render ++ kinds))
      (fun read => Denotes target read.node) (ScriptSuite.Script.conditional (Grammar.ofLevels levels)) :=
    .startOffset fun start => .finish first fun one denotes => .refuse noQuestion (.pure denotes)
  rw [spelled, depth]
  refine parses_assignment_body (.startOffset fun start => .bind left fun one denotesTarget => .peek fun token same _ => ?_)
  have kind : token.kind = op.kind := same
  rw [kind, assign_op_of_kind]
  exact .advance present fun _ => .finish second fun two denotesValue => spanned_from_step.weaken fun read same => by
    rw [same]
    exact .assign op denotesTarget denotesValue

theorem sequence_readable (first : Term) (others : Elements) (fits : (sequence first others).Fits)
    (readable : first.Readable) (each : others.EachReads) : (sequence first others).Readable := by
  obtain ⟨-, tight, -, full, plain, some⟩ := fits
  refine readable_of_expression rfl fun kinds ends levels => ?_
  have spelled : (sequence first others).render ++ kinds =
      first.render ++ .punct .comma :: (others.render ++ kinds) := by
    simp [Term.render]
  have depth : (sequence first others).levels = max (itemLevels first.rank first.depth) others.depth := by
    unfold Term.levels wholeLevels
    exact if_pos rfl
  have one := assignment_deeper (readable.assignment tight (.punct .comma :: (others.render ++ kinds))
    (Elements.comma_ends _)) levels
  rw [spelled, depth]
  refine .bind one fun value denotes => .checked ?_
  refine .finish (Elements.reads_others others each full plain some kinds ends levels [value]).parses
    fun values found => ?_
  obtain ⟨read, same, behind⟩ := found
  refine spanned_from_step.weaken fun node spanned => ?_
  rw [spanned, same]
  exact .sequence (.item denotes behind)

end Term

mutual

theorem Term.readable : ∀ term : Term, term.Fits → term.Readable
  | .name text, fits => Term.name_readable text fits
  | .literal value, _ => Term.literal_readable value
  | .this, _ => Term.this_readable
  | .paren inner, fits => Term.paren_readable inner fits (inner.readable fits)
  | .array items, fits => Term.array_readable items fits (items.each_reads fits)
  | .member object name chained, fits => Term.member_readable object name chained fits (object.readable fits.1)
  | .index object property chained, fits =>
      Term.index_readable object property chained fits (object.readable fits.1) (property.readable fits.2.2)
  | .call callee args chained, fits =>
      Term.call_readable callee args chained fits (callee.readable fits.1) (args.each_reads fits.2.2.1)
  | .unary op operand, fits => Term.unary_readable op operand fits (operand.readable fits.1)
  | .update op true target, fits => Term.prior_update_readable op target fits (target.readable fits.1)
  | .update op false target, fits => Term.later_update_readable op target fits (target.readable fits.1)
  | .binary left op right, fits =>
      Term.binary_readable left right op fits (left.readable fits.1) (right.readable fits.2.2.1)
  | .conditional test yes no, fits =>
      Term.conditional_readable test yes no fits (test.readable fits.1) (yes.readable fits.2.2.1)
        (no.readable fits.2.2.2.2.1)
  | .assign target op value, fits =>
      Term.assign_readable target value op fits (target.readable fits.1) (value.readable fits.2.2.1)
  | .sequence first others, fits =>
      Term.sequence_readable first others fits (first.readable fits.1) (others.each_reads fits.2.2.1)

theorem Elements.each_reads : ∀ items : Elements, items.Fit → items.EachReads
  | .nil, _ => trivial
  | .hole rest, fit => rest.each_reads fit
  | .item _ value rest, fit => ⟨fit.1, (value.readable fit.1).assignment fit.2.1, rest.each_reads fit.2.2⟩

end

theorem paren_levels (term : Term) : (Term.paren term).levels = term.levels + 2 := rfl

theorem at_end_step (levels : Nat) (kinds : List TokenKind) :
    Parses levels 0 kinds kinds (· = (leading kinds == .endOfFile)) atEnd := by
  refine ⟨fun _ state ahead => ⟨_, state, rfl, ahead, ?_⟩, fun few => absurd few (Nat.not_lt_zero levels)⟩
  unfold State.atEnd
  rw [(ahead_peek ahead).1]

theorem parses_parenthesized_statement (term : Term) (fits : term.Fits) (levels : Nat) :
    Parses levels (term.levels + 2) (.punct .lParen :: (term.render ++ [.punct .rParen, .punct .semi, .endOfFile]))
      [.endOfFile] (fun statement => ∃ value, statement.node = .expr value ∧ Denotes (.paren term) value.node)
      (statementBody (Grammar.ofLevels levels)) := by
  have spelled : TokenKind.punct .lParen :: (term.render ++ [.punct .rParen, .punct .semi, .endOfFile]) =
      (Term.paren term).render ++ [.punct .semi, .endOfFile] := by
    simp [Term.render]
  have whole := (Term.paren_readable term fits (term.readable fits)).expression [.punct .semi, .endOfFile]
    (by decide : strength (.punct .semi) < sequenceRank) levels
  rw [← spelled, paren_levels] at whole
  have statement : Parses levels (term.levels + 2)
      (.punct .lParen :: (term.render ++ [.punct .rParen, .punct .semi, .endOfFile])) [.endOfFile]
      (fun statement => ∃ value, statement = .expr value ∧ Denotes (.paren term) value.node)
      (expressionStatement (Grammar.ofLevels levels)) := by
    have semicolon : Parses levels 0 [.punct .semi, .endOfFile] [.endOfFile] (fun _ => True) consumeSemicolon :=
      .accept (by simp) (.pure trivial)
    exact .finish whole fun value denotes => .finish semicolon fun _ _ => .pure ⟨value, rfl, denotes⟩
  refine .peek fun token same _ => ?_
  have kind : token.kind = .punct .lParen := same
  rw [kind, if_neg (by simp)]
  refine .finish statement fun node found => spanned_from_step.weaken fun read same => ?_
  obtain ⟨value, rfl, denotes⟩ := found
  exact ⟨value, same, denotes⟩

theorem parses_single_statement {need : Nat} {kinds : List TokenKind} {accepts : Spanned Statement → Prop}
    (present : leading kinds ≠ .endOfFile) (longer : [TokenKind.endOfFile].length < kinds.length)
    (statement : Parses (maxNesting - 1) need kinds [.endOfFile] accepts (statementBody (Grammar.ofLevels (maxNesting - 1)))) :
    Parses (maxNesting - 1) need kinds [.endOfFile] (fun body => ∃ statement, body = [statement] ∧ accepts statement)
      (programBody Grammar.full) := by
  have first : Parses (maxNesting - 1) need kinds [.endOfFile]
      (fun step => ∃ body, step = .again body ∧ ∃ statement, body = [statement] ∧ accepts statement)
      (programRound Grammar.full []) := by
    refine .step (at_end_step _ _) fun ended here => ?_
    have going : ended = false := here.trans (beq_eq_false_iff_ne.mpr present)
    subst going
    exact .finish statement fun one fine => .pure ⟨_, rfl, one, rfl, fine⟩
  have last : ∀ body : Body, (∃ statement, body = [statement] ∧ accepts statement) →
      Repeats (maxNesting - 1) 0 [.endOfFile] [.endOfFile] (fun body => ∃ statement, body = [statement] ∧ accepts statement)
        (programRound Grammar.full) body := by
    rintro body ⟨statement, rfl, fine⟩
    refine .done (.step (at_end_step _ _) fun ended here => ?_)
    subst here
    exact .pure ⟨_, rfl, statement, rfl, fine⟩
  have whole := Repeats.again longer first last
  rw [Nat.max_zero] at whole
  exact whole.parses

theorem parses_parenthesized_program (term : Term) (fits : term.Fits) :
    Parses (maxNesting - 1) (term.levels + 2)
      (.punct .lParen :: (term.render ++ [.punct .rParen, .punct .semi, .endOfFile])) [.endOfFile]
      (fun body => ∃ statement, body = [statement] ∧ ∃ value, statement.node = .expr value ∧
        Denotes (.paren term) value.node) (programBody Grammar.full) :=
  parses_single_statement (by simp [leading]) (by simp) (parses_parenthesized_statement term fits (maxNesting - 1))

/-- Terms of which no more than `maxNesting` levels are open at once are read back; all others are refused for their
depth. A term that is not higher than half of the levels is read back in any case. -/
theorem parse_parenthesized (term : Term) (fits : term.Fits) (tokens : List Token)
    (spelled : tokens.map (·.kind) = .punct .lParen :: (term.render ++ [.punct .rParen, .punct .semi, .endOfFile]))
    (oneLine : ∀ token ∈ tokens, token.newlineBefore = false) :
    (term.levels + 3 ≤ maxNesting → ∃ value inner outer,
      parse tokens = .ok ⟨[⟨.expr ⟨.paren value, inner⟩, outer⟩], []⟩ ∧ Denotes term value.node) ∧
    (maxNesting < term.levels + 3 → ∃ span, parse tokens = .error ⟨.nestingTooDeep, span⟩) ∧
    term.levels ≤ 2 * term.height + 2 := by
  have noArrow : ∀ token ∈ tokens, token.kind ≠ .punct .arrow := by
    intro token inside same
    have found : TokenKind.punct .arrow ∈ tokens.map (·.kind) := same ▸ List.mem_map_of_mem inside
    rw [spelled] at found
    simp [term.no_arrow] at found
  have ahead : Ahead (.punct .lParen :: (term.render ++ [.punct .rParen, .punct .semi, .endOfFile]))
      (State.ofTokens tokens) :=
    ⟨spelled, fun token inside => ⟨oneLine token inside, noArrow token inside⟩, rfl⟩
  have program := parses_parenthesized_program term fits
  refine ⟨fun enough => ?_, fun few => ?_, whole_levels_le term.rank _ _ term.depth_le⟩
  · obtain ⟨body, final, result, behind, statement, rfl, value, same, denotes⟩ :=
      program.enough (by unfold maxNesting at *; omega) _ ahead
    obtain ⟨node, outer⟩ := statement
    obtain ⟨expr, inner⟩ := value
    cases same
    cases denotes with
    | @paren _ value inside =>
        refine ⟨value, inner, outer, ?_, inside⟩
        unfold parse
        rw [result]
        simp only [behind.clean]
  · obtain ⟨span, final, result⟩ := program.tooFew (by unfold maxNesting at *; omega) _ ahead
    refine ⟨span, ?_⟩
    unfold parse
    rw [result]

-- `a - b ** -c`, and the tokens of it in parentheses.
def sampleTerm : Term :=
  .binary (.name "a") .sub (.binary (.name "b") .pow (.unary .neg (.name "c")))

def sampleTokens : List Token :=
  [⟨.punct .lParen, ⟨0, 1⟩, false⟩, ⟨.identifier "a", ⟨1, 2⟩, false⟩, ⟨.punct .minus, ⟨3, 4⟩, false⟩,
    ⟨.identifier "b", ⟨5, 6⟩, false⟩, ⟨.punct .starStar, ⟨7, 9⟩, false⟩, ⟨.punct .minus, ⟨10, 11⟩, false⟩,
    ⟨.identifier "c", ⟨11, 12⟩, false⟩, ⟨.punct .rParen, ⟨12, 13⟩, false⟩, ⟨.punct .semi, ⟨13, 14⟩, false⟩,
    ⟨.endOfFile, ⟨14, 14⟩, false⟩]

theorem sample_term_fits : sampleTerm.Fits := by
  simp only [sampleTerm, Term.Fits]
  decide

theorem parse_sample_term :
    sampleTerm.Fits ∧
      sampleTokens.map (·.kind) =
        .punct .lParen :: (sampleTerm.render ++ [.punct .rParen, .punct .semi, .endOfFile]) ∧
      (∀ token ∈ sampleTokens, token.newlineBefore = false) ∧ sampleTerm.levels + 3 ≤ maxNesting ∧
      ∃ value inner outer, parse sampleTokens = .ok ⟨[⟨.expr ⟨.paren value, inner⟩, outer⟩], []⟩ ∧
        Denotes sampleTerm value.node :=
  ⟨sample_term_fits, rfl, by decide, by decide,
    (parse_parenthesized sampleTerm sample_term_fits sampleTokens rfl (by decide)).1 (by decide)⟩

end ScriptSuite.Script
