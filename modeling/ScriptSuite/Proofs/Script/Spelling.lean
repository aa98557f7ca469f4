import ScriptSuite.Proofs.Script.Derivation
import ScriptSuite.Proofs.Script.Term

set_option autoImplicit false

namespace ScriptSuite.Script

def leadsCall : TokenKind → Bool
  | .identifier text => text ≠ "await"
  | .number _ | .bigint _ | .string _ | .regex _ _ => true
  | .keyword word => word ∈ [.trueWord, .falseWord, .nullWord, .thisWord]
  | .punct mark => mark ∈ [.lParen, .lBracket]
  | _ => false

def leadsTerm (kind : TokenKind) : Bool :=
  leadsCall kind || (unaryOp? kind).isSome || (updateOp? kind).isSome

def linksChain : TokenKind → Bool
  | .punct mark => mark ∈ [.dot, .questionDot, .lBracket, .lParen]
  | .template _ => true
  | _ => false

def strength (kind : TokenKind) : Nat :=
  if linksChain kind then callRank
  else if (updateOp? kind).isSome then updateRank
  else
    match binaryOp? false kind with
    | some (_, precedence) => binaryRank precedence
    | none =>
        if kind = .punct .question ∨ (assignOp? kind).isSome then assignmentRank
        else if kind = .punct .comma then sequenceRank
        else 0

def EndsAt (rank : Nat) (kinds : List TokenKind) : Prop :=
  strength (leading kinds) < rank

theorem EndsAt.mono {low high : Nat} {kinds : List TokenKind} (ends : EndsAt low kinds) (bound : low ≤ high) :
    EndsAt high kinds :=
  Nat.lt_of_lt_of_le ends bound

section

variable {kinds : List TokenKind}

theorem ends_links (ends : EndsAt callRank kinds) : linksChain (leading kinds) = false := by
  by_cases links : linksChain (leading kinds) = true
  · unfold EndsAt strength at ends
    rw [if_pos links] at ends
    exact absurd ends (Nat.lt_irrefl callRank)
  · exact eq_false_of_ne_true links

theorem ends_updates (ends : EndsAt updateRank kinds) : updateOp? (leading kinds) = none := by
  have noLink := ends_links (ends.mono (by decide))
  unfold EndsAt strength at ends
  rw [if_neg (by simp [noLink])] at ends
  by_cases updates : (updateOp? (leading kinds)).isSome
  · rw [if_pos updates] at ends
    exact absurd ends (Nat.lt_irrefl updateRank)
  · simpa using updates

theorem ends_operators (rank : Nat) (ends : EndsAt rank kinds) (bound : rank ≤ updateRank) (op : BinaryOp) (precedence : Nat)
    (operator : binaryOp? false (leading kinds) = some (op, precedence)) : binaryRank precedence < rank := by
  have noLink := ends_links (ends.mono (Nat.le_trans bound (by decide)))
  have noUpdate := ends_updates (ends.mono bound)
  unfold EndsAt strength at ends
  rw [if_neg (by simp [noLink]), if_neg (by simp [noUpdate]), operator] at ends
  exact ends

theorem ends_assignments (ends : EndsAt assignmentRank kinds) :
    leading kinds ≠ .punct .question ∧ assignOp? (leading kinds) = none := by
  have noLink := ends_links (ends.mono (by decide))
  have noUpdate := ends_updates (ends.mono (by decide))
  have noOperator : binaryOp? false (leading kinds) = none := by
    cases operator : binaryOp? false (leading kinds) with
    | none => rfl
    | some found =>
        have bound := ends_operators assignmentRank ends (by decide) found.1 found.2 operator
        unfold binaryRank assignmentRank at bound
        omega
  unfold EndsAt strength at ends
  rw [if_neg (by simp [noLink]), if_neg (by simp [noUpdate]), noOperator] at ends
  dsimp only at ends
  by_cases assigns : leading kinds = .punct .question ∨ (assignOp? (leading kinds)).isSome
  · rw [if_pos assigns] at ends
    exact absurd ends (Nat.lt_irrefl assignmentRank)
  · exact ⟨fun same => assigns (.inl same), by simpa using fun found => assigns (.inr found)⟩

theorem ends_sequences (ends : EndsAt sequenceRank kinds) : leading kinds ≠ .punct .comma := by
  intro comma
  unfold EndsAt at ends
  rw [comma] at ends
  exact absurd ends (by decide)

end

theorem leads_call_plain (kind : TokenKind) (leads : leadsCall kind = true) :
    unaryOp? kind = none ∧ updateOp? kind = none ∧ kind ≠ .identifier "await" ∧ kind ≠ .keyword .newWord := by
  cases kind with
  | keyword word => cases word <;> simp_all [leadsCall, unaryOp?, updateOp?]
  | punct mark => cases mark <;> simp_all [leadsCall, unaryOp?, updateOp?]
  | _ => simp_all [leadsCall, unaryOp?, updateOp?]

theorem leads_term_plain (kind : TokenKind) (leads : leadsTerm kind = true) :
    kind ≠ .punct .rParen ∧ kind ≠ .punct .rBracket ∧ kind ≠ .punct .comma ∧ kind ≠ .punct .ellipsis := by
  refine ⟨?_, ?_, ?_, ?_⟩ <;> (rintro rfl; cases leads)

theorem leads_call_term (kind : TokenKind) (leads : leadsCall kind = true) : leadsTerm kind = true := by
  simp [leadsTerm, leads]

theorem literal_leads (value : Literal) : leadsCall value.kind = true := by
  cases value with
  | bool value => cases value <;> rfl
  | _ => rfl

theorem leads_append {left : List TokenKind} (more : List TokenKind) (rank : Nat)
    (leads : ∃ kind rest, left = kind :: rest ∧ leadsTerm kind = true ∧ (updateRank ≤ rank → leadsCall kind = true)) :
    ∃ kind rest, left ++ more = kind :: rest ∧ leadsTerm kind = true ∧ (updateRank ≤ rank → leadsCall kind = true) := by
  obtain ⟨kind, rest, spelled, term, call⟩ := leads
  exact ⟨kind, rest ++ more, by rw [spelled, List.cons_append], term, call⟩

theorem render_leads : ∀ term : Term, term.Fits →
    ∃ kind rest, term.render = kind :: rest ∧ leadsTerm kind = true ∧ (updateRank ≤ term.rank → leadsCall kind = true)
  | .name text, fits => by
      have leads : leadsCall (.identifier text) = true := by simpa [leadsCall] using fits.2
      exact ⟨_, [], rfl, leads_call_term _ leads, fun _ => leads⟩
  | .literal value, _ =>
      ⟨value.kind, [], rfl, leads_call_term _ (literal_leads value), fun _ => literal_leads value⟩
  | .this, _ => ⟨_, [], rfl, rfl, fun _ => rfl⟩
  | .paren inner, _ => ⟨_, inner.render ++ [.punct .rParen], rfl, rfl, fun _ => rfl⟩
  | .array items, _ => ⟨_, items.render ++ [.punct .rBracket], rfl, rfl, fun _ => rfl⟩
  | .member object name chained, fits => by
      obtain ⟨kind, rest, spelled, term, call⟩ := render_leads object fits.1
      have bound : updateRank ≤ object.rank := Nat.le_trans (by decide) fits.2
      exact leads_append _ _ ⟨kind, rest, spelled, term, fun _ => call bound⟩
  | .index object property chained, fits => by
      obtain ⟨kind, rest, spelled, term, call⟩ := render_leads object fits.1
      have bound : updateRank ≤ object.rank := Nat.le_trans (by decide) fits.2.1
      exact leads_append _ _ (leads_append _ _ ⟨kind, rest, spelled, term, fun _ => call bound⟩)
  | .call callee args chained, fits => by
      obtain ⟨kind, rest, spelled, term, call⟩ := render_leads callee fits.1
      have bound : updateRank ≤ callee.rank := Nat.le_trans (by decide) fits.2.1
      exact leads_append _ _ (leads_append _ _ ⟨kind, rest, spelled, term, fun _ => call bound⟩)
  | .unary op operand, _ => by
      refine ⟨op.kind, operand.render, rfl, ?_, fun high => absurd high (by decide : ¬ updateRank ≤ unaryRank)⟩
      simp [leadsTerm, unary_op_of_kind]
  | .update op true target, _ => by
      refine ⟨op.kind, target.render, rfl, ?_, fun high => absurd high (by decide : ¬ updateRank ≤ unaryRank)⟩
      simp [leadsTerm, update_op_of_kind]
  | .update op false target, fits => by
      obtain ⟨kind, rest, spelled, term, call⟩ := render_leads target fits.1
      have bound : updateRank ≤ target.rank := Nat.le_trans (by decide) fits.2
      exact leads_append _ _ ⟨kind, rest, spelled, term, fun _ => call bound⟩
  | .binary left op right, fits => by
      obtain ⟨kind, rest, spelled, term, -⟩ := render_leads left fits.1
      have low : ¬ updateRank ≤ binaryRank op.precedence := by cases op <;> decide
      exact leads_append _ _ ⟨kind, rest, spelled, term, fun high => absurd high low⟩
  | .conditional test yes no, fits => by
      obtain ⟨kind, rest, spelled, term, -⟩ := render_leads test fits.1
      exact leads_append _ _ ⟨kind, rest, spelled, term, fun high => absurd high (by decide : ¬ updateRank ≤ assignmentRank)⟩
  | .assign target op value, fits => by
      obtain ⟨kind, rest, spelled, term, -⟩ := render_leads target fits.1
      exact leads_append _ _ ⟨kind, rest, spelled, term, fun high => absurd high (by decide : ¬ updateRank ≤ assignmentRank)⟩
  | .sequence first others, fits => by
      obtain ⟨kind, rest, spelled, term, -⟩ := render_leads first fits.1
      exact leads_append _ _ ⟨kind, rest, spelled, term, fun high => absurd high (by decide : ¬ updateRank ≤ sequenceRank)⟩

theorem member_name_calm (name : MemberName) : name.kind ≠ .punct .arrow := by
  cases name <;> simp [MemberName.kind]

theorem member_name_present (name : MemberName) : name.kind ≠ .endOfFile := by
  cases name <;> simp [MemberName.kind]

theorem literal_calm (value : Literal) : value.kind ≠ .punct .arrow := by
  intro same
  have leads := literal_leads value
  rw [same] at leads
  cases leads

theorem literal_present (value : Literal) : value.kind ≠ .endOfFile := by
  intro same
  have leads := literal_leads value
  rw [same] at leads
  cases leads

theorem unary_calm (op : UnaryOp) : op.kind ≠ .punct .arrow := by
  cases op <;> decide

theorem update_calm (op : UpdateOp) : op.kind ≠ .punct .arrow := by
  cases op <;> decide

theorem binary_calm (op : BinaryOp) : op.kind ≠ .punct .arrow := by
  cases op <;> decide

theorem assign_calm (op : AssignOp) : op.kind ≠ .punct .arrow := by
  cases op <;> decide

mutual

theorem Term.no_arrow : ∀ term : Term, .punct .arrow ∉ term.render
  | .name text => by simp [Term.render]
  | .literal value => by simpa [Term.render] using (literal_calm value).symm
  | .this => by simp [Term.render]
  | .paren inner => by simpa [Term.render] using inner.no_arrow
  | .array items => by simpa [Term.render] using items.no_arrow
  | .member object name chained => by
      have calm := (member_name_calm name).symm
      cases chained <;> simpa [Term.render, object.no_arrow] using calm
  | .index object property chained => by
      have inside := property.no_arrow
      cases chained <;> simpa [Term.render, linkKinds, object.no_arrow] using inside
  | .call callee args chained => by
      have inside := args.no_arrow
      cases chained <;> simpa [Term.render, linkKinds, callee.no_arrow] using inside
  | .unary op operand => by simpa [Term.render, operand.no_arrow] using (unary_calm op).symm
  | .update op true target => by simpa [Term.render, target.no_arrow] using (update_calm op).symm
  | .update op false target => by simpa [Term.render, target.no_arrow] using (update_calm op).symm
  | .binary left op right => by simpa [Term.render, left.no_arrow, right.no_arrow] using (binary_calm op).symm
  | .conditional test yes no => by simp [Term.render, test.no_arrow, yes.no_arrow, no.no_arrow]
  | .assign target op value => by simpa [Term.render, target.no_arrow, value.no_arrow] using (assign_calm op).symm
  | .sequence first others => by simp [Term.render, first.no_arrow, others.no_arrow]

theorem Elements.no_arrow : ∀ items : Elements, .punct .arrow ∉ items.render
  | .nil => by simp [Elements.render]
  | .hole rest => by simpa [Elements.render] using rest.no_arrow
  | .item spread value rest => by
      have behind := rest.no_arrow
      cases last : rest.isNil <;> cases spread <;>
        simp [Elements.render, spreadKinds, last, value.no_arrow, behind]

end

theorem operand_levels_le (rank depth height : Nat) (bound : depth ≤ 2 * height) :
    operandLevels rank depth ≤ 2 * height + 1 := by
  unfold operandLevels
  split <;> omega

theorem item_levels_le (rank depth height : Nat) (bound : depth ≤ 2 * height) :
    itemLevels rank depth ≤ 2 * height + 2 := by
  have operand := operand_levels_le rank depth height bound
  unfold itemLevels
  omega

theorem whole_levels_le (rank depth height : Nat) (bound : depth ≤ 2 * height) :
    wholeLevels rank depth ≤ 2 * height + 2 := by
  have item := item_levels_le rank depth height bound
  unfold wholeLevels
  split <;> omega

mutual

theorem Term.depth_le : ∀ term : Term, term.depth ≤ 2 * term.height
  | .name _ => Nat.le_refl _
  | .literal _ => Nat.le_refl _
  | .this => Nat.le_refl _
  | .paren inner => whole_levels_le inner.rank _ _ inner.depth_le
  | .array items => items.depth_le
  | .member object _ _ => Nat.le_trans object.depth_le (by simp only [Term.height]; omega)
  | .index object property _ => by
      have left := object.depth_le
      have inside := whole_levels_le property.rank _ _ property.depth_le
      simp only [Term.depth, Term.height]
      omega
  | .call callee args _ => by
      have left := callee.depth_le
      have inside := args.depth_le
      simp only [Term.depth, Term.height]
      omega
  | .unary _ operand => by
      have right := operand.depth_le
      simp only [Term.depth, Term.height]
      omega
  | .update _ true target => by
      have right := target.depth_le
      simp only [Term.depth, Term.height]
      omega
  | .update _ false target => by
      have left := target.depth_le
      simp only [Term.depth, Term.height]
      omega
  | .binary left _ right => by
      have first := operand_levels_le left.rank _ _ left.depth_le
      have second := item_levels_le right.rank _ _ right.depth_le
      simp only [Term.depth, Term.height]
      omega
  | .conditional test yes no => by
      have first := operand_levels_le test.rank _ _ test.depth_le
      have second := item_levels_le yes.rank _ _ yes.depth_le
      have third := item_levels_le no.rank _ _ no.depth_le
      simp only [Term.depth, Term.height]
      omega
  | .assign target _ value => by
      have first := operand_levels_le target.rank _ _ target.depth_le
      have second := item_levels_le value.rank _ _ value.depth_le
      simp only [Term.depth, Term.height]
      omega
  | .sequence first others => by
      have one := item_levels_le first.rank _ _ first.depth_le
      have more := others.depth_le
      simp only [Term.depth, Term.height]
      omega

theorem Elements.depth_le : ∀ items : Elements, items.depth ≤ 2 * items.height + 2
  | .nil => by simp [Elements.depth]
  | .hole rest => rest.depth_le
  | .item _ value rest => by
      have here := item_levels_le value.rank _ _ value.depth_le
      have behind := rest.depth_le
      simp only [Elements.depth, Elements.height]
      omega

end

end ScriptSuite.Script
