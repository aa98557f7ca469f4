import ScriptSuite.Proofs.Script.Brackets

set_option autoImplicit false

namespace ScriptSuite.Script

-- No substitution stands at the front of a text, where a line that begins with `#!` would be skipped.
def Token.Anchored (token : Token) : Prop :=
  ∀ parts source, token.kind = .template parts → TemplatePart.substitution source 0 ∉ parts

def AllAnchored (tokens : List Token) : Prop :=
  ∀ token ∈ tokens, token.Anchored

def closing (depth : Nat) : List Token → Bool
  | [] => depth == 0
  | token :: rest =>
      if isOpening token.kind then closing (depth + 1) rest
      else if isClosing token.kind then depth != 0 && closing (depth - 1) rest
      else closing depth rest

def EndsStatement (tokens : List Token) : Prop :=
  ∃ front semi, tokens = front ++ [semi] ∧ semi.kind = .punct .semi

structure Remainder (front : List Token) (last : Token) : Prop where
  ends : EndsStatement front
  present : ∀ token ∈ front, token.kind ≠ .endOfFile
  anchored : AllAnchored front
  isEnd : last.kind = .endOfFile
  balanced : ∃ depth, closing depth front = true

-- What the first of the tokens does to the brackets that are open.
theorem closing_cons {depth : Nat} {token : Token} {rest : List Token} (closed : closing depth (token :: rest) = true) :
    isOpening token.kind = true ∧ closing (depth + 1) rest = true ∨
      ¬ isOpening token.kind = true ∧
        (isClosing token.kind = true ∧ (∃ outer, depth = outer + 1 ∧ closing outer rest = true) ∨
          ¬ isClosing token.kind = true ∧ closing depth rest = true) := by
  rw [closing] at closed
  by_cases opens : isOpening token.kind = true
  · rw [if_pos opens] at closed
    exact .inl ⟨opens, closed⟩
  · rw [if_neg opens] at closed
    refine .inr ⟨opens, ?_⟩
    by_cases closes : isClosing token.kind = true
    · rw [if_pos closes, Bool.and_eq_true, bne_iff_ne] at closed
      exact .inl ⟨closes, depth - 1, by omega, closed.2⟩
    · rw [if_neg closes] at closed
      exact .inr ⟨closes, closed⟩

theorem closing_append (inner depth : Nat) (read rest : List Token) (one : closing inner read = true)
    (two : closing depth rest = true) : closing (inner + depth) (read ++ rest) = true := by
  induction read generalizing inner with
  | nil =>
      have none : inner = 0 := by simpa [closing] using one
      simpa [none] using two
  | cons token read ih =>
      rw [List.cons_append, closing]
      rcases closing_cons one with ⟨opens, deeper⟩ | ⟨opens, ⟨closes, outer, rfl, shallower⟩ | ⟨closes, same⟩⟩
      · rw [if_pos opens, Nat.add_right_comm]
        exact ih (inner + 1) deeper
      · rw [if_neg opens, if_pos closes, Bool.and_eq_true, bne_iff_ne, Nat.add_right_comm]
        exact ⟨Nat.succ_ne_zero _, ih outer shallower⟩
      · rw [if_neg opens, if_neg closes]
        exact ih inner same

theorem closing_suffix (depth : Nat) (tokens rest : List Token) (closed : closing depth tokens = true)
    (suffix : rest <:+ tokens) : ∃ inner, closing inner rest = true := by
  induction tokens generalizing depth with
  | nil =>
      rw [List.suffix_nil.mp suffix]
      exact ⟨depth, closed⟩
  | cons token tail ih =>
      rcases List.suffix_cons_iff.mp suffix with whole | within
      · rw [whole]
        exact ⟨depth, closed⟩
      · rcases closing_cons closed with ⟨_, deeper⟩ | ⟨_, ⟨_, _, _, shallower⟩ | ⟨_, same⟩⟩
        · exact ih _ deeper within
        · exact ih _ shallower within
        · exact ih _ same within

theorem Remainder.behind {front behind : List Token} {last : Token} (remainder : Remainder front last)
    (suffix : behind <:+ front) (ends : EndsStatement behind) : Remainder behind last := by
  obtain ⟨depth, closed⟩ := remainder.balanced
  exact ⟨ends, fun token inside => remainder.present token (suffix.subset inside),
    fun token inside => remainder.anchored token (suffix.subset inside), remainder.isEnd,
    closing_suffix depth front behind closed suffix⟩

theorem Remainder.whole {front : List Token} {last : Token} (remainder : Remainder front last) :
    AllAnchored (front ++ [last]) := by
  intro token inside
  rcases List.mem_append.mp inside with early | final
  · exact remainder.anchored token early
  · intro parts source template
    rw [List.mem_singleton.mp final, remainder.isEnd] at template
    cases template

theorem Remainder.head {front : List Token} {last : Token} (remainder : Remainder front last) :
    ∃ token rest, front = token :: rest := by
  obtain ⟨early, semi, rfl, _⟩ := remainder.ends
  cases early with
  | nil => exact ⟨semi, [], rfl⟩
  | cons token early => exact ⟨token, early ++ [semi], rfl⟩

theorem EndsStatement.nonempty {tokens : List Token} (ends : EndsStatement tokens) : tokens ≠ [] := by
  obtain ⟨front, semi, rfl, _⟩ := ends
  simp

theorem EndsStatement.tail {token : Token} {rest : List Token} (ends : EndsStatement (token :: rest)) :
    EndsStatement rest ∨ token.kind = .punct .semi ∧ rest = [] := by
  obtain ⟨early, semi, same, mark⟩ := ends
  cases early with
  | nil =>
      cases same
      exact .inr ⟨mark, rfl⟩
  | cons first early =>
      cases same
      exact .inl ⟨early, semi, rfl, mark⟩

theorem EndsStatement.next {token : Token} {rest : List Token} (ends : EndsStatement (token :: rest))
    (other : token.kind ≠ .punct .semi) : EndsStatement rest :=
  ends.tail.resolve_right fun last => other last.1

theorem Remainder.next {token : Token} {rest : List Token} {last : Token} (remainder : Remainder (token :: rest) last)
    (other : token.kind ≠ .punct .semi) : Remainder rest last :=
  remainder.behind (List.suffix_cons token rest) (remainder.ends.next other)

theorem opening_no_semi (kind : TokenKind) (opens : isOpening kind = true) : kind ≠ .punct .semi := by
  intro same
  simp [same, isOpening] at opens

theorem closing_no_semi (kind : TokenKind) (closes : isClosing kind = true) : kind ≠ .punct .semi := by
  intro same
  simp [same, isClosing] at closes

theorem starts_with_arrow_before (front tail other : List Token) (nonempty : front ≠ []) :
    startsWithArrow (front ++ tail) = startsWithArrow (front ++ other) := by
  cases front with
  | nil => exact absurd rfl nonempty
  | cons token front => rfl

theorem arrow_after_closing_before (depth outer : Nat) (front tail other : List Token) (positive : 1 ≤ depth)
    (ends : EndsStatement front) (closed : closing (depth + outer) front = true) :
    arrowAfterClosing depth (front ++ tail) = arrowAfterClosing depth (front ++ other) := by
  induction front generalizing depth with
  | nil => exact absurd rfl ends.nonempty
  | cons token front ih =>
      simp only [List.cons_append, arrowAfterClosing]
      rcases closing_cons closed with ⟨opens, deeper⟩ | ⟨opens, ⟨closes, left, same, shallower⟩ | ⟨closes, level⟩⟩
      · rw [if_pos opens, if_pos opens]
        exact ih (depth + 1) (by omega) (ends.next (opening_no_semi _ opens)) (by rwa [Nat.add_right_comm])
      · have more := ends.next (closing_no_semi _ closes)
        rw [if_neg opens, if_neg opens, if_pos closes, if_pos closes]
        by_cases last : depth ≤ 1
        · rw [if_pos last, if_pos last]
          exact starts_with_arrow_before front tail other more.nonempty
        · rw [if_neg last, if_neg last]
          exact ih (depth - 1) (by omega) more (by rwa [show depth - 1 + outer = left by omega])
      · rw [if_neg opens, if_neg opens, if_neg closes, if_neg closes]
        rcases ends.tail with more | ⟨-, none⟩
        · rw [ih depth positive more level]
        · subst none
          have open_ : depth + outer = 0 := by simpa [closing] using level
          omega

theorem arrow_head_before (depth : Nat) (front tail other : List Token) (ends : EndsStatement front)
    (closed : closing depth front = true) : arrowHead (front ++ tail) = arrowHead (front ++ other) := by
  cases front with
  | nil => exact absurd rfl ends.nonempty
  | cons token front =>
      rw [closing] at closed
      simp only [List.cons_append, arrowHead]
      split
      · next kind => exact starts_with_arrow_before front tail other (ends.next (by simp [kind])).nonempty
      · next kind =>
          rw [if_pos (by rw [kind]; rfl)] at closed
          exact arrow_after_closing_before 1 depth front tail other (Nat.le_refl 1) (ends.next (by simp [kind]))
            (by rwa [Nat.add_comm])
      · rfl

theorem arrow_ahead_before (front tail other : List Token) {last : Token} (remainder : Remainder front last) :
    arrowAhead (front ++ tail) = arrowAhead (front ++ other) := by
  obtain ⟨depth, closed⟩ := remainder.balanced
  cases front with
  | nil => exact absurd rfl remainder.ends.nonempty
  | cons first front =>
      have whole := arrow_head_before depth (first :: front) tail other remainder.ends closed
      by_cases semi : first.kind = .punct .semi
      · have none : ∀ rest, arrowAhead (first :: rest) = false := by
          intro rest
          cases rest <;> simp [arrowAhead, arrowHead, semi]
        rw [List.cons_append, List.cons_append, none, none]
      · have more := remainder.next semi
        obtain ⟨second, rest, rfl⟩ := more.head
        obtain ⟨inner, closed⟩ := more.balanced
        have behind := arrow_head_before inner (second :: rest) tail other more.ends closed
        simp only [List.cons_append] at whole behind ⊢
        simp only [arrowAhead, whole, behind]

end ScriptSuite.Script
