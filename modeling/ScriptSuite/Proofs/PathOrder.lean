import ScriptSuite.Proofs.Path

set_option autoImplicit false

namespace ScriptSuite.Path

theorem compare_names (a b : String) : Component.compare (.name a) (.name b) = Ord.compare a b := by
  rw [Component.compare]
  change _ = compareOfLessAndEq a b
  rw [compareOfLessAndEq]
  by_cases same : a = b
  · rw [if_pos same, if_neg (same ▸ String.lt_irrefl a), if_pos same]
  · rw [if_neg same, if_neg same]

instance : Std.OrientedCmp Component.compare where
  eq_swap {a b} := by
    cases a <;> cases b <;> try rfl
    rw [compare_names, compare_names]
    exact Std.OrientedCmp.eq_swap

instance : Std.TransCmp Component.compare where
  isLE_trans {a b c} first second := by
    cases a <;> cases b <;> cases c <;>
      first | rfl | exact Bool.noConfusion first | exact Bool.noConfusion second | skip
    rw [compare_names] at first second ⊢
    exact Std.TransCmp.isLE_trans first second

instance : Std.LawfulEqCmp Component.compare where
  compare_self {a} := by
    cases a <;> simp [Component.compare]
  eq_of_compare {a b} same := by
    cases a <;> cases b <;> first | rfl | cases same | skip
    rw [compare_names] at same
    rw [Std.LawfulEqCmp.eq_of_compare same]

theorem compare_lex (left right : List Component) :
    compareComponents left right = left.compareLex Component.compare right := by
  induction left generalizing right with
  | nil => cases right <;> rfl
  | cons a left step =>
      cases right with
      | nil => rfl
      | cons b right =>
          rw [compareComponents, List.compareLex_cons_cons, ← step]
          cases a.compare b <;> rfl

instance : Std.TransCmp Path.compare where
  eq_swap {a b} := by
    rw [compare, compare, compare_lex, compare_lex]
    exact Std.OrientedCmp.eq_swap
  isLE_trans {a b c} first second := by
    rw [compare, compare_lex] at first second ⊢
    exact Std.TransCmp.isLE_trans first second

theorem compare_eq (a b : Path) : a.compare b = .eq ↔ a.components = b.components := by
  rw [compare, compare_lex]
  exact Std.LawfulEqCmp.compare_eq_iff_eq

theorem compare_le (a b : Path) : (a.compare b != .gt) = (a.compare b).isLE := by
  cases a.compare b <;> rfl

end ScriptSuite.Path
