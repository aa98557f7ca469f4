import ScriptSuite.Protocol

set_option autoImplicit false

namespace ScriptSuite.Protocol

def Fatal (protocol : Protocol) (line : String) : Prop :=
  protocol.fatalMarker.toList <:+: line.toList

def Failure (protocol : Protocol) (line : String) : Prop :=
  protocol.failurePrefix.toList <+: line.toList

def Marks (protocol : Protocol) (line name : String) : Prop :=
  name ≠ "" ∧ line.toList = protocol.testMarker.toList ++ name.toList

-- One carriage return at the end is lost; a line without one stays as it is.
def Stripped (line plain : String) : Prop :=
  line.toList = plain.toList ++ ['\r'] ∨ plain = line ∧ ∀ text, line.toList ≠ text ++ ['\r']

instance (protocol : Protocol) (line : String) : Decidable (protocol.Failure line) :=
  inferInstanceAs (Decidable (_ <+: _))

theorem occurs_in_iff (needle text : List Char) : occursIn needle text = true ↔ needle <:+: text := by
  induction text with
  | nil => simp [occursIn]
  | cons c rest step =>
      rw [occursIn, Bool.or_eq_true, List.isPrefixOf_iff_prefix, step, List.infix_cons_iff]

theorem is_fatal_iff (protocol : Protocol) (line : String) : protocol.isFatal line = true ↔ protocol.Fatal line :=
  occurs_in_iff _ _

theorem is_failure_iff (protocol : Protocol) (line : String) :
    protocol.isFailure line = true ↔ protocol.Failure line :=
  List.isPrefixOf_iff_prefix

theorem after_prefix_iff (start text rest : List Char) : afterPrefix? start text = some rest ↔ text = start ++ rest := by
  unfold afterPrefix?
  constructor
  · intro found
    split at found
    · rename_i begins
      obtain ⟨tail, whole⟩ := List.isPrefixOf_iff_prefix.mp begins
      have same := Option.some.inj found
      rw [← whole, List.drop_left] at same
      rw [← whole, same]
    · exact absurd found (by simp)
  · rintro rfl
    rw [if_pos (List.isPrefixOf_iff_prefix.mpr (List.prefix_append start rest)), List.drop_left]

theorem marked_name_iff (protocol : Protocol) (line name : String) :
    protocol.markedName? line = some name ↔ protocol.Marks line name := by
  unfold markedName? Marks
  constructor
  · intro found
    split at found
    · rename_i c rest after
      have same := Option.some.inj found
      rw [← same, String.toList_ofList]
      refine ⟨?_, (after_prefix_iff _ _ _).mp after⟩
      intro empty
      have nothing := congrArg String.toList empty
      simp at nothing
    · exact absurd found (by simp)
  · rintro ⟨nonempty, whole⟩
    rw [(after_prefix_iff _ _ _).mpr whole]
    cases text : name.toList with
    | nil => exact absurd (String.toList_eq_nil_iff.mp text) nonempty
    | cons c rest =>
        dsimp only
        rw [← text, String.ofList_toList]

theorem unmarked_iff (protocol : Protocol) (line : String) :
    protocol.markedName? line = none ↔ ∀ name, ¬protocol.Marks line name := by
  rw [Option.eq_none_iff_forall_ne_some]
  exact forall_congr' fun name => not_congr (marked_name_iff protocol line name)

theorem drop_return_stripped (line : String) : Stripped line (dropReturn line) := by
  unfold dropReturn
  split
  · rename_i rest reversed
    have whole := congrArg List.reverse reversed
    rw [List.reverse_reverse, List.reverse_cons] at whole
    exact .inl (by rw [String.toList_ofList, whole])
  · rename_i other
    refine .inr ⟨rfl, fun text ends => ?_⟩
    refine other text.reverse ?_
    rw [ends, List.reverse_append, List.reverse_singleton, List.singleton_append]

end ScriptSuite.Protocol
