import Mathlib.Data.List.Nodup
import ScriptSuite.CommandLine.Numbering
import ScriptSuite.Proofs.Path

set_option autoImplicit false

namespace ScriptSuite.FileSystem

open ScriptSuite.Path CommandLine

theorem lookup_listed (entries : Entries) (name : String) (bound : entries.lookup name ≠ none) :
    name ∈ entries.map (·.1) := by
  induction entries with
  | nil => exact absurd rfl bound
  | cons entry rest step =>
      obtain ⟨other, node⟩ := entry
      by_cases same : name = other
      · exact same ▸ List.mem_cons_self ..
      · rw [List.lookup_cons, beq_eq_false_iff_ne.mpr same] at bound
        exact List.mem_cons_of_mem _ (step bound)

theorem Naming.Lawful.named {naming : Naming} (lawful : naming.Lawful) (stem : String) (entries : Entries)
    (unslashed : '/' ∉ stem.toList) (long : 2 < stem.toList.length) : IsName (naming stem entries) := by
  have longer : ∀ short : String, short.toList.length ≤ 2 → naming stem entries ≠ short := by
    rintro short length rfl
    have bound := (lawful.begins stem entries).length_le
    omega
  refine ⟨lawful.single stem entries unslashed, ?_, longer ".." (by decide)⟩
  rw [isSilent, Bool.or_eq_false_iff, beq_eq_false_iff_ne, beq_eq_false_iff_ne]
  exact ⟨longer "" (by decide), longer "." (by decide)⟩

theorem Naming.Lawful.longer {naming : Naming} (lawful : naming.Lawful) (text : String) (unslashed : '/' ∉ text.toList) :
    Naming.Lawful fun stem entries => naming (stem ++ text) entries where
  begins stem entries := by
    have begins := lawful.begins (stem ++ text) entries
    rw [String.toList_append] at begins
    exact (List.prefix_append _ _).trans begins
  single stem entries own := by
    refine lawful.single _ entries ?_
    rw [String.toList_append, List.mem_append, not_or]
    exact ⟨own, unslashed⟩
  free stem entries := lawful.free _ entries

theorem six_digits_injective (a b : Nat) (same : sixDigits a = sixDigits b) : a = b := by
  have value : ∀ n, Nat.ofDigitChars 10 (sixDigits n).toList 0 = n := by
    intro n
    rw [sixDigits, String.toList_ofList, Nat.ofDigitChars_append, Nat.ofDigitChars_replicate_zero, Nat.mul_zero,
      Nat.ofDigitChars_ten_toDigits]
  rw [← value a, same, value b]

-- One more candidate than there are entries: one of them is free.
theorem numbered_free (stem : String) (entries : Entries) :
    entries.lookup (numbered stem entries) = none ∧ ∃ n, numbered stem entries = stem ++ sixDigits n := by
  cases found : ((List.range (entries.length + 1)).map fun n => stem ++ sixDigits n).find?
      fun name => (entries.lookup name).isNone with
  | some name =>
      have chosen : numbered stem entries = name := by
        simp only [numbered, found]
        rfl
      obtain ⟨n, _, spelled⟩ := List.mem_map.mp (List.mem_of_find?_eq_some found)
      exact ⟨by simpa [chosen] using List.find?_some found, n, chosen.trans spelled.symm⟩
  | none =>
      have taken : ((List.range (entries.length + 1)).map fun n => stem ++ sixDigits n) ⊆ entries.map (·.1) := by
        intro name member
        have bound := List.find?_eq_none.mp found name member
        exact lookup_listed entries name (by simpa using bound)
      have distinct : ((List.range (entries.length + 1)).map fun n => stem ++ sixDigits n).Nodup := by
        refine List.nodup_range.map fun a b same => six_digits_injective a b ?_
        exact (String.append_right_inj stem).mp same
      have many := distinct.length_le_of_subset taken
      rw [List.length_map, List.length_range, List.length_map] at many
      omega

theorem numbered_lawful : Naming.Lawful numbered where
  begins stem entries := by
    obtain ⟨_, n, spelled⟩ := numbered_free stem entries
    rw [spelled, String.toList_append]
    exact List.prefix_append _ _
  single stem entries unslashed := by
    obtain ⟨_, n, spelled⟩ := numbered_free stem entries
    rw [spelled, String.toList_append, sixDigits, String.toList_ofList, List.mem_append, List.mem_append, not_or, not_or]
    refine ⟨unslashed, fun padded => ?_, fun digit => ?_⟩
    · exact absurd (List.eq_of_mem_replicate padded) (by decide)
    · exact absurd (Nat.isDigit_of_mem_toDigits (by decide) (by decide) digit) (by decide)
  free stem entries := (numbered_free stem entries).1

end ScriptSuite.FileSystem
