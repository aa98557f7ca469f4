import ScriptSuite.Proofs.FileSystem.Making
import ScriptSuite.Proofs.FileSystem.Following

set_option autoImplicit false

namespace ScriptSuite.FileSystem

open ScriptSuite.Path

mutual

-- Entries of one directory have different names, and names that can stand in a path.
def Node.Wellformed : Node → Prop
  | .file _ _ => True
  | .directory entries => WellformedIn entries
  | .link _ => True

def WellformedIn : List (String × Node) → Prop
  | [] => True
  | (name, node) :: rest => IsName name ∧ name ∉ rest.map (·.1) ∧ node.Wellformed ∧ WellformedIn rest

end

theorem listed_lookup (entries : Entries) (name : String) : name ∈ entries.map (·.1) ↔ ¬entries.lookup name = none := by
  constructor
  · intro inside absent
    obtain ⟨entry, member, rfl⟩ := List.mem_map.mp inside
    have different := List.lookup_eq_none_iff.mp absent entry member
    simp at different
  · exact lookup_listed entries name

section

variable {entries others : Entries} {name : String} {node : Node}

theorem wellformed_names (wellformed : WellformedIn entries) :
    (entries.map (·.1)).Nodup ∧ ∀ name ∈ entries.map (·.1), IsName name := by
  induction entries with
  | nil => simp
  | cons entry rest step =>
      obtain ⟨named, new, _, later⟩ := wellformed
      obtain ⟨distinct, others⟩ := step later
      exact ⟨List.nodup_cons.mpr ⟨new, distinct⟩, List.forall_mem_cons.mpr ⟨named, others⟩⟩

theorem wellformed_entry (wellformed : WellformedIn entries) (bound : entries.lookup name = some node) :
    node.Wellformed := by
  induction entries with
  | nil => cases bound
  | cons entry rest step =>
      obtain ⟨other, old⟩ := entry
      obtain ⟨_, _, inner, later⟩ := wellformed
      rw [List.lookup_cons] at bound
      split at bound
      · exact Option.some.inj bound ▸ inner
      · exact step later bound

theorem wellformed_at (place : Place) (inner : Entries) (wellformed : WellformedIn entries)
    (held : entries.at? place = some (.directory inner)) : WellformedIn inner := by
  induction place generalizing entries with
  | nil =>
      cases held
      exact wellformed
  | cons name rest step =>
      rw [Entries.at_cons] at held
      obtain ⟨child, found, below⟩ := Option.bind_eq_some_iff.mp held
      have childWellformed := wellformed_entry wellformed found
      cases child with
      | directory children => exact step childWellformed below
      | file content mode => cases rest <;> cases below
      | link target => cases rest <;> cases below

theorem wellformed_place (place : Place) (wellformed : WellformedIn entries) (present : entries.at? place ≠ none) :
    ∀ name ∈ place, IsName name := by
  induction place generalizing entries with
  | nil => exact fun _ inside => absurd inside List.not_mem_nil
  | cons name rest step =>
      rw [Entries.at_cons] at present
      cases found : entries.lookup name with
      | none => exact absurd (by rw [found]; rfl) present
      | some child =>
          have listed := (listed_lookup entries name).mpr (by rw [found]; exact Option.some_ne_none _)
          refine List.forall_mem_cons.mpr ⟨(wellformed_names wellformed).2 name listed, ?_⟩
          rw [found, Option.bind_some] at present
          have inner := wellformed_entry wellformed found
          cases child with
          | directory children => exact step inner present
          | file content mode => cases rest <;> simp_all [Node.at?]
          | link target => cases rest <;> simp_all [Node.at?]

end

/-- The entries of some of the directories are listed in another order. -/
inductive Reordered : Entries → Entries → Prop where
  | same (entries : Entries) : Reordered entries entries
  | swapped (first second : String × Node) (rest : Entries) :
      Reordered (first :: second :: rest) (second :: first :: rest)
  | behind (entry : String × Node) {rest others : Entries} (reordered : Reordered rest others) :
      Reordered (entry :: rest) (entry :: others)
  | inside (name : String) (rest : Entries) {inner others : Entries} (reordered : Reordered inner others) :
      Reordered ((name, .directory inner) :: rest) ((name, .directory others) :: rest)
  | onward {first middle last : Entries} (before : Reordered first middle) (after : Reordered middle last) :
      Reordered first last

section

variable {entries others : Entries}

theorem reordered_names (reordered : Reordered entries others) : (entries.map (·.1)).Perm (others.map (·.1)) := by
  induction reordered with
  | same entries => exact .refl _
  | swapped first second rest => exact .swap ..
  | behind entry reordered step => exact step.cons _
  | inside name rest reordered step => exact .refl _
  | onward before after first second => exact first.trans second

theorem reordered_wellformed (reordered : Reordered entries others) (wellformed : WellformedIn entries) :
    WellformedIn others := by
  induction reordered with
  | same entries => exact wellformed
  | swapped first second rest =>
      obtain ⟨firstNamed, firstNew, firstInner, secondNamed, secondNew, secondInner, later⟩ := wellformed
      rw [List.map_cons, List.mem_cons, not_or] at firstNew
      refine ⟨secondNamed, ?_, secondInner, firstNamed, firstNew.2, firstInner, later⟩
      rw [List.map_cons, List.mem_cons, not_or]
      exact ⟨Ne.symm firstNew.1, secondNew⟩
  | behind entry reordered step =>
      obtain ⟨named, new, inner, later⟩ := wellformed
      exact ⟨named, fun member => new ((reordered_names reordered).mem_iff.mpr member), inner, step later⟩
  | inside name rest reordered step =>
      obtain ⟨named, new, inner, later⟩ := wellformed
      exact ⟨named, new, step inner, later⟩
  | onward before after first second => exact second (first wellformed)

theorem at_behind_entry (entry : String × Node) (name : String) (rest : Entries) (below : Place) :
    Entries.at? (entry :: rest) (name :: below) =
      if name = entry.1 then entry.2.at? below else rest.at? (name :: below) := by
  obtain ⟨other, node⟩ := entry
  rw [Entries.at_cons, List.lookup_cons]
  by_cases same : name = other
  · rw [if_pos same, beq_iff_eq.mpr same]
    rfl
  · rw [if_neg same, beq_eq_false_iff_ne.mpr same, Entries.at_cons]

theorem reordered_at (reordered : Reordered entries others) (wellformed : WellformedIn entries) (place : Place) :
    (others.at? place).map Node.outside = (entries.at? place).map Node.outside := by
  induction reordered generalizing place with
  | same entries => rfl
  | swapped first second rest =>
      obtain ⟨_, firstNew, _⟩ := wellformed
      rw [List.map_cons, List.mem_cons, not_or] at firstNew
      cases place with
      | nil => rfl
      | cons name below =>
          rw [at_behind_entry, at_behind_entry, at_behind_entry, at_behind_entry]
          by_cases isFirst : name = first.1
          · rw [if_pos isFirst, if_neg fun isSecond => firstNew.1 (isFirst.symm.trans isSecond), if_pos isFirst]
          · rw [if_neg isFirst, if_neg isFirst]
  | behind entry reordered step =>
      obtain ⟨_, _, _, later⟩ := wellformed
      cases place with
      | nil => rfl
      | cons name below =>
          rw [at_behind_entry, at_behind_entry]
          split
          · rfl
          · exact step later _
  | inside name rest reordered step =>
      obtain ⟨_, _, inner, _⟩ := wellformed
      cases place with
      | nil => rfl
      | cons first below =>
          rw [at_behind_entry, at_behind_entry]
          split
          · exact step inner below
          · rfl
  | onward before after first second =>
      exact (second (reordered_wellformed before wellformed) place).trans (first wellformed place)

end

namespace Disk

section

variable {disk other : Disk}

theorem keeps_outside (workingDirectory : other.workingDirectory = disk.workingDirectory)
    (outside : ∀ place, (other.at? place).map Node.outside = (disk.at? place).map Node.outside) : Keeps disk other := by
  refine ⟨workingDirectory, fun place held => ?_, fun place node held plain => ?_⟩
  · obtain ⟨entries, held⟩ := (kind_at_directory disk place).mp held
    have same := outside place
    rw [held] at same
    obtain ⟨node, found, shown⟩ := Option.map_eq_some_iff.mp same
    rw [kindAt, found]
    cases node with
    | directory inner => rfl
    | file content mode => cases shown
    | link target => cases shown
  · have same := outside place
    rw [held] at same
    obtain ⟨found, present, shown⟩ := Option.map_eq_some_iff.mp same
    rw [present]
    cases node with
    | directory inner => exact absurd rfl plain
    | file content mode => cases found <;> cases shown; rfl
    | link target => cases found <;> cases shown; rfl

theorem keeps_kind (keeps : Keeps disk other) (place : Place) (kind : Kind) (present : disk.kindAt place = some kind) :
    other.kindAt place = some kind := by
  by_cases directory : kind = .directory
  · subst directory
    exact keeps.directory place present
  · obtain ⟨node, held, rfl⟩ := Option.map_eq_some_iff.mp present
    rw [kindAt, keeps.other place node held directory]
    rfl

theorem reordered_keeps (entries : Entries) (reordered : Reordered disk.entries entries)
    (wellformed : WellformedIn disk.entries) :
    Keeps disk { disk with entries } ∧ Keeps { disk with entries } disk :=
  ⟨keeps_outside rfl (reordered_at reordered wellformed),
    keeps_outside rfl fun place => (reordered_at reordered wellformed place).symm⟩

end

end Disk

end ScriptSuite.FileSystem
