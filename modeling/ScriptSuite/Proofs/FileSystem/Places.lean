import ScriptSuite.FileSystem.Access

set_option autoImplicit false

namespace ScriptSuite.FileSystem

mutual

def Node.places : Node → List Place
  | .file _ _ => [[]]
  | .directory entries => [] :: placesIn entries
  | .link _ => [[]]

def placesIn : List (String × Node) → List Place
  | [] => []
  | (name, node) :: rest => node.places.map (name :: ·) ++ placesIn rest

end

mutual

theorem node_places_length (node : Node) : node.places.length = node.count := by
  cases node with
  | file content mode => rfl
  | link target => rfl
  | directory entries =>
      rw [Node.places, Node.count, List.length_cons, places_in_length entries]

theorem places_in_length (entries : List (String × Node)) : (placesIn entries).length = countEntries entries := by
  cases entries with
  | nil => rfl
  | cons entry rest =>
      obtain ⟨name, node⟩ := entry
      rw [placesIn, countEntries, List.length_append, List.length_map, node_places_length node,
        places_in_length rest]

end

mutual

theorem node_places_depth (node : Node) : ∀ place ∈ node.places, place.length < node.count := by
  cases node with
  | file content mode => simp [Node.places, Node.count]
  | link target => simp [Node.places, Node.count]
  | directory entries =>
      intro place inside
      rw [Node.count]
      rcases List.mem_cons.mp inside with rfl | below
      · exact Nat.succ_pos _
      · exact Nat.lt_succ_of_le (places_in_depth entries place below)

theorem places_in_depth (entries : Entries) : ∀ place ∈ placesIn entries, place.length ≤ countEntries entries := by
  cases entries with
  | nil => simp [placesIn]
  | cons entry rest =>
      obtain ⟨name, node⟩ := entry
      intro place inside
      rw [countEntries]
      rcases List.mem_append.mp inside with here | later
      · obtain ⟨below, member, rfl⟩ := List.mem_map.mp here
        have deeper := node_places_depth node below member
        rw [List.length_cons]
        omega
      · have deeper := places_in_depth rest place later
        omega

end

theorem node_place_here (node : Node) : [] ∈ node.places := by
  cases node <;> simp [Node.places]

theorem place_below_entry (entries : Entries) (name : String) (node : Node) (place : Place)
    (bound : entries.lookup name = some node) (inside : place ∈ node.places) :
    name :: place ∈ placesIn entries := by
  induction entries with
  | nil => simp at bound
  | cons entry rest step =>
      obtain ⟨other, old⟩ := entry
      rw [placesIn, List.mem_append]
      by_cases same : name = other
      · subst same
        rw [List.lookup_cons_self, Option.some.injEq] at bound
        subst bound
        exact .inl (List.mem_map_of_mem inside)
      · have different : (name == other) = false := beq_eq_false_iff_ne.mpr same
        rw [List.lookup_cons, different] at bound
        exact .inr (step bound)

theorem place_listed (entries : Entries) (place : Place) (node : Node) (nonempty : place ≠ [])
    (present : entries.at? place = some node) : place ∈ placesIn entries := by
  induction place generalizing entries with
  | nil => exact absurd rfl nonempty
  | cons name rest step =>
      cases rest with
      | nil => exact place_below_entry entries name node [] present (node_place_here node)
      | cons next others =>
          rw [Entries.at?] at present
          · split at present
            · rename_i inner bound
              refine place_below_entry entries name (.directory inner) (next :: others) bound ?_
              rw [Node.places]
              exact List.mem_cons_of_mem _ (step inner (by simp) present)
            · exact absurd present (by simp)
          · simp

namespace Disk

theorem is_file_located (disk : Disk) (path : Path) (file : disk.isFile path = true) :
    ∃ place content mode, disk.locate path = .ok place ∧ disk.at? place = some (.file content mode) := by
  unfold isFile node at file
  cases located : disk.locate path with
  | error fault =>
      rw [located] at file
      exact absurd file (by simp [bind, Except.bind])
  | ok place =>
      rw [located] at file
      simp only [bind, Except.bind] at file
      cases present : disk.at? place with
      | none =>
          rw [present] at file
          exact absurd file (by simp)
      | some found =>
          rw [present] at file
          cases found with
          | file content mode => exact ⟨place, content, mode, rfl, present⟩
          | directory entries => exact absurd file (by simp)
          | link target => exact absurd file (by simp)

theorem file_listed (disk : Disk) (place : Place) (content : List UInt8) (mode : Nat)
    (present : disk.at? place = some (.file content mode)) : place ∈ placesIn disk.entries := by
  refine place_listed disk.entries place _ ?_ present
  rintro rfl
  simp [at?, Entries.at?] at present

theorem canonical_file_listed (disk : Disk) (spelled path : Path) (file : disk.isFile spelled = true)
    (canonical : disk.canonicalize spelled = .ok path) : path ∈ (placesIn disk.entries).map pathOf := by
  obtain ⟨place, content, mode, located, present⟩ := is_file_located disk spelled file
  rw [canonicalize, located] at canonical
  have same : pathOf place = path := Except.ok.inj canonical
  rw [← same]
  exact List.mem_map_of_mem (file_listed disk place content mode present)

end Disk

end ScriptSuite.FileSystem
