import Mathlib.Data.List.Induction
import ScriptSuite.Path

set_option autoImplicit false

namespace ScriptSuite.Path

structure IsName (name : String) : Prop where
  unslashed : '/' ∉ name.toList
  audible : isSilent name = false
  notParent : name ≠ ".."

instance (name : String) : Decidable (IsName name) :=
  decidable_of_iff ('/' ∉ name.toList ∧ isSilent name = false ∧ name ≠ "..")
    ⟨fun ⟨unslashed, audible, notParent⟩ => ⟨unslashed, audible, notParent⟩,
      fun named => ⟨named.unslashed, named.audible, named.notParent⟩⟩

theorem split_slashes_ne_nil (text : List Char) : splitSlashes text ≠ [] := by
  cases text with
  | nil => simp [splitSlashes]
  | cons c rest =>
      rw [splitSlashes]
      split
      · simp
      · split <;> simp

theorem split_slashes_append (left right : List Char) :
    splitSlashes (left ++ '/' :: right) = splitSlashes left ++ splitSlashes right := by
  induction left with
  | nil => simp [splitSlashes]
  | cons c rest step =>
      rw [List.cons_append, splitSlashes, splitSlashes, step]
      by_cases slash : c = '/'
      · rw [if_pos slash, if_pos slash, List.cons_append]
      · rw [if_neg slash, if_neg slash]
        cases split : splitSlashes rest with
        | nil => exact absurd split (split_slashes_ne_nil rest)
        | cons first others => rfl

theorem split_slashes_unslashed (text : List Char) (unslashed : '/' ∉ text) : splitSlashes text = [text] := by
  induction text with
  | nil => rfl
  | cons c rest step =>
      rw [List.mem_cons, not_or] at unslashed
      rw [splitSlashes, if_neg fun slash => unslashed.1 slash.symm, step unslashed.2]

theorem split_slashes_pieces (text : List Char) : ∀ piece ∈ splitSlashes text, '/' ∉ piece := by
  induction text with
  | nil => simp [splitSlashes]
  | cons c rest step =>
      rw [splitSlashes]
      split
      · simpa using step
      · rename_i slash
        split
        · rename_i first others split
          rw [split] at step
          intro piece inside
          rcases List.mem_cons.mp inside with rfl | later
          · rw [List.mem_cons, not_or]
            exact ⟨fun same => slash same.symm, step first (List.mem_cons_self ..)⟩
          · exact step piece (List.mem_cons_of_mem _ later)
        · simpa using fun same => slash same.symm

theorem intercalate_split_slashes (text : List Char) : ['/'].intercalate (splitSlashes text) = text := by
  induction text with
  | nil => rfl
  | cons c rest step =>
      rw [splitSlashes]
      cases split : splitSlashes rest with
      | nil => exact absurd split (split_slashes_ne_nil rest)
      | cons first others =>
          rw [split] at step
          by_cases slash : c = '/'
          · rw [if_pos slash, List.intercalate_cons_cons, step, slash]
            rfl
          · rw [if_neg slash, ← step]
            cases others <;> simp [List.intercalate_cons_cons, List.intercalate_singleton]

section

variable {path left right : Path}

theorem segments_ne_nil (path : Path) : path.segments ≠ [] := by
  simp [segments, split_slashes_ne_nil]

theorem segments_unslashed (path : Path) : ∀ segment ∈ path.segments, '/' ∉ segment.toList := by
  intro segment inside
  obtain ⟨piece, member, rfl⟩ := List.mem_map.mp inside
  rw [String.toList_ofList]
  exact split_slashes_pieces _ piece member

theorem intercalate_segments (path : Path) : String.intercalate "/" path.segments = path.text := by
  rw [← String.toList_inj, String.toList_intercalate, segments, List.map_map]
  have same : String.toList ∘ String.ofList = id := by
    funext piece
    simp
  rw [same, List.map_id]
  exact intercalate_split_slashes path.text.toList

theorem path_of_segments (same : left.segments = right.segments) : left = right := by
  have text : left.text = right.text := by rw [← intercalate_segments, same, intercalate_segments]
  cases left
  cases right
  exact congrArg _ text

theorem segments_intercalate (names : List String) (nonempty : names ≠ [])
    (unslashed : ∀ name ∈ names, '/' ∉ name.toList) : segments ⟨String.intercalate "/" names⟩ = names := by
  have split : splitSlashes (['/'].intercalate (names.map String.toList)) = names.map String.toList := by
    induction names with
    | nil => exact absurd rfl nonempty
    | cons name rest step =>
        have plain := unslashed name (List.mem_cons_self ..)
        cases rest with
        | nil => simpa [List.intercalate_singleton] using split_slashes_unslashed name.toList plain
        | cons next others =>
            have deeper := step (List.cons_ne_nil next others) fun other inside =>
              unslashed other (List.mem_cons_of_mem _ inside)
            rw [List.map_cons, List.map_cons, List.intercalate_cons_cons, ← List.map_cons, List.append_assoc,
              List.singleton_append, split_slashes_append, split_slashes_unslashed name.toList plain, deeper]
            rfl
  rw [segments, String.toList_intercalate]
  change (splitSlashes (['/'].intercalate _)).map _ = _
  rw [split, List.map_map]
  simp [Function.comp_def]

theorem absolute_segments (path : Path) : path.isAbsolute = true ↔ ∃ rest, rest ≠ [] ∧ path.segments = "" :: rest := by
  unfold isAbsolute
  constructor
  · intro slashed
    obtain ⟨rest, shape⟩ := List.isPrefixOf_iff_prefix.mp slashed
    refine ⟨(splitSlashes rest).map String.ofList, by simp [split_slashes_ne_nil], ?_⟩
    rw [segments, ← shape]
    change (splitSlashes ([] ++ '/' :: rest)).map _ = _
    rw [split_slashes_append]
    rfl
  · rintro ⟨rest, nonempty, shape⟩
    rw [← intercalate_segments, shape, String.toList_intercalate]
    cases rest with
    | nil => exact absurd rfl nonempty
    | cons next others => rfl

theorem slash_end_segments (path : Path) (slash : path.text.toList.getLast? = some '/') :
    path.segments = path.segments.dropLast ++ [""] := by
  obtain ⟨front, shape⟩ := List.getLast?_eq_some_iff.mp slash
  rw [segments, shape, split_slashes_append, List.map_append]
  exact (congrArg (· ++ [""]) List.dropLast_concat).symm

theorem join_segments (left right : Path) (relative : right.isAbsolute = false) (nonempty : left.text ≠ "") :
    (left.join right).segments =
      (if left.text.toList.getLast? = some '/' then left.segments.dropLast else left.segments) ++ right.segments := by
  rw [join, relative, if_neg Bool.false_ne_true]
  by_cases slash : left.text.toList.getLast? = some '/'
  · obtain ⟨front, shape⟩ := List.getLast?_eq_some_iff.mp slash
    have split : left.segments = (splitSlashes front).map String.ofList ++ [""] := by
      rw [segments, shape, split_slashes_append, List.map_append]
      rfl
    rw [if_pos (by simp [slash]), if_pos slash, split, List.dropLast_concat, segments, String.toList_append, shape,
      List.append_assoc, List.singleton_append, split_slashes_append, List.map_append]
    rfl
  · rw [if_neg (by simp [slash, nonempty]), if_neg slash, segments, String.toList_append, String.toList_append]
    change (splitSlashes (left.text.toList ++ ['/'] ++ right.text.toList)).map _ = _
    rw [List.append_assoc, List.singleton_append, split_slashes_append, List.map_append]
    rfl

theorem named_end_unslashed (path : Path) (front : List String) (name : String)
    (shape : path.segments = front ++ [name]) (audible : isSilent name = false) :
    path.text.toList.getLast? ≠ some '/' := by
  intro slash
  have last := slash_end_segments path slash
  rw [shape] at last
  have same : name = "" := by simpa using congrArg List.getLast? last
  rw [same] at audible
  exact absurd audible (by decide)

theorem text_nonempty (path : Path) (absolute : path.isAbsolute = true) : path.text ≠ "" := by
  intro empty
  rw [isAbsolute, empty] at absolute
  exact absurd absolute (by decide)

theorem trim_named_end (front : List String) (name : String) (audible : isSilent name = false) :
    trimSegments (front ++ [name]) = front ++ [name] := by
  simp [trimSegments, audible]

theorem parent_segments (path : Path) (front : List String) (last name : String)
    (shape : path.segments = "" :: (front ++ [last]) ++ [name]) (audible : isSilent name = false)
    (lastAudible : isSilent last = false) :
    ∃ parent, path.parent? = some parent ∧ parent.segments = "" :: (front ++ [last]) := by
  refine ⟨⟨String.intercalate "/" ("" :: (front ++ [last]))⟩, ?_, segments_intercalate _ (by simp) ?_⟩
  · have trimmed : (trimSegments (front ++ [last] ++ [name])).reverse = name :: (front ++ [last]).reverse := by
      rw [trim_named_end _ name audible, List.reverse_append]
      rfl
    rw [parent?, shape]
    simp only [List.cons_append, trimmed, List.reverse_reverse, trim_named_end front last lastAudible]
    cases front <;> rfl
  · intro segment inside
    refine segments_unslashed path segment ?_
    rw [shape]
    exact List.mem_append_left _ inside

theorem component_of_name (name : String) (named : IsName name) : componentOf name = .name name := by
  rw [componentOf, if_neg (by simpa using named.notParent)]

theorem named_components (names : List String) (named : ∀ name ∈ names, IsName name) :
    componentsOfSegments.named names = names.map .name := by
  rw [componentsOfSegments.named, List.filter_eq_self.mpr]
  · exact List.map_congr_left fun name inside => component_of_name name (named name inside)
  · intro name inside
    rw [(named name inside).audible]
    rfl

theorem of_components_concat (components : List Component) (name : String) :
    ofComponents (components ++ [.name name]) = (ofComponents components).join ⟨name⟩ := by
  rw [ofComponents, List.foldl_append]
  rfl

theorem name_nonempty (name : String) (named : IsName name) : name ≠ "" := by
  rintro rfl
  exact absurd named.audible (by decide)

theorem name_relative (name : String) (named : IsName name) : isAbsolute ⟨name⟩ = false := by
  rw [isAbsolute]
  cases shape : name.toList with
  | nil => rfl
  | cons first rest =>
      have different : '/' ≠ first := fun same => named.unslashed (by rw [shape, same]; exact List.mem_cons_self ..)
      rw [List.isPrefixOf, beq_eq_false_iff_ne.mpr different, Bool.false_and]

theorem name_segments (name : String) (named : IsName name) : segments ⟨name⟩ = [name] := by
  rw [segments, split_slashes_unslashed name.toList named.unslashed]
  simp

theorem components_cons (first : String) (rest : List String) (proper : first = "" → rest ≠ []) :
    componentsOfSegments (first :: rest) =
      (if first = "" then .root else if first = "." then .current else componentOf first) ::
        componentsOfSegments.named rest := by
  by_cases empty : first = ""
  · subst empty
    cases rest with
    | nil => exact absurd rfl (proper rfl)
    | cons next others => rfl
  · rw [if_neg empty]
    by_cases here : first = "."
    · subst here
      rfl
    · rw [if_neg here, componentsOfSegments] <;> assumption

theorem named_append (left right : List String) :
    componentsOfSegments.named (left ++ right) =
      componentsOfSegments.named left ++ componentsOfSegments.named right := by
  rw [componentsOfSegments.named, List.filter_append, List.map_append]
  rfl

theorem components_named (segments : List String) (name : String) (nonempty : segments ≠ []) (named : IsName name) :
    componentsOfSegments (segments ++ [name]) = componentsOfSegments (segments ++ [""]) ++ [.name name] := by
  have spoken := named_components [name] fun other inside => List.mem_singleton.mp inside ▸ named
  have silent : componentsOfSegments.named [""] = [] := by decide
  cases segments with
  | nil => exact absurd rfl nonempty
  | cons first rest =>
      rw [List.cons_append, List.cons_append, components_cons _ _ (by simp), components_cons _ _ (by simp), named_append,
        named_append, spoken, silent, List.append_nil]
      rfl

theorem components_slashed (segments : List String) (nonempty : segments ≠ []) (text : segments ≠ [""]) :
    componentsOfSegments (segments ++ [""]) = componentsOfSegments segments := by
  have silent : componentsOfSegments.named [""] = [] := by decide
  cases segments with
  | nil => exact absurd rfl nonempty
  | cons first rest =>
      rw [List.cons_append, components_cons _ _ (by simp), components_cons _ _ ?_, named_append, silent, List.append_nil]
      rintro rfl rfl
      exact text rfl

theorem join_components (path : Path) (name : String) (nonempty : path.text ≠ "") (named : IsName name) :
    (path.join ⟨name⟩).components = path.components ++ [.name name] := by
  have alone : path.segments ≠ [""] := by
    intro same
    have text := intercalate_segments path
    rw [same] at text
    exact nonempty text.symm
  rw [components, join_segments path ⟨name⟩ (name_relative name named) nonempty, name_segments name named, components]
  by_cases slash : path.text.toList.getLast? = some '/'
  · have ends := slash_end_segments path slash
    have proper : path.segments.dropLast ≠ [] := by
      intro none
      rw [none] at ends
      exact alone ends
    rw [if_pos slash, components_named _ name proper named, ← ends]
  · rw [if_neg slash, components_named _ name (segments_ne_nil path) named,
      components_slashed _ (segments_ne_nil path) alone]

theorem of_names_segments (names : List String) (nonempty : names ≠ []) (named : ∀ name ∈ names, IsName name) :
    (ofComponents (names.map .name)).segments = names := by
  induction names using List.reverseRecOn with
  | nil => exact absurd rfl nonempty
  | append_singleton front last step =>
      have lastNamed := named last (by simp)
      rw [List.map_append, List.map_singleton, of_components_concat]
      cases front using List.reverseRecOn with
      | nil =>
          have alone : (ofComponents ([].map .name)).join ⟨last⟩ = ⟨last⟩ := by
            rw [join, name_relative last lastNamed]
            simp [ofComponents]
          rw [alone, name_segments last lastNamed]
          rfl
      | append_singleton start final =>
          have before := step (by simp) fun name inside => named name (List.mem_append_left _ inside)
          have finalNamed := named final (by simp)
          generalize ofComponents ((start ++ [final]).map .name) = path at before ⊢
          have text : path.text ≠ "" := by
            intro empty
            rw [segments, empty] at before
            have same : final = "" := by simpa [splitSlashes] using (congrArg List.getLast? before).symm
            exact name_nonempty final finalNamed same
          rw [join_segments _ _ (name_relative last lastNamed) text,
            if_neg (named_end_unslashed _ start final before finalNamed.audible), before, name_segments last lastNamed]

end

end ScriptSuite.Path
