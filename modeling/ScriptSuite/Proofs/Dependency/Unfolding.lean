import Mathlib.Data.List.Nodup
import Mathlib.Logic.Relation
import ScriptSuite.Dependency.Search

set_option autoImplicit false

namespace ScriptSuite.Dependency

open Relation

def paths (files : List RequiredFile) : List Path :=
  files.map (·.path)

theorem path_listed (file : RequiredFile) (files : List RequiredFile) (inside : file ∈ files) :
    file.path ∈ paths files :=
  List.mem_map_of_mem inside

theorem paths_append (left right : List RequiredFile) : paths (left ++ right) = paths left ++ paths right :=
  List.map_append

def Needs (requires : Path → List RequiredFile) (file dependency : Path) : Prop :=
  dependency ∈ paths (requires file)

-- Every required file, followed by all that it requires in turn. A tree that never ends has no such list.
inductive Unfolds (requires : Path → List RequiredFile) : List RequiredFile → List RequiredFile → Prop where
  | nil : Unfolds requires [] []
  | cons (first : RequiredFile) (rest below others : List RequiredFile)
      (inner : Unfolds requires (requires first.path) below) (outer : Unfolds requires rest others) :
      Unfolds requires (first :: rest) (first :: below ++ others)

-- Of the files that share a path only the first counts, and none whose path was found before.
def keepFirst (found : List RequiredFile) : List RequiredFile → List RequiredFile
  | [] => []
  | file :: rest =>
      if file.path ∈ paths found then keepFirst found rest else file :: keepFirst (found ++ [file]) rest

theorem keep_first_append (found left right : List RequiredFile) :
    keepFirst found (left ++ right) = keepFirst found left ++ keepFirst (found ++ keepFirst found left) right := by
  induction left generalizing found with
  | nil => simp [keepFirst]
  | cons file rest step =>
      rw [List.cons_append, keepFirst, keepFirst]
      by_cases known : file.path ∈ paths found
      · rw [if_pos known, if_pos known]
        exact step found
      · rw [if_neg known, if_neg known, step (found ++ [file])]
        simp only [List.append_assoc, List.cons_append, List.nil_append]

theorem keep_first_known (found files : List RequiredFile) (known : ∀ file ∈ files, file.path ∈ paths found) :
    keepFirst found files = [] := by
  induction files with
  | nil => rfl
  | cons file rest step =>
      rw [keepFirst, if_pos (known file (List.mem_cons_self ..))]
      exact step fun other inside => known other (List.mem_cons_of_mem _ inside)

theorem keep_first_mem (found files : List RequiredFile) (file : RequiredFile)
    (kept : file ∈ keepFirst found files) : file ∈ files := by
  induction files generalizing found with
  | nil => exact kept
  | cons first rest step =>
      rw [keepFirst] at kept
      split at kept
      · exact List.mem_cons_of_mem _ (step found kept)
      · cases kept with
        | head => exact List.mem_cons_self ..
        | tail _ later => exact List.mem_cons_of_mem _ (step _ later)

theorem keep_first_covers (found files : List RequiredFile) (path : Path) :
    path ∈ paths (found ++ keepFirst found files) ↔ path ∈ paths found ∨ path ∈ paths files := by
  induction files generalizing found with
  | nil => simp [keepFirst, paths]
  | cons file rest step =>
      rw [keepFirst]
      by_cases known : file.path ∈ paths found
      · rw [if_pos known, step found]
        constructor
        · rintro (old | new)
          · exact .inl old
          · exact .inr (List.mem_cons_of_mem _ new)
        · rintro (old | new)
          · exact .inl old
          · cases new with
            | head => exact .inl known
            | tail _ later => exact .inr later
      · have extended := step (found ++ [file])
        rw [List.append_assoc, List.singleton_append] at extended
        rw [if_neg known, extended, paths_append, List.mem_append, or_assoc]
        simp [paths]

theorem keep_first_distinct (found files : List RequiredFile) (distinct : (paths found).Nodup) :
    (paths (found ++ keepFirst found files)).Nodup := by
  induction files generalizing found with
  | nil => simpa [keepFirst] using distinct
  | cons file rest step =>
      rw [keepFirst]
      by_cases known : file.path ∈ paths found
      · rw [if_pos known]
        exact step found distinct
      · rw [if_neg known]
        have extended : (paths (found ++ [file])).Nodup := by
          rw [paths_append]
          exact List.nodup_append_comm.mp (List.nodup_cons.mpr ⟨known, distinct⟩)
        have rest := step (found ++ [file]) extended
        rwa [List.append_assoc, List.singleton_append] at rest

section

variable {requires : Path → List RequiredFile}

theorem unfolds_inside {required listing : List RequiredFile} (unfolds : Unfolds requires required listing)
    (file : RequiredFile) (inside : file ∈ listing) :
    ∃ below, Unfolds requires (requires file.path) below ∧ below ⊆ listing := by
  induction unfolds with
  | nil => exact absurd inside (List.not_mem_nil)
  | cons first rest below others inner outer innerStep outerStep =>
      rw [List.cons_append] at inside ⊢
      cases inside with
      | head => exact ⟨below, inner, fun other there => List.mem_cons_of_mem _ (List.mem_append_left _ there)⟩
      | tail _ later =>
          rcases List.mem_append.mp later with left | right
          · obtain ⟨deeper, deeperUnfolds, within⟩ := innerStep left
            exact ⟨deeper, deeperUnfolds, fun other there =>
              List.mem_cons_of_mem _ (List.mem_append_left _ (within there))⟩
          · obtain ⟨deeper, deeperUnfolds, within⟩ := outerStep right
            exact ⟨deeper, deeperUnfolds, fun other there =>
              List.mem_cons_of_mem _ (List.mem_append_right _ (within there))⟩

theorem unfolds_reaches {required listing : List RequiredFile} (unfolds : Unfolds requires required listing)
    (path : Path) :
    path ∈ paths listing ↔ ∃ origin ∈ paths required, ReflTransGen (Needs requires) origin path := by
  induction unfolds with
  | nil => simp [paths]
  | cons first rest below others inner outer innerStep outerStep =>
      have split : path ∈ paths (first :: below ++ others) ↔
          path = first.path ∨ path ∈ paths below ∨ path ∈ paths others := by
        simp [paths]
      rw [split, innerStep, outerStep]
      constructor
      · rintro (here | ⟨origin, required, reached⟩ | ⟨origin, required, reached⟩)
        · exact ⟨first.path, List.mem_cons_self .., here ▸ .refl⟩
        · exact ⟨first.path, List.mem_cons_self .., .head required reached⟩
        · exact ⟨origin, List.mem_cons_of_mem _ required, reached⟩
      · rintro ⟨origin, required, reached⟩
        cases required with
        | head =>
            rcases ReflTransGen.cases_head reached with here | ⟨next, required, onward⟩
            · exact .inl here.symm
            · exact .inr (.inl ⟨next, required, onward⟩)
        | tail _ later => exact .inr (.inr ⟨origin, later, reached⟩)

theorem unfolds_reaches_from {origin : Path} {listing : List RequiredFile}
    (unfolds : Unfolds requires (requires origin) listing) (path : Path) :
    path ∈ paths listing ↔ TransGen (Needs requires) origin path := by
  rw [unfolds_reaches unfolds, TransGen.head'_iff]
  exact Iff.rfl

theorem unfolds_accessible {required listing : List RequiredFile} (unfolds : Unfolds requires required listing)
    (path : Path) (inside : path ∈ paths required) : Acc (Function.swap (Needs requires)) path := by
  induction unfolds generalizing path with
  | nil => exact absurd inside (List.not_mem_nil)
  | cons first rest below others inner outer innerStep outerStep =>
      cases inside with
      | head => exact .intro _ innerStep
      | tail _ later => exact outerStep path later

end

-- Some file that the entry reaches needs itself in the end.
def Circular (needs : Path → Path → Prop) (entry : Path) : Prop :=
  ∃ path, ReflTransGen needs entry path ∧ TransGen needs path path

theorem accessible_irreflexive (needs : Path → Path → Prop) (path : Path)
    (accessible : Acc (Function.swap needs) path) : ¬TransGen needs path path := by
  have deeply : Acc (TransGen (Function.swap needs)) path := accessible.transGen
  induction deeply with
  | intro path _ step =>
      intro returns
      exact step path (transGen_swap.mpr returns) accessible returns

theorem accessible_not_circular (needs : Path → Path → Prop) (entry : Path)
    (accessible : Acc (Function.swap needs) entry) : ¬Circular needs entry := by
  rintro ⟨path, reached, returns⟩
  have deeper : Acc (Function.swap needs) path := by
    rcases reflTransGen_iff_eq_or_transGen.mp reached with same | strictly
    · rwa [same]
    · exact accessible.inv_of_transGen (transGen_swap.mpr strictly)
  exact accessible_irreflexive needs path deeper returns

end ScriptSuite.Dependency
