import Mathlib.Data.List.Chain
import ScriptSuite.Proofs.Dependency.Unfolding

set_option autoImplicit false

namespace ScriptSuite.Dependency

open Relation

theorem search_first (requires : Path → List RequiredFile) (fuel : Nat) (chain : List Path)
    (first : RequiredFile) (rest found : List RequiredFile) :
    search requires (fuel + 1) chain (first :: rest) found =
      if first.path ∈ chain then .error ⟨chain ++ [first.path]⟩
      else if first.path ∈ paths found then search requires (fuel + 1) chain rest found
      else
        (search requires fuel (chain ++ [first.path]) (requires first.path) (found ++ [first])).bind
          (search requires (fuel + 1) chain rest) := by
  have listed : found.any (·.path = first.path) = true ↔ first.path ∈ paths found := by
    simp [paths]
  simp only [search, List.foldlM_cons, List.contains_iff_mem]
  by_cases onChain : first.path ∈ chain
  · simp [onChain, bind, Except.bind]
  · by_cases known : first.path ∈ paths found
    · have any := listed.mpr known
      simp only [if_neg onChain, if_pos known, if_pos any]
      rfl
    · have none := mt listed.mp known
      simp only [if_neg onChain, if_neg known, if_neg none]
      rfl

-- The requires of a file on the chain are not asked for again.
theorem search_agrees (asked told : Path → List RequiredFile) (fuel : Nat) (chain : List Path)
    (required found : List RequiredFile) (same : ∀ path, path ∉ chain → asked path = told path) :
    search asked fuel chain required found = search told fuel chain required found := by
  induction fuel generalizing chain required found with
  | zero => rfl
  | succ fuel deeper =>
      induction required generalizing found with
      | nil => rfl
      | cons first rest step =>
          rw [search_first, search_first]
          by_cases onChain : first.path ∈ chain
          · rw [if_pos onChain, if_pos onChain]
          · have onLonger : ∀ path, path ∉ chain ++ [first.path] → asked path = told path := fun path off =>
              same path fun inside => off (List.mem_append_left _ inside)
            rw [if_neg onChain, if_neg onChain, step found, same first.path onChain,
              deeper (chain ++ [first.path]) (told first.path) (found ++ [first]) onLonger, funext step]

-- A chain that comes back to one of its files, and to no file before that.
structure ClosesCircle (needs : Path → Path → Prop) (entry : Path) (chain : List Path) : Prop where
  starts : chain.head? = some entry
  follows : chain.IsChain needs
  distinct : chain.dropLast.Nodup
  returns : ∃ path ∈ chain.dropLast, chain.getLast? = some path

theorem chain_reaches (needs : Path → Path → Prop) (first last : Path) (between : List Path)
    (follows : (first :: (between ++ [last])).IsChain needs) : TransGen needs first last := by
  induction between generalizing first with
  | nil => exact .single (List.isChain_cons_cons.mp follows).1
  | cons next rest step =>
      have split := List.isChain_cons_cons.mp follows
      exact .head split.1 (step next split.2)

theorem circle_is_circular (needs : Path → Path → Prop) (entry : Path) (chain : List Path)
    (closes : ClosesCircle needs entry chain) : Circular needs entry := by
  obtain ⟨starts, follows, _, path, inside, last⟩ := closes
  obtain ⟨before, between, cut⟩ := List.append_of_mem inside
  have whole : chain = before ++ path :: (between ++ [path]) := by
    have joined := List.dropLast_append_getLast? path last
    rw [cut] at joined
    simpa using joined.symm
  rw [whole] at starts follows
  have returns := chain_reaches needs path path between follows.right_of_append
  refine ⟨path, ?_, returns⟩
  cases before with
  | nil =>
      cases starts
      exact .refl
  | cons first rest =>
      cases starts
      refine (chain_reaches needs entry path rest ?_).to_reflTransGen
      rw [List.append_cons] at follows
      exact follows.left_of_append

inductive Outcome (requires : Path → List RequiredFile) (entry : Path) (required found : List RequiredFile) :
    Except Circle (List RequiredFile) → Prop where
  | circular (circle : Circle) (closes : ClosesCircle (Needs requires) entry circle.chain) :
      Outcome requires entry required found (.error circle)
  | listed (listing files : List RequiredFile) (unfolds : Unfolds requires required listing)
      (kept : files = found ++ keepFirst found listing) : Outcome requires entry required found (.ok files)

-- A listed file is settled when all that its tree of requires holds is listed too.
def Settled (requires : Path → List RequiredFile) (found : List RequiredFile) (file : RequiredFile) : Prop :=
  ∃ below, Unfolds requires (requires file.path) below ∧ ∀ other ∈ below, other.path ∈ paths found

-- Only the files on the chain are still being followed. The places are all files there are.
structure Following (requires : Path → List RequiredFile) (places : List Path) (entry : Path) (chain : List Path)
    (found : List RequiredFile) : Prop where
  starts : chain.head? = some entry
  follows : chain.IsChain (Needs requires)
  distinct : chain.Nodup
  placed : ∀ path ∈ chain, path = entry ∨ path ∈ places
  settled : ∀ file ∈ found, file.path ∉ chain → Settled requires found file

theorem following_entry (requires : Path → List RequiredFile) (places : List Path) (entry : Path) :
    Following requires places entry [entry] [] where
  starts := rfl
  follows := .singleton entry
  distinct := List.nodup_singleton entry
  placed := fun _ inside => .inl (List.mem_singleton.mp inside)
  settled := fun _ inside => absurd inside List.not_mem_nil

section

variable {requires : Path → List RequiredFile} {places : List Path} {entry : Path} {chain : List Path}
variable {found : List RequiredFile}

theorem settled_longer (file : RequiredFile) (more : List RequiredFile) (settled : Settled requires found file) :
    Settled requires (found ++ more) file := by
  obtain ⟨below, unfolds, covered⟩ := settled
  refine ⟨below, unfolds, fun other inside => ?_⟩
  rw [paths_append]
  exact List.mem_append_left _ (covered other inside)

theorem settled_kept {required listing : List RequiredFile} (unfolds : Unfolds requires required listing)
    (file : RequiredFile) (kept : file ∈ keepFirst found listing) :
    Settled requires (found ++ keepFirst found listing) file := by
  obtain ⟨below, deeper, within⟩ := unfolds_inside unfolds file (keep_first_mem found listing file kept)
  refine ⟨below, deeper, fun other inside => ?_⟩
  exact (keep_first_covers found listing other.path).mpr (.inr (path_listed other listing (within inside)))

theorem following_length (following : Following requires places entry chain found) :
    chain.length ≤ places.length + 1 := by
  have within : chain ⊆ entry :: places := fun path inside => List.mem_cons.mpr (following.placed path inside)
  exact following.distinct.length_le_of_subset within

theorem following_joins (following : Following requires places entry chain found) (path : Path)
    (needed : ∀ last ∈ chain.getLast?, Needs requires last path) : (chain ++ [path]).IsChain (Needs requires) := by
  refine List.isChain_append.mpr ⟨following.follows, .singleton _, ?_⟩
  intro last isLast next isNext
  rw [List.head?_cons, Option.mem_some_iff] at isNext
  exact isNext ▸ needed last isLast

theorem following_starts (following : Following requires places entry chain found) (path : Path) :
    (chain ++ [path]).head? = some entry := by
  rw [List.head?_append, following.starts]
  rfl

theorem following_circle (following : Following requires places entry chain found) (path : Path)
    (needed : ∀ last ∈ chain.getLast?, Needs requires last path) (onChain : path ∈ chain) :
    ClosesCircle (Needs requires) entry (chain ++ [path]) := by
  refine ⟨following_starts following path, following_joins following path needed, ?_, path, ?_, ?_⟩
  · rw [List.dropLast_concat]
    exact following.distinct
  · rw [List.dropLast_concat]
    exact onChain
  · rw [List.getLast?_concat]

theorem following_deeper (following : Following requires places entry chain found) (file : RequiredFile)
    (needed : ∀ last ∈ chain.getLast?, Needs requires last file.path) (fresh : file.path ∉ chain)
    (placed : file.path ∈ places) :
    Following requires places entry (chain ++ [file.path]) (found ++ [file]) := by
  refine ⟨following_starts following file.path, following_joins following file.path needed, ?_, ?_, ?_⟩
  · exact List.nodup_append_comm.mp (List.nodup_cons.mpr ⟨fresh, following.distinct⟩)
  · intro path inside
    rcases List.mem_append.mp inside with old | new
    · exact following.placed path old
    · exact .inr (List.mem_singleton.mp new ▸ placed)
  · intro other inside off
    rw [List.mem_append, not_or] at off
    rcases List.mem_append.mp inside with old | new
    · exact settled_longer other [file] (following.settled other old off.1)
    · rw [List.mem_singleton.mp new] at off
      exact absurd (List.mem_singleton_self _) off.2

-- Coming back from a file that was followed, its tree is listed, and with it the tree of every file in it.
theorem following_back (following : Following requires places entry chain found) (file : RequiredFile)
    (below : List RequiredFile) (unfolds : Unfolds requires (requires file.path) below) :
    Following requires places entry chain (found ++ [file] ++ keepFirst (found ++ [file]) below) := by
  refine ⟨following.starts, following.follows, following.distinct, following.placed, ?_⟩
  intro other inside off
  rcases List.mem_append.mp inside with before | kept
  · rcases List.mem_append.mp before with old | new
    · rw [List.append_assoc]
      exact settled_longer other _ (following.settled other old off)
    · rw [List.mem_singleton.mp new]
      exact ⟨below, unfolds, fun deeper there =>
        (keep_first_covers _ below deeper.path).mpr (.inr (path_listed deeper below there))⟩
  · exact settled_kept unfolds other kept

theorem outcome_known (first : RequiredFile) (rest : List RequiredFile) (result : Except Circle (List RequiredFile))
    (following : Following requires places entry chain found) (fresh : first.path ∉ chain)
    (known : first.path ∈ paths found) (outcome : Outcome requires entry rest found result) :
    Outcome requires entry (first :: rest) found result := by
  cases outcome with
  | circular circle closes => exact .circular circle closes
  | listed others files unfolds kept =>
      obtain ⟨file, inside, same⟩ := List.mem_map.mp known
      obtain ⟨below, inner, covered⟩ := following.settled file inside (same ▸ fresh)
      rw [same] at inner
      have nothing : keepFirst found (first :: below) = [] := by
        refine keep_first_known found _ fun other there => ?_
        cases there with
        | head => exact known
        | tail _ later => exact covered other later
      refine .listed _ _ (.cons first rest below others inner unfolds) ?_
      rw [kept, keep_first_append, nothing, List.nil_append, List.append_nil]

theorem outcome_fresh (first : RequiredFile) (rest : List RequiredFile)
    (inner : Except Circle (List RequiredFile)) (onward : List RequiredFile → Except Circle (List RequiredFile))
    (unknown : first.path ∉ paths found)
    (inside : Outcome requires entry (requires first.path) (found ++ [first]) inner)
    (outside : ∀ below, Unfolds requires (requires first.path) below →
      Outcome requires entry rest (found ++ [first] ++ keepFirst (found ++ [first]) below)
        (onward (found ++ [first] ++ keepFirst (found ++ [first]) below))) :
    Outcome requires entry (first :: rest) found (inner.bind onward) := by
  cases inside with
  | circular circle closes => exact .circular circle closes
  | listed below files unfolds kept =>
      rw [kept, Except.bind]
      have result := outside below unfolds
      generalize onward _ = last at result ⊢
      cases result with
      | circular circle closes => exact .circular circle closes
      | listed others files outer kept =>
          refine .listed _ _ (.cons first rest below others unfolds outer) ?_
          rw [kept, List.cons_append, keepFirst, if_neg unknown, keep_first_append]
          simp only [List.append_assoc, List.cons_append, List.nil_append]

theorem search_outcome (fuel : Nat) (required : List RequiredFile)
    (placed : ∀ path, ∀ file ∈ requires path, file.path ∈ places)
    (following : Following requires places entry chain found)
    (needed : ∀ file ∈ required, file.path ∈ places ∧ ∀ last ∈ chain.getLast?, Needs requires last file.path)
    (enough : fuel + chain.length = places.length + 2) :
    Outcome requires entry required found (search requires fuel chain required found) := by
  induction fuel generalizing chain required found with
  | zero =>
      have bounded := following_length following
      omega
  | succ fuel deeper =>
      induction required generalizing found with
      | nil => exact .listed [] found .nil (List.append_nil found).symm
      | cons first rest step =>
          obtain ⟨firstPlaced, firstNeeded⟩ := needed first (List.mem_cons_self ..)
          have restNeeded := fun file inside => needed file (List.mem_cons_of_mem first inside)
          rw [search_first]
          by_cases onChain : first.path ∈ chain
          · rw [if_pos onChain]
            exact .circular _ (following_circle following first.path firstNeeded onChain)
          · rw [if_neg onChain]
            by_cases known : first.path ∈ paths found
            · rw [if_pos known]
              exact outcome_known first rest _ following onChain known (step following restNeeded)
            · rw [if_neg known]
              have entered := following_deeper following first firstNeeded onChain firstPlaced
              refine outcome_fresh first rest _ _ known (deeper (requires first.path) entered ?_ ?_) ?_
              · intro file inside
                refine ⟨placed first.path file inside, ?_⟩
                intro last isLast
                rw [List.getLast?_concat, Option.mem_some_iff] at isLast
                exact isLast ▸ path_listed file _ inside
              · rw [List.length_append, List.length_singleton]
                omega
              · intro below unfolds
                exact step (following_back following first below unfolds) restNeeded

end

-- What a search that meets no circle returns: the tree of requires in preorder, every file where it is first met.
structure DepthFirst (requires : Path → List RequiredFile) (needs : Path → Path → Prop) (entry : Path)
    (files : List RequiredFile) : Prop where
  preorder : ∃ listing, Unfolds requires (requires entry) listing ∧ files = keepFirst [] listing
  distinct : (paths files).Nodup
  reached : ∀ path, path ∈ paths files ↔ TransGen needs entry path
  without : entry ∉ paths files

theorem unfolds_not_circular (requires : Path → List RequiredFile) (entry : Path) (listing : List RequiredFile)
    (unfolds : Unfolds requires (requires entry) listing) : ¬Circular (Needs requires) entry :=
  accessible_not_circular _ entry (.intro entry (unfolds_accessible unfolds))

theorem kept_depth_first (requires : Path → List RequiredFile) (entry : Path) (listing : List RequiredFile)
    (unfolds : Unfolds requires (requires entry) listing) :
    DepthFirst requires (Needs requires) entry (keepFirst [] listing) := by
  have reached : ∀ path, path ∈ paths (keepFirst [] listing) ↔ TransGen (Needs requires) entry path := by
    intro path
    have covers := keep_first_covers [] listing path
    rw [List.nil_append] at covers
    rw [covers, ← unfolds_reaches_from unfolds path]
    simp [paths]
  refine ⟨⟨listing, unfolds, rfl⟩, ?_, reached, ?_⟩
  · have distinct := keep_first_distinct [] listing List.nodup_nil
    rwa [List.nil_append] at distinct
  · intro inside
    exact unfolds_not_circular requires entry listing unfolds ⟨entry, .refl, (reached entry).mp inside⟩

end ScriptSuite.Dependency
