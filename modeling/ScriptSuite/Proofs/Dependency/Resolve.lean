import ScriptSuite.Dependency.Resolve
import ScriptSuite.Proofs.Dependency.Search
import ScriptSuite.Proofs.FileSystem.Places

set_option autoImplicit false

namespace ScriptSuite.Dependency

open Config FileSystem Relation Script

-- The script whose requires count: of the entry in any case, of other files only if they are no data.
def followed? (disk : Disk) (entry file : Path) : Option Program :=
  if file ≠ entry ∧ file.extension? = some "json" then none
  else (disk.readText file).toOption.bind fun text => (parseSource text).toOption

def Edge (disk : Disk) (settings : ResolverSettings) (entry file dependency : Path) : Prop :=
  ∃ program, followed? disk entry file = some program ∧
    ∃ text ∈ requiredTexts settings.requireFunction program, ∃ found,
      probe disk settings.candidateExtensions (file.parent?.getD ⟨"."⟩) text = some found ∧ found.path = dependency

def requiresFrom (disk : Disk) (settings : ResolverSettings) (entry file : Path) : List RequiredFile :=
  match followed? disk entry file with
  | some program => requiredFiles disk settings file program
  | none => []

section

variable (disk : Disk) (settings : ResolverSettings)

theorem needs_eq_edge (entry : Path) : Needs (requiresFrom disk settings entry) = Edge disk settings entry := by
  funext file dependency
  apply propext
  unfold Needs requiresFrom Edge
  cases followed? disk entry file with
  | none => simp [paths]
  | some program =>
      simp only [paths, requiredFiles, List.mem_map, List.mem_filterMap, Option.some.injEq, exists_eq_left']
      constructor
      · rintro ⟨found, ⟨text, required, probed⟩, same⟩
        exact ⟨text, required, found, probed, same⟩
      · rintro ⟨text, required, found, probed, same⟩
        exact ⟨found, ⟨text, required, probed⟩, same⟩

theorem requires_from_entry (entry : Path) (text : String) (program : Program)
    (readable : disk.readText entry = .ok text) (parsable : parseSource text = .ok program) :
    requiresFrom disk settings entry entry = requiredFiles disk settings entry program := by
  simp [requiresFrom, followed?, readable, parsable, Except.toOption]

theorem requires_from_other (entry file : Path) (other : file ≠ entry) :
    requiresFrom disk settings entry file = requiresOf disk settings file := by
  unfold requiresFrom requiresOf followed?
  by_cases data : file.extension? = some "json"
  · rw [if_pos ⟨other, data⟩, if_pos data]
  · rw [if_neg (fun both => data both.2), if_neg data]
    cases disk.readText file with
    | error fault => rfl
    | ok text =>
        simp only [Except.toOption, Option.bind_some]
        cases parseSource text with
        | error fault => rfl
        | ok program => rfl

theorem probe_listed (extensions : List String) (directory : Path) (text : String) (found : RequiredFile)
    (probed : probe disk extensions directory text = some found) :
    found.path ∈ (placesIn disk.entries).map Disk.pathOf := by
  obtain ⟨extension, _, hit⟩ := List.exists_of_findSome?_eq_some probed
  dsimp only at hit
  split at hit
  · rename_i isFile
    split at hit
    · rename_i path canonical
      cases hit
      exact Disk.canonical_file_listed disk _ path isFile canonical
    · exact absurd hit (by simp)
  · exact absurd hit (by simp)

theorem requires_from_listed (entry file : Path) (found : RequiredFile)
    (required : found ∈ requiresFrom disk settings entry file) :
    found.path ∈ (placesIn disk.entries).map Disk.pathOf := by
  unfold requiresFrom at required
  split at required
  · obtain ⟨text, _, probed⟩ := List.mem_filterMap.mp required
    exact probe_listed disk _ _ text found probed
  · exact absurd required List.not_mem_nil

theorem resolve_searches (spelled entry : Path) (text : String) (program : Program)
    (present : disk.canonicalize spelled = .ok entry) (readable : disk.readText entry = .ok text)
    (parsable : parseSource text = .ok program) :
    resolve disk settings spelled =
      (search (requiresFrom disk settings entry) (countEntries disk.entries + 1) [entry]
        (requiresFrom disk settings entry entry) []).mapError fun circle => .circular circle.chain := by
  have same : ∀ path, path ∉ [entry] → requiresOf disk settings path = requiresFrom disk settings entry path :=
    fun path off => (requires_from_other disk settings entry path fun equal =>
      off (List.mem_singleton.mpr equal)).symm
  rw [← search_agrees _ _ _ _ _ _ same, requires_from_entry disk settings entry text program readable parsable]
  simp only [resolve, present, readable, parsable, bind, Except.bind, Except.mapError]

theorem entry_outcome (entry : Path) :
    Outcome (requiresFrom disk settings entry) entry (requiresFrom disk settings entry entry) []
      (search (requiresFrom disk settings entry) (countEntries disk.entries + 1) [entry]
        (requiresFrom disk settings entry entry) []) := by
  have listed := requires_from_listed disk settings entry
  refine search_outcome _ _ listed (following_entry _ _ entry) (fun file inside => ⟨listed entry file inside, ?_⟩) ?_
  · intro last isLast
    cases isLast
    exact path_listed file _ inside
  · rw [List.length_map, places_in_length, List.length_singleton]

theorem resolved_reaches (spelled entry : Path) (files : List RequiredFile)
    (present : disk.canonicalize spelled = .ok entry) (resolved : resolve disk settings spelled = .ok files) :
    ∃ text, disk.readText entry = .ok text ∧
      ∀ path, path ∈ paths files ↔ TransGen (Edge disk settings entry) entry path := by
  have opened := resolved
  rw [resolve, present] at opened
  simp only [bind, Except.bind, Except.mapError] at opened
  cases readable : disk.readText entry with
  | error fault => simp [readable] at opened
  | ok text =>
      simp only [readable] at opened
      cases parsable : parseSource text with
      | error fault => simp [parsable] at opened
      | ok program =>
          refine ⟨text, rfl, ?_⟩
          rw [resolve_searches disk settings spelled entry text program present readable parsable] at resolved
          have outcome := entry_outcome disk settings entry
          generalize search _ _ _ _ _ = result at outcome resolved
          cases outcome with
          | circular circle closes => cases resolved
          | listed listing found unfolds kept =>
              cases resolved
              rw [List.nil_append] at kept
              rw [← needs_eq_edge disk settings entry, kept]
              exact (kept_depth_first _ entry listing unfolds).reached

end

/-- A circle that the entry reaches is reported; without one, all files that it reaches are listed. -/
theorem resolve_depth_first (disk : Disk) (settings : ResolverSettings) (spelled entry : Path) (text : String)
    (program : Program) (present : disk.canonicalize spelled = .ok entry) (readable : disk.readText entry = .ok text)
    (parsable : parseSource text = .ok program) :
    (Circular (Edge disk settings entry) entry →
      ∃ chain, resolve disk settings spelled = .error (.circular chain) ∧
        ClosesCircle (Edge disk settings entry) entry chain) ∧
    (¬Circular (Edge disk settings entry) entry →
      ∃ files, resolve disk settings spelled = .ok files ∧
        DepthFirst (requiresFrom disk settings entry) (Edge disk settings entry) entry files) := by
  have edges := needs_eq_edge disk settings entry
  have enough : countEntries disk.entries + 1 + [entry].length =
      ((placesIn disk.entries).map Disk.pathOf).length + 2 := by
    rw [List.length_map, places_in_length, List.length_singleton]
  have listed := requires_from_listed disk settings entry
  have outcome := search_outcome (countEntries disk.entries + 1) (requiresFrom disk settings entry entry)
    listed (following_entry _ _ entry) (by
      intro file inside
      refine ⟨listed entry file inside, fun last isLast => ?_⟩
      cases isLast
      exact path_listed file _ inside) enough
  rw [resolve_searches disk settings spelled entry text program present readable parsable]
  generalize search _ _ _ _ _ = result at outcome ⊢
  cases outcome with
  | circular circle closes =>
      rw [edges] at closes
      exact ⟨fun _ => ⟨circle.chain, rfl, closes⟩,
        fun acyclic => absurd (circle_is_circular _ entry circle.chain closes) acyclic⟩
  | listed listing files unfolds kept =>
      rw [List.nil_append] at kept
      rw [← edges, kept]
      exact ⟨fun circular => absurd circular (unfolds_not_circular _ entry listing unfolds),
        fun _ => ⟨_, rfl, kept_depth_first _ entry listing unfolds⟩⟩

def requireTokens (path : String) : List Token :=
  let ends := 18 + path.length
  [⟨.keyword .varWord, ⟨0, 3⟩, false⟩, ⟨.identifier "d", ⟨4, 5⟩, false⟩, ⟨.punct .eq, ⟨6, 7⟩, false⟩,
    ⟨.identifier "require", ⟨8, 15⟩, false⟩, ⟨.punct .lParen, ⟨15, 16⟩, false⟩, ⟨.string path, ⟨16, ends⟩, false⟩,
    ⟨.punct .rParen, ⟨ends, ends + 1⟩, false⟩, ⟨.punct .semi, ⟨ends + 1, ends + 2⟩, false⟩,
    ⟨.endOfFile, ⟨ends + 2, ends + 2⟩, false⟩]

def requireProgram (path : String) : Program :=
  let ends := 18 + path.length
  ⟨[⟨.var ⟨.var, [⟨⟨.ident "d", ⟨4, 5⟩⟩,
    some ⟨.call ⟨.ident "require", ⟨8, 15⟩⟩ [⟨.literal (.string path), ⟨16, ends⟩⟩] false, ⟨8, ends + 1⟩⟩⟩]⟩,
    ⟨0, ends + 2⟩⟩], []⟩

theorem require_parses {text path : String} (lexed : lexFragment text 0 = .ok (requireTokens path))
    (parsed : parse (requireTokens path) = .ok (requireProgram path)) : parseSource text = .ok (requireProgram path) := by
  rw [parseSource, parseFragment, lexed]
  exact congrArg (Except.mapError _) parsed

theorem empty_text_parses : parseSource "" = .ok ⟨[], []⟩ := by
  have lexed : lexFragment "" 0 = .ok [⟨.endOfFile, ⟨0, 0⟩, false⟩] := rfl
  rw [parseSource, parseFragment, lexed]
  rfl

theorem search_nothing (requires : Path → List RequiredFile) (fuel : Nat) (chain : List Path)
    (found : List RequiredFile) : search requires fuel chain [] found = .ok found := by
  cases fuel <;> rfl

structure RequiresOne (disk : Disk) (spelled entry : Path) (text : String) (program : Program) (found : RequiredFile) :
    Prop where
  present : disk.canonicalize spelled = .ok entry
  readable : disk.readText entry = .ok text
  parses : parseSource text = .ok program
  required : requiredFiles disk {} entry program = [found]
  other : found.path ≠ entry
  empty : disk.readText found.path = .ok ""

namespace RequiresOne

variable {disk : Disk} {spelled entry : Path} {text : String} {program : Program} {found : RequiredFile}

theorem resolves (one : RequiresOne disk spelled entry text program found) : resolve disk {} spelled = .ok [found] := by
  have leaf : requiresOf disk {} found.path = [] := by
    rw [requiresOf, one.empty]
    simp only [empty_text_parses]
    split <;> rfl
  rw [resolve]
  simp only [one.present, one.readable, one.parses, bind, Except.bind, Except.mapError, one.required]
  rw [search_first, leaf, if_neg (by simpa using one.other), if_neg (by simp [paths]), search_nothing, Except.bind,
    search_nothing]
  rfl

theorem followed (one : RequiresOne disk spelled entry text program found) : followed? disk entry entry = some program := by
  rw [followed?, if_neg (by simp), one.readable]
  simp only [Except.toOption, Option.bind_some, one.parses]

end RequiresOne

def sampleText : String := "var d = require('a');"

def sampleDisk : Disk where
  entries := [("m.js", .file sampleText.toUTF8.toList 0o644), ("a.js", .file [] 0o644)]
  workingDirectory := []

theorem sample_requires_one :
    RequiresOne sampleDisk ⟨"m.js"⟩ ⟨"/m.js"⟩ sampleText (requireProgram "a") ⟨⟨"/a.js"⟩, ".js"⟩ :=
  ⟨by decide +kernel, by decide +kernel, require_parses (by decide +kernel) rfl, by decide +kernel, by decide,
    by decide +kernel⟩

def loopText : String := "var d = require('./m');"

def loopDisk : Disk where
  entries := [("m.js", .file loopText.toUTF8.toList 0o644)]
  workingDirectory := []

-- One script that requires another one, and one that requires itself.
theorem sample_entry_depth_first :
    (sampleDisk.canonicalize ⟨"m.js"⟩ = .ok ⟨"/m.js"⟩ ∧ sampleDisk.readText ⟨"/m.js"⟩ = .ok sampleText ∧
      parseSource sampleText = .ok (requireProgram "a") ∧ ¬Circular (Edge sampleDisk {} ⟨"/m.js"⟩) ⟨"/m.js"⟩ ∧
      resolve sampleDisk {} ⟨"m.js"⟩ = .ok [⟨⟨"/a.js"⟩, ".js"⟩] ∧
      DepthFirst (requiresFrom sampleDisk {} ⟨"/m.js"⟩) (Edge sampleDisk {} ⟨"/m.js"⟩) ⟨"/m.js"⟩ [⟨⟨"/a.js"⟩, ".js"⟩]) ∧
    loopDisk.canonicalize ⟨"m.js"⟩ = .ok ⟨"/m.js"⟩ ∧ loopDisk.readText ⟨"/m.js"⟩ = .ok loopText ∧
      parseSource loopText = .ok (requireProgram "./m") ∧ Circular (Edge loopDisk {} ⟨"/m.js"⟩) ⟨"/m.js"⟩ ∧
      ∃ chain, resolve loopDisk {} ⟨"m.js"⟩ = .error (.circular chain) ∧
        ClosesCircle (Edge loopDisk {} ⟨"/m.js"⟩) ⟨"/m.js"⟩ chain := by
  have one := sample_requires_one
  obtain ⟨fails, lists⟩ := resolve_depth_first sampleDisk {} ⟨"m.js"⟩ ⟨"/m.js"⟩ sampleText (requireProgram "a") one.present
    one.readable one.parses
  have acyclic : ¬Circular (Edge sampleDisk {} ⟨"/m.js"⟩) ⟨"/m.js"⟩ := by
    intro circular
    obtain ⟨chain, failed, -⟩ := fails circular
    rw [one.resolves] at failed
    cases failed
  obtain ⟨files, listed, depthFirst⟩ := lists acyclic
  obtain rfl := Except.ok.inj (listed.symm.trans one.resolves)
  have present : loopDisk.canonicalize ⟨"m.js"⟩ = .ok ⟨"/m.js"⟩ := by decide +kernel
  have readable : loopDisk.readText ⟨"/m.js"⟩ = .ok loopText := by decide +kernel
  have parses : parseSource loopText = .ok (requireProgram "./m") := require_parses (by decide +kernel) rfl
  have loops : Edge loopDisk {} ⟨"/m.js"⟩ ⟨"/m.js"⟩ ⟨"/m.js"⟩ := by
    refine ⟨requireProgram "./m", ?_, "./m", by decide +kernel, ⟨⟨"/m.js"⟩, ".js"⟩, by decide +kernel, rfl⟩
    rw [followed?, if_neg (by simp), readable]
    simp only [Except.toOption, Option.bind_some, parses]
  have circular : Circular (Edge loopDisk {} ⟨"/m.js"⟩) ⟨"/m.js"⟩ := ⟨⟨"/m.js"⟩, .refl, .single loops⟩
  exact ⟨⟨one.present, one.readable, one.parses, acyclic, one.resolves, depthFirst⟩, present, readable, parses, circular,
    (resolve_depth_first loopDisk {} ⟨"m.js"⟩ ⟨"/m.js"⟩ loopText _ present readable parses).1 circular⟩

end ScriptSuite.Dependency
