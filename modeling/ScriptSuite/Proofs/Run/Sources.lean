import ScriptSuite.Proofs.Run.Session

set_option autoImplicit false

namespace ScriptSuite.Discovery

open FileSystem Script

section

variable (disk : Disk) (pattern : CallPattern)

-- What comes of one file: it cannot be read, or not be parsed, or it declares tests.
inductive FileRead (source : Path) : Except DiscoveryError (List TestCase) → Prop where
  | unreadable {error : IoError} (unread : disk.readText source = .error error) :
      FileRead source (.error (.unreadable source error))
  | unparsable {text : String} {error : ParseError} (read : disk.readText source = .ok text)
      (unparsed : discoverSource source text pattern = .error error) :
      FileRead source (.error (.unparsable source error text))
  | declares {text : String} {cases : List TestCase} (read : disk.readText source = .ok text)
      (found : discoverSource source text pattern = .ok cases) : FileRead source (.ok cases)

theorem file_read (source : Path) : FileRead disk pattern source (discoverFile disk pattern source) := by
  unfold discoverFile
  cases read : disk.readText source with
  | error error => exact .unreadable read
  | ok text =>
      cases found : discoverSource source text pattern with
      | error error =>
          simp only [Except.mapError, bind, Except.bind, found]
          exact .unparsable read found
      | ok cases =>
          simp only [Except.mapError, bind, Except.bind, found]
          exact .declares read found

def casesIn (source : Path) : List TestCase :=
  match discoverFile disk pattern source with
  | .ok cases => cases
  | .error _ => []

def errorsIn (source : Path) : List DiscoveryError :=
  match discoverFile disk pattern source with
  | .ok _ => []
  | .error error => [error]

theorem found_after (sources : List Path) (before : Findings) :
    sources.foldl (fun findings path => findings.add (discoverFile disk pattern path)) before =
      ⟨before.cases ++ sources.flatMap (casesIn disk pattern), before.errors ++ sources.flatMap (errorsIn disk pattern)⟩ := by
  induction sources generalizing before with
  | nil => simp
  | cons source rest step =>
      rw [List.foldl_cons, step, List.flatMap_cons, List.flatMap_cons, casesIn, errorsIn]
      cases found : discoverFile disk pattern source <;> simp [Findings.add]

theorem discover_each (sources : List Path) : discover disk pattern sources =
    ⟨sources.flatMap (casesIn disk pattern), sources.flatMap (errorsIn disk pattern)⟩ :=
  found_after disk pattern sources ⟨[], []⟩

theorem case_source (source : Path) (testCase : TestCase) (found : testCase ∈ casesIn disk pattern source) :
    testCase.sourceFile = source := by
  have read := file_read disk pattern source
  rw [casesIn] at found
  generalize discoverFile disk pattern source = result at found read
  cases read with
  | unreadable unread => exact absurd found List.not_mem_nil
  | unparsable read unparsed => exact absurd found List.not_mem_nil
  | declares read declared =>
      rw [discoverSource] at declared
      generalize declarationsIn _ pattern = declarations at declared
      cases declarations with
      | error error => cases declared
      | ok declarations =>
          cases declared
          obtain ⟨declaration, -, rfl⟩ := List.mem_map.mp found
          rfl

theorem declares_iff (source : Path) :
    casesIn disk pattern source ≠ [] ↔ ∃ cases, discoverFile disk pattern source = .ok cases ∧ cases ≠ [] := by
  rw [casesIn]
  cases discoverFile disk pattern source with
  | error error => simp
  | ok cases => simp

theorem error_source (source : Path) (error : DiscoveryError) (found : error ∈ errorsIn disk pattern source) :
    error.path = source := by
  have read := file_read disk pattern source
  rw [errorsIn] at found
  generalize discoverFile disk pattern source = result at found read
  cases read with
  | unreadable unread =>
      rw [List.mem_singleton.mp found]
      rfl
  | unparsable read unparsed =>
      rw [List.mem_singleton.mp found]
      rfl
  | declares read declared => exact absurd found List.not_mem_nil

end

end ScriptSuite.Discovery

namespace ScriptSuite.Run

open Discovery FileSystem

theorem sorted_by_source (sources : List Path) (groups : List GroupReport) :
    (sortBySource sources groups).Perm groups ∧
      (sortBySource sources groups).Pairwise fun a b => sourceIndex sources a.source ≤ sourceIndex sources b.source := by
  let before (a b : GroupReport) : Bool := sourceIndex sources a.source ≤ sourceIndex sources b.source
  have trans (a b c : GroupReport) (ab : before a b = true) (bc : before b c = true) : before a c = true :=
    decide_eq_true (Nat.le_trans (of_decide_eq_true ab) (of_decide_eq_true bc))
  have total (a b : GroupReport) : (before a b || before b a) = true := by
    simpa [before] using Nat.le_total _ _
  exact ⟨List.mergeSort_perm groups before, (List.pairwise_mergeSort trans total groups).imp of_decide_eq_true⟩

section

variable (disk : Disk) (pattern : CallPattern) (sources : List Path)

theorem grouped_source_listed (source : Path) (grouped : source ∈ sourcesOf (discover disk pattern sources).cases) :
    source ∈ sources ∧ casesIn disk pattern source ≠ [] := by
  rw [discover_each] at grouped
  obtain ⟨first, rest, appears, rfl⟩ := source_appears _ source grouped
  have member : first ∈ casesOf _ first.sourceFile := appears ▸ List.mem_cons_self ..
  obtain ⟨listed, inside, found⟩ := List.mem_flatMap.mp (List.mem_filter.mp member).1
  rw [case_source disk pattern listed first found]
  exact ⟨inside, List.ne_nil_of_mem found⟩

theorem grouped_source_iff (source : Path) :
    (∃ own ∈ sourcesOf (discover disk pattern sources).cases, own.same source = true) ↔
      ∃ listed ∈ sources, listed.same source = true ∧ casesIn disk pattern listed ≠ [] := by
  constructor
  · rintro ⟨own, grouped, same⟩
    obtain ⟨inside, declares⟩ := grouped_source_listed disk pattern sources own grouped
    exact ⟨own, inside, same, declares⟩
  · rintro ⟨listed, inside, same, declares⟩
    obtain ⟨testCase, found⟩ := List.exists_mem_of_ne_nil _ declares
    have member : testCase ∈ (discover disk pattern sources).cases := by
      rw [discover_each]
      exact List.mem_flatMap.mpr ⟨listed, inside, found⟩
    obtain ⟨own, grouped, alike⟩ := source_listed _ testCase member
    rw [case_source disk pattern listed testCase found] at alike
    exact ⟨own, grouped, (same_left own listed source alike).trans same⟩

theorem failed_source_listed (error : DiscoveryError) (found : error ∈ (discover disk pattern sources).errors) :
    error.path ∈ sources := by
  rw [discover_each] at found
  obtain ⟨listed, inside, own⟩ := List.mem_flatMap.mp found
  rwa [error_source disk pattern listed error own]

/-- Discovery in several files gives what it gives in each of them, one behind the other: the tests of a file, or why it
cannot be read or parsed. A run over them ends, however its groups end and whether or not it is cancelled, with one group
for each file that declares a test and one skipped group for each failure of discovery, in the order in which the files
first occur. -/
theorem sources_accounted (setup : Setup) (journal : Journal) :
    let found := discover disk pattern sources
    let groups := (runSources setup pattern sources ⟨disk, journal, .empty⟩).summary.groups
    (∀ source, FileRead disk pattern source (discoverFile disk pattern source)) ∧
      found.cases = sources.flatMap (fun source =>
        match discoverFile disk pattern source with
        | .ok cases => cases
        | .error _ => []) ∧
      found.errors = sources.flatMap (fun source =>
        match discoverFile disk pattern source with
        | .ok _ => []
        | .error error => [error]) ∧
      (∃ ran : List GroupReport,
        groups.Perm (ran ++ found.errors.map fun error => ⟨error.path, .skipped error.message⟩) ∧
          ran.Pairwise (fun a b => a.source.same b.source = false) ∧
          ∀ source, (∃ group ∈ ran, group.source.same source = true) ↔
            ∃ listed ∈ sources, listed.same source = true ∧
              ∃ cases, discoverFile disk pattern listed = .ok cases ∧ cases ≠ []) ∧
      groups.Pairwise (fun a b => sourceIndex sources a.source ≤ sourceIndex sources b.source) ∧
      ∀ group ∈ groups, group.source ∈ sources := by
  intro found groups
  let told := journal.addAll setup (found.errors.map fun error => .message .error error.message)
  let ran := (execute setup found.cases ⟨disk, told, .empty⟩).summary.groups
  let skipped := found.errors.map fun error => (⟨error.path, .skipped error.message⟩ : GroupReport)
  obtain ⟨same, ordered⟩ := sorted_by_source sources (ran ++ skipped)
  have grouped : ran.map (·.source) = sourcesOf found.cases := by
    show ((groupBySource found.cases).foldl (runNext setup) _).summary.groups.map (·.source) = _
    rw [run_groups_reported, group_by_source, List.map_map]
    exact List.map_id _
  have each := discover_each disk pattern sources
  refine ⟨file_read disk pattern, congrArg Findings.cases each, congrArg Findings.errors each,
    ⟨ran, same, ?_, fun source => ?_⟩, ordered, fun group member => ?_⟩
  · have distinct := sources_distinct found.cases
    rwa [← grouped, List.pairwise_map] at distinct
  · simp only [← declares_iff]
    rw [← grouped_source_iff disk pattern sources source, ← grouped]
    simp
  · rcases List.mem_append.mp (same.mem_iff.mp member) with executed | failed
    · exact (grouped_source_listed disk pattern sources _ (grouped ▸ List.mem_map_of_mem executed)).1
    · obtain ⟨error, inside, rfl⟩ := List.mem_map.mp failed
      exact failed_source_listed disk pattern sources error inside

end

end ScriptSuite.Run
