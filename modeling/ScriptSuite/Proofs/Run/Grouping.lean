import Mathlib.Data.List.Induction
import ScriptSuite.Run.Execute

set_option autoImplicit false

namespace ScriptSuite.Run

open Discovery FileSystem

theorem same_iff (a b : Path) : a.same b = true ↔ a.components = b.components :=
  beq_iff_eq

theorem same_refl (path : Path) : path.same path = true :=
  (same_iff path path).mpr rfl

theorem same_comm (a b : Path) : a.same b = b.same a :=
  Bool.eq_iff_iff.mpr ((same_iff a b).trans (eq_comm.trans (same_iff b a).symm))

theorem same_left (a b c : Path) (same : a.same b = true) : a.same c = b.same c := by
  rw [Path.same, Path.same, (same_iff a b).mp same]

def sourcesOf : List TestCase → List Path
  | [] => []
  | testCase :: rest => testCase.sourceFile :: (sourcesOf rest).filter fun other => !testCase.sourceFile.same other

def casesOf (cases : List TestCase) (source : Path) : List TestCase :=
  cases.filter fun testCase => source.same testCase.sourceFile

theorem sources_distinct (cases : List TestCase) : (sourcesOf cases).Pairwise fun a b => a.same b = false := by
  induction cases with
  | nil => exact .nil
  | cons testCase rest step =>
      refine List.pairwise_cons.mpr ⟨fun other inside => ?_, step.filter _⟩
      simpa using (List.mem_filter.mp inside).2

theorem source_appears (cases : List TestCase) (source : Path) (member : source ∈ sourcesOf cases) :
    ∃ first rest, casesOf cases source = first :: rest ∧ first.sourceFile = source := by
  induction cases with
  | nil => exact absurd member List.not_mem_nil
  | cons testCase rest step =>
      rcases List.mem_cons.mp member with rfl | later
      · exact ⟨testCase, casesOf rest testCase.sourceFile, List.filter_cons_of_pos (same_refl _), rfl⟩
      · obtain ⟨inside, other⟩ := List.mem_filter.mp later
        obtain ⟨first, following, found, own⟩ := step inside
        have different : source.same testCase.sourceFile = false := by
          rw [same_comm]
          simpa using other
        refine ⟨first, following, ?_, own⟩
        rw [casesOf, List.filter_cons_of_neg (by rw [different]; exact Bool.false_ne_true)]
        exact found

theorem source_listed (cases : List TestCase) (testCase : TestCase) (member : testCase ∈ cases) :
    ∃ source ∈ sourcesOf cases, source.same testCase.sourceFile = true := by
  induction cases with
  | nil => exact absurd member List.not_mem_nil
  | cons first rest step =>
      by_cases own : first.sourceFile.same testCase.sourceFile = true
      · exact ⟨first.sourceFile, List.mem_cons_self .., own⟩
      · rcases List.mem_cons.mp member with rfl | later
        · exact absurd (same_refl _) own
        · obtain ⟨source, inside, same⟩ := step later
          refine ⟨source, List.mem_cons_of_mem _ (List.mem_filter.mpr ⟨inside, ?_⟩), same⟩
          rw [same_comm, same_left source testCase.sourceFile first.sourceFile same, same_comm]
          simpa using own

theorem sources_append (cases : List TestCase) (testCase : TestCase) :
    sourcesOf (cases ++ [testCase]) =
      if ∃ source ∈ sourcesOf cases, source.same testCase.sourceFile = true then sourcesOf cases
      else sourcesOf cases ++ [testCase.sourceFile] := by
  induction cases with
  | nil => rw [if_neg (by simp [sourcesOf])]; rfl
  | cons first rest step =>
      rw [List.cons_append, sourcesOf, sourcesOf, step]
      by_cases known : ∃ source ∈ sourcesOf rest, source.same testCase.sourceFile = true
      · obtain ⟨source, inside, same⟩ := known
        rw [if_pos ⟨source, inside, same⟩, if_pos]
        by_cases own : first.sourceFile.same source = true
        · exact ⟨_, List.mem_cons_self .., (same_left _ _ _ own).trans same⟩
        · exact ⟨source, List.mem_cons_of_mem _ (List.mem_filter.mpr ⟨inside, by simpa using own⟩), same⟩
      · rw [if_neg known, List.filter_append]
        by_cases own : first.sourceFile.same testCase.sourceFile = true
        · rw [if_pos ⟨_, List.mem_cons_self .., own⟩, List.filter_cons_of_neg (by simp [own]), List.filter_nil,
            List.append_nil]
        · rw [if_neg, List.filter_cons_of_pos (by simpa using own), List.filter_nil, List.cons_append]
          rintro ⟨source, inside, same⟩
          rcases List.mem_cons.mp inside with rfl | later
          · exact own same
          · exact known ⟨source, (List.mem_filter.mp later).1, same⟩

theorem add_to_groups (testCase : TestCase) (sources : List Path) (held : Path → List TestCase)
    (distinct : sources.Pairwise fun a b => a.same b = false) :
    addToGroups testCase (sources.map fun source => ⟨source, held source⟩) =
      (sources.map fun source =>
        ⟨source, if source.same testCase.sourceFile then held source ++ [testCase] else held source⟩) ++
      (if ∃ source ∈ sources, source.same testCase.sourceFile = true then [] else [⟨testCase.sourceFile, [testCase]⟩]) := by
  induction sources with
  | nil => rw [if_neg (by simp)]; rfl
  | cons source rest step =>
      obtain ⟨apart, others⟩ := List.pairwise_cons.mp distinct
      rw [List.map_cons, addToGroups]
      by_cases own : source.same testCase.sourceFile = true
      · have kept : (rest.map fun other => (⟨other, if other.same testCase.sourceFile then held other ++ [testCase]
            else held other⟩ : Group)) = rest.map fun other => ⟨other, held other⟩ := by
          refine List.map_congr_left fun other inside => ?_
          have different : other.same testCase.sourceFile = false := by
            rw [same_comm, ← same_left source testCase.sourceFile other own]
            exact apart other inside
          rw [different]
          rfl
        rw [if_pos own, if_pos ⟨source, List.mem_cons_self .., own⟩, List.map_cons, if_pos own, kept, List.append_nil]
      · have elsewhere : (∃ other ∈ source :: rest, other.same testCase.sourceFile = true) ↔
            ∃ other ∈ rest, other.same testCase.sourceFile = true := by simp [own]
        rw [if_neg own, List.map_cons, if_neg own, step others, List.cons_append]
        simp only [elsewhere]

theorem group_by_source (cases : List TestCase) :
    groupBySource cases = (sourcesOf cases).map fun source => ⟨source, casesOf cases source⟩ := by
  induction cases using List.reverseRecOn with
  | nil => rfl
  | append_singleton front testCase step =>
      rw [groupBySource, List.foldl_append, ← groupBySource, step, List.foldl_cons, List.foldl_nil,
        add_to_groups testCase _ _ (sources_distinct front), sources_append]
      have cases (source : Path) : casesOf (front ++ [testCase]) source =
          if source.same testCase.sourceFile then casesOf front source ++ [testCase] else casesOf front source := by
        rw [casesOf, List.filter_append]
        by_cases own : source.same testCase.sourceFile = true
        · simp [own, casesOf]
        · simp [own, casesOf]
      by_cases known : ∃ source ∈ sourcesOf front, source.same testCase.sourceFile = true
      · rw [if_pos known, if_pos known, List.append_nil]
        exact List.map_congr_left fun source _ => by rw [cases]
      · have new : casesOf front testCase.sourceFile = [] := by
          refine List.filter_eq_nil_iff.mpr fun other inside own => ?_
          obtain ⟨source, listed, same⟩ := source_listed front other inside
          refine known ⟨source, listed, ?_⟩
          rw [same_comm, same_left _ _ _ own, same_comm]
          exact same
        rw [if_neg known, if_neg known, List.map_append, List.map_singleton, cases, if_pos (same_refl _), new]
        refine congrArg (· ++ _) (List.map_congr_left fun source _ => ?_)
        rw [cases]

theorem group_shape (cases : List TestCase) (group : Group) (member : group ∈ groupBySource cases) :
    group.source ∈ sourcesOf cases ∧ group.cases = casesOf cases group.source := by
  rw [group_by_source] at member
  obtain ⟨source, listed, rfl⟩ := List.mem_map.mp member
  exact ⟨listed, rfl⟩

theorem group_alone (cases : List TestCase) (group : Group) (member : group ∈ groupBySource cases) :
    groupBySource group.cases = [group] := by
  obtain ⟨listed, own⟩ := group_shape cases group member
  obtain ⟨first, rest, found, source⟩ := source_appears cases group.source listed
  have whole : ∀ testCase ∈ first :: rest, first.sourceFile.same testCase.sourceFile = true := by
    intro testCase inside
    rw [← found] at inside
    rw [source]
    exact (List.mem_filter.mp inside).2
  have single : sourcesOf (first :: rest) = [first.sourceFile] := by
    rw [sourcesOf, List.cons_inj_right, List.filter_eq_nil_iff]
    intro other inside
    obtain ⟨one, _, appears, rfl⟩ := source_appears rest other inside
    have later : one ∈ casesOf rest one.sourceFile := appears ▸ List.mem_cons_self ..
    simp [whole one (List.mem_cons_of_mem _ (List.mem_filter.mp later).1)]
  rw [own, found, group_by_source, single, List.map_singleton, casesOf, List.filter_eq_self.mpr whole, source,
    ← found, ← own]

theorem groups_apart (cases : List TestCase) :
    (groupBySource cases).Pairwise fun a b => ∀ testCase ∈ a.cases, testCase ∉ b.cases := by
  rw [group_by_source, List.pairwise_map]
  refine (sources_distinct cases).imp fun {a b} different testCase one other => ?_
  have left : a.same testCase.sourceFile = true := (List.mem_filter.mp one).2
  have right : b.same testCase.sourceFile = true := (List.mem_filter.mp other).2
  rw [same_comm, ← same_left b testCase.sourceFile a right, same_comm, different] at left
  exact Bool.false_ne_true left

theorem case_grouped (cases : List TestCase) (testCase : TestCase) (member : testCase ∈ cases) :
    ∃ group ∈ groupBySource cases, testCase ∈ group.cases := by
  obtain ⟨source, listed, same⟩ := source_listed cases testCase member
  rw [group_by_source]
  exact ⟨⟨source, casesOf cases source⟩, List.mem_map_of_mem listed, List.mem_filter.mpr ⟨member, same⟩⟩

end ScriptSuite.Run
