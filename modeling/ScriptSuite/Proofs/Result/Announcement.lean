import ScriptSuite.Proofs.Result.Stream
import ScriptSuite.Text.Blank

set_option autoImplicit false

namespace ScriptSuite.Result

open Discovery Text

section

variable (protocol : Protocol) (cases : List TestCase)

theorem named_case_known (testCase : TestCase) (distinct : cases.Pairwise fun a b => a.displayName ≠ b.displayName)
    (member : testCase ∈ cases) : StreamState.caseNamed? cases testCase.displayName = some testCase := by
  induction cases with
  | nil => exact absurd member List.not_mem_nil
  | cons first rest step =>
      obtain ⟨apart, others⟩ := List.pairwise_cons.mp distinct
      rw [StreamState.caseNamed?, List.reverse_cons, List.find?_append]
      rcases List.mem_cons.mp member with rfl | later
      · have unknown : rest.reverse.find? (fun other => other.displayName == testCase.displayName) = none := by
          rw [List.find?_eq_none]
          intro other inside same
          exact apart other (List.mem_reverse.mp inside) (eq_of_beq same).symm
        rw [unknown, Option.none_or, List.find?_cons_of_pos (by simp)]
      · have known := step others later
        rw [StreamState.caseNamed?] at known
        rw [known, Option.some_or]

theorem known_case_named (name : String) (testCase : TestCase)
    (known : StreamState.caseNamed? cases name = some testCase) : testCase.displayName = name := by
  rw [StreamState.caseNamed?] at known
  simpa using List.find?_some known

theorem feed_marked (state : StreamState) (line name : String) (calm : state.inError = false)
    (peaceful : ¬protocol.Fatal line) (marks : protocol.Marks line name) :
    state.feedLine protocol cases line = state.mark cases name line := by
  have notFatal : protocol.isFatal line = false :=
    Bool.eq_false_iff.mpr fun fatal => peaceful ((Protocol.is_fatal_iff protocol line).mp fatal)
  rw [StreamState.feedLine, calm, notFatal, if_neg (by decide), (Protocol.marked_name_iff protocol line name).mpr marks]

theorem started_named (state : StreamState) (line : String) (testCase : TestCase)
    (starts : .started testCase ∈ (state.feedLine protocol cases line).2) :
    ¬protocol.Fatal line ∧ protocol.Marks line testCase.displayName := by
  rw [StreamState.feedLine] at starts
  by_cases broken : (state.inError || protocol.isFatal line) = true
  · rw [if_pos broken] at starts
    exact absurd starts List.not_mem_nil
  · rw [if_neg broken] at starts
    rw [Bool.or_eq_true, not_or] at broken
    refine ⟨fun fatal => broken.2 ((Protocol.is_fatal_iff protocol line).mpr fatal), ?_⟩
    cases marked : protocol.markedName? line with
    | none =>
        rw [marked] at starts
        exact absurd starts List.not_mem_nil
    | some name =>
        rw [marked] at starts
        dsimp only at starts
        have marks := (Protocol.marked_name_iff protocol line name).mp marked
        rw [StreamState.mark] at starts
        cases known : StreamState.caseNamed? cases name with
        | none =>
            rw [known] at starts
            simp at starts
        | some other =>
            rw [known] at starts
            have same : other = testCase := by
              simpa [eq_comm] using starts
            rw [same] at known
            rw [known_case_named cases name testCase known]
            exact marks

/-- The line of a test starts this test and no other, and ends the one before it: unless the line is fatal, or ends in
a carriage return of the name, which it loses. -/
theorem announcement_starts_iff (state : StreamState) (testCase : TestCase)
    (distinct : cases.Pairwise fun a b => a.displayName ≠ b.displayName) (member : testCase ∈ cases)
    (visible : isAllBlank testCase.displayName.toList = false) (calm : state.inError = false) :
    let fed := state.feed protocol cases (protocol.testMarker ++ testCase.displayName)
    fed.2 = (state.current.map .finished).toList ++ [.started testCase] ∧ fed.1.inError = false ↔
      ¬protocol.Fatal (protocol.testMarker ++ testCase.displayName) ∧
        ∀ front, testCase.displayName.toList ≠ front ++ ['\r'] := by
  dsimp only
  have nonempty : testCase.displayName ≠ "" := by
    intro empty
    rw [empty] at visible
    exact absurd visible (by decide)
  rw [StreamState.feed]
  have stripped := Protocol.drop_return_stripped (protocol.testMarker ++ testCase.displayName)
  generalize Protocol.dropReturn (protocol.testMarker ++ testCase.displayName) = plain at stripped
  constructor
  · rintro ⟨events, _⟩
    have starts : StreamEvent.started testCase ∈ (state.feedLine protocol cases plain).2 := by
      rw [events]
      simp
    obtain ⟨peaceful, _, marks⟩ := started_named protocol cases state plain testCase starts
    have whole : plain = protocol.testMarker ++ testCase.displayName :=
      String.toList_inj.mp (by rw [marks, String.toList_append])
    subst whole
    refine ⟨peaceful, fun front ends => ?_⟩
    rcases stripped with longer | ⟨_, kept⟩
    · exact absurd (congrArg List.length longer) (by simp)
    · refine kept (protocol.testMarker.toList ++ front) ?_
      rw [String.toList_append, ends, List.append_assoc]
  · rintro ⟨peaceful, unreturned⟩
    have whole : plain = protocol.testMarker ++ testCase.displayName := by
      rcases stripped with longer | ⟨same, _⟩
      · rw [String.toList_append] at longer
        have last := congrArg List.getLast? longer
        rw [List.getLast?_concat, List.getLast?_append_of_ne_nil _ (by simpa using nonempty)] at last
        obtain ⟨front, ends⟩ := List.getLast?_eq_some_iff.mp last
        exact absurd ends (unreturned front)
      · exact same
    have marks : protocol.Marks plain testCase.displayName := ⟨nonempty, by rw [whole, String.toList_append]⟩
    rw [feed_marked protocol cases state plain _ calm (whole ▸ peaceful) marks, StreamState.mark,
      named_case_known cases testCase distinct member]
    exact ⟨rfl, calm⟩

end

def loginCase : TestCase :=
  ⟨"logs in\t", ⟨"suite.js"⟩, ⟨1, 0⟩⟩

def crashCase : TestCase :=
  ⟨"shows a CasperError", ⟨"suite.js"⟩, ⟨2, 0⟩⟩

theorem login_announced :
    [crashCase, loginCase].Pairwise (fun a b => a.displayName ≠ b.displayName) ∧
      isAllBlank loginCase.displayName.toList = false ∧
      (StreamState.initial.feed {} [crashCase, loginCase] "# logs in\t").2 = [.started loginCase] ∧
      (StreamState.initial.feed {} [crashCase, loginCase] "# logs in\t").1.inError = false := by
  have distinct : [crashCase, loginCase].Pairwise fun a b => a.displayName ≠ b.displayName := by decide
  have starts := announcement_starts_iff {} [crashCase, loginCase] .initial loginCase distinct (by decide) (by decide)
    rfl
  refine ⟨distinct, by decide, starts.mpr ⟨?_, ?_⟩⟩
  · exact fun fatal => absurd ((Protocol.is_fatal_iff _ _).mpr fatal) (by decide)
  · intro front ends
    have last := congrArg List.getLast? ends
    rw [List.getLast?_concat] at last
    exact absurd last (by decide)

def returnCase : TestCase :=
  ⟨"logs out\r", ⟨"suite.js"⟩, ⟨3, 0⟩⟩

/-- The line of a test whose name holds the fatal marker is an execution error, and a return at the end of a name is
lost with the line: neither test is started. -/
theorem awkward_names_start_nothing :
    [crashCase, returnCase].Pairwise (fun a b => a.displayName ≠ b.displayName) ∧
      isAllBlank crashCase.displayName.toList = false ∧ isAllBlank returnCase.displayName.toList = false ∧
      StreamState.initial.inError = false ∧
      (StreamState.initial.feed {} [crashCase, returnCase] "# shows a CasperError").2 = [] ∧
      (StreamState.initial.feed {} [crashCase, returnCase] "# shows a CasperError").1.inError = true ∧
      (StreamState.initial.feed {} [crashCase, returnCase] "# logs out\r").2 = [] := by
  decide

end ScriptSuite.Result
