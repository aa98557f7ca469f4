import ScriptSuite.Proofs.Result.Batch

set_option autoImplicit false

namespace ScriptSuite.Result

open Discovery

def runLines (feed : StreamState → String → StreamState × List StreamEvent) :
    StreamState → List String → StreamState × List (List StreamEvent)
  | state, [] => (state, [])
  | state, line :: rest =>
      let fed := feed state line
      let later := runLines feed fed.1 rest
      (later.1, fed.2 :: later.2)

def silence (lines : List String) : List (List StreamEvent) :=
  lines.map fun _ => []

def finishedResults (events : List StreamEvent) : List TestResult :=
  events.filterMap fun event =>
    match event with
    | .finished result => some result
    | .started _ => none

section

variable (protocol : Protocol) (cases : List TestCase)

def markerEvents (previous : Option TestResult) (segment : Segment) : List StreamEvent :=
  (previous.map .finished).toList ++ ((segment.case? cases).map .started).toList

def segmentEvents : Option TestResult → List Segment → List (List StreamEvent)
  | _, [] => []
  | previous, segment :: rest =>
      markerEvents cases previous segment :: silence segment.body ++
        segmentEvents (segment.result? protocol cases) rest

def lastOpen : Option TestResult → List Segment → Option TestResult
  | previous, [] => previous
  | _, segment :: rest => lastOpen (segment.result? protocol cases) rest

theorem run_feed (state : StreamState) (lines : List String) :
    runLines (StreamState.feed protocol cases) state lines =
      runLines (StreamState.feedLine protocol cases) state (lines.map Protocol.dropReturn) := by
  induction lines generalizing state with
  | nil => rfl
  | cons line rest step => rw [List.map_cons, runLines, runLines, StreamState.feed, step]

theorem run_append (feed : StreamState → String → StreamState × List StreamEvent) (state : StreamState)
    (left right : List String) :
    runLines feed state (left ++ right) =
      ((runLines feed (runLines feed state left).1 right).1,
        (runLines feed state left).2 ++ (runLines feed (runLines feed state left).1 right).2) := by
  induction left generalizing state with
  | nil => rfl
  | cons line rest step => rw [List.cons_append, runLines, runLines, step, List.cons_append]

theorem case_named (name : String) :
    StreamState.caseNamed? cases name =
      (cases.filter fun testCase => testCase.displayName = name).getLast? := by
  rw [StreamState.caseNamed?, ← List.head?_filter, List.filter_reverse, List.head?_reverse]
  rfl

theorem calm_goes_on (current : Option TestResult) (line : String) (calm : ¬protocol.Fatal line) :
    ¬(StreamState.inError ⟨current, []⟩ || protocol.isFatal line) = true := by
  have notFatal : protocol.isFatal line = false :=
    Bool.eq_false_iff.mpr fun fatal => calm ((Protocol.is_fatal_iff protocol line).mp fatal)
  simp [StreamState.inError, notFatal]

theorem feed_line_plain (current : Option TestResult) (line : String) (calm : ¬protocol.Fatal line)
    (unmarked : ∀ name, ¬protocol.Marks line name) :
    StreamState.feedLine protocol cases ⟨current, []⟩ line =
      (⟨current.map fun result => result.extend line (protocol.isFailure line), []⟩, []) := by
  rw [StreamState.feedLine, if_neg (calm_goes_on protocol current line calm),
    (Protocol.unmarked_iff protocol line).mpr unmarked]

theorem feed_line_marker (current : Option TestResult) (segment : Segment) (calm : ¬protocol.Fatal segment.marker)
    (marks : protocol.Marks segment.marker segment.name) :
    StreamState.feedLine protocol cases ⟨current, []⟩ segment.marker =
      (⟨(segment.case? cases).map (TestResult.started · segment.marker), []⟩,
        markerEvents cases current segment) := by
  have named := (Protocol.marked_name_iff protocol segment.marker segment.name).mpr marks
  have known : StreamState.caseNamed? cases segment.name = segment.case? cases := case_named cases segment.name
  rw [StreamState.feedLine, if_neg (calm_goes_on protocol current segment.marker calm), named]
  dsimp only
  rw [StreamState.mark, known, markerEvents]
  cases segment.case? cases with
  | none => exact congrArg (Prod.mk _) (List.append_nil _).symm
  | some testCase => rfl

theorem feed_line_broken (current : Option TestResult) (errors : List String) (line : String)
    (broken : errors ≠ [] ∨ protocol.Fatal line) :
    StreamState.feedLine protocol cases ⟨current, errors⟩ line = (⟨current, errors ++ [line]⟩, []) := by
  have stops : (StreamState.inError ⟨current, errors⟩ || protocol.isFatal line) = true := by
    rw [Bool.or_eq_true]
    rcases broken with before | fatal
    · exact .inl (by simp [StreamState.inError, before])
    · exact .inr ((Protocol.is_fatal_iff protocol line).mpr fatal)
  rw [StreamState.feedLine, if_pos stops]

theorem run_broken (current : Option TestResult) (errors lines : List String)
    (broken : errors ≠ [] ∨ ∀ line ∈ lines.head?, protocol.Fatal line) :
    runLines (StreamState.feedLine protocol cases) ⟨current, errors⟩ lines =
      (⟨current, errors ++ lines⟩, silence lines) := by
  induction lines generalizing errors with
  | nil =>
      rw [runLines, List.append_nil]
      rfl
  | cons line rest step =>
      have first := feed_line_broken protocol cases current errors line
        (broken.imp id fun fatal => fatal line rfl)
      rw [runLines, first, step (errors ++ [line]) (.inl (by simp)), List.append_assoc, List.singleton_append]
      rfl

def extended (result : TestResult) (body : List String) : TestResult :=
  { testCase := result.testCase
    outcome := if ∃ line ∈ body, protocol.Failure line then .failed else result.outcome
    errorMessage := (body.filter fun line => protocol.Failure line).getLast?.or result.errorMessage
    rawLines := result.rawLines ++ body }

theorem extended_nil (result : TestResult) : extended protocol result [] = result := by
  simp [extended]

theorem extended_cons (result : TestResult) (line : String) (rest : List String) :
    extended protocol (result.extend line (protocol.isFailure line)) rest = extended protocol result (line :: rest) := by
  by_cases failure : protocol.Failure line
  · have marked : protocol.isFailure line = true := (Protocol.is_failure_iff protocol line).mpr failure
    simp [extended, TestResult.extend, marked, failure, List.getLast?_cons]
  · have unmarked : protocol.isFailure line = false :=
      Bool.eq_false_iff.mpr fun marked => failure ((Protocol.is_failure_iff protocol line).mp marked)
    simp [extended, TestResult.extend, unmarked, failure]

theorem extended_started (testCase : TestCase) (segment : Segment) :
    extended protocol (.started testCase segment.marker) segment.body = resultOf protocol testCase segment := by
  simp [extended, resultOf, TestResult.started, Segment.lines]

theorem run_body (current : Option TestResult) (body : List String)
    (calm : ∀ line ∈ body, ¬protocol.Fatal line) (unmarked : ∀ line ∈ body, ∀ name, ¬protocol.Marks line name) :
    runLines (StreamState.feedLine protocol cases) ⟨current, []⟩ body =
      (⟨current.map (extended protocol · body), []⟩, silence body) := by
  induction body generalizing current with
  | nil => simp [runLines, silence, extended_nil]
  | cons line rest step =>
      have first := feed_line_plain protocol cases current line (calm line (List.mem_cons_self ..))
        (unmarked line (List.mem_cons_self ..))
      rw [runLines, first, step _ (fun other inside => calm other (List.mem_cons_of_mem _ inside))
        (fun other inside => unmarked other (List.mem_cons_of_mem _ inside)), Option.map_map]
      simp only [Function.comp_def, extended_cons]
      rfl

theorem run_segment (previous : Option TestResult) (segment : Segment)
    (calm : ∀ line ∈ segment.lines, ¬protocol.Fatal line) (marked : segment.Marked protocol) :
    runLines (StreamState.feedLine protocol cases) ⟨previous, []⟩ segment.lines =
      (⟨segment.result? protocol cases, []⟩, markerEvents cases previous segment :: silence segment.body) := by
  have first := feed_line_marker protocol cases previous segment (calm segment.marker (List.mem_cons_self ..))
    marked.marks
  rw [Segment.lines, runLines, first, run_body protocol cases _ segment.body
    (fun line inside => calm line (List.mem_cons_of_mem _ inside)) marked.unmarked, Option.map_map]
  simp only [Function.comp_def, extended_started, Segment.result?]

theorem run_segments (previous : Option TestResult) (segments : List Segment)
    (calm : ∀ line ∈ segments.flatMap Segment.lines, ¬protocol.Fatal line)
    (marked : ∀ segment ∈ segments, segment.Marked protocol) :
    runLines (StreamState.feedLine protocol cases) ⟨previous, []⟩ (segments.flatMap Segment.lines) =
      (⟨lastOpen protocol cases previous segments, []⟩, segmentEvents protocol cases previous segments) := by
  induction segments generalizing previous with
  | nil => rfl
  | cons segment rest step =>
      rw [List.flatMap_cons] at calm ⊢
      rw [run_append, run_segment protocol cases previous segment
        (fun line inside => calm line (List.mem_append_left _ inside)) (marked segment (List.mem_cons_self ..)),
        step _ (fun line inside => calm line (List.mem_append_right _ inside))
        (fun other inside => marked other (List.mem_cons_of_mem _ inside))]
      rfl

def Batch.events (batch : Batch) : List (List StreamEvent) :=
  silence batch.opening ++ segmentEvents protocol cases none batch.segments ++ silence batch.broken

theorem run_batch (lines : List String) (batch : Batch) (cuts : batch.Cuts protocol lines) :
    runLines (StreamState.feedLine protocol cases) .initial batch.lines =
      (⟨lastOpen protocol cases none batch.segments, batch.broken⟩, batch.events protocol cases) := by
  have opened := run_body protocol cases none batch.opening
    (fun line inside => cuts.calm line (List.mem_append_left _ inside)) cuts.unmarked
  have segmented := run_segments protocol cases none batch.segments
    (fun line inside => cuts.calm line (List.mem_append_right _ inside)) cuts.marked
  have ended := run_broken protocol cases (lastOpen protocol cases none batch.segments) [] batch.broken
    (.inr cuts.fatal)
  rw [Batch.lines, Batch.calmLines, run_append, run_append, StreamState.initial, opened, Option.map_none, segmented,
    ended]
  rfl

theorem last_open (previous : Option TestResult) (segments : List Segment) :
    lastOpen protocol cases previous segments =
      (segments.getLast?.map (·.result? protocol cases)).getD previous := by
  induction segments generalizing previous with
  | nil => rfl
  | cons segment rest step =>
      rw [lastOpen, step, List.getLast?_cons]
      cases rest.getLast? <;> rfl

theorem finished_append (left right : List StreamEvent) :
    finishedResults (left ++ right) = finishedResults left ++ finishedResults right :=
  List.filterMap_append

theorem finished_silence (lines : List String) : finishedResults (silence lines).flatten = [] := by
  induction lines with
  | nil => rfl
  | cons line rest step => exact step

theorem finished_marker (previous : Option TestResult) (segment : Segment) :
    finishedResults (markerEvents cases previous segment) = previous.toList := by
  unfold markerEvents
  cases previous <;> cases segment.case? cases <;> rfl

theorem finished_segments (previous : Option TestResult) (segments : List Segment) :
    finishedResults (segmentEvents protocol cases previous segments).flatten ++
        (lastOpen protocol cases previous segments).toList =
      previous.toList ++ segments.filterMap (·.result? protocol cases) := by
  induction segments generalizing previous with
  | nil => exact (List.append_nil _).symm
  | cons segment rest step =>
      rw [segmentEvents, List.cons_append, List.flatten_cons, List.flatten_append, finished_append, finished_append,
        finished_marker, finished_silence, List.nil_append, lastOpen, List.append_assoc, step]
      cases known : segment.result? protocol cases <;> simp [known]

theorem finished_batch (batch : Batch) :
    finishedResults (batch.events protocol cases).flatten ++
        (lastOpen protocol cases none batch.segments).toList = batch.results protocol cases := by
  have segments := finished_segments protocol cases none batch.segments
  rw [Batch.events, List.flatten_append, List.flatten_append, finished_append, finished_append, finished_silence,
    finished_silence, List.nil_append, List.append_nil, segments]
  rfl

/-- Marker lines alone tell of tests, and from a fatal line on nothing is told until the end. -/
theorem feed_reads_batch (lines : List String) :
    let batch := batchOf protocol lines
    let run := runLines (StreamState.feed protocol cases) .initial lines
    batch.Cuts protocol lines ∧ run.2 = batch.events protocol cases ∧
      finishedResults run.2.flatten ++ run.1.finish.lastResult.toList = batch.results protocol cases ∧
      run.1.finish.lastResult = batch.segments.getLast?.bind (·.result? protocol cases) ∧
      run.1.finish.executionError =
        if batch.broken = [] then none else some (String.intercalate "\n" batch.broken) := by
  dsimp only
  have cuts := batch_cuts protocol lines
  have run := run_batch protocol cases lines (batchOf protocol lines) cuts
  rw [batch_lines, ← run_feed] at run
  rw [run]
  refine ⟨cuts, rfl, finished_batch protocol cases _, ?_, ?_⟩
  · rw [StreamState.finish, last_open]
    cases (batchOf protocol lines).segments.getLast? <;> rfl
  · unfold StreamState.finish StreamState.inError
    cases (batchOf protocol lines).broken <;> rfl

end

end ScriptSuite.Result
