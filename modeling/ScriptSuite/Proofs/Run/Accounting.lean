import Mathlib.Data.List.Induction
import ScriptSuite.Proofs.Engine.Supervision
import ScriptSuite.Proofs.Result.Stream
import ScriptSuite.CommandLine.Numbering
import ScriptSuite.Run.Group

set_option autoImplicit false

namespace ScriptSuite.Run

open Discovery Engine FileSystem Result Text

/-- Tests begin and end in turn, with messages at any time. The first and the last argument are the tests that are open
before and after. -/
inductive Turns : Option TestCase → List Report → Option TestCase → Prop where
  | done (current : Option TestCase) : Turns current [] current
  | message {current last : Option TestCase} {rest : List Report} (level : Level) (text : String)
      (later : Turns current rest last) : Turns current (.message level text :: rest) last
  | started {last : Option TestCase} {rest : List Report} (testCase : TestCase)
      (later : Turns (some testCase) rest last) : Turns none (.started testCase :: rest) last
  | result {testCase : TestCase} {last : Option TestCase} {rest : List Report} (result : TestResult)
      (own : result.testCase = testCase) (later : Turns none rest last) :
      Turns (some testCase) (.result result :: rest) last

theorem turns_append {first middle last : Option TestCase} {left right : List Report} (before : Turns first left middle)
    (after : Turns middle right last) : Turns first (left ++ right) last := by
  induction before with
  | done => exact after
  | message level text _ step => exact .message level text (step after)
  | started testCase _ step => exact .started testCase (step after)
  | result result own _ step => exact .result result own (step after)

theorem turns_unique {first left right : Option TestCase} {reports : List Report} (one : Turns first reports left)
    (other : Turns first reports right) : left = right := by
  induction one with
  | done =>
      cases other
      rfl
  | message _ _ _ step =>
      cases other with
      | message _ _ later => exact step later
  | started _ _ step =>
      cases other with
      | started _ later => exact step later
  | result _ _ _ step =>
      cases other with
      | result _ _ later => exact step later

theorem turns_messages (current : Option TestCase) (reports : List Report)
    (silent : ∀ report ∈ reports, ∃ level text, report = .message level text) : Turns current reports current := by
  induction reports with
  | nil => exact .done current
  | cons report rest step =>
      obtain ⟨level, text, rfl⟩ := silent report (List.mem_cons_self ..)
      exact .message level text (step fun other inside => silent other (List.mem_cons_of_mem _ inside))

def informational (reports : List Report) : List String :=
  reports.filterMap fun report =>
    match report with
    | .message .informational text => some text
    | _ => none

def spoken (line : String) : List Report :=
  if line = "" then [] else [.message .informational line]

-- Each line is reported itself, if it is not empty, and then the tests that it ends and begins.
def heardReports (lines : List String) (events : List (List StreamEvent)) : List Report :=
  (List.zipWith (fun line events => spoken line ++ events.map Report.ofEvent) lines events).flatten

theorem informational_append (left right : List Report) :
    informational (left ++ right) = informational left ++ informational right :=
  List.filterMap_append

theorem informational_events (events : List StreamEvent) : informational (events.map Report.ofEvent) = [] := by
  induction events with
  | nil => rfl
  | cons event rest step => cases event <;> exact step

theorem informational_spoken (line : String) : informational (spoken line) = [line].filter (· ≠ "") := by
  by_cases empty : line = ""
  · rw [spoken, if_pos empty, empty]
    rfl
  · rw [spoken, if_neg empty]
    simp [informational, empty]

theorem turns_spoken (current : Option TestCase) (line : String) : Turns current (spoken line) current := by
  by_cases empty : line = ""
  · rw [spoken, if_pos empty]
    exact .done current
  · rw [spoken, if_neg empty]
    exact .message .informational line (.done current)

section

variable (protocol : Protocol) (cases : List TestCase)

theorem turns_closed (result : Option TestResult) :
    Turns (result.map (·.testCase)) (((result.map StreamEvent.finished).toList).map Report.ofEvent) none := by
  cases result with
  | none => exact .done none
  | some result => exact .result result rfl (.done none)

theorem feed_turns (state : StreamState) (line : String) :
    Turns (state.current.map (·.testCase)) ((state.feed protocol cases line).2.map Report.ofEvent)
      ((state.feed protocol cases line).1.current.map (·.testCase)) := by
  rw [StreamState.feed, StreamState.feedLine]
  by_cases broken : (state.inError || protocol.isFatal (Protocol.dropReturn line)) = true
  · rw [if_pos broken]
    exact .done _
  · rw [if_neg broken]
    cases protocol.markedName? (Protocol.dropReturn line) with
    | none =>
        have kept : (state.current.map fun result => result.extend (Protocol.dropReturn line)
            (protocol.isFailure (Protocol.dropReturn line))).map (·.testCase) = state.current.map (·.testCase) := by
          cases state.current with
          | none => rfl
          | some result =>
              by_cases failure : protocol.isFailure (Protocol.dropReturn line) = true
              · simp [TestResult.extend, failure]
              · simp [TestResult.extend, failure]
        dsimp only
        rw [kept]
        exact .done _
    | some name =>
        dsimp only
        rw [StreamState.mark]
        cases StreamState.caseNamed? cases name with
        | none => exact turns_closed state.current
        | some testCase =>
            dsimp only
            rw [List.map_append]
            exact turns_append (turns_closed state.current) (.started testCase (.done _))

theorem run_lines_turns (state : StreamState) (lines : List String) :
    Turns (state.current.map (·.testCase)) (heardReports lines (runLines (StreamState.feed protocol cases) state lines).2)
      ((runLines (StreamState.feed protocol cases) state lines).1.current.map (·.testCase)) := by
  induction lines generalizing state with
  | nil => exact .done _
  | cons line rest step =>
      rw [runLines, heardReports, List.zipWith_cons_cons, List.flatten_cons]
      exact turns_append (turns_append (turns_spoken _ line) (feed_turns protocol cases state line)) (step _)

theorem run_lines_informational (state : StreamState) (lines : List String) :
    informational (heardReports lines (runLines (StreamState.feed protocol cases) state lines).2) =
      lines.filter (· ≠ "") := by
  induction lines generalizing state with
  | nil => rfl
  | cons line rest step =>
      have later := step (state.feed protocol cases line).1
      rw [heardReports] at later
      rw [runLines, heardReports, List.zipWith_cons_cons, List.flatten_cons, informational_append, informational_append,
        informational_spoken, informational_events, later, List.append_nil, ← List.filter_append]
      rfl

theorem feed_in_error (state : StreamState) (line : String) :
    (state.feed protocol cases line).1.inError = (state.inError || protocol.isFatal (Protocol.dropReturn line)) := by
  rw [StreamState.feed, StreamState.feedLine]
  by_cases broken : (state.inError || protocol.isFatal (Protocol.dropReturn line)) = true
  · rw [if_pos broken, broken]
    simp [StreamState.inError]
  · rw [if_neg broken]
    have calm : state.inError = false := by
      rw [Bool.or_eq_true, not_or] at broken
      exact Bool.eq_false_iff.mpr broken.1
    rw [Bool.eq_false_iff.mpr broken]
    cases protocol.markedName? (Protocol.dropReturn line) with
    | none => exact calm
    | some name =>
        dsimp only
        rw [StreamState.mark]
        cases StreamState.caseNamed? cases name <;> exact calm

theorem run_lines_in_error (state : StreamState) (lines : List String) :
    (runLines (StreamState.feed protocol cases) state lines).1.inError =
      (state.inError || lines.any fun line => protocol.isFatal (Protocol.dropReturn line)) := by
  induction lines generalizing state with
  | nil => rw [runLines, List.any_nil, Bool.or_false]
  | cons line rest step => rw [runLines, step, feed_in_error, List.any_cons, Bool.or_assoc]

theorem execution_error_none_iff (lines : List String) :
    (runLines (StreamState.feed protocol cases) .initial lines).1.finish.executionError = none ↔
      ∀ line ∈ lines, ¬protocol.Fatal (Protocol.dropReturn line) := by
  have broken := run_lines_in_error protocol cases .initial lines
  rw [show StreamState.initial.inError = false from rfl, Bool.false_or] at broken
  rw [StreamState.finish]
  dsimp only
  rw [broken, ite_eq_right_iff]
  simp [Protocol.is_fatal_iff]

end

theorem fatal_stripped_iff (protocol : Protocol) (unreturned : ∀ front, protocol.fatalMarker.toList ≠ front ++ ['\r'])
    (line : String) : protocol.Fatal (Protocol.dropReturn line) ↔ protocol.Fatal line := by
  have stripped := Protocol.drop_return_stripped line
  generalize Protocol.dropReturn line = plain at stripped
  rcases stripped with longer | ⟨same, _⟩
  · rw [Protocol.Fatal, Protocol.Fatal, longer]
    constructor
    · exact fun inside => inside.trans (List.infix_append [] _ _)
    · rintro ⟨before, after, whole⟩
      cases after using List.reverseRecOn with
      | nil =>
          rw [List.append_nil] at whole
          cases marker : protocol.fatalMarker.toList using List.reverseRecOn with
          | nil => exact List.nil_infix
          | append_singleton front last =>
              rw [marker, ← List.append_assoc] at whole
              obtain ⟨_, ends⟩ := List.append_inj' whole rfl
              exact absurd (marker.trans (by rw [ends])) (unreturned front)
      | append_singleton front last =>
          rw [← List.append_assoc] at whole
          obtain ⟨ends, _⟩ := List.append_inj' whole rfl
          exact ⟨before, front, ends⟩
  · rw [same]

theorem add_all_append (journal : Journal) (setup : Setup) (left right : List Report) :
    journal.addAll setup (left ++ right) = (journal.addAll setup left).addAll setup right :=
  List.foldl_append

theorem add_all_reports (journal : Journal) (setup : Setup) (reports : List Report) :
    (journal.addAll setup reports).reports = journal.reports ++ reports := by
  induction reports generalizing journal with
  | nil => exact (List.append_nil _).symm
  | cons report rest step =>
      rw [Journal.addAll, List.foldl_cons, ← Journal.addAll, step, Journal.add, List.append_assoc]
      rfl

theorem hear_all (setup : Setup) (cases : List TestCase) (listening : Listening) (lines : List String) :
    lines.foldl (Listening.hear setup cases) listening =
      ⟨(runLines (StreamState.feed setup.settings.protocol cases) listening.stream lines).1,
        listening.journal.addAll setup
          (heardReports lines (runLines (StreamState.feed setup.settings.protocol cases) listening.stream lines).2)⟩ := by
  induction lines generalizing listening with
  | nil => rfl
  | cons line rest step =>
      rw [List.foldl_cons, step, runLines]
      dsimp only
      rw [heardReports, heardReports, List.zipWith_cons_cons, List.flatten_cons, add_all_append]
      rfl

def supervised (setup : Setup) (cases : List TestCase) (cancelled : Bool) (trace : Trace) : Supervision :=
  Supervision.final setup.limits (Listening.hear setup cases) (·.journal.cancelled) ⟨.initial, ⟨[], cancelled⟩⟩ trace

theorem run_staged_reports (setup : Setup) (cases : List TestCase) (disk : Disk) (journal : Journal) (staged : Path)
    (trace : Trace)
    (starts : start setup.launcher disk (.build setup.settings.engine setup.installDirectory staged
      setup.engineArguments) = .ok trace) :
    let last := supervised setup cases journal.cancelled trace
    let stream := runLines (StreamState.feed setup.settings.protocol cases) .initial last.delivered
    let exit := (aftermath setup.limits trace last).exit
    let reports := heardReports last.delivered stream.2 ++ closingReports stream.1.finish exit
    (runStaged setup cases disk journal staged).journal.reports = journal.reports ++ reports ∧
      (runStaged setup cases disk journal staged).outcome =
        .ok (outcomeOf exit stream.1.finish.executionError reports) := by
  dsimp only
  obtain ⟨heard, _⟩ := Supervision.supervise_hears setup.limits (Listening.hear setup cases) (·.journal.cancelled)
    ⟨.initial, ⟨[], journal.cancelled⟩⟩ trace
  rw [← supervised, hear_all] at heard
  have own := add_all_reports ⟨[], journal.cancelled⟩ setup
    (heardReports (supervised setup cases journal.cancelled trace).delivered
        (runLines (StreamState.feed setup.settings.protocol cases) .initial
          (supervised setup cases journal.cancelled trace).delivered).2 ++
      closingReports (runLines (StreamState.feed setup.settings.protocol cases) .initial
        (supervised setup cases journal.cancelled trace).delivered).1.finish
        (aftermath setup.limits trace (supervised setup cases journal.cancelled trace)).exit)
  rw [List.nil_append, add_all_append] at own
  rw [runStaged, starts]
  dsimp only
  rw [heard]
  dsimp only
  rw [own]
  exact ⟨rfl, rfl⟩

theorem closing_turns (ending : StreamEnd) (exit : Exit) :
    Turns (ending.lastResult.map (·.testCase)) (closingReports ending exit) none := by
  have last : ∀ last : Option TestResult, last.map (·.testCase) = ending.lastResult.map (·.testCase) →
      Turns (ending.lastResult.map (·.testCase)) (last.map Report.result).toList none := by
    intro last same
    rw [← same]
    cases last with
    | none => exact .done none
    | some result => exact .result result rfl (.done none)
  refine turns_append (turns_append (last _ ?_) (turns_messages none _ ?_)) (turns_messages none _ ?_)
  · cases ending.lastResult with
    | none => rfl
    | some result => cases exit.stopped <;> rfl
  · intro report inside
    split at inside
    · exact absurd inside List.not_mem_nil
    · exact ⟨_, _, List.mem_singleton.mp inside⟩
  · intro report inside
    obtain ⟨text, _, rfl⟩ := Option.map_eq_some_iff.mp (Option.mem_toList.mp inside)
    exact ⟨_, _, rfl⟩

theorem closing_informational (ending : StreamEnd) (exit : Exit) : informational (closingReports ending exit) = [] := by
  rw [closingReports, informational_append, informational_append]
  have result : ∀ last : Option TestResult, informational (last.map Report.result).toList = [] := by
    intro last
    cases last <;> rfl
  have error : ∀ text : Option String, informational (text.map (Report.message .error)).toList = [] := by
    intro text
    cases text <;> rfl
  rw [result, error]
  split <;> rfl

theorem outcome_completed_iff (exit : Exit) (executionError : Option String) (reports : List Report)
    (passed failed : Nat) :
    outcomeOf exit executionError reports = .completed passed failed ↔
      exit.stopped = none ∧ executionError = none ∧ passed = passedCount reports ∧ failed = failedCount reports := by
  unfold outcomeOf
  cases exit.stopped with
  | some reason => cases reason <;> simp
  | none =>
      cases executionError with
      | some error => simp
      | none => simp [eq_comm]

/-- Whatever the engine says and however it ends: tests begin and end in turn and none stays open, a test that a stop
leaves open has failed with the message of the stop, every line that is not empty is reported once and before the tests
that it ends and begins, and the group is complete with the counts of its results, unless the engine was stopped or a
line was fatal. -/
theorem staged_tests_accounted (setup : Setup) (cases : List TestCase) (disk : Disk) (journal : Journal) (staged : Path)
    (trace : Trace)
    (starts : start setup.launcher disk (.build setup.settings.engine setup.installDirectory staged
      setup.engineArguments) = .ok trace) :
    let last := supervised setup cases journal.cancelled trace
    let exit := (aftermath setup.limits trace last).exit
    let lines := last.delivered
    let heard := heardReports lines (runLines (StreamState.feed setup.settings.protocol cases) .initial lines).2
    (lines <+: trace.lines ∧ (last.ending ≠ some .killed → lines = trace.lines)) ∧
      ∃ closing outcome,
        (runStaged setup cases disk journal staged).journal.reports = journal.reports ++ (heard ++ closing) ∧
        (runStaged setup cases disk journal staged).outcome = .ok outcome ∧
        Turns none (heard ++ closing) none ∧
        informational (heard ++ closing) = lines.filter (· ≠ "") ∧
        (∀ reason testCase, exit.stopped = some reason → Turns none heard (some testCase) →
          ∃ result rest, closing = .result result :: rest ∧ result.testCase = testCase ∧ result.outcome = .failed ∧
            result.errorMessage = some reason.message) ∧
        (∀ passed failed, outcome = .completed passed failed ↔
          exit.stopped = none ∧ (∀ line ∈ lines, ¬setup.settings.protocol.Fatal (Protocol.dropReturn line)) ∧
            passed = passedCount (heard ++ closing) ∧ failed = failedCount (heard ++ closing)) ∧
        ((∀ front, setup.settings.protocol.fatalMarker.toList ≠ front ++ ['\r']) → ∀ line ∈ lines,
          (setup.settings.protocol.Fatal (Protocol.dropReturn line) ↔ setup.settings.protocol.Fatal line)) := by
  dsimp only
  obtain ⟨_, delivered⟩ := Supervision.supervise_hears setup.limits (Listening.hear setup cases) (·.journal.cancelled)
    ⟨.initial, ⟨[], journal.cancelled⟩⟩ trace
  obtain ⟨reports, outcome⟩ := run_staged_reports setup cases disk journal staged trace starts
  rw [← supervised] at delivered
  generalize (aftermath setup.limits trace (supervised setup cases journal.cancelled trace)).exit = exit at *
  generalize (supervised setup cases journal.cancelled trace).delivered = lines at *
  have turns := run_lines_turns setup.settings.protocol cases .initial lines
  have told := run_lines_informational setup.settings.protocol cases .initial lines
  have errors := execution_error_none_iff setup.settings.protocol cases lines
  generalize runLines (StreamState.feed setup.settings.protocol cases) .initial lines = stream at *
  refine ⟨delivered, closingReports stream.1.finish exit, _, reports, outcome,
    turns_append turns (closing_turns stream.1.finish exit), ?_, ?_, ?_, ?_⟩
  · rw [informational_append, told, closing_informational, List.append_nil]
  · intro reason testCase stopped stillOpen
    have same := turns_unique turns stillOpen
    obtain ⟨result, current, rfl⟩ := Option.map_eq_some_iff.mp same
    obtain ⟨rest, closing⟩ : ∃ rest, closingReports stream.1.finish exit =
        .result (result.interrupted reason.message) :: rest := by
      rw [closingReports, StreamState.finish, current, stopped]
      exact ⟨_, rfl⟩
    exact ⟨result.interrupted reason.message, rest, closing, rfl, rfl, rfl⟩
  · intro passed failed
    rw [outcome_completed_iff, errors]
  · exact fun unreturned line _ => fatal_stripped_iff setup.settings.protocol unreturned line

def signInCase : TestCase :=
  ⟨"logs in", ⟨"/suite/login.js"⟩, ⟨1, 0⟩⟩

def suiteDisk : Disk where
  entries := [("suite", .directory [("login.js", .file [] 0o644)]), ("staging", .directory [])]
  workingDirectory := []

def playedTrace (output : String) (code : Int) (disk : Disk) : Trace :=
  ⟨[⟨0, .output output.toUTF8.toList⟩], 1, some code, disk⟩

def playedSetup (protocol : Protocol) (output : String) (code : Int) (cancelsOn : Report → Bool) : Setup where
  settings := { protocol, staging := { root := some ⟨"/staging"⟩ } }
  programDirectory := ⟨"/adapter"⟩
  engineArguments := []
  launcher disk _ := .ok (playedTrace output code disk)
  naming _ := CommandLine.numbered
  cancelsOn := cancelsOn

def cancelledSetup : Setup :=
  playedSetup {} "# logs in\nworking\n" 0 fun report => report = .message .informational "working"

theorem cancelled_test_accounted :
    start cancelledSetup.launcher suiteDisk (.build {} cancelledSetup.installDirectory ⟨"/staged.js"⟩ []) =
        .ok (playedTrace "# logs in\nworking\n" 0 suiteDisk) ∧
      (∃ heard closing,
        (runStaged cancelledSetup [signInCase] suiteDisk ⟨[], false⟩ ⟨"/staged.js"⟩).journal.reports =
          heard ++ closing ∧
        Turns none (heard ++ closing) none ∧
        ∃ result rest, closing = .result result :: rest ∧ result.testCase = signInCase ∧ result.outcome = .failed ∧
          result.errorMessage = some "run cancelled") := by
  have starts : start cancelledSetup.launcher suiteDisk (.build {} cancelledSetup.installDirectory ⟨"/staged.js"⟩ []) =
      .ok (playedTrace "# logs in\nworking\n" 0 suiteDisk) := by rfl
  obtain ⟨_, closing, _, reports, _, turns, _, interrupted, _⟩ :=
    staged_tests_accounted cancelledSetup [signInCase] suiteDisk ⟨[], false⟩ ⟨"/staged.js"⟩ _ starts
  refine ⟨starts, _, closing, reports, turns, interrupted .cancelled signInCase (by decide +kernel) ?_⟩
  have heard : heardReports (supervised cancelledSetup [signInCase] false
        (playedTrace "# logs in\nworking\n" 0 suiteDisk)).delivered
      (runLines (StreamState.feed cancelledSetup.settings.protocol [signInCase]) .initial
        (supervised cancelledSetup [signInCase] false
          (playedTrace "# logs in\nworking\n" 0 suiteDisk)).delivered).2 =
      [.message .informational "# logs in", .started signInCase, .message .informational "working"] := by
    decide +kernel
  rw [heard]
  exact .message _ _ (.started _ (.message _ _ (.done _)))

def returnMarkerSetup : Setup :=
  playedSetup { fatalMarker := "boom\r" } "boom\r\r\n" 0 fun _ => false

/-- A line loses a return at its end before the fatal marker is looked for, and with it the end of such a marker: the
line holds the marker, and the group is complete. -/
theorem returned_fatal_marker_completes :
    (supervised returnMarkerSetup [] false (playedTrace "boom\r\r\n" 0 suiteDisk)).delivered = ["boom\r"] ∧
      returnMarkerSetup.settings.protocol.Fatal "boom\r" ∧
      (aftermath returnMarkerSetup.limits (playedTrace "boom\r\r\n" 0 suiteDisk)
        (supervised returnMarkerSetup [] false (playedTrace "boom\r\r\n" 0 suiteDisk))).exit.stopped = none ∧
      (runStaged returnMarkerSetup [] suiteDisk ⟨[], false⟩ ⟨"/staged.js"⟩).outcome.toOption =
        some (.completed 0 0) := by
  refine ⟨by decide +kernel, ?_, by decide +kernel, by decide +kernel⟩
  exact (Protocol.is_fatal_iff _ _).mp (by decide +kernel)

end ScriptSuite.Run
