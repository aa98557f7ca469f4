import ScriptSuite.Proofs.Result.Announcement
import ScriptSuite.Proofs.Run.Accounting
import ScriptSuite.Proofs.Run.Session

set_option autoImplicit false

namespace ScriptSuite.Run

open Discovery Engine FileSystem Result Dependency Staging

def groupReports (protocol : Protocol) (cases : List TestCase) (lines : List String) (exit : Exit) : List Report :=
  let stream := runLines (StreamState.feed protocol cases) .initial lines
  heardReports lines stream.2 ++ closingReports stream.1.finish exit

def groupOutcome (protocol : Protocol) (cases : List TestCase) (lines : List String) (exit : Exit) : GroupOutcome :=
  outcomeOf exit (runLines (StreamState.feed protocol cases) .initial lines).1.finish.executionError
    (groupReports protocol cases lines exit)

section

variable (setup : Setup)

-- What the engine of a group does, if the group gets as far as an engine.
def engineTrace? (disk : Disk) (group : Group) : Option Trace :=
  match resolve disk setup.settings.resolver group.source with
  | .error _ => none
  | .ok files =>
      match stage (setup.naming group.source) disk setup.stagingRoot group.source (files.map (·.path)) with
      | (_, .error _) => none
      | (disk, .ok workspace) =>
          (start setup.launcher disk (.build setup.settings.engine setup.installDirectory workspace.entry
            setup.engineArguments)).toOption

-- The engine writes the marker line of the case, which is the last one of its file with this name.
def Announced (disk : Disk) (group : Group) (testCase : TestCase) : Prop :=
  (∃ trace, engineTrace? setup disk group = some trace ∧
    ∃ line ∈ trace.lines, setup.settings.protocol.Marks (Protocol.dropReturn line) testCase.displayName) ∧
    (group.cases.filter fun other => other.displayName = testCase.displayName).getLast? = some testCase

-- The reports and the outcome are those of the lines that were heard: all of them, unless the engine was stopped.
def Spoken (group : Group) (trace : Trace) (reports : List Report) (outcome : GroupOutcome) : Prop :=
  ∃ lines exit, (exit.stopped = none → lines = trace.lines) ∧
    reports = groupReports setup.settings.protocol group.cases lines exit ∧
    outcome = groupOutcome setup.settings.protocol group.cases lines exit

theorem run_group_speaks (group : Group) (disk : Disk) (cancelled : Bool) :
    let ended := runGroup setup group.source group.cases disk ⟨[], cancelled⟩
    (∃ error, ended.outcome = .error error ∧ ended.journal.reports = []) ∨
      ∃ trace outcome, engineTrace? setup disk group = some trace ∧ ended.outcome = .ok outcome ∧
        Spoken setup group trace ended.journal.reports outcome := by
  dsimp only
  rw [runGroup, engineTrace?]
  cases resolve disk setup.settings.resolver group.source with
  | error error => exact .inl ⟨_, rfl, rfl⟩
  | ok files =>
      dsimp only
      generalize stage (setup.naming group.source) disk setup.stagingRoot group.source (files.map (·.path)) = staged
      cases staged with
      | mk filled made =>
      cases made with
      | error error => exact .inl ⟨_, rfl, rfl⟩
      | ok workspace =>
          dsimp only
          cases starts : start setup.launcher filled (.build setup.settings.engine setup.installDirectory
              workspace.entry setup.engineArguments) with
          | error error =>
              rw [runStaged, starts]
              exact .inl ⟨_, rfl, rfl⟩
          | ok trace =>
              obtain ⟨reports, outcome⟩ :=
                run_staged_reports setup group.cases filled ⟨[], cancelled⟩ workspace.entry trace starts
              refine .inr ⟨trace, _, rfl, outcome, _, _, ?_, reports, rfl⟩
              rw [aftermath_stopped]
              exact Supervision.unstopped_heard _ _ _ _ trace

theorem failed_start_incomplete (error : GroupError) (passed failed : Nat) : error.outcome ≠ .completed passed failed := by
  unfold GroupError.outcome
  split <;> exact nofun

/-- A group either says what its engine says, or only why there is nothing to say. -/
theorem run_next_speaks (disk : Disk) (cancelled : Bool) (group : Group) :
    let next := runNext setup (.begin disk cancelled) group
    ∃ outcome, next.summary.groups = [⟨group.source, outcome⟩] ∧
      ((∀ passed failed, outcome ≠ .completed passed failed) ∧
          (∀ report ∈ next.journal.reports, ∃ level text, report = .message level text) ∨
        ∃ trace, engineTrace? setup disk group = some trace ∧ Spoken setup group trace next.journal.reports outcome) := by
  dsimp only
  rw [runNext, Session.begin]
  dsimp only
  cases cancelled with
  | true =>
      refine ⟨.cancelled, rfl, .inl ⟨fun passed failed => GroupOutcome.noConfusion, fun report inside => ?_⟩⟩
      exact absurd inside List.not_mem_nil
  | false =>
      rw [if_neg (by decide)]
      rcases run_group_speaks setup group disk false with ⟨error, failed, silent⟩ | ⟨trace, outcome, runs, ended, spoken⟩
      · rw [failed]
        refine ⟨_, rfl, .inl ⟨failed_start_incomplete error, fun report inside => ?_⟩⟩
        rcases List.mem_append.mp inside with earlier | own
        · exact absurd (silent ▸ earlier) List.not_mem_nil
        · exact ⟨_, _, List.mem_singleton.mp own⟩
      · rw [ended]
        exact ⟨outcome, rfl, .inr ⟨trace, runs, spoken⟩⟩

end

theorem turns_from_started {first last : Option TestCase} {reports : List Report} (turns : Turns first reports last)
    (result : TestResult) (told : .result result ∈ reports) :
    first = some result.testCase ∨ .started result.testCase ∈ reports := by
  induction turns with
  | done => exact absurd told List.not_mem_nil
  | message level text later step =>
      rcases List.mem_cons.mp told with same | inside
      · exact absurd same nofun
      · exact (step inside).imp id (List.mem_cons_of_mem _)
  | started testCase later step =>
      rcases List.mem_cons.mp told with same | inside
      · exact absurd same nofun
      · rcases step inside with here | there
        · exact .inr (Option.some.inj here ▸ List.mem_cons_self ..)
        · exact .inr (List.mem_cons_of_mem _ there)
  | result other own later step =>
      rcases List.mem_cons.mp told with same | inside
      · rw [Report.result.inj same, own]
        exact .inl rfl
      · rcases step inside with here | there
        · exact absurd here nofun
        · exact .inr (List.mem_cons_of_mem _ there)

theorem turns_to_result {first last : Option TestCase} {reports : List Report} (turns : Turns first reports last)
    (testCase : TestCase) (told : first = some testCase ∨ .started testCase ∈ reports) :
    last = some testCase ∨ ∃ result, .result result ∈ reports ∧ result.testCase = testCase := by
  induction turns with
  | done => exact .inl (told.resolve_right List.not_mem_nil)
  | message level text later step =>
      have inside := told.imp id fun there => (List.mem_cons.mp there).resolve_left Report.noConfusion
      exact (step inside).imp id fun ⟨result, there, own⟩ => ⟨result, List.mem_cons_of_mem _ there, own⟩
  | @started last reports other later step =>
      have inside : some other = some testCase ∨ .started testCase ∈ reports := by
        rcases told with open_ | there
        · exact absurd open_ nofun
        · rcases List.mem_cons.mp there with same | further
          · exact .inl (congrArg some (Report.started.inj same).symm)
          · exact .inr further
      exact (step inside).imp id fun ⟨result, there, own⟩ => ⟨result, List.mem_cons_of_mem _ there, own⟩
  | result result own later step =>
      rcases told with here | there
      · exact .inr ⟨result, List.mem_cons_self .., own.trans (Option.some.inj here)⟩
      · have inside := (List.mem_cons.mp there).resolve_left nofun
        exact (step (.inr inside)).imp id fun ⟨other, further, same⟩ => ⟨other, List.mem_cons_of_mem _ further, same⟩

theorem spoken_starts_nothing (line : String) (testCase : TestCase) : .started testCase ∉ spoken line := by
  unfold spoken
  split <;> simp

theorem event_started_iff (events : List StreamEvent) (testCase : TestCase) :
    .started testCase ∈ events.map Report.ofEvent ↔ .started testCase ∈ events := by
  constructor
  · intro inside
    obtain ⟨event, member, same⟩ := List.mem_map.mp inside
    cases event with
    | started other => exact Report.started.inj same ▸ member
    | finished result => exact absurd same nofun
  · exact List.mem_map_of_mem

section

variable (protocol : Protocol) (cases : List TestCase)

theorem feed_starts_iff (state : StreamState) (line : String) (calm : state.inError = false)
    (peaceful : ¬protocol.Fatal (Protocol.dropReturn line)) (testCase : TestCase) :
    .started testCase ∈ (state.feed protocol cases line).2 ↔
      ∃ name, protocol.Marks (Protocol.dropReturn line) name ∧ StreamState.caseNamed? cases name = some testCase := by
  have quiet : ¬(state.inError || protocol.isFatal (Protocol.dropReturn line)) = true := by
    rw [calm, Bool.false_or, Protocol.is_fatal_iff]
    exact peaceful
  rw [StreamState.feed, StreamState.feedLine, if_neg quiet]
  simp only [← Protocol.marked_name_iff]
  cases protocol.markedName? (Protocol.dropReturn line) with
  | none => simp
  | some name =>
      dsimp only
      rw [StreamState.mark]
      cases known : StreamState.caseNamed? cases name with
      | none => simp [known]
      | some other => simp [known, eq_comm]

theorem run_lines_starts_iff (state : StreamState) (lines : List String) (calm : state.inError = false)
    (peaceful : ∀ line ∈ lines, ¬protocol.Fatal (Protocol.dropReturn line)) (testCase : TestCase) :
    .started testCase ∈ heardReports lines (runLines (StreamState.feed protocol cases) state lines).2 ↔
      ∃ line ∈ lines, ∃ name, protocol.Marks (Protocol.dropReturn line) name ∧
        StreamState.caseNamed? cases name = some testCase := by
  induction lines generalizing state with
  | nil => simp [heardReports]
  | cons line rest step =>
      have still : (state.feed protocol cases line).1.inError = false := by
        rw [feed_in_error, calm, Bool.false_or, Bool.eq_false_iff, ne_eq, Protocol.is_fatal_iff]
        exact peaceful line (List.mem_cons_self ..)
      have later := step _ still fun other inside => peaceful other (List.mem_cons_of_mem _ inside)
      rw [heardReports] at later
      rw [runLines, heardReports, List.zipWith_cons_cons, List.flatten_cons, List.mem_append, List.mem_append, later,
        event_started_iff, feed_starts_iff protocol cases state line calm (peaceful line (List.mem_cons_self ..))]
      simp [spoken_starts_nothing]

theorem feed_starts_member (state : StreamState) (line : String) (testCase : TestCase)
    (starts : .started testCase ∈ (state.feed protocol cases line).2) : testCase ∈ cases := by
  rw [StreamState.feed, StreamState.feedLine] at starts
  by_cases broken : (state.inError || protocol.isFatal (Protocol.dropReturn line)) = true
  · rw [if_pos broken] at starts
    exact absurd starts List.not_mem_nil
  · rw [if_neg broken] at starts
    cases marked : protocol.markedName? (Protocol.dropReturn line) with
    | none =>
        rw [marked] at starts
        exact absurd starts List.not_mem_nil
    | some name =>
        rw [marked] at starts
        dsimp only at starts
        rw [StreamState.mark] at starts
        cases known : StreamState.caseNamed? cases name with
        | none => simp [known] at starts
        | some other =>
            have same : testCase = other := by simpa [known] using starts
            rw [same]
            rw [case_named] at known
            exact (List.mem_filter.mp (List.mem_of_getLast? known)).1

theorem run_lines_starts_member (state : StreamState) (lines : List String) (testCase : TestCase)
    (starts : .started testCase ∈ heardReports lines (runLines (StreamState.feed protocol cases) state lines).2) :
    testCase ∈ cases := by
  induction lines generalizing state with
  | nil => exact absurd starts List.not_mem_nil
  | cons line rest step =>
      rw [runLines, heardReports, List.zipWith_cons_cons, List.flatten_cons, List.mem_append, List.mem_append] at starts
      rcases starts with (own | here) | later
      · exact absurd own (spoken_starts_nothing line testCase)
      · exact feed_starts_member protocol cases state line testCase ((event_started_iff _ testCase).mp here)
      · exact step _ later

theorem closing_starts_nothing (ending : StreamEnd) (exit : Exit) (testCase : TestCase) :
    .started testCase ∉ closingReports ending exit := by
  unfold closingReports
  cases ending.lastResult <;> cases ending.executionError <;> split <;> simp

theorem group_reports_turns (lines : List String) (exit : Exit) :
    Turns none (groupReports protocol cases lines exit) none :=
  turns_append (run_lines_turns protocol cases .initial lines)
    (closing_turns (runLines (StreamState.feed protocol cases) .initial lines).1.finish exit)

theorem group_result_iff (lines : List String) (exit : Exit) (testCase : TestCase) :
    (∃ result, .result result ∈ groupReports protocol cases lines exit ∧ result.testCase = testCase) ↔
      .started testCase ∈ heardReports lines (runLines (StreamState.feed protocol cases) .initial lines).2 := by
  have turns := group_reports_turns protocol cases lines exit
  have heard : .started testCase ∈ groupReports protocol cases lines exit ↔
      .started testCase ∈ heardReports lines (runLines (StreamState.feed protocol cases) .initial lines).2 := by
    rw [groupReports, List.mem_append, or_iff_left (closing_starts_nothing _ exit testCase)]
  rw [← heard]
  constructor
  · rintro ⟨result, told, rfl⟩
    exact (turns_from_started turns result told).resolve_left nofun
  · exact fun told => (turns_to_result turns testCase (.inr told)).resolve_left nofun

theorem group_results_member (lines : List String) (exit : Exit) (result : TestResult)
    (told : .result result ∈ groupReports protocol cases lines exit) : result.testCase ∈ cases :=
  run_lines_starts_member protocol cases .initial lines result.testCase
    ((group_result_iff protocol cases lines exit result.testCase).mp ⟨result, told, rfl⟩)

theorem group_green (lines : List String) (exit : Exit)
    (green : (groupOutcome protocol cases lines exit).isFailure = false)
    (finished : groupOutcome protocol cases lines exit ≠ .cancelled) :
    exit.stopped = none ∧ (∀ line ∈ lines, ¬protocol.Fatal (Protocol.dropReturn line)) ∧
      ∀ result, .result result ∈ groupReports protocol cases lines exit → result.outcome = .passed := by
  cases outcome : groupOutcome protocol cases lines exit with
  | cancelled => exact absurd outcome finished
  | skipped message => simp [outcome, GroupOutcome.isFailure] at green
  | failed message => simp [outcome, GroupOutcome.isFailure] at green
  | timedOut => simp [outcome, GroupOutcome.isFailure] at green
  | completed passed failed =>
      obtain ⟨unstopped, calm, _, counted⟩ := (outcome_completed_iff _ _ _ passed failed).mp outcome
      refine ⟨unstopped, (execution_error_none_iff protocol cases lines).mp calm, fun result told => ?_⟩
      have none : failedCount (groupReports protocol cases lines exit) = 0 := by
        rw [← counted]
        simpa [outcome, GroupOutcome.isFailure] using green
      have listed : result ∈ results (groupReports protocol cases lines exit) :=
        List.mem_filterMap.mpr ⟨_, told, rfl⟩
      have clean := List.filter_eq_nil_iff.mp (List.length_eq_zero_iff.mp none) result listed
      simpa [TestResult.passed] using clean

end

section

variable (setup : Setup)

theorem run_next_results_member (disk : Disk) (cancelled : Bool) (group : Group) (result : TestResult)
    (told : .result result ∈ (runNext setup (.begin disk cancelled) group).journal.reports) :
    result.testCase ∈ group.cases := by
  obtain ⟨_, _, silent | ⟨trace, _, lines, exit, _, reports, _⟩⟩ := run_next_speaks setup disk cancelled group
  · obtain ⟨level, text, message⟩ := silent.2 _ told
    exact absurd message nofun
  · rw [reports] at told
    exact group_results_member _ _ lines exit result told

theorem run_groups_results_member (groups : List Group) (session : Session) (result : TestResult)
    (told : .result result ∈ (groups.foldl (runNext setup) session).journal.reports) :
    .result result ∈ session.journal.reports ∨ ∃ group ∈ groups, result.testCase ∈ group.cases := by
  induction groups generalizing session with
  | nil => exact .inl told
  | cons group rest step =>
      rcases step _ told with here | ⟨other, inside, member⟩
      · rw [run_next_anew] at here
        rcases List.mem_append.mp here with before | own
        · exact .inl before
        · exact .inr ⟨group, List.mem_cons_self .., run_next_results_member setup _ _ group result own⟩
      · exact .inr ⟨other, List.mem_cons_of_mem _ inside, member⟩

theorem announced_iff (disk : Disk) (group : Group) (testCase : TestCase) (trace : Trace)
    (runs : engineTrace? setup disk group = some trace) :
    Announced setup disk group testCase ↔ ∃ line ∈ trace.lines, ∃ name,
      setup.settings.protocol.Marks (Protocol.dropReturn line) name ∧
        StreamState.caseNamed? group.cases name = some testCase := by
  constructor
  · rintro ⟨⟨_, same, line, listed, marks⟩, last⟩
    obtain rfl := Option.some.inj (runs.symm.trans same)
    exact ⟨line, listed, _, marks, (case_named group.cases _).trans last⟩
  · rintro ⟨line, listed, name, marks, known⟩
    obtain rfl := known_case_named group.cases name testCase known
    exact ⟨⟨trace, runs, line, listed, marks⟩, (case_named group.cases _).symm.trans known⟩

theorem group_green_passed_iff (disk : Disk) (cancelled : Bool) (group : Group) (testCase : TestCase)
    (green : (runNext setup (.begin disk cancelled) group).summary.hasFailures = false)
    (finished : (runNext setup (.begin disk cancelled) group).summary.wasCancelled = false) :
    (∃ result, .result result ∈ (runNext setup (.begin disk cancelled) group).journal.reports ∧
        result.testCase = testCase ∧ result.outcome = .passed) ↔
      Announced setup disk group testCase := by
  obtain ⟨outcome, own, silent | ⟨trace, runs, lines, exit, heard, reports, spoken⟩⟩ :=
    run_next_speaks setup disk cancelled group
  all_goals
    rw [Summary.hasFailures, own, List.any_cons, List.any_nil, Bool.or_false] at green
    rw [Summary.wasCancelled, own, List.any_cons, List.any_nil, Bool.or_false, decide_eq_false_iff_not] at finished
  · cases outcome with
    | cancelled => exact absurd rfl finished
    | skipped message => exact absurd green (by simp [GroupOutcome.isFailure])
    | failed message => exact absurd green (by simp [GroupOutcome.isFailure])
    | timedOut => exact absurd green (by simp [GroupOutcome.isFailure])
    | completed passed failed => exact absurd rfl (silent.1 passed failed)
  · dsimp only at green finished
    rw [spoken] at green finished
    obtain ⟨unstopped, calm, passed⟩ := group_green setup.settings.protocol group.cases lines exit green finished
    have starts := run_lines_starts_iff setup.settings.protocol group.cases .initial lines rfl calm testCase
    rw [announced_iff setup disk group testCase trace runs, ← heard unstopped, ← starts,
      ← group_result_iff setup.settings.protocol group.cases lines exit testCase, reports]
    exact ⟨fun ⟨result, told, own, _⟩ => ⟨result, told, own⟩,
      fun ⟨result, told, own⟩ => ⟨result, told, own, passed result told⟩⟩

theorem green_parts (first second : Session) :
    ((first.andThen second).summary.hasFailures = false ↔
        first.summary.hasFailures = false ∧ second.summary.hasFailures = false) ∧
      ((first.andThen second).summary.wasCancelled = false ↔
        first.summary.wasCancelled = false ∧ second.summary.wasCancelled = false) := by
  simp only [Session.andThen, Summary.hasFailures, Summary.wasCancelled, List.any_append, Bool.or_eq_false_iff, and_self]

/-- In a run without failures that was not cancelled, a passed test is told of exactly for those cases that an engine
has announced: of a case of which it does not speak nothing is told. -/
theorem green_run_passed_iff (cases : List TestCase) (disk : Disk) (cancelled : Bool)
    (green : (execute setup cases (.begin disk cancelled)).summary.hasFailures = false)
    (finished : (execute setup cases (.begin disk cancelled)).summary.wasCancelled = false)
    (testCase : TestCase) (member : testCase ∈ cases) :
    ∃ before group after, groupBySource cases = before ++ group :: after ∧ testCase ∈ group.cases ∧
      ((∃ result, .result result ∈ (execute setup cases (.begin disk cancelled)).journal.reports ∧
          result.testCase = testCase ∧ result.outcome = .passed) ↔
        Announced setup (before.foldl (runNext setup) (.begin disk cancelled)).disk group testCase) := by
  obtain ⟨group, listed, inside⟩ := case_grouped cases testCase member
  obtain ⟨before, after, parts⟩ := List.append_of_mem listed
  have apart := groups_apart cases
  rw [parts, List.pairwise_append, List.pairwise_cons] at apart
  obtain ⟨_, ⟨later, _⟩, earlier⟩ := apart
  refine ⟨before, group, after, parts, inside, ?_⟩
  rw [execute, parts, execute_split] at green finished ⊢
  generalize earlierEnd : before.foldl (runNext setup) (.begin disk cancelled) = found at green finished ⊢
  rw [(green_parts _ _).1, (green_parts _ _).1] at green
  rw [(green_parts _ _).2, (green_parts _ _).2] at finished
  rw [← group_green_passed_iff setup found.disk found.journal.cancelled group testCase green.1.2 finished.1.2]
  constructor
  · rintro ⟨result, told, own, passed⟩
    refine ⟨result, ?_, own, passed⟩
    rcases List.mem_append.mp told with before | after
    · rcases List.mem_append.mp before with first | here
      · rw [← earlierEnd] at first
        rcases run_groups_results_member setup _ _ result first with never | ⟨other, listed, theirs⟩
        · exact absurd never List.not_mem_nil
        · exact absurd inside (earlier other listed group (List.mem_cons_self ..) testCase (own ▸ theirs))
      · exact here
    · rcases run_groups_results_member setup _ _ result after with never | ⟨other, listed, theirs⟩
      · exact absurd never List.not_mem_nil
      · exact absurd (own ▸ theirs) (later other listed testCase inside)
  · rintro ⟨result, told, own, passed⟩
    exact ⟨result, List.mem_append_left _ (List.mem_append_right _ told), own, passed⟩

end

def spokenSetup : Setup :=
  playedSetup {} "# logs in\n" 0 fun _ => false

theorem announced_test_passed :
    (execute spokenSetup [signInCase] (.begin suiteDisk false)).summary.hasFailures = false ∧
      (execute spokenSetup [signInCase] (.begin suiteDisk false)).summary.wasCancelled = false ∧
      signInCase ∈ [signInCase] ∧
      ∃ before group after, groupBySource [signInCase] = before ++ group :: after ∧ signInCase ∈ group.cases ∧
        ((∃ result, .result result ∈ (execute spokenSetup [signInCase] (.begin suiteDisk false)).journal.reports ∧
            result.testCase = signInCase ∧ result.outcome = .passed) ↔
          Announced spokenSetup (before.foldl (runNext spokenSetup) (.begin suiteDisk false)).disk group signInCase) := by
  have green : (execute spokenSetup [signInCase] (.begin suiteDisk false)).summary.hasFailures = false := by
    decide +kernel
  have finished : (execute spokenSetup [signInCase] (.begin suiteDisk false)).summary.wasCancelled = false := by
    decide +kernel
  have member : signInCase ∈ [signInCase] := List.mem_cons_self ..
  exact ⟨green, finished, member, green_run_passed_iff spokenSetup [signInCase] suiteDisk false green finished _ member⟩

def silentSetup : Setup :=
  playedSetup {} "" 3 fun _ => false

/-- An engine that fails without a word leaves the run green, and tells of no test. -/
theorem silent_engine_green :
    (execute silentSetup [signInCase] (.begin suiteDisk false)).summary.hasFailures = false ∧
      (execute silentSetup [signInCase] (.begin suiteDisk false)).summary.wasCancelled = false ∧
      signInCase ∈ [signInCase] ∧
      ∀ result, .result result ∉ (execute silentSetup [signInCase] (.begin suiteDisk false)).journal.reports := by
  have silent : (execute silentSetup [signInCase] (.begin suiteDisk false)).journal.reports = [] := by decide +kernel
  refine ⟨by decide +kernel, by decide +kernel, List.mem_cons_self .., fun result told => ?_⟩
  rw [silent] at told
  exact List.not_mem_nil told

end ScriptSuite.Run
