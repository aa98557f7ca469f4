import Mathlib.Data.List.Forall2
import Mathlib.Data.List.TakeWhile
import ScriptSuite.Proofs.Result.Protocol
import ScriptSuite.Result.Stream

set_option autoImplicit false

namespace ScriptSuite.Result

open Discovery

structure Segment where
  marker : String
  name : String
  body : List String

structure Batch where
  opening : List String
  segments : List Segment
  broken : List String

def Segment.lines (segment : Segment) : List String :=
  segment.marker :: segment.body

def Batch.calmLines (batch : Batch) : List String :=
  batch.opening ++ batch.segments.flatMap Segment.lines

def Batch.lines (batch : Batch) : List String :=
  batch.calmLines ++ batch.broken

structure Segment.Marked (protocol : Protocol) (segment : Segment) : Prop where
  marks : protocol.Marks segment.marker segment.name
  unmarked : ∀ line ∈ segment.body, ∀ name, ¬protocol.Marks line name

-- The pieces are the lines in their order. What is broken begins with the first fatal line.
structure Batch.Cuts (protocol : Protocol) (lines : List String) (batch : Batch) : Prop where
  stripped : List.Forall₂ Protocol.Stripped lines batch.lines
  calm : ∀ line ∈ batch.calmLines, ¬protocol.Fatal line
  fatal : ∀ line ∈ batch.broken.head?, protocol.Fatal line
  unmarked : ∀ line ∈ batch.opening, ∀ name, ¬protocol.Marks line name
  marked : ∀ segment ∈ batch.segments, segment.Marked protocol

def cutAtMarkers (protocol : Protocol) : List String → List String × List Segment
  | [] => ([], [])
  | line :: rest =>
      let (opening, segments) := cutAtMarkers protocol rest
      match protocol.markedName? line with
      | some name => ([], ⟨line, name, opening⟩ :: segments)
      | none => (line :: opening, segments)

def batchOf (protocol : Protocol) (lines : List String) : Batch :=
  let plain := lines.map Protocol.dropReturn
  let (opening, segments) := cutAtMarkers protocol (plain.takeWhile fun line => !protocol.isFatal line)
  ⟨opening, segments, plain.dropWhile fun line => !protocol.isFatal line⟩

-- Of several cases with the name the last one counts.
def Segment.case? (cases : List TestCase) (segment : Segment) : Option TestCase :=
  (cases.filter fun testCase => testCase.displayName = segment.name).getLast?

def resultOf (protocol : Protocol) (testCase : TestCase) (segment : Segment) : TestResult :=
  { testCase
    outcome := if ∃ line ∈ segment.body, protocol.Failure line then .failed else .passed
    errorMessage := (segment.body.filter fun line => protocol.Failure line).getLast?
    rawLines := segment.lines }

def Segment.result? (protocol : Protocol) (cases : List TestCase) (segment : Segment) : Option TestResult :=
  (segment.case? cases).map fun testCase => resultOf protocol testCase segment

def Batch.results (protocol : Protocol) (cases : List TestCase) (batch : Batch) : List TestResult :=
  batch.segments.filterMap (·.result? protocol cases)

theorem cut_whole (protocol : Protocol) (lines : List String) :
    (cutAtMarkers protocol lines).1 ++ (cutAtMarkers protocol lines).2.flatMap Segment.lines = lines := by
  induction lines with
  | nil => rfl
  | cons line rest step =>
      rw [cutAtMarkers]
      cases protocol.markedName? line with
      | none => simp only [List.cons_append, step]
      | some name => simp only [List.nil_append, List.flatMap_cons, Segment.lines, List.cons_append, step]

theorem cut_marked (protocol : Protocol) (lines : List String) :
    (∀ line ∈ (cutAtMarkers protocol lines).1, ∀ name, ¬protocol.Marks line name) ∧
      ∀ segment ∈ (cutAtMarkers protocol lines).2, segment.Marked protocol := by
  induction lines with
  | nil => exact ⟨fun _ inside => absurd inside List.not_mem_nil, fun _ inside => absurd inside List.not_mem_nil⟩
  | cons line rest step =>
      obtain ⟨unmarked, marked⟩ := step
      rw [cutAtMarkers]
      cases named : protocol.markedName? line with
      | none =>
          refine ⟨fun other inside => ?_, marked⟩
          cases inside with
          | head => exact (Protocol.unmarked_iff protocol line).mp named
          | tail _ later => exact unmarked other later
      | some name =>
          refine ⟨fun _ inside => absurd inside List.not_mem_nil, fun segment inside => ?_⟩
          cases inside with
          | head => exact ⟨(Protocol.marked_name_iff protocol line name).mp named, unmarked⟩
          | tail _ later => exact marked segment later

theorem stripped_lines (lines : List String) :
    List.Forall₂ Protocol.Stripped lines (lines.map Protocol.dropReturn) := by
  induction lines with
  | nil => exact .nil
  | cons line rest step => exact .cons (Protocol.drop_return_stripped line) step

theorem batch_calm_lines (protocol : Protocol) (lines : List String) :
    (batchOf protocol lines).calmLines =
      (lines.map Protocol.dropReturn).takeWhile fun line => !protocol.isFatal line :=
  cut_whole protocol _

theorem batch_lines (protocol : Protocol) (lines : List String) :
    (batchOf protocol lines).lines = lines.map Protocol.dropReturn := by
  rw [Batch.lines, batch_calm_lines]
  exact List.takeWhile_append_dropWhile

theorem batch_cuts (protocol : Protocol) (lines : List String) : (batchOf protocol lines).Cuts protocol lines := by
  have marked := cut_marked protocol
    ((lines.map Protocol.dropReturn).takeWhile fun line => !protocol.isFatal line)
  refine ⟨?_, ?_, ?_, marked.1, marked.2⟩
  · rw [batch_lines]
    exact stripped_lines lines
  · intro line inside fatal
    rw [batch_calm_lines] at inside
    have calm := List.mem_takeWhile_imp inside
    rw [(Protocol.is_fatal_iff protocol line).mpr fatal] at calm
    exact absurd calm (by simp)
  · intro line first
    have found : (lines.map Protocol.dropReturn).find? protocol.isFatal = some line := by
      rw [List.find?_eq_head?_dropWhile_not]
      exact first
    exact (Protocol.is_fatal_iff protocol line).mp (List.find?_some found)

end ScriptSuite.Result
