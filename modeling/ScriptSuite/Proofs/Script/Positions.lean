import ScriptSuite.Script.Diagnostic
import ScriptSuite.Proofs.Script.LineIndex
import ScriptSuite.Proofs.Script.Lexer.Substitutions

set_option autoImplicit false

namespace ScriptSuite.Script

def Position.past (here : Position) (c : Char) : Position :=
  if c = '\n' then ⟨here.line + 1, 0⟩ else ⟨here.line, here.column + 1⟩

def Position.Before (a b : Position) : Prop :=
  a.line < b.line ∨ a.line = b.line ∧ a.column < b.column

def offsetFrom : Nat → Nat → List Char → Option Nat
  | 0, 0, _ => some 0
  | _, _, [] => none
  | 0, column + 1, c :: rest => if c = '\n' then none else (offsetFrom 0 column rest).map (c.utf8Size + ·)
  | line + 1, column, c :: rest =>
      (offsetFrom (if c = '\n' then line else line + 1) column rest).map (c.utf8Size + ·)

def Position.offset? (position : Position) (text : List Char) : Option Nat :=
  match position.line with
  | 0 => none
  | line + 1 => offsetFrom line position.column text

theorem folded_past (front : List Char) :
    front.foldl Position.past ⟨1, 0⟩ = ⟨1 + front.count '\n', (front.rtakeWhile (· ≠ '\n')).length⟩ := by
  induction front using List.reverseRecOn with
  | nil => rfl
  | append_singleton front c step =>
      rw [List.foldl_append, step, List.foldl_cons, List.foldl_nil, Position.past, List.rtakeWhile_concat, List.count_append]
      by_cases feed : c = '\n'
      · simp [feed, Nat.add_assoc]
      · simp [feed]

theorem position_at_boundary (front back : List Char) :
    positionIn (front ++ back) (byteLength front) = front.foldl Position.past ⟨1, 0⟩ := by
  rw [position_at_front, folded_past]

theorem before_trans {a b c : Position} (one : a.Before b) (two : b.Before c) : a.Before c := by
  unfold Position.Before at one two ⊢
  omega

theorem before_irrefl (a : Position) : ¬ a.Before a := by
  unfold Position.Before
  omega

theorem past_before (here : Position) (c : Char) : here.Before (here.past c) := by
  unfold Position.past
  split
  · exact .inl (Nat.lt_succ_self _)
  · exact .inr ⟨rfl, Nat.lt_succ_self _⟩

theorem folded_before (text : List Char) (nonempty : text ≠ []) (here : Position) :
    here.Before (text.foldl Position.past here) := by
  induction text generalizing here with
  | nil => exact absurd rfl nonempty
  | cons c rest step =>
      have first := past_before here c
      cases rest with
      | nil => exact first
      | cons d rest => exact before_trans first (step (List.cons_ne_nil d rest) (here.past c))

theorem positions_increase {text : List Char} {a b : Nat} (first : Boundary text a) (second : Boundary text b) (less : a < b) :
    (positionIn text a).Before (positionIn text b) := by
  obtain ⟨front, back, rfl, rfl⟩ := first
  obtain ⟨further, behind, split, rfl⟩ := second
  have here := position_at_boundary front back
  have there := position_at_boundary further behind
  rw [← split] at there
  rw [here, there]
  rcases List.append_eq_append_iff.mp split with ⟨between, rfl, -⟩ | ⟨between, rfl, -⟩
  · rw [List.foldl_append]
    refine folded_before between ?_ _
    rintro rfl
    rw [List.append_nil] at less
    exact absurd less (Nat.lt_irrefl _)
  · rw [byteLength_append] at less
    omega

theorem offset_walked (front back : List Char) (line column : Nat) :
    let stop := front.foldl Position.past ⟨line, column⟩
    line ≤ stop.line ∧ (stop.line = line → column ≤ stop.column) ∧
      offsetFrom (stop.line - line) (if stop.line = line then stop.column - column else stop.column) (front ++ back) =
        some (byteLength front) := by
  induction front generalizing line column with
  | nil => simp [offsetFrom]
  | cons c front step =>
      rw [List.foldl_cons, Position.past, byteLength_cons, List.cons_append]
      by_cases newline : c = '\n'
      · rw [if_pos newline]
        obtain ⟨low, -, found⟩ := step (line + 1) 0
        generalize front.foldl Position.past ⟨line + 1, 0⟩ = stop at low found ⊢
        refine ⟨by omega, by omega, ?_⟩
        rw [if_neg (by omega), show stop.line - line = (stop.line - (line + 1)) + 1 from by omega, offsetFrom,
          if_pos newline]
        rw [Nat.sub_zero, ite_self] at found
        rw [found, Option.map_some]
      · rw [if_neg newline]
        obtain ⟨low, right, found⟩ := step line (column + 1)
        generalize front.foldl Position.past ⟨line, column + 1⟩ = stop at low right found ⊢
        refine ⟨low, fun same => by have := right same; omega, ?_⟩
        by_cases same : stop.line = line
        · have beyond := right same
          rw [if_pos same] at found ⊢
          rw [show stop.line - line = 0 from by omega] at found ⊢
          rw [show stop.column - column = (stop.column - (column + 1)) + 1 from by omega, offsetFrom, if_neg newline,
            found, Option.map_some]
        · rw [if_neg same] at found ⊢
          rw [show stop.line - line = (stop.line - line - 1) + 1 from by omega] at found ⊢
          rw [offsetFrom, if_neg newline, found, Option.map_some]

theorem offset_of_position {text : List Char} {offset : Nat} (boundary : Boundary text offset) :
    (positionIn text offset).offset? text = some offset := by
  obtain ⟨front, back, rfl, rfl⟩ := boundary
  obtain ⟨low, -, found⟩ := offset_walked front back 1 0
  rw [position_at_boundary, Position.offset?]
  obtain ⟨line, shape⟩ := Nat.exists_eq_add_of_le' low
  simp only [shape]
  simpa [shape] using found

-- A letter of two bytes and a line break come before the second character of the second line.
example : Position.offset? ⟨2, 1⟩ ['é', '\n', 'a', 'b'] = some 4 := by decide

/-- An index finds a position for every offset, beyond the end that of the end. The line counts the line feeds before the
offset, the column the characters behind the last of them, and positions between two characters are ordered as offsets. -/
theorem line_index_exact (source : String) :
    (∀ offset, (LineIndex.of source.toList).position? offset = some (positionAt source offset)) ∧
      (∀ offset, (positionAt source offset).line =
        1 + ((Text.Utf8.encode source).take (min offset source.utf8ByteSize)).count 10) ∧
      (∀ offset front back, source.toList = front ++ back → min offset source.utf8ByteSize = byteLength front →
        (positionAt source offset).column = (front.rtakeWhile (· ≠ '\n')).length) ∧
      (∀ one other, Boundary source.toList one → Boundary source.toList other → one < other →
        (positionAt source one).Before (positionAt source other)) ∧
      ∀ one other, Boundary source.toList one → Boundary source.toList other →
        positionAt source one = positionAt source other → one = other := by
  refine ⟨fun offset => ?_, fun offset => ?_, fun offset front back split inside => ?_, fun one other => positions_increase,
    fun one other first second same => ?_⟩
  · exact (Option.some_get _).symm
  · rw [positionAt, position_line, encode_bytes, ← source_size, ← utf8_bytes_length, ← List.take_eq_take_min]
  · rw [positionAt, ← position_clamped, source_size, inside, split, position_at_front]
  · have here : positionIn source.toList one = positionIn source.toList other := same
    rcases Nat.lt_trichotomy one other with less | equal | more
    · exact absurd (here ▸ positions_increase first second less) (before_irrefl _)
    · exact equal
    · exact absurd (here ▸ positions_increase second first more) (before_irrefl _)

theorem second_line_indexed :
    (LineIndex.of "é\nab".toList).position? 4 = some (positionAt "é\nab" 4) ∧ (positionAt "é\nab" 4).line = 2 ∧
      (positionAt "é\nab" 4).column = 1 ∧ (positionAt "é\nab" 2).Before (positionAt "é\nab" 4) := by
  obtain ⟨found, line, column, ordered, -⟩ := line_index_exact "é\nab"
  refine ⟨found 4, (line 4).trans (by decide +kernel), ?_, ?_⟩
  · exact column 4 ['é', '\n', 'a'] ['b'] (by decide) (by decide)
  · exact ordered 2 4 ⟨['é'], ['\n', 'a', 'b'], by decide, by decide⟩ ⟨['é', '\n', 'a'], ['b'], by decide, by decide⟩
      (by decide)

end ScriptSuite.Script
