import ScriptSuite.Script.Span

set_option autoImplicit false

namespace ScriptSuite.Script

structure Position where
  line : Nat
  column : Nat
deriving DecidableEq, Repr

def utf8Bytes (text : List Char) : List UInt8 :=
  text.flatMap String.utf8EncodeChar

def pushLineStarts (starts : Array Nat) (offset : Nat) : List UInt8 → Array Nat
  | [] => starts
  | byte :: rest => pushLineStarts (if byte = 10 then starts.push (offset + 1) else starts) (offset + 1) rest

theorem push_line_starts_ordered (starts : Array Nat) (offset : Nat) (bytes : List UInt8)
    (ordered : starts.toList.Pairwise (· < ·)) (below : ∀ start ∈ starts.toList, start ≤ offset) :
    (pushLineStarts starts offset bytes).toList.Pairwise (· < ·) := by
  induction bytes generalizing starts offset with
  | nil => exact ordered
  | cons byte rest step =>
      rw [pushLineStarts]
      split
      · refine step _ _ ?_ ?_
        · rw [Array.toList_push]
          refine List.pairwise_append.mpr ⟨ordered, List.pairwise_singleton _ _, fun start inside other last => ?_⟩
          rw [List.mem_singleton.mp last]
          exact Nat.lt_succ_of_le (below start inside)
        · intro start inside
          rw [Array.toList_push, List.mem_append, List.mem_singleton] at inside
          exact inside.elim (fun earlier => Nat.le_succ_of_le (below start earlier)) Nat.le_of_eq
      · exact step _ _ ordered fun start inside => Nat.le_succ_of_le (below start inside)

theorem push_line_starts_keeps (starts : Array Nat) (offset : Nat) (bytes : List UInt8) {i start : Nat}
    (present : starts[i]? = some start) : (pushLineStarts starts offset bytes)[i]? = some start := by
  induction bytes generalizing starts offset with
  | nil => exact present
  | cons byte rest step =>
      have inside := (Array.getElem?_eq_some_iff.mp present).1
      refine step _ _ ?_
      split
      · rw [Array.getElem?_push, if_neg (Nat.ne_of_lt inside), present]
      · exact present

structure LineIndex where
  text : List Char
  starts : Array Nat
  first : starts[0]? = some 0
  ordered : starts.toList.Pairwise (· < ·)

def LineIndex.of (text : List Char) : LineIndex where
  text := text
  starts := pushLineStarts #[0] 0 (utf8Bytes text)
  first := push_line_starts_keeps _ _ _ rfl
  ordered := push_line_starts_ordered _ _ _ (List.pairwise_singleton _ _) (by simp)

inductive Slot where
  | found (index : Nat)
  | missing (index : Nat)
deriving DecidableEq, Repr

def halve (values : Array Nat) (target base size : Nat) : Option Nat :=
  if size ≤ 1 then some base
  else
    match values[base + size / 2]? with
    | none => none
    | some middle => halve values target (if target < middle then base else base + size / 2) (size - size / 2)
termination_by size

structure LastUpTo (values : Array Nat) (target last value : Nat) : Prop where
  present : values[last]? = some value
  upTo : value ≤ target
  beyond : ∀ i other, last < i → values[i]? = some other → target < other

theorem ordered_at {values : Array Nat} (ordered : values.toList.Pairwise (· < ·)) {i j a b : Nat} (less : i < j)
    (one : values[i]? = some a) (two : values[j]? = some b) : a < b := by
  obtain ⟨low, rfl⟩ := Array.getElem?_eq_some_iff.mp one
  obtain ⟨high, rfl⟩ := Array.getElem?_eq_some_iff.mp two
  exact List.pairwise_iff_getElem.mp ordered i j low high less

theorem halve_last (values : Array Nat) (target base size : Nat) (ordered : values.toList.Pairwise (· < ·))
    (positive : 0 < size) (fits : base + size ≤ values.size) (low : ∃ value, values[base]? = some value ∧ value ≤ target)
    (beyond : ∀ i other, base + size ≤ i → values[i]? = some other → target < other) :
    ∃ last value, halve values target base size = some last ∧ LastUpTo values target last value := by
  fun_induction halve values target base size with
  | case1 base size single =>
      obtain ⟨value, present, upTo⟩ := low
      exact ⟨base, value, rfl, present, upTo, fun i other later => beyond i other (by omega)⟩
  | case2 base size several outside =>
      rw [Array.getElem?_eq_none_iff] at outside
      omega
  | case3 base size several middle present step =>
      by_cases above : target < middle
      · rw [dif_pos above] at step
        rw [if_pos above]
        refine step (by omega) (by omega) low fun i other later there => ?_
        rcases Nat.eq_or_lt_of_le (show base + size / 2 ≤ i by omega) with rfl | less
        · rw [present] at there
          exact Option.some.inj there ▸ above
        · exact Nat.lt_trans above (ordered_at ordered less present there)
      · rw [dif_neg above] at step
        rw [if_neg above]
        exact step (by omega) (by omega) ⟨middle, present, Nat.le_of_not_lt above⟩ fun i other later => beyond i other (by omega)

def binarySearch (values : Array Nat) (target : Nat) : Option Slot :=
  if values.size = 0 then some (.missing 0)
  else do
    let base ← halve values target 0 values.size
    let value ← values[base]?
    return if value = target then .found base else .missing (if value < target then base + 1 else base)

def checkedSub (a b : Nat) : Option Nat :=
  if b ≤ a then some (a - b) else none

theorem checked_sub_below {a b : Nat} (below : b ≤ a) : checkedSub a b = some (a - b) :=
  if_pos below

def splitBytes? : Nat → List Char → Option (List Char × List Char)
  | 0, text => some ([], text)
  | _ + 1, [] => none
  | size + 1, c :: rest =>
      if c.utf8Size ≤ size + 1 then
        (splitBytes? (size + 1 - c.utf8Size) rest).map fun (front, back) => (c :: front, back)
      else none

def slice? (text : List Char) (start size : Nat) : Option (List Char) := do
  let (_, behind) ← splitBytes? start text
  let (inside, _) ← splitBytes? size behind
  return inside

namespace LineIndex

def lineOf? (index : LineIndex) (offset : Nat) : Option Nat := do
  match ← binarySearch index.starts offset with
  | .found line => some line
  | .missing next => checkedSub next 1

theorem line_of_last (index : LineIndex) (offset : Nat) :
    ∃ line start, index.lineOf? offset = some line ∧ LastUpTo index.starts offset line start := by
  have inside := (Array.getElem?_eq_some_iff.mp index.first).1
  obtain ⟨last, value, halved, upTo⟩ := halve_last index.starts offset 0 index.starts.size index.ordered inside
    (Nat.le_of_eq (Nat.zero_add _)) ⟨0, index.first, Nat.zero_le _⟩ fun i other later there => by
      have := (Array.getElem?_eq_some_iff.mp there).1
      omega
  refine ⟨last, value, ?_, upTo⟩
  have below := upTo.upTo
  unfold lineOf? binarySearch
  rw [if_neg (Nat.ne_of_gt inside), halved]
  simp only [Option.bind_eq_bind, Option.bind_some, upTo.present]
  by_cases same : value = offset
  · simp [same]
  · simp [same, checkedSub, Nat.lt_of_le_of_ne below same]

-- Lines are counted from one, columns in characters from zero. Inside a character the column counts bytes, and beyond
-- the end the position is that of the end. There is no position where an index or a subtraction would be out of range.
def position? (index : LineIndex) (offset : Nat) : Option Position := do
  let target := min offset (byteLength index.text)
  let line ← index.lineOf? target
  let start ← index.starts[line]?
  let bytes ← checkedSub target start
  return ⟨line + 1, ((slice? index.text start bytes).map List.length).getD bytes⟩

theorem position_present (index : LineIndex) (offset : Nat) : (index.position? offset).isSome = true := by
  obtain ⟨line, start, found, last⟩ := index.line_of_last (min offset (byteLength index.text))
  simp [position?, found, last.present, checked_sub_below last.upTo]

def position (index : LineIndex) (offset : Nat) : Position :=
  (index.position? offset).get (index.position_present offset)

end LineIndex

def positionIn (text : List Char) (offset : Nat) : Position :=
  (LineIndex.of text).position offset

def positionAt (source : String) (offset : Nat) : Position :=
  positionIn source.toList offset

end ScriptSuite.Script
