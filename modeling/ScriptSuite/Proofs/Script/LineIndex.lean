import Mathlib.Data.List.DropRight
import ScriptSuite.Script.LineIndex
import ScriptSuite.Text.Utf8

set_option autoImplicit false

namespace ScriptSuite.Script

theorem utf8_bytes_append (front back : List Char) : utf8Bytes (front ++ back) = utf8Bytes front ++ utf8Bytes back :=
  List.flatMap_append

theorem utf8_bytes_length (text : List Char) : (utf8Bytes text).length = byteLength text := by
  induction text with
  | nil => rfl
  | cons c rest step =>
      rw [utf8Bytes, List.flatMap_cons, List.length_append, String.length_utf8EncodeChar, byteLength_cons]
      exact congrArg _ step

theorem utf8_bytes_front (front back : List Char) :
    (utf8Bytes (front ++ back)).take (byteLength front) = utf8Bytes front := by
  rw [utf8_bytes_append, ← utf8_bytes_length, List.take_left]

theorem byte_length_list (text : List Char) : byteLength text = (String.ofList text).utf8ByteSize := by
  induction text with
  | nil => rfl
  | cons c text ih =>
      have one : String.ofList [c] = String.singleton c := by simp
      rw [byteLength_cons, ih, ← List.singleton_append, String.ofList_append, String.utf8ByteSize_append, one,
        String.utf8ByteSize_singleton]

theorem source_size (source : String) : byteLength source.toList = source.utf8ByteSize := by
  rw [byte_length_list, String.ofList_toList]

theorem encode_bytes (source : String) : Text.Utf8.encode source = utf8Bytes source.toList := by
  have bytes : source.toUTF8 = source.toList.utf8Encode := by
    conv_lhs => rw [← String.ofList_toList (s := source)]
    exact String.toByteArray_ofList
  rw [Text.Utf8.encode, bytes, List.utf8Encode, List.data_toByteArray]
  rfl

theorem line_feed_byte (c : Char) : (10 : UInt8) ∈ String.utf8EncodeChar c ↔ c = '\n' := by
  constructor
  · intro feed
    have differs : ∀ n, n < 256 → n ≠ 10 → (10 : UInt8) ≠ UInt8.ofNat n := by
      intro n small other same
      have numbers := congrArg UInt8.toNat same
      rw [UInt8.toNat_ofNat', Nat.mod_eq_of_lt small] at numbers
      exact other numbers.symm
    have code : c.val.toNat = 10 := by
      unfold String.utf8EncodeChar at feed
      dsimp only at feed
      split at feed
      · next ascii =>
          by_contra other
          exact differs _ (by omega) other (List.mem_singleton.mp feed)
      · refine absurd feed ?_
        split
        · simp only [List.mem_cons, List.not_mem_nil, or_false, not_or]
          exact ⟨differs _ (by omega) (by omega), differs _ (by omega) (by omega)⟩
        · split
          · simp only [List.mem_cons, List.not_mem_nil, or_false, not_or]
            exact ⟨differs _ (by omega) (by omega), differs _ (by omega) (by omega), differs _ (by omega) (by omega)⟩
          · simp only [List.mem_cons, List.not_mem_nil, or_false, not_or]
            exact ⟨differs _ (by omega) (by omega), differs _ (by omega) (by omega), differs _ (by omega) (by omega),
              differs _ (by omega) (by omega)⟩
    exact Char.ext (UInt32.toNat_inj.mp code)
  · rintro rfl
    decide

theorem line_feeds (text : List Char) : (utf8Bytes text).count 10 = text.count '\n' := by
  induction text with
  | nil => rfl
  | cons c rest step =>
      have split : utf8Bytes (c :: rest) = String.utf8EncodeChar c ++ utf8Bytes rest := rfl
      rw [split, List.count_append, step, List.count_cons, Nat.add_comm]
      by_cases feed : c = '\n'
      · subst feed
        rfl
      · rw [List.count_eq_zero.mpr fun inside => feed ((line_feed_byte c).mp inside), if_neg (by simpa using feed)]

def lineStartsBehind (offset : Nat) : List UInt8 → List Nat
  | [] => []
  | byte :: rest => (if byte = 10 then [offset + 1] else []) ++ lineStartsBehind (offset + 1) rest

theorem push_line_starts_list (starts : Array Nat) (offset : Nat) (bytes : List UInt8) :
    (pushLineStarts starts offset bytes).toList = starts.toList ++ lineStartsBehind offset bytes := by
  induction bytes generalizing starts offset with
  | nil => simp [pushLineStarts, lineStartsBehind]
  | cons byte rest step =>
      rw [pushLineStarts, lineStartsBehind, step]
      split
      · rw [Array.toList_push, List.append_assoc]
      · rfl

theorem starts_of (text : List Char) : (LineIndex.of text).starts.toList = 0 :: lineStartsBehind 0 (utf8Bytes text) :=
  push_line_starts_list _ _ _

theorem line_starts_append (offset : Nat) (front back : List UInt8) :
    lineStartsBehind offset (front ++ back) =
      lineStartsBehind offset front ++ lineStartsBehind (offset + front.length) back := by
  induction front generalizing offset with
  | nil => rfl
  | cons byte rest step =>
      rw [List.cons_append, lineStartsBehind, lineStartsBehind, step, List.length_cons, List.append_assoc,
        Nat.add_right_comm, Nat.add_assoc]

theorem line_starts_unbroken (offset : Nat) (bytes : List UInt8) (unbroken : (10 : UInt8) ∉ bytes) :
    lineStartsBehind offset bytes = [] := by
  induction bytes generalizing offset with
  | nil => rfl
  | cons byte rest step =>
      rw [List.mem_cons, not_or] at unbroken
      obtain ⟨other, onward⟩ := unbroken
      rw [lineStartsBehind, if_neg (Ne.symm other), step _ onward, List.append_nil]

theorem line_starts_up_to (target offset : Nat) (bytes : List UInt8) :
    (lineStartsBehind offset bytes).countP (· ≤ target) = (bytes.take (target - offset)).count 10 := by
  induction bytes generalizing offset with
  | nil => simp [lineStartsBehind]
  | cons byte rest step =>
      rw [lineStartsBehind, List.countP_append, step]
      by_cases before : offset < target
      · rw [show target - offset = (target - (offset + 1)) + 1 by omega, List.take_succ_cons, List.count_cons, Nat.add_comm]
        split
        · next feed => simp [feed, show offset + 1 ≤ target from before]
        · next other => simp [other]
      · rw [show target - offset = 0 by omega, show target - (offset + 1) = 0 by omega]
        split
        · simpa using Nat.lt_succ_of_le (Nat.le_of_not_lt before)
        · rfl

theorem last_line_start (front : List Char) :
    ∃ earlier, 0 :: lineStartsBehind 0 (utf8Bytes front) = earlier ++ [byteLength (front.rdropWhile (· ≠ '\n'))] ∧
      earlier.length = front.count '\n' := by
  induction front using List.reverseRecOn with
  | nil => exact ⟨[], rfl, rfl⟩
  | append_singleton front c step =>
      obtain ⟨earlier, split, count⟩ := step
      have one : utf8Bytes [c] = String.utf8EncodeChar c := List.append_nil _
      rw [utf8_bytes_append, line_starts_append, ← List.cons_append, split, utf8_bytes_length, Nat.zero_add, List.count_append]
      by_cases feed : c = '\n'
      · subst feed
        refine ⟨_, congrArg _ ?_, ?_⟩
        · rw [List.rdropWhile_concat_neg _ _ _ (by simp), byteLength_append]
          rfl
        · simp [count]
      · rw [one, line_starts_unbroken _ _ fun inside => feed ((line_feed_byte c).mp inside), List.append_nil,
          List.rdropWhile_concat_pos _ _ _ (by simpa using feed)]
        exact ⟨earlier, rfl, by simp [count, feed]⟩

theorem last_up_to_count {values : Array Nat} {target last value : Nat} (ordered : values.toList.Pairwise (· < ·))
    (upTo : LastUpTo values target last value) : values.toList.countP (· ≤ target) = last + 1 := by
  obtain ⟨inside, isValue⟩ := Array.getElem?_eq_some_iff.mp upTo.present
  have low : (values.toList.take (last + 1)).countP (· ≤ target) = last + 1 := by
    have size : (values.toList.take (last + 1)).length = last + 1 := by
      rw [List.length_take, Array.length_toList]
      omega
    refine (List.countP_eq_length.mpr fun other taken => ?_).trans size
    obtain ⟨i, below, rfl⟩ := List.getElem_of_mem taken
    rw [size] at below
    have here : values[i]? = some (values.toList.take (last + 1))[i] := by simp
    rcases Nat.lt_or_eq_of_le (Nat.le_of_lt_succ below) with less | rfl
    · exact decide_eq_true (Nat.le_of_lt (Nat.lt_of_lt_of_le (ordered_at ordered less here upTo.present) upTo.upTo))
    · rw [upTo.present] at here
      exact decide_eq_true (Option.some.inj here ▸ upTo.upTo)
  have high : (values.toList.drop (last + 1)).countP (· ≤ target) = 0 := by
    refine List.countP_eq_zero.mpr fun other dropped => ?_
    obtain ⟨i, below, rfl⟩ := List.getElem_of_mem dropped
    have there : values[last + 1 + i]? = some (values.toList.drop (last + 1))[i] := by
      rw [← Array.getElem?_toList, ← List.getElem?_drop, List.getElem?_eq_getElem below]
    simpa using upTo.beyond _ _ (by omega) there
  rw [← List.take_append_drop (last + 1) values.toList, List.countP_append, low, high]

theorem position_in_line (text : List Char) (offset : Nat) : ∃ line start,
    LastUpTo (LineIndex.of text).starts (min offset (byteLength text)) line start ∧
      positionIn text offset = ⟨line + 1,
        ((slice? text start (min offset (byteLength text) - start)).map List.length).getD
          (min offset (byteLength text) - start)⟩ := by
  obtain ⟨line, start, found, last⟩ := (LineIndex.of text).line_of_last (min offset (byteLength text))
  refine ⟨line, start, last, ?_⟩
  have isText : (LineIndex.of text).text = text := rfl
  simp [positionIn, LineIndex.position, LineIndex.position?, isText, found, last.present, checked_sub_below last.upTo]

theorem position_clamped (text : List Char) (offset : Nat) :
    positionIn text (min offset (byteLength text)) = positionIn text offset := by
  have same : (LineIndex.of text).position? (min offset (byteLength text)) = (LineIndex.of text).position? offset := by
    have isText : (LineIndex.of text).text = text := rfl
    rw [LineIndex.position?, LineIndex.position?, isText, Nat.min_assoc, Nat.min_self]
  simp only [positionIn, LineIndex.position, same]

theorem position_line (text : List Char) (offset : Nat) :
    (positionIn text offset).line = 1 + ((utf8Bytes text).take offset).count 10 := by
  obtain ⟨line, start, last, isPosition⟩ := position_in_line text offset
  have counted := last_up_to_count (LineIndex.of text).ordered last
  rw [starts_of, List.countP_cons_of_pos (by simp), line_starts_up_to, Nat.sub_zero, ← utf8_bytes_length,
    ← List.take_eq_take_min] at counted
  rw [isPosition, Nat.add_comm 1, counted]

theorem split_bytes_front (front back : List Char) :
    splitBytes? (byteLength front) (front ++ back) = some (front, back) := by
  induction front with
  | nil => cases back <;> rfl
  | cons c front step =>
      obtain ⟨size, isSize⟩ : ∃ size, byteLength (c :: front) = size + 1 :=
        Nat.exists_eq_add_one.mpr (Nat.lt_of_lt_of_le c.utf8Size_pos (Nat.le_add_right _ _))
      have whole := byteLength_cons c front
      rw [isSize, List.cons_append, splitBytes?, if_pos (by omega), show size + 1 - c.utf8Size = byteLength front by omega, step]
      rfl

theorem slice_between (front inside back : List Char) :
    slice? (front ++ inside ++ back) (byteLength front) (byteLength (front ++ inside) - byteLength front) = some inside := by
  simp [slice?, split_bytes_front]

theorem position_at_front (front back : List Char) :
    positionIn (front ++ back) (byteLength front) = ⟨1 + front.count '\n', (front.rtakeWhile (· ≠ '\n')).length⟩ := by
  have counted := position_line (front ++ back) (byteLength front)
  obtain ⟨line, start, last, isPosition⟩ := position_in_line (front ++ back) (byteLength front)
  have target : min (byteLength front) (byteLength (front ++ back)) = byteLength front := by
    rw [byteLength_append]
    omega
  rw [target] at last isPosition
  rw [isPosition, utf8_bytes_front, line_feeds, Nat.add_comm 1] at counted
  have isLine : line = front.count '\n' := Nat.succ.inj counted
  have begins : start = byteLength (front.rdropWhile (· ≠ '\n')) := by
    obtain ⟨earlier, split, count⟩ := last_line_start front
    have present := last.present
    rw [← Array.getElem?_toList, starts_of, utf8_bytes_append, line_starts_append, ← List.cons_append, split, isLine, ← count,
      List.append_assoc, List.getElem?_append_right (Nat.le_refl _), Nat.sub_self] at present
    exact (Option.some.inj present).symm
  have parts : front = front.rdropWhile (· ≠ '\n') ++ front.rtakeWhile (· ≠ '\n') := List.rdropWhile_append_rtakeWhile.symm
  have sliced := slice_between (front.rdropWhile (· ≠ '\n')) (front.rtakeWhile (· ≠ '\n')) back
  rw [← parts, ← begins] at sliced
  rw [isPosition, sliced, isLine, Nat.add_comm 1]
  rfl

end ScriptSuite.Script
