import ScriptSuite.Script.Lexer

set_option autoImplicit false

namespace ScriptSuite.Script

open Text

structure Cursor.Takes (first : Cursor) (word : List Char) (last : Cursor) : Prop where
  text : first.rest = word ++ last.rest
  bytes : last.offset = first.offset + byteLength word

def Cursor.Precedes (first last : Cursor) : Prop :=
  ∃ word, first.Takes word last

theorem takes_nothing (cursor : Cursor) : cursor.Takes [] cursor :=
  ⟨rfl, rfl⟩

theorem takes_append {first middle last : Cursor} {a b : List Char} (one : first.Takes a middle)
    (two : middle.Takes b last) : first.Takes (a ++ b) last := by
  refine ⟨?_, ?_⟩
  · rw [one.text, two.text, List.append_assoc]
  · rw [two.bytes, one.bytes, byteLength_append, Nat.add_assoc]

theorem precedes_refl (cursor : Cursor) : cursor.Precedes cursor :=
  ⟨[], takes_nothing cursor⟩

theorem precedes_trans {first middle last : Cursor} (one : first.Precedes middle) (two : middle.Precedes last) :
    first.Precedes last := by
  obtain ⟨a, takesA⟩ := one
  obtain ⟨b, takesB⟩ := two
  exact ⟨a ++ b, takes_append takesA takesB⟩

theorem takes_advance (cursor : Cursor) (word : List Char) (front : word <+: cursor.rest) :
    cursor.Takes word (cursor.advance word) := by
  obtain ⟨rest, split⟩ := front
  refine ⟨?_, rfl⟩
  simp only [Cursor.advance, ← split, List.drop_left]

theorem takes_next (cursor : Cursor) (c : Char) (rest : List Char) (text : cursor.rest = c :: rest) :
    cursor.Takes [c] cursor.next := by
  cases cursor with
  | mk characters offset =>
      cases text
      exact ⟨rfl, rfl⟩

theorem next_rest (cursor : Cursor) (c : Char) (rest : List Char) (text : cursor.rest = c :: rest) :
    cursor.next.rest = rest := by
  simp [Cursor.next, text]

theorem precedes_next (cursor : Cursor) : cursor.Precedes cursor.next := by
  cases cursor with
  | mk characters offset =>
      cases characters with
      | nil => exact precedes_refl _
      | cons c rest => exact ⟨[c], rfl, rfl⟩

theorem precedes_advance (cursor : Cursor) (word : List Char) (front : word <+: cursor.rest) :
    cursor.Precedes (cursor.advance word) :=
  ⟨word, takes_advance cursor word front⟩

theorem precedes_take_while (cursor : Cursor) (accepts : Char → Bool) :
    cursor.Precedes (cursor.takeWhile accepts).2 :=
  precedes_advance cursor _ (List.takeWhile_prefix _)

theorem precedes_behind (c : Char) (rest : List Char) (offset after : Nat) (last : Cursor) (step : after = offset + c.utf8Size)
    (onward : Cursor.Precedes ⟨rest, after⟩ last) : Cursor.Precedes ⟨c :: rest, offset⟩ last := by
  obtain ⟨word, text, bytes⟩ := onward
  refine ⟨c :: word, ?_, ?_⟩
  · simpa using text
  · have moved : last.offset = after + byteLength word := bytes
    rw [byteLength_cons, moved, step, Nat.add_assoc]

theorem precedes_skip_block_comment (newline : Bool) (offset : Nat) (text : List Char) (found : Bool) (last : Cursor)
    (closed : skipBlockComment newline offset text = .ok (found, last)) : Cursor.Precedes ⟨text, offset⟩ last := by
  fun_induction skipBlockComment newline offset text with
  | case1 => cases closed
  | case2 newline offset rest =>
      cases closed
      exact ⟨['*', '/'], rfl, rfl⟩
  | case3 newline offset c rest _ ih => exact precedes_behind c rest offset _ last rfl (ih closed)

theorem precedes_skip_raw_string (quote : Char) (offset : Nat) (text : List Char) (last : Cursor)
    (closed : skipRawString quote offset text = .ok ((), last)) : Cursor.Precedes ⟨text, offset⟩ last := by
  fun_induction skipRawString quote offset text with
  | case1 => cases closed
  | case2 offset c rest ih =>
      exact precedes_behind '\\' (c :: rest) offset _ last rfl (precedes_behind c rest _ _ last rfl (ih closed))
  | case3 offset rest =>
      cases closed
      exact ⟨[quote], rfl, rfl⟩
  | case4 offset c rest _ _ ih => exact precedes_behind c rest offset _ last rfl (ih closed)

theorem precedes_skip_regex_body (inClass : Bool) (offset : Nat) (text : List Char) (last : Cursor)
    (closed : skipRegexBody inClass offset text = .ok ((), last)) : Cursor.Precedes ⟨text, offset⟩ last := by
  fun_induction skipRegexBody inClass offset text with
  | case1 => cases closed
  | case2 => cases closed
  | case3 => cases closed
  | case4 inClass offset c rest _ ih =>
      exact precedes_behind '\\' (c :: rest) offset _ last rfl (precedes_behind c rest _ _ last rfl (ih closed))
  | case5 inClass offset rest _ _ _ ih => exact precedes_behind '[' rest offset _ last rfl (ih closed)
  | case6 inClass offset rest _ _ _ _ ih => exact precedes_behind ']' rest offset _ last rfl (ih closed)
  | case7 inClass offset c rest _ _ _ _ _ _ =>
      cases closed
      exact ⟨[c], rfl, rfl⟩
  | case8 => cases closed
  | case9 inClass offset c rest _ _ _ _ _ _ _ ih => exact precedes_behind c rest offset _ last rfl (ih closed)

theorem except_bind_ok {ε α β : Type} {first : Except ε α} {second : α → Except ε β} {result : β}
    (success : first >>= second = .ok result) : ∃ value, first = .ok value ∧ second value = .ok result := by
  cases first with
  | error error => cases success
  | ok value => exact ⟨value, rfl, success⟩

theorem except_bind_error {ε α β : Type} {first : Except ε α} {second : α → Except ε β} {error : ε}
    (failure : first >>= second = .error error) :
    first = .error error ∨ ∃ value, first = .ok value ∧ second value = .error error := by
  cases first with
  | error found =>
      cases failure
      exact .inl rfl
  | ok value => exact .inr ⟨value, rfl, failure⟩

theorem precedes_scan_hex_escape (letter : Char) (count : Nat) (cursor : Cursor) :
    cursor.Precedes (scanHexEscape letter count cursor).2 := by
  unfold scanHexEscape
  dsimp only
  split
  · exact precedes_advance cursor _ (List.take_prefix _ _)
  · exact precedes_refl cursor

theorem precedes_scan_braced_escape (cursor : Cursor) : cursor.Precedes (scanBracedEscape cursor).2 := by
  have digits := precedes_take_while cursor isHexDigit
  unfold scanBracedEscape
  dsimp only
  split
  · exact precedes_trans digits (precedes_next _)
  · exact digits

theorem precedes_scan_escape (cursor : Cursor) : cursor.Precedes (scanEscape cursor).2 := by
  have one := precedes_next cursor
  unfold scanEscape
  split
  · exact precedes_refl cursor
  · dsimp only
    split
    · exact one
    · exact one
    · exact one
    · exact one
    · exact one
    · exact one
    · split
      · exact one
      · exact one
    · exact precedes_trans one (precedes_scan_hex_escape _ _ _)
    · split
      · exact precedes_trans one (precedes_trans (precedes_next _) (precedes_scan_braced_escape _))
      · exact precedes_trans one (precedes_scan_hex_escape _ _ _)
    · split
      · exact precedes_trans one (precedes_next _)
      · exact one
    · split
      · exact one
      · exact one

theorem precedes_scan_escape_eq {cursor after : Cursor} {escape : Escape} (scanned : scanEscape cursor = (escape, after)) :
    cursor.Precedes after := by
  have behind := precedes_scan_escape cursor
  rwa [scanned] at behind

theorem takes_quote {cursor : Cursor} {c : Char} {rest : List Char} (quoted : (c = '"' || c = '\'') = true)
    (text : cursor.rest = c :: rest) : cursor.Takes [c] ⟨rest, cursor.offset + 1⟩ := by
  have size : c.utf8Size = 1 := by
    rcases Bool.or_eq_true_iff.mp quoted with same | same
    · rw [of_decide_eq_true same]
      rfl
    · rw [of_decide_eq_true same]
      rfl
  exact ⟨text, by rw [byteLength_cons, size]; rfl⟩

-- One step of the skipper inside an enclosure: what encloses the position behind it, down to where the enclosure stood.
def skipStep (cursor : Cursor) : Enclosure → Scan (List Enclosure × Cursor)
  | .template =>
      match cursor.rest with
      | [] => .error ⟨.unterminatedTemplate, cursor⟩
      | '\\' :: _ => .ok ([.template], cursor.next.next)
      | '`' :: _ => .ok ([], cursor.next)
      | '$' :: '{' :: _ => .ok ([.substitution 0, .template], cursor.next.next)
      | _ :: _ => .ok ([.template], cursor.next)
  | .substitution braces =>
      match cursor.rest with
      | [] => .error ⟨.unterminatedTemplate, cursor⟩
      | '{' :: _ => .ok ([.substitution (braces + 1)], cursor.next)
      | '}' :: _ =>
          match braces with
          | 0 => .ok ([], cursor.next)
          | depth + 1 => .ok ([.substitution depth], cursor.next)
      | '`' :: _ => .ok ([.template, .substitution braces], cursor.next)
      | '/' :: '/' :: _ => .ok ([.substitution braces], skipLine cursor)
      | '/' :: '*' :: rest =>
          skipBlockComment false (cursor.offset + 2) rest >>= fun read => .ok ([.substitution braces], read.2)
      | c :: rest =>
          if c = '"' || c = '\'' then
            skipRawString c (cursor.offset + 1) rest >>= fun read => .ok ([.substitution braces], read.2)
          else .ok ([.substitution braces], cursor.next)

theorem skip_substitution_step (f : Char) (fuel : List Char) (enclosure : Enclosure) (outer : List Enclosure) (cursor : Cursor) :
    skipSubstitution (f :: fuel) (enclosure :: outer) cursor =
      skipStep cursor enclosure >>= fun step => skipSubstitution fuel (step.1 ++ outer) step.2 := by
  cases enclosure with
  | template =>
      rw [skipSubstitution, skipStep]
      generalize cursor.rest = text
      split
      · rfl
      · rfl
      · rfl
      · rfl
      · simp only [bind, Except.bind, List.singleton_append]
  | substitution braces =>
      conv => lhs; unfold skipSubstitution
      unfold skipStep
      dsimp only
      generalize cursor.rest = text
      split
      · rfl
      · rfl
      · cases braces <;> rfl
      · rfl
      · rfl
      · simp only [bind, Except.bind]
        cases skipBlockComment false (cursor.offset + 2) _ <;> rfl
      · simp only [bind, Except.bind]
        split
        · cases skipRawString _ (cursor.offset + 1) _ <;> rfl
        · rfl

theorem takes_first {cursor after : Cursor} {c : Char} {rest : List Char} (text : cursor.rest = c :: rest)
    (onward : cursor.next.Precedes after) : ∃ word, word ≠ [] ∧ cursor.Takes word after := by
  obtain ⟨word, takes⟩ := onward
  exact ⟨c :: word, List.cons_ne_nil c word, takes_append (takes_next cursor c rest text) takes⟩

theorem template_step_takes {cursor after : Cursor} {inner : List Enclosure}
    (skipped : skipStep cursor .template = .ok (inner, after)) : ∃ word, word ≠ [] ∧ cursor.Takes word after := by
  rw [skipStep] at skipped
  split at skipped
  · cases skipped
  · next text =>
      cases skipped
      exact takes_first text (precedes_next _)
  · next text =>
      cases skipped
      exact takes_first text (precedes_refl _)
  · next text =>
      cases skipped
      exact takes_first text (precedes_next _)
  · next text =>
      cases skipped
      exact takes_first text (precedes_refl _)

theorem braces_step_takes {cursor after : Cursor} {braces : Nat} {inner : List Enclosure}
    (skipped : skipStep cursor (.substitution braces) = .ok (inner, after)) :
    ∃ word, word ≠ [] ∧ cursor.Takes word after := by
  unfold skipStep at skipped
  dsimp only at skipped
  split at skipped
  · cases skipped
  · next text =>
      cases skipped
      exact takes_first text (precedes_refl _)
  · next text =>
      split at skipped <;> cases skipped <;> exact takes_first text (precedes_refl _)
  · next text =>
      cases skipped
      exact takes_first text (precedes_refl _)
  · next text =>
      cases skipped
      refine ⟨_, ?_, takes_advance cursor _ (List.takeWhile_prefix fun c => !isLineTerminator c)⟩
      rw [text]
      exact List.cons_ne_nil _ _
  · next rest text =>
      obtain ⟨⟨found, stop⟩, comment, same⟩ := except_bind_ok skipped
      cases same
      obtain ⟨word, takes⟩ := precedes_skip_block_comment _ _ _ _ _ comment
      have opening : cursor.Takes ['/', '*'] ⟨rest, cursor.offset + 2⟩ := ⟨text, rfl⟩
      exact ⟨'/' :: '*' :: word, List.cons_ne_nil _ _, takes_append opening takes⟩
  · next c rest _ _ _ _ _ text =>
      split at skipped
      · next quoted =>
          obtain ⟨⟨found, stop⟩, literal, same⟩ := except_bind_ok skipped
          cases same
          obtain ⟨word, takes⟩ := precedes_skip_raw_string _ _ _ _ literal
          exact ⟨c :: word, List.cons_ne_nil _ _, takes_append (takes_quote quoted text) takes⟩
      · cases skipped
        exact takes_first text (precedes_refl _)

theorem skip_step_takes {cursor after : Cursor} {enclosure : Enclosure} {inner : List Enclosure}
    (skipped : skipStep cursor enclosure = .ok (inner, after)) : ∃ word, word ≠ [] ∧ cursor.Takes word after := by
  cases enclosure with
  | template => exact template_step_takes skipped
  | substitution braces => exact braces_step_takes skipped

theorem skip_step_fails {cursor : Cursor} {enclosure : Enclosure} {halt : Halt} (failed : skipStep cursor enclosure = .error halt) :
    halt = ⟨.unterminatedTemplate, cursor⟩ ∨
      (∃ rest, cursor.rest = '/' :: '*' :: rest ∧ skipBlockComment false (cursor.offset + 2) rest = .error halt) ∨
      ∃ c rest, (c = '"' || c = '\'') = true ∧ cursor.rest = c :: rest ∧
        skipRawString c (cursor.offset + 1) rest = .error halt := by
  cases enclosure with
  | template =>
      rw [skipStep] at failed
      split at failed <;> cases failed
      exact .inl rfl
  | substitution braces =>
      unfold skipStep at failed
      dsimp only at failed
      split at failed
      · cases failed
        exact .inl rfl
      · cases failed
      · split at failed <;> cases failed
      · cases failed
      · cases failed
      · next rest text =>
          obtain unclosed | ⟨read, -, onward⟩ := except_bind_error failed
          · exact .inr (.inl ⟨rest, text, unclosed⟩)
          · cases onward
      · next c rest _ _ _ _ _ text =>
          split at failed
          · next quoted =>
              obtain unclosed | ⟨read, -, onward⟩ := except_bind_error failed
              · exact .inr (.inr ⟨c, rest, quoted, text, unclosed⟩)
              · cases onward
          · cases failed

theorem precedes_skip_step {cursor after : Cursor} {enclosure : Enclosure} {inner : List Enclosure}
    (skipped : skipStep cursor enclosure = .ok (inner, after)) : cursor.Precedes after := by
  obtain ⟨word, -, takes⟩ := skip_step_takes skipped
  exact ⟨word, takes⟩

theorem precedes_skip_substitution (fuel : List Char) (outer : List Enclosure) (cursor last : Cursor)
    (closed : skipSubstitution fuel outer cursor = .ok ((), last)) : cursor.Precedes last := by
  induction fuel generalizing outer cursor with
  | nil =>
      cases outer with
      | nil =>
          cases closed
          exact precedes_refl _
      | cons enclosure outer => cases closed
  | cons f fuel ih =>
      cases outer with
      | nil =>
          cases closed
          exact precedes_refl _
      | cons enclosure outer =>
          rw [skip_substitution_step] at closed
          obtain ⟨⟨inner, after⟩, step, onward⟩ := except_bind_ok closed
          exact precedes_trans (precedes_skip_step step) (ih _ _ onward)

theorem digit_run_front (radix : Nat) (text : List Char) : digitRun radix text <+: text := by
  fun_induction digitRun radix text with
  | case1 => exact List.prefix_rfl
  | case2 c rest _ ih => exact List.prefix_cons_inj c |>.mpr ih
  | case3 => exact List.nil_prefix

theorem fraction_part_front (text : List Char) : fractionPart text <+: text := by
  unfold fractionPart
  split
  · exact List.prefix_cons_inj '.' |>.mpr (digit_run_front 10 _)
  · exact List.nil_prefix

theorem exponent_part_front (text : List Char) : exponentPart text <+: text := by
  unfold exponentPart
  split
  · split
    · split
      · split
        · exact List.prefix_cons_inj _ |>.mpr (digit_run_front 10 _)
        · split
          · exact List.prefix_cons_inj _ |>.mpr (List.prefix_cons_inj _ |>.mpr (digit_run_front 10 _))
          · exact List.nil_prefix
      · exact List.nil_prefix
    · exact List.nil_prefix
  · exact List.nil_prefix

theorem prefix_append_of_drop {α : Type} (front more text : List α) (one : front <+: text)
    (two : more <+: text.drop front.length) : front ++ more <+: text := by
  obtain ⟨rest, rfl⟩ := one
  rw [List.drop_left] at two
  exact List.prefix_append_right_inj front |>.mpr two

theorem decimal_text_front (text : List Char) : decimalText text <+: text := by
  have front := prefix_append_of_drop _ _ text (digit_run_front 10 text) (fraction_part_front _)
  unfold decimalText
  refine prefix_append_of_drop _ _ text front ?_
  rw [List.length_append]
  exact exponent_part_front _

theorem is_digit_of_ascii (c : Char) (digit : isAsciiDigit c = true) : isDigitOf 10 c = true := by
  have bounds : '0'.toNat ≤ c.toNat ∧ c.toNat ≤ '9'.toNat := by
    simpa [isAsciiDigit, Char.le_def, UInt32.le_iff_toNat_le] using digit
  have low : '0'.toNat = 48 := rfl
  have high : '9'.toNat = 57 := rfl
  have value : c.toNat - 48 < 10 := by omega
  simp [isDigitOf, digitValue?, digit, value]

theorem decimal_text_nonempty (c : Char) (rest : List Char) (starts : isAsciiDigit c = true ∨ c = '.') :
    decimalText (c :: rest) ≠ [] := by
  rcases starts with digit | rfl
  · simp [decimalText, digitRun, is_digit_of_ascii c digit]
  · have none : digitRun 10 ('.' :: rest) = [] := rfl
    simp [decimalText, none, fractionPart]

end ScriptSuite.Script
