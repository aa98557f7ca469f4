import Mathlib.Data.List.Basic
import ScriptSuite.Proofs.Script.Lexer.Rendering

set_option autoImplicit false

namespace ScriptSuite.Script

open Text

def codeUnits (c : Char) : List Nat :=
  if c.toNat < 0x10000 then [c.toNat]
  else [0xD800 + (c.toNat - 0x10000) / 0x400, 0xDC00 + (c.toNat - 0x10000) % 0x400]

inductive WritesUnits : List Nat → List Char → Prop where
  | none : WritesUnits [] []
  | unit {digits text : List Char} {units : List Nat} (four : digits.length = 4) (hex : digits.all isHexDigit = true)
      (onward : WritesUnits units text) : WritesUnits (natOfDigits 16 digits :: units) ('\\' :: 'u' :: (digits ++ text))

-- What a code unit stands for by itself; a surrogate stands for no character.
def lonelyUnit (unit : Nat) : Char :=
  if 0xD800 ≤ unit ∧ unit ≤ 0xDFFF then replacement else Char.ofNat unit

def quoted (quote : Char) (text : List Char) : String :=
  String.ofList (quote :: (text ++ [quote]))

theorem digit_value_lt (radix : Nat) (c : Char) (positive : 0 < radix) : (digitValue? radix c).getD 0 < radix := by
  cases value : digitValue? radix c with
  | none => exact positive
  | some found =>
      unfold digitValue? at value
      dsimp only at value
      generalize (if isAsciiDigit c = true then _ else _ : Nat) = candidate at value
      split at value
      · next small => rwa [← Option.some.inj value]
      · cases value

theorem four_digits_lt (digits : List Char) (four : digits.length = 4) : natOfDigits 16 digits < 0x10000 := by
  obtain ⟨a, b, c, d, rfl⟩ := List.length_eq_four.mp four
  have first := digit_value_lt 16 a (by decide)
  have second := digit_value_lt 16 b (by decide)
  have third := digit_value_lt 16 c (by decide)
  have last := digit_value_lt 16 d (by decide)
  simp only [natOfDigits, List.foldl_cons, List.foldl_nil]
  omega

theorem scalar_lonely (unit : Nat) (small : unit < 0x10000) : (scalar? unit).getD replacement = lonelyUnit unit := by
  unfold scalar? lonelyUnit
  by_cases surrogate : 0xD800 ≤ unit ∧ unit ≤ 0xDFFF
  · have invalid : ¬ unit.isValidChar := by
      unfold Nat.isValidChar
      omega
    rw [dif_neg invalid, if_pos surrogate]
    rfl
  · have valid : unit.isValidChar := by
      unfold Nat.isValidChar
      omega
    rw [dif_pos valid, if_neg surrogate, Char.ofNat, dif_pos valid]
    rfl

theorem hex_digit_not_brace (c : Char) (digit : isHexDigit c = true) : c ≠ '\x7b' := by
  rintro rfl
  exact absurd digit (by decide)

theorem unit_escape_read {quote : Char} {digits rest text : List Char} {offset : Nat} {last : Cursor}
    (mark : quote = '"' ∨ quote = '\'') (four : digits.length = 4) (hex : digits.all isHexDigit = true)
    (onward : StringRead quote ⟨rest, offset + byteLength ('\\' :: 'u' :: digits)⟩ text last) :
    StringRead quote ⟨'\\' :: 'u' :: (digits ++ rest), offset⟩ (lonelyUnit (natOfDigits 16 digits) :: text) last := by
  have noQuote : '\\' ≠ quote := by
    rcases mark with rfl | rfl <;> decide
  have noBrace : (digits ++ rest).head? ≠ some '\x7b' := by
    obtain ⟨d, others, rfl⟩ := List.exists_cons_of_length_eq_add_one four
    simp only [List.all_cons, Bool.and_eq_true] at hex
    simpa using hex_digit_not_brace d hex.1
  have small := four_digits_lt digits four
  have front : (digits ++ rest).take 4 = digits := by
    rw [← four, List.take_left]
  have escape : scanEscape ⟨'u' :: (digits ++ rest), offset + 1⟩ =
      (.character (lonelyUnit (natOfDigits 16 digits)), ⟨rest, offset + 2 + byteLength digits⟩) := by
    show (if (digits ++ rest).head? = some '\x7b' then _ else scanHexEscape 'u' 4 ⟨digits ++ rest, offset + 2⟩) = _
    rw [if_neg noBrace]
    unfold scanHexEscape
    dsimp only
    rw [front, if_pos (by simpa [four] using hex), scalar_lonely _ small]
    unfold Cursor.advance
    dsimp only
    rw [List.drop_left]
  have bytes : offset + byteLength ('\\' :: 'u' :: digits) = offset + 2 + byteLength digits := by
    simp only [byteLength_cons, show '\\'.utf8Size = 1 from rfl, show 'u'.utf8Size = 1 from rfl]
    omega
  rw [bytes] at onward
  exact .character rfl noQuote escape onward

theorem units_body_read {quote : Char} (mark : quote = '"' ∨ quote = '\'') {units : List Nat} {text : List Char}
    (writes : WritesUnits units text) (following : List Char) (offset : Nat) :
    StringRead quote ⟨text ++ quote :: following, offset⟩ (units.map lonelyUnit)
      ⟨following, offset + byteLength text + quote.utf8Size⟩ := by
  induction writes generalizing offset with
  | none => exact .closed rfl
  | @unit digits text units four hex onward ih =>
      have behind := unit_escape_read mark four hex (ih (offset + byteLength ('\\' :: 'u' :: digits)))
      rw [Nat.add_assoc offset, ← byteLength_append] at behind
      rwa [List.cons_append, List.cons_append, List.append_assoc]

theorem units_read (base : Nat) (previous : Option TokenKind) (quote : Char) (mark : quote = '"' ∨ quote = '\'')
    (units : List Nat) (text following : List Char) (writes : WritesUnits units text) :
    ReadsAs base previous (quote :: (text ++ [quote])) following (.string (String.ofList (units.map lonelyUnit))) :=
  string_body_reads base previous quote mark text _ following (units_body_read mark writes following)

theorem lonely_units (c : Char) :
    (codeUnits c).map lonelyUnit = if c.toNat < 0x10000 then [c] else [replacement, replacement] := by
  unfold codeUnits
  by_cases small : c.toNat < 0x10000
  · have own : ¬(0xD800 ≤ c.toNat ∧ c.toNat ≤ 0xDFFF) := by
      have valid : c.toNat.isValidChar := c.valid
      unfold Nat.isValidChar at valid
      omega
    rw [if_pos small, if_pos small, List.map_singleton, lonelyUnit, if_neg own, Char.ofNat_toNat]
  · have bound : c.toNat < 0x110000 := by
      have valid : c.toNat.isValidChar := c.valid
      unfold Nat.isValidChar at valid
      omega
    have pair : (c.toNat - 0x10000) / 0x400 < 0x400 ∧ (c.toNat - 0x10000) % 0x400 < 0x400 := by omega
    rw [if_neg small, if_neg small, List.map_cons, List.map_singleton, lonelyUnit, lonelyUnit, if_pos (by omega),
      if_pos (by omega)]

theorem units_cooked_length (text : List Char) :
    ((text.flatMap codeUnits).map lonelyUnit).length = text.length + text.countP fun c => ¬ c.toNat < 0x10000 := by
  induction text with
  | nil => rfl
  | cons c rest step =>
      rw [List.flatMap_cons, List.map_append, List.length_append, step, lonely_units, List.countP_cons, List.length_cons]
      by_cases small : c.toNat < 0x10000
      · simp [small]
        omega
      · simp [small]
        omega

-- The halves of a pair are cooked apart, so the text becomes longer where it has one.
theorem units_cooked_iff (text : List Char) :
    (text.flatMap codeUnits).map lonelyUnit = text ↔ ∀ c ∈ text, c.toNat < 0x10000 := by
  constructor
  · intro same
    have length := units_cooked_length text
    rw [same] at length
    have none : (text.countP fun c => ¬ c.toNat < 0x10000) = 0 := by omega
    simpa using List.countP_eq_zero.mp none
  · intro small
    induction text with
    | nil => rfl
    | cons c rest step =>
        rw [List.flatMap_cons, List.map_append, lonely_units, if_pos (small c (List.mem_cons_self ..)),
          step fun d inside => small d (List.mem_cons_of_mem _ inside), List.singleton_append]

theorem lex_quoted (quote : Char) (mark : quote = '"' ∨ quote = '\'') (text : List Char) (value : String)
    (reads : ReadsAs 0 none (quote :: (text ++ [quote])) [] (.string value)) :
    lex (quoted quote text) = .ok (soleToken (.string value) (byteLength (quote :: (text ++ [quote])))) := by
  have scanned := reads 0 quote rfl
  rw [List.append_nil, Nat.zero_add] at scanned
  refine lex_one_word quote (text ++ [quote]) _ ?_ ?_ scanned
  · rcases mark with rfl | rfl <;> decide
  · rcases mark with rfl | rfl <;> decide

/-- A string literal in which code units are escaped is one token, and each unit is cooked by itself: a surrogate becomes
U+FFFD, whether or not it stands in a pair. So the escaped form of a text is cooked to the text, as its direct form is,
exactly when the text has no character beyond U+FFFF. -/
theorem escaped_literal_cooked_iff (quote : Char) (mark : quote = '"' ∨ quote = '\'') (units : List Nat) (text : List Char)
    (writes : WritesUnits units text) :
    lex (quoted quote text) =
        .ok (soleToken (.string (String.ofList (units.map lonelyUnit))) (byteLength (quote :: (text ++ [quote])))) ∧
      ∀ name : String, units = name.toList.flatMap codeUnits →
        (String.ofList (units.map lonelyUnit) = name ↔ ∀ c ∈ name.toList, c.toNat < 0x10000) ∧
          ∃ stop, lex (quoted quote (name.toList.flatMap (quotedChar quote))) = .ok (soleToken (.string name) stop) := by
  refine ⟨lex_quoted quote mark text _ (units_read 0 none quote mark units text [] writes), ?_⟩
  rintro name rfl
  constructor
  · rw [← units_cooked_iff]
    refine ⟨fun same => ?_, fun same => by rw [same, String.ofList_toList]⟩
    have texts := congrArg String.toList same
    rwa [String.toList_ofList] at texts
  · have reads := string_reads 0 none quote name.toList [] mark
    rw [String.ofList_toList] at reads
    exact ⟨_, lex_quoted quote mark _ name reads⟩

theorem accented_name_cooked :
    WritesUnits ("né".toList.flatMap codeUnits) "\\u006e\\u00E9".toList ∧
      lex (quoted '"' "\\u006e\\u00E9".toList) = .ok (soleToken (.string "né") 14) := by
  have units : "né".toList.flatMap codeUnits = [natOfDigits 16 "006e".toList, natOfDigits 16 "00E9".toList] := by decide
  have writes : WritesUnits ("né".toList.flatMap codeUnits) "\\u006e\\u00E9".toList := by
    rw [units]
    exact .unit rfl rfl (.unit rfl rfl .none)
  obtain ⟨lexed, whole⟩ := escaped_literal_cooked_iff '"' (.inl rfl) _ _ writes
  rw [(whole "né" rfl).1.mpr (by decide)] at lexed
  exact ⟨writes, lexed⟩

/-- The two escapes of one character become two replacement characters. -/
theorem pair_cooked_apart :
    WritesUnits ("😀".toList.flatMap codeUnits) "\\ud83d\\ude00".toList ∧
      lex (quoted '\'' "\\ud83d\\ude00".toList) = .ok (soleToken (.string "\uFFFD\uFFFD") 14) ∧
      lex (quoted '\'' "\\ud83d\\ude00".toList) ≠ .ok (soleToken (.string "😀") 14) := by
  have units : "😀".toList.flatMap codeUnits = [natOfDigits 16 "d83d".toList, natOfDigits 16 "de00".toList] := by decide
  have lexed : lex (quoted '\'' "\\ud83d\\ude00".toList) = .ok (soleToken (.string "\uFFFD\uFFFD") 14) := by
    decide +kernel
  refine ⟨?_, lexed, ?_⟩
  · rw [units]
    exact .unit rfl rfl (.unit rfl rfl .none)
  · rw [lexed]
    decide +kernel

end ScriptSuite.Script
