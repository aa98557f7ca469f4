import Mathlib.Data.List.TakeDrop
import ScriptSuite.Proofs.Script.Lexer.Words

/-!
What the numeric scanner reads. Without its separators the text of a decimal literal is a decimal numeral, which always has a
value, and behind a radix prefix stand digits of the radix only. So the lexer never fails for a number without a value.
-/
set_option autoImplicit false

namespace ScriptSuite.Script

open Text Number

def IsDigits (text : List Char) : Prop :=
  text ≠ [] ∧ ∀ c ∈ text, isAsciiDigit c = true

def NoDigit (text : List Char) : Prop :=
  ∀ c ∈ text.head?, isAsciiDigit c = false

inductive IsExponent : List Char → Prop where
  | none : IsExponent []
  | plain {mark : Char} {digits : List Char} (letter : mark = 'e' ∨ mark = 'E') (some : IsDigits digits) :
      IsExponent (mark :: digits)
  | signed {mark sign : Char} {digits : List Char} (letter : mark = 'e' ∨ mark = 'E') (either : sign = '+' ∨ sign = '-')
      (some : IsDigits digits) : IsExponent (mark :: sign :: digits)

inductive IsDecimal : List Char → Prop where
  | whole {digits exponent : List Char} (some : IsDigits digits) (power : IsExponent exponent) :
      IsDecimal (digits ++ exponent)
  | pointed {digits fraction exponent : List Char} (some : IsDigits digits) (decimal : ∀ c ∈ fraction, isAsciiDigit c = true)
      (power : IsExponent exponent) : IsDecimal (digits ++ '.' :: (fraction ++ exponent))
  | fraction {digits exponent : List Char} (some : IsDigits digits) (power : IsExponent exponent) :
      IsDecimal ('.' :: (digits ++ exponent))

-- The cursor stands at a digit, or at a point before one: there the scanner dispatches to numbers.
def Cursor.AtNumber (cursor : Cursor) : Prop :=
  (∃ c ∈ cursor.peek?, isAsciiDigit c = true) ∨ cursor.peek? = some '.' ∧ ∃ c ∈ cursor.next.peek?, isAsciiDigit c = true

section

variable {text tail digits fraction exponent : List Char}

theorem span_digits (decimal : ∀ c ∈ digits, isAsciiDigit c = true) (ends : NoDigit tail) :
    (digits ++ tail).span isAsciiDigit = (digits, tail) := by
  rw [List.span_eq_takeWhile_dropWhile, List.takeWhile_append_of_pos decimal, List.dropWhile_append_of_pos decimal]
  cases tail with
  | nil => simp
  | cons c tail => simp [ends c rfl]

theorem exponent_no_digit (power : IsExponent exponent) : NoDigit exponent := by
  cases power with
  | none => simp [NoDigit]
  | plain letter some | signed letter either some =>
      rintro c ⟨⟩
      rcases letter with rfl | rfl <;> decide

theorem exponent_read {mark : Char} (power : IsExponent (mark :: tail)) :
    (mark = 'e' ∨ mark = 'E') ∧ (readExponent? tail).isSome = true := by
  cases power with
  | plain letter some =>
      obtain ⟨c, rest, rfl⟩ := List.exists_cons_of_ne_nil some.1
      have all : (c :: rest).all isAsciiDigit = true := List.all_eq_true.mpr some.2
      have digit := some.2 c List.mem_cons_self
      have noPlus : c ≠ '+' := by
        rintro rfl
        cases digit
      have noMinus : c ≠ '-' := by
        rintro rfl
        cases digit
      exact ⟨letter, by simp [readExponent?, noPlus, noMinus, all]⟩
  | @signed mark sign digits letter either some =>
      have all : digits.all isAsciiDigit = true := List.all_eq_true.mpr some.2
      rcases either with rfl | rfl
      · exact ⟨letter, by simp [readExponent?, some.1, all]⟩
      · exact ⟨letter, by simp [readExponent?, some.1, all]⟩

theorem decimal_parts (whole : ∀ c ∈ digits, isAsciiDigit c = true) (decimal : ∀ c ∈ fraction, isAsciiDigit c = true)
    (some : digits ≠ [] ∨ fraction ≠ []) (power : IsExponent exponent) :
    (DecimalParts.ofText? (digits ++ '.' :: (fraction ++ exponent))).isSome = true := by
  have point : isAsciiDigit '.' = false := by decide
  have nonempty : (digits.isEmpty && fraction.isEmpty) = false := by
    rcases some with some | some <;> simp [some]
  unfold DecimalParts.ofText?
  rw [span_digits whole (by simpa [NoDigit] using point)]
  simp only [span_digits decimal (exponent_no_digit power), nonempty]
  cases exponent with
  | nil => rfl
  | cons mark tail =>
      obtain ⟨letter, read⟩ := exponent_read power
      simp [letter, read]

theorem of_text_decimal (decimal : IsDecimal text) : (Double.ofText? text).isSome = true := by
  rw [Double.ofText?, Option.isSome_map]
  cases decimal with
  | @whole digits exponent some power =>
      unfold DecimalParts.ofText?
      rw [span_digits some.2 (exponent_no_digit power)]
      dsimp only
      cases exponent with
      | nil => simp [some.1]
      | cons mark tail =>
          obtain ⟨letter, read⟩ := exponent_read power
          have noPoint : mark ≠ '.' := by
            rcases letter with rfl | rfl <;> decide
          simp [letter, read, noPoint, some.1]
  | pointed some decimal power => exact decimal_parts some.2 decimal (.inl some.1) power
  | @fraction digits exponent some power =>
      have noWhole : ∀ c ∈ ([] : List Char), isAsciiDigit c = true := by simp
      exact decimal_parts noWhole some.2 (.inr some.1) power

end

theorem digit_is_ascii (c : Char) (digit : isDigitOf 10 c = true) : isAsciiDigit c = true := by
  by_contra other
  have value : digitValue? 10 c = none := by
    unfold digitValue?
    rw [if_neg other]
    dsimp only
    split
    · exact if_neg (by omega)
    · split
      · exact if_neg (by omega)
      · exact if_neg (Nat.lt_irrefl 10)
  rw [isDigitOf, value] at digit
  cases digit

theorem drop_separators_cons (c : Char) (text : List Char) (plain : c ≠ '_') :
    dropSeparators (c :: text) = c :: dropSeparators text :=
  List.filter_cons_of_pos (by simpa using plain)

theorem drop_separators_append (a b : List Char) : dropSeparators (a ++ b) = dropSeparators a ++ dropSeparators b :=
  List.filter_append ..

theorem separator_no_digit (radix : Nat) : isDigitOf radix '_' = false := by
  have value : digitValue? radix '_' = if radix < radix then some radix else none := rfl
  rw [isDigitOf, value, if_neg (Nat.lt_irrefl radix)]
  rfl

theorem digit_no_separator {radix : Nat} {c : Char} (digit : isDigitOf radix c = true) : c ≠ '_' := by
  rintro rfl
  rw [separator_no_digit] at digit
  cases digit

theorem digit_run_kept (radix : Nat) (text : List Char) :
    ∀ c ∈ dropSeparators (digitRun radix text), isDigitOf radix c = true := by
  fun_induction digitRun radix text with
  | case1 => simp [dropSeparators]
  | case2 c rest accepted step =>
      rcases Bool.or_eq_true_iff.mp accepted with digit | separator
      · rw [drop_separators_cons c _ (digit_no_separator digit)]
        simpa [digit] using step
      · have underscore : c = '_' := by simpa using (Bool.and_eq_true_iff.mp separator).1
        rw [underscore]
        exact step
  | case3 => simp [dropSeparators]

theorem digit_run_ends (radix : Nat) (text : List Char) :
    ∀ c ∈ (text.drop (digitRun radix text).length).head?, isDigitOf radix c = false := by
  fun_induction digitRun radix text with
  | case1 => simp
  | case2 c rest _ step => exact step
  | case3 c rest refused =>
      rintro d ⟨⟩
      exact (Bool.or_eq_false_iff.mp (Bool.eq_false_iff.mpr refused)).1

theorem radix_prefix_shape {text : List Char} {radix : Nat} (found : radixOfPrefix? text = some radix) :
    ∃ mark tail, text = '0' :: mark :: tail := by
  unfold radixOfPrefix? at found
  split at found
  · exact ⟨_, _, rfl⟩
  · cases found

theorem digit_run_digits_of_head {text : List Char} (head : ∃ c ∈ text.head?, isAsciiDigit c = true) :
    IsDigits (dropSeparators (digitRun 10 text)) := by
  obtain ⟨c, first, ascii⟩ := head
  obtain ⟨rest, rfl⟩ := List.head?_eq_some_iff.mp first
  have digit := is_digit_of_ascii c ascii
  refine ⟨?_, fun d kept => digit_is_ascii d (digit_run_kept 10 _ d kept)⟩
  rw [digitRun, if_pos (by simp [digit]), drop_separators_cons c _ (digit_no_separator digit)]
  exact List.cons_ne_nil _ _

theorem fraction_part_kept (text : List Char) :
    dropSeparators (fractionPart text) = [] ∨
      ∃ fraction, dropSeparators (fractionPart text) = '.' :: fraction ∧ ∀ c ∈ fraction, isAsciiDigit c = true := by
  unfold fractionPart
  split
  · next rest =>
      refine .inr ⟨dropSeparators (digitRun 10 rest), drop_separators_cons _ _ (by decide), fun c kept => ?_⟩
      exact digit_is_ascii c (digit_run_kept 10 rest c kept)
  · exact .inl rfl

theorem exponent_part_kept (text : List Char) : IsExponent (dropSeparators (exponentPart text)) := by
  unfold exponentPart
  split
  · next mark rest =>
      split
      · next accepted =>
          have letter : mark = 'e' ∨ mark = 'E' := by simpa using accepted
          have plain : mark ≠ '_' := by
            rcases letter with rfl | rfl <;> decide
          split
          · next sign digits =>
              split
              · next digit =>
                  rw [drop_separators_cons _ _ plain]
                  exact .plain letter (digit_run_digits_of_head ⟨sign, rfl, digit⟩)
              · split
                · next signed =>
                    obtain ⟨mark, behind⟩ := Bool.and_eq_true_iff.mp signed
                    have either : sign = '+' ∨ sign = '-' := by simpa using mark
                    have noSeparator : sign ≠ '_' := by
                      rcases either with rfl | rfl <;> decide
                    rw [drop_separators_cons _ _ plain, drop_separators_cons _ _ noSeparator]
                    exact .signed letter either (digit_run_digits_of_head ((Option.any_eq_true _ _).mp behind))
                · exact .none
          · exact .none
      · exact .none
  · exact .none

theorem decimal_text_kept {cursor : Cursor} (number : cursor.AtNumber) :
    IsDecimal (dropSeparators (decimalText cursor.rest)) := by
  unfold decimalText
  dsimp only
  rw [drop_separators_append, drop_separators_append]
  have power := exponent_part_kept (cursor.rest.drop
    ((digitRun 10 cursor.rest).length + (fractionPart (cursor.rest.drop (digitRun 10 cursor.rest).length)).length))
  rcases number with digit | ⟨point, digit⟩
  · have whole := digit_run_digits_of_head digit
    rcases fraction_part_kept (cursor.rest.drop (digitRun 10 cursor.rest).length) with none | ⟨fraction, kept, decimal⟩
    · rw [none, List.append_nil]
      exact .whole whole power
    · rw [kept, List.append_assoc]
      exact .pointed whole decimal power
  · obtain ⟨rest, text⟩ := List.head?_eq_some_iff.mp point
    have noWhole : digitRun 10 cursor.rest = [] := by
      rw [text]
      rfl
    have behind : IsDigits (dropSeparators (digitRun 10 rest)) :=
      digit_run_digits_of_head (by rwa [Cursor.peek?, next_rest cursor '.' rest text] at digit)
    have fraction : fractionPart (cursor.rest.drop 0) = '.' :: digitRun 10 rest := by
      rw [text]
      rfl
    rw [noWhole, List.length_nil, fraction, drop_separators_cons _ _ (by decide)]
    exact .fraction behind (exponent_part_kept _)

theorem at_number_dispatched (base : Nat) (previous : Option TokenKind) {cursor : Cursor} (number : cursor.AtNumber) :
    ∃ c ∈ cursor.peek?, scanKind base previous c cursor = scanNumber cursor := by
  rcases number with ⟨c, head, digit⟩ | ⟨point, digit⟩
  · exact ⟨c, head, scan_kind_digit base previous c cursor digit⟩
  · refine ⟨'.', point, ?_⟩
    have behind : (decide ('.' = '.') && cursor.next.peek?.any isAsciiDigit) = true := by
      rw [decide_eq_true rfl, Bool.true_and]
      exact (Option.any_eq_true _ _).mpr digit
    unfold scanKind
    rw [if_neg (by decide), if_neg (by decide), if_neg (by decide), if_pos behind]

theorem digits_all_valued (radix : Nat) {digits : List Char} (all : ∀ c ∈ digits, isDigitOf radix c = true) :
    (digits.filterMap (digitValue? radix)).map some = digits.map (digitValue? radix) := by
  induction digits with
  | nil => rfl
  | cons c digits step =>
      obtain ⟨value, valued⟩ := Option.isSome_iff_exists.mp (all c List.mem_cons_self)
      rw [List.filterMap_cons_some valued, List.map_cons, List.map_cons, valued,
        step fun d inside => all d (List.mem_cons_of_mem c inside)]

def Fault.isLexical : Fault → Bool
  | .unterminatedComment | .unterminatedString | .unterminatedTemplate | .unterminatedRegex | .unexpectedCharacter _
  | .nameAfterNumber | .missingRadixDigits => true
  | _ => false

theorem not_invalid {fault : Fault} (lexical : fault.isLexical = true) (text : String) : fault ≠ .invalidNumber text := by
  rintro rfl
  cases lexical

def FailsLexically {α : Type} (result : Scan α) : Prop :=
  ∀ halt, result = .error halt → halt.fault.isLexical = true

namespace FailsLexically

variable {α β : Type}

theorem ok (value : α) : FailsLexically (.ok value) := by
  rintro halt ⟨⟩

theorem error {fault : Fault} {stop : Cursor} (lexical : fault.isLexical = true) :
    FailsLexically (α := α) (.error ⟨fault, stop⟩) := by
  rintro halt ⟨⟩
  exact lexical

theorem bind {one : Scan α} {two : α → Scan β} (first : FailsLexically one) (onward : ∀ value, FailsLexically (two value)) :
    FailsLexically (one >>= two) := by
  intro halt failed
  obtain stopped | ⟨value, -, stopped⟩ := except_bind_error failed
  · exact first halt stopped
  · exact onward value halt stopped

end FailsLexically

theorem block_comment_fails_lexically (newline : Bool) (offset : Nat) (text : List Char) :
    FailsLexically (skipBlockComment newline offset text) := by
  fun_induction skipBlockComment newline offset text with
  | case1 => exact .error rfl
  | case2 => exact .ok _
  | case3 _ _ _ _ _ step => exact step

theorem raw_string_fails_lexically (quote : Char) (offset : Nat) (text : List Char) :
    FailsLexically (skipRawString quote offset text) := by
  fun_induction skipRawString quote offset text with
  | case1 => exact .error rfl
  | case2 _ _ _ step => exact step
  | case3 => exact .ok _
  | case4 _ _ _ _ _ step => exact step

theorem regex_body_fails_lexically (inClass : Bool) (offset : Nat) (text : List Char) :
    FailsLexically (skipRegexBody inClass offset text) := by
  fun_induction skipRegexBody inClass offset text with
  | case1 | case2 | case3 | case8 => exact .error rfl
  | case4 _ _ _ _ _ step => exact step
  | case5 _ _ _ _ _ _ step => exact step
  | case6 _ _ _ _ _ _ _ step => exact step
  | case7 => exact .ok _
  | case9 _ _ _ _ _ _ _ _ _ _ _ step => exact step

theorem string_body_fails_lexically (quote : Char) (fuel : List Char) (cursor : Cursor) :
    FailsLexically (scanStringBody quote fuel cursor) := by
  induction fuel generalizing cursor with
  | nil => exact .error rfl
  | cons _ fuel step =>
      unfold scanStringBody
      split
      · exact .error rfl
      · split
        · exact .ok _
        · split
          · split
            · exact .bind (step _) fun _ => .ok _
            · exact step _
            · exact .error rfl
          · split
            · exact .error rfl
            · exact .bind (step _) fun _ => .ok _

theorem skip_step_fails_lexically (cursor : Cursor) (enclosure : Enclosure) : FailsLexically (skipStep cursor enclosure) := by
  intro halt failed
  obtain rfl | ⟨rest, -, unclosed⟩ | ⟨c, rest, -, -, unclosed⟩ := skip_step_fails failed
  · rfl
  · exact block_comment_fails_lexically _ _ _ halt unclosed
  · exact raw_string_fails_lexically _ _ _ halt unclosed

theorem substitution_fails_lexically (fuel : List Char) (outer : List Enclosure) (cursor : Cursor) :
    FailsLexically (skipSubstitution fuel outer cursor) := by
  induction fuel generalizing outer cursor with
  | nil =>
      cases outer with
      | nil => exact .ok _
      | cons enclosure outer => exact .error rfl
  | cons f fuel ih =>
      cases outer with
      | nil => exact .ok _
      | cons enclosure outer =>
          rw [skip_substitution_step]
          exact .bind (skip_step_fails_lexically cursor enclosure) fun _ => ih _ _

theorem template_body_fails_lexically (base : Nat) (fuel literal : List Char) (cursor : Cursor) :
    FailsLexically (scanTemplateBody base fuel literal cursor) := by
  induction fuel generalizing literal cursor with
  | nil => exact .error rfl
  | cons _ fuel step =>
      unfold scanTemplateBody
      split
      · exact .error rfl
      · exact .ok _
      · split
        · exact step _ _
        · exact step _ _
        · exact .error rfl
      · exact .bind (substitution_fails_lexically _ _ _) fun _ => .bind (step _ _) fun _ => .ok _
      · exact step _ _

theorem decimal_fails_lexically {cursor : Cursor} (number : cursor.AtNumber) : FailsLexically (scanDecimal cursor) := by
  have valued := of_text_decimal (decimal_text_kept number)
  unfold scanDecimal
  dsimp only
  split
  · exact .ok _
  · split
    · next none =>
        rw [none] at valued
        cases valued
    · split
      · exact .error rfl
      · exact .ok _

theorem number_fails_lexically {cursor : Cursor} (number : cursor.AtNumber) : FailsLexically (scanNumber cursor) := by
  unfold scanNumber
  split
  · unfold scanRadix
    dsimp only
    split
    · exact .error rfl
    · split
      · exact .ok _
      · exact .ok _
  · exact decimal_fails_lexically number

theorem kind_fails_lexically (base : Nat) (previous : Option TokenKind) (c : Char) (cursor : Cursor) (head : c ∈ cursor.peek?) :
    FailsLexically (scanKind base previous c cursor) := by
  unfold scanKind
  split
  · exact .bind (string_body_fails_lexically _ _ _) fun _ => .ok _
  · split
    · exact .bind (template_body_fails_lexically _ _ _ _) fun _ => .ok _
    · split
      · next digit => exact number_fails_lexically (.inl ⟨c, head, digit⟩)
      · split
        · next point =>
            obtain ⟨same, digit⟩ := Bool.and_eq_true_iff.mp point
            rw [of_decide_eq_true same] at head
            exact number_fails_lexically (.inr ⟨head, (Option.any_eq_true _ _).mp digit⟩)
        · split
          · exact .bind (regex_body_fails_lexically _ _ _) fun _ => .ok _
          · split
            · unfold scanPrivateName
              dsimp only
              split
              · exact .ok _
              · exact .error rfl
            · split
              · exact .ok _
              · unfold scanPunct
                split
                · exact .error rfl
                · split
                  · exact .ok _
                  · exact .ok _
                · exact .ok _

theorem trivia_fault (base : Nat) (surroundings : Surroundings) (newline : Bool) (offset : Nat) (text : List Char)
    (error : SyntaxError) (failed : skipTriviaFrom base surroundings newline offset text = .error error) :
    error.fault = .unterminatedComment := by
  fun_induction skipTriviaFrom base surroundings newline offset text with
  | case1 =>
      cases failed
      rfl
  | case2 | case11 => cases failed
  | case3 _ _ _ _ _ step | case4 _ _ _ _ _ _ _ step | case5 _ _ _ _ _ _ step | case6 _ _ _ _ _ _ step | case7 _ _ _ _ step
  | case8 _ _ _ _ step | case9 _ _ _ _ _ _ _ _ step | case10 _ _ _ _ _ _ _ _ _ step => exact step failed

theorem lex_from_fails_lexically (base fuel : Nat) (previous : Option TokenKind) (cursor : Cursor) (error : SyntaxError)
    (failed : lexFrom base fuel previous cursor = .error error) : error.fault.isLexical = true := by
  have trivia (first : Cursor) (failed : skipTrivia base first = .error error) : error.fault.isLexical = true := by
    rw [trivia_fault base _ _ _ _ error failed]
    rfl
  induction fuel generalizing previous cursor with
  | zero =>
      rw [lexFrom] at failed
      obtain stopped | ⟨value, -, stopped⟩ := except_bind_error failed
      · exact trivia cursor stopped
      · cases stopped
  | succ fuel step =>
      rw [lexFrom] at failed
      obtain stopped | ⟨⟨newline, start⟩, -, stopped⟩ := except_bind_error failed
      · exact trivia cursor stopped
      · dsimp only at stopped
        split at stopped
        · cases stopped
        · next c rest here =>
            split at stopped
            · next halt scanned =>
                cases stopped
                refine kind_fails_lexically base previous c start ?_ halt scanned
                rw [Cursor.peek?, here]
                rfl
            · obtain later | ⟨tokens, -, finished⟩ := except_bind_error stopped
              · exact step _ _ later
              · cases finished

-- The text of a decimal literal that is read as a number, and the digits of a literal with a radix prefix.
def Cursor.decimalLiteral (cursor : Cursor) : List Char :=
  dropSeparators (decimalText cursor.rest)

def Cursor.radixDigits (radix : Nat) (cursor : Cursor) : List Char :=
  dropSeparators (digitRun radix cursor.next.next.rest)

-- Numbers are read at the cursor without a loss: a decimal literal has its value, and every digit of a radix literal counts.
structure ReadsNumeral (cursor : Cursor) : Prop where
  decimal : radixOfPrefix? cursor.rest = none → IsDecimal cursor.decimalLiteral
  value : radixOfPrefix? cursor.rest = none → ∃ value, Double.ofText? cursor.decimalLiteral = some value ∧
    ∀ found after, scanNumber cursor = .ok (.number found, after) → found = value ∧
      ∃ word, cursor.Takes word after ∧ cursor.decimalLiteral = dropSeparators word
  digits : ∀ radix, radixOfPrefix? cursor.rest = some radix → ∀ c ∈ cursor.radixDigits radix, isDigitOf radix c = true
  counted : ∀ radix, radixOfPrefix? cursor.rest = some radix →
    ∀ found after, scanNumber cursor = .ok (.number found, after) →
      (∃ word, cursor.next.next.Takes word after ∧ cursor.radixDigits radix = dropSeparators word) ∧
      (∀ c ∈ after.peek?, isDigitOf radix c = false) ∧
      ∃ values, (cursor.radixDigits radix).map (digitValue? radix) = values.map some ∧ found = Double.ofDigits radix values
  suffixed : ∀ radix, radixOfPrefix? cursor.rest = some radix →
    ∀ digits after, scanNumber cursor = .ok (.bigint digits, after) →
      ∃ word, cursor.next.next.Takes (word ++ ['n']) after ∧ cursor.radixDigits radix = dropSeparators word ∧
        digits.toList = cursor.rest.take 2 ++ word
  refused : ∀ radix, radixOfPrefix? cursor.rest = some radix →
    ∀ halt, scanNumber cursor = .error halt → cursor.radixDigits radix = []
  readable : ∀ halt, scanNumber cursor = .error halt → ∀ text, halt.fault ≠ .invalidNumber text

theorem decimal_value {cursor after : Cursor} {value found : Double} (plain : radixOfPrefix? cursor.rest = none)
    (valued : Double.ofText? cursor.decimalLiteral = some value) (read : NumberRead cursor (.number found) after) :
    found = value ∧ ∃ word, cursor.Takes word after ∧ cursor.decimalLiteral = dropSeparators word := by
  cases read with
  | decimal _ noSuffix same noName =>
      exact ⟨Option.some.inj (same.symm.trans valued), _, takes_advance cursor _ (decimal_text_front _), rfl⟩
  | radix found digits noSuffix =>
      rw [plain] at found
      cases found

section

variable {cursor after : Cursor} {radix : Nat} (found : radixOfPrefix? cursor.rest = some radix)

include found

theorem radix_counted {number : Double} (read : NumberRead cursor (.number number) after) :
    (∃ word, cursor.next.next.Takes word after ∧ cursor.radixDigits radix = dropSeparators word) ∧
      (∀ c ∈ after.peek?, isDigitOf radix c = false) ∧
      ∃ values, (cursor.radixDigits radix).map (digitValue? radix) = values.map some ∧
        number = Double.ofDigits radix values := by
  cases read with
  | decimal plain noSuffix valued noName =>
      rw [found] at plain
      cases plain
  | radix same digits noSuffix =>
      obtain rfl := Option.some.inj (found.symm.trans same)
      exact ⟨⟨_, takes_advance _ _ (digit_run_front _ _), rfl⟩, digit_run_ends radix _, _,
        (digits_all_valued radix (digit_run_kept radix _)).symm, rfl⟩

theorem radix_suffixed {digits : String} (read : NumberRead cursor (.bigint digits) after) :
    ∃ word, cursor.next.next.Takes (word ++ ['n']) after ∧ cursor.radixDigits radix = dropSeparators word ∧
      digits.toList = cursor.rest.take 2 ++ word := by
  cases read with
  | bigint plain suffix =>
      rw [found] at plain
      cases plain
  | radixBigint same some suffix =>
      obtain rfl := Option.some.inj (found.symm.trans same)
      have front := digit_run_front radix cursor.next.next.rest
      refine ⟨_, takes_append (takes_advance _ _ front) (suffix_takes suffix), rfl, ?_⟩
      obtain ⟨mark, tail, here⟩ := radix_prefix_shape found
      have behind := next_rest cursor.next mark tail (next_rest cursor '0' _ here)
      rw [behind] at front ⊢
      rw [String.toList_ofList, here, List.take_succ_cons, List.take_succ_cons, ← List.prefix_iff_eq_take.mp front]
      rfl

end

theorem at_number_reads {cursor : Cursor} (number : cursor.AtNumber) : ReadsNumeral cursor := by
  have decimal := decimal_text_kept number
  obtain ⟨value, valued⟩ := Option.isSome_iff_exists.mp (of_text_decimal decimal)
  refine ⟨fun plain => decimal, fun plain => ⟨value, valued, fun found after scanned => ?_⟩, fun radix found => ?_,
    fun radix found number after scanned => radix_counted found (number_read scanned),
    fun radix found digits after scanned => radix_suffixed found (number_read scanned),
    fun radix found halt failed => ?_, fun halt failed => not_invalid (number_fails_lexically number halt failed)⟩
  · exact decimal_value plain valued (number_read scanned)
  · exact digit_run_kept radix _
  · rw [scanNumber, found] at failed
    dsimp only [scanRadix] at failed
    split at failed
    · next none => exact List.isEmpty_iff.mp none
    · split at failed
      · cases failed
      · cases failed

/-- Wherever in a source the scanner dispatches to numbers, a decimal literal without its separators is a decimal numeral, the
value of which is read, and every digit behind a radix prefix counts; no source fails for a number that has no value. -/
theorem numerals_well_formed (source : String) (base : Nat) :
    (∀ cursor, cursor.IsIn source.toList → cursor.AtNumber → ReadsNumeral cursor ∧
      ∀ previous, ∃ c ∈ cursor.peek?, scanKind base previous c cursor = scanNumber cursor) ∧
    ∀ error, lexFragment source base = .error error → ∀ text, error.fault ≠ .invalidNumber text := by
  constructor
  · intro cursor inside number
    exact ⟨at_number_reads number, fun previous => at_number_dispatched base previous number⟩
  · intro error failed
    exact not_invalid (lex_from_fails_lexically base _ _ _ error failed)

def separatedNumeral : String := "1_0.5e-3_0"

def separatedHex : String := "0x1_F"

-- Separators in the whole part and in the exponent, and between the digits of a radix literal.
theorem separated_numeral_well_formed :
    (Cursor.IsIn separatedNumeral.toList ⟨separatedNumeral.toList, 0⟩ ∧
      Cursor.AtNumber ⟨separatedNumeral.toList, 0⟩ ∧ ReadsNumeral ⟨separatedNumeral.toList, 0⟩ ∧
      IsDecimal "10.5e-30".toList) ∧
    Cursor.IsIn separatedHex.toList ⟨separatedHex.toList, 0⟩ ∧ Cursor.AtNumber ⟨separatedHex.toList, 0⟩ ∧
      ReadsNumeral ⟨separatedHex.toList, 0⟩ ∧
      scanNumber ⟨separatedHex.toList, 0⟩ = .ok (.number (Double.ofDigits 16 [1, 15]), ⟨[], 5⟩) := by
  have inside : Cursor.IsIn separatedNumeral.toList ⟨separatedNumeral.toList, 0⟩ := ⟨[], rfl, rfl⟩
  have number : Cursor.AtNumber ⟨separatedNumeral.toList, 0⟩ := .inl ⟨'1', rfl, rfl⟩
  have reads := ((numerals_well_formed separatedNumeral 0).1 _ inside number).1
  have literal : Cursor.decimalLiteral ⟨separatedNumeral.toList, 0⟩ = "10.5e-30".toList := by decide +kernel
  have hexInside : Cursor.IsIn separatedHex.toList ⟨separatedHex.toList, 0⟩ := ⟨[], rfl, rfl⟩
  have hexNumber : Cursor.AtNumber ⟨separatedHex.toList, 0⟩ := .inl ⟨'0', rfl, rfl⟩
  exact ⟨⟨inside, number, reads, literal ▸ reads.decimal (by decide +kernel)⟩, hexInside, hexNumber,
    ((numerals_well_formed separatedHex 0).1 _ hexInside hexNumber).1, rfl⟩

end ScriptSuite.Script
