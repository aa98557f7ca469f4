import Mathlib.Control.Monad.Basic
import ScriptSuite.Proofs.Script.Lexer.Numerals

/-!
What may stand directly behind a numeric literal. Behind a decimal literal the scanner looks for a name; behind the digits of
another radix and behind the suffix `n` it does not, and the next token may begin there.
-/
set_option autoImplicit false

namespace ScriptSuite.Script

open Text Number

def TokenKind.isNumeric : TokenKind → Bool
  | .number _ | .bigint _ => true
  | _ => false

def TokenKind.isBigint : TokenKind → Bool
  | .bigint _ => true
  | _ => false

def TokenKind.isWord : TokenKind → Bool
  | .identifier _ | .keyword _ => true
  | _ => false

def beginsWord (c : Char) : Bool :=
  isIdentifierStart c || isAsciiDigit c

def HasAt (source : List Char) (offset : Nat) (accepts : Char → Bool) : Prop :=
  ∃ c rest, Cursor.IsIn source ⟨c :: rest, offset⟩ ∧ accepts c = true

def HasRadixAt (source : List Char) (offset : Nat) : Prop :=
  ∃ rest, Cursor.IsIn source ⟨rest, offset⟩ ∧ (radixOfPrefix? rest).isSome = true

-- Without a gap behind the one token follows a name, a reserved word or a number that begins with a digit.
structure RunsInto (source : List Char) (one two : Token) : Prop where
  adjacent : one.span.stop = two.span.start
  goesOn : two.kind.isWord = true ∨ two.kind.isNumeric = true ∧ HasAt source two.span.start isAsciiDigit

theorem digit_run_stops (text : List Char) : NoDigit (text.drop (digitRun 10 text).length) := by
  fun_induction digitRun 10 text with
  | case1 => simp [NoDigit]
  | case2 c rest _ step => exact step
  | case3 c rest refused =>
      rintro d ⟨⟩
      refine Bool.eq_false_iff.mpr fun digit => refused ?_
      rw [is_digit_of_ascii c digit, Bool.true_or]

theorem fraction_part_stops {text : List Char} (ends : NoDigit text) : NoDigit (text.drop (fractionPart text).length) := by
  unfold fractionPart
  split
  · exact digit_run_stops _
  · exact ends

theorem exponent_part_stops {text : List Char} (ends : NoDigit text) : NoDigit (text.drop (exponentPart text).length) := by
  unfold exponentPart
  split
  · next mark rest =>
      split
      · split
        · next sign digits =>
            split
            · exact digit_run_stops (sign :: digits)
            · split
              · exact digit_run_stops digits
              · exact ends
        · exact ends
      · exact ends
  · exact ends

theorem decimal_text_stops (text : List Char) : NoDigit (text.drop (decimalText text).length) := by
  have whole := digit_run_stops text
  have fraction := fraction_part_stops whole
  rw [List.drop_drop] at fraction
  have exponent := exponent_part_stops fraction
  rw [List.drop_drop] at exponent
  unfold decimalText
  dsimp only
  rwa [List.length_append, List.length_append]

-- Only behind a suffix or the digits of a radix the scanner does not look at the next character.
theorem number_ends {cursor after : Cursor} {kind : TokenKind} (read : NumberRead cursor kind after) :
    kind.isNumeric = true ∧
      (kind.isBigint = true ∨ (radixOfPrefix? cursor.rest).isSome = true ∨ ∀ c ∈ after.peek?, beginsWord c = false) := by
  cases read with
  | decimal plain noSuffix valued noName =>
      refine ⟨rfl, .inr (.inr fun c head => ?_)⟩
      rw [beginsWord, decimal_text_stops cursor.rest c head, Bool.or_false]
      exact Bool.eq_false_iff.mpr fun starts => noName ((Option.any_eq_true _ _).mpr ⟨c, head, starts⟩)
  | bigint plain suffix => exact ⟨rfl, .inl rfl⟩
  | radix found digits noSuffix => exact ⟨rfl, .inr (.inl (by rw [found, Option.isSome_some]))⟩
  | radixBigint found digits suffix => exact ⟨rfl, .inl rfl⟩

theorem word_scanned (cursor : Cursor) : (scanWord cursor).1.isWord = true := by
  unfold scanWord
  dsimp only
  split <;> rfl

theorem numeric_read {base : Nat} {previous : Option TokenKind} {c : Char} {cursor after : Cursor} {kind : TokenKind}
    (numeric : kind.isNumeric = true) (scanned : scanKind base previous c cursor = .ok (kind, after)) :
    NumberRead cursor kind after := by
  cases kind_read scanned with
  | number starts read => exact read
  | bigint starts read => exact read
  | _ => cases numeric

theorem word_extent {base : Nat} {previous : Option TokenKind} {c : Char} {cursor after : Cursor} {kind : TokenKind}
    (word : kind.isWord = true) (scanned : scanKind base previous c cursor = .ok (kind, after)) :
    isIdentifierStart c = true ∧ after = (cursor.takeWhile isIdentifierPart).2 := by
  cases kind_read scanned with
  | keyword starts found => exact ⟨starts, rfl⟩
  | name starts free => exact ⟨starts, rfl⟩
  | _ => cases word

theorem is_in_unique {source : List Char} {one two : Cursor} (first : one.IsIn source) (second : two.IsIn source)
    (same : one.offset = two.offset) : one = two := by
  obtain ⟨front, split, bytes⟩ := first
  obtain ⟨other, again, length⟩ := second
  rw [split] at again
  have fronts := front_of_bytes again (by omega)
  subst fronts
  obtain ⟨rest, offset⟩ := one
  obtain ⟨behind, stop⟩ := two
  cases List.append_cancel_left again
  cases same
  rfl

theorem lexed_neighbours {source : List Char} {previous : Option TokenKind} {cursor : Cursor} {tokens before behind : List Token}
    {one two : Token} (lexed : Lexed 0 previous cursor tokens) (inside : cursor.IsIn source)
    (split : tokens = before ++ one :: two :: behind) :
    ∃ previous c start after, start.IsIn source ∧ c ∈ start.peek? ∧ one.span = ⟨start.offset, after.offset⟩ ∧
      scanKind 0 previous c start = .ok (one.kind, after) ∧ after.IsIn source ∧
      Lexed 0 (some one.kind) after (two :: behind) := by
  induction lexed generalizing before with
  | last skipped finished =>
      have length := congrArg List.length split
      simp only [List.length_append, List.length_cons, List.length_nil] at length
      omega
  | @token previous cursor start after newline c rest kind tokens skipped text scanned onward step =>
      obtain ⟨gap, takes, -⟩ := skip_trivia_takes 0 cursor start newline skipped
      have here := (takes_stands inside takes).1
      obtain ⟨word, -, read, -⟩ := scan_kind_written 0 previous c rest start after kind text scanned
      have later := (takes_stands here read).1
      cases before with
      | nil =>
          obtain ⟨rfl, rfl⟩ := List.cons.inj split
          refine ⟨previous, c, start, after, here, by simp [Cursor.peek?, text], by simp, scanned, later, onward⟩
      | cons token before => exact step later (List.cons.inj split).2

theorem begins_word_audible {c : Char} (begins : beginsWord c = true) : isBlank c = false ∧ c ≠ byteOrderMark ∧ c ≠ '/' := by
  rcases Bool.or_eq_true_iff.mp begins with starts | digit
  · exact ⟨identifier_start_dark c starts, identifier_start_ne c _ starts (by decide +kernel),
      identifier_start_ne c _ starts (by decide)⟩
  · refine ⟨Bool.eq_false_iff.mpr fun blank => ?_, ?_, ?_⟩
    · have code := digit_code c digit
      have white := blank_code c blank
      simp only [blankCodes, List.mem_cons, List.not_mem_nil, or_false] at code white
      omega
    · exact digit_ne c _ digit (by decide)
    · exact digit_ne c _ digit (by decide)

theorem next_token_begins {source : List Char} {previous : Option TokenKind} {cursor : Cursor} {c : Char} {two : Token}
    {behind : List Token} (lexed : Lexed 0 previous cursor (two :: behind)) (inside : cursor.IsIn source)
    (head : c ∈ cursor.peek?) (begins : beginsWord c = true) :
    two.span.start = cursor.offset ∧
      (two.kind.isWord = true ∨ two.kind.isNumeric = true ∧ HasAt source cursor.offset isAsciiDigit) := by
  obtain ⟨characters, offset⟩ := cursor
  obtain ⟨rest, rfl⟩ : ∃ rest, characters = c :: rest := List.head?_eq_some_iff.mp head
  have trivia : skipTrivia 0 ⟨c :: rest, offset⟩ = .ok (false, ⟨c :: rest, offset⟩) :=
    skip_nothing 0 false offset c rest (begins_word_audible begins)
  cases lexed with
  | last skipped finished =>
      rw [trivia] at skipped
      cases skipped
      cases finished
  | token skipped text scanned onward =>
      rw [trivia] at skipped
      cases skipped
      cases text
      refine ⟨Nat.zero_add _, ?_⟩
      rcases Bool.or_eq_true_iff.mp begins with starts | digit
      · rw [scan_kind_name 0 previous c _ starts] at scanned
        have word := word_scanned ⟨c :: rest, offset⟩
        rw [Except.ok.inj scanned] at word
        exact .inl word
      · rw [scan_kind_digit 0 previous c _ digit] at scanned
        exact .inr ⟨(number_ends (number_read scanned)).1, c, rest, inside, digit⟩

theorem runs_into_begins {source : List Char} {previous : Option TokenKind} {cursor : Cursor} {one two : Token}
    {behind : List Token} (lexed : Lexed 0 previous cursor (two :: behind)) (inside : cursor.IsIn source)
    (runs : RunsInto source one two) : HasAt source one.span.stop beginsWord := by
  rw [runs.adjacent]
  rcases runs.goesOn with word | ⟨-, c, rest, here, digit⟩
  · cases lexed with
    | last skipped finished => cases word
    | @token _ _ start after newline c rest kind _ skipped text scanned onward =>
        obtain ⟨gap, takes, -⟩ := skip_trivia_takes 0 cursor start newline skipped
        have here := (takes_stands inside takes).1
        have starts := (word_extent word scanned).1
        obtain ⟨characters, offset⟩ := start
        cases text
        refine ⟨c, rest, ?_, by rw [beginsWord, starts, Bool.true_or]⟩
        rwa [Nat.zero_add]
  · exact ⟨c, rest, here, by rw [beginsWord, digit, Bool.or_true]⟩

/-- A numeric literal runs into the token behind it exactly when it has the prefix of a radix or the suffix `n` and a name or
a number can begin directly behind it. -/
theorem literal_runs_on_iff (source : String) (tokens before behind : List Token) (one two : Token)
    (lexed : lex source = .ok tokens) (split : tokens = before ++ one :: two :: behind) (numeric : one.kind.isNumeric = true) :
    RunsInto source.toList one two ↔
      (one.kind.isBigint = true ∨ HasRadixAt source.toList one.span.start) ∧
        HasAt source.toList one.span.stop beginsWord := by
  have begins : Cursor.IsIn source.toList ⟨source.toList, 0⟩ := ⟨[], rfl, rfl⟩
  have first := (takes_stands begins (start_cursor_takes source.toList)).1
  obtain ⟨previous, c, start, after, here, head, extent, scanned, later, onward⟩ :=
    lexed_neighbours (lexed_of_fragment lexed) first split
  rw [extent]
  constructor
  · intro runs
    have goesOn := runs_into_begins onward later runs
    rw [extent] at goesOn
    refine ⟨?_, goesOn⟩
    rcases (number_ends (numeric_read numeric scanned)).2 with suffixed | radix | ends
    · exact .inl suffixed
    · exact .inr ⟨start.rest, here, radix⟩
    · obtain ⟨d, rest, there, begins⟩ := goesOn
      rw [is_in_unique later there rfl] at ends
      rw [ends d rfl] at begins
      cases begins
  · rintro ⟨-, d, rest, there, begins⟩
    have same := is_in_unique later there rfl
    obtain ⟨starts, kind⟩ := next_token_begins (c := d) onward later (by rw [same]; rfl) begins
    refine ⟨by rw [extent, starts], ?_⟩
    rwa [starts]

def binarySource : String := "0b12 + 2n"

def binaryTokens : List Token :=
  [⟨.number ⟨0x3FF0000000000000⟩, ⟨0, 3⟩, false⟩, ⟨.number ⟨0x4000000000000000⟩, ⟨3, 4⟩, false⟩, ⟨.punct .plus, ⟨5, 6⟩, false⟩,
   ⟨.bigint "2", ⟨7, 9⟩, false⟩, ⟨.endOfFile, ⟨9, 9⟩, false⟩]

/-- Binary digits end before a digit that is none of theirs, and a second number begins there. -/
theorem binary_digits_run_on :
    lex binarySource = .ok binaryTokens ∧
      RunsInto binarySource.toList ⟨.number ⟨0x3FF0000000000000⟩, ⟨0, 3⟩, false⟩
        ⟨.number ⟨0x4000000000000000⟩, ⟨3, 4⟩, false⟩ := by
  have lexed : lex binarySource = .ok binaryTokens := by decide +kernel
  refine ⟨lexed, (literal_runs_on_iff _ _ [] _ _ _ lexed rfl rfl).mpr ⟨.inr ?_, ?_⟩⟩
  · exact ⟨binarySource.toList, ⟨[], rfl, rfl⟩, rfl⟩
  · exact ⟨'2', " + 2n".toList, ⟨"0b1".toList, rfl, rfl⟩, by decide⟩

/-- A name begins directly behind hexadecimal digits. -/
theorem name_behind_hexadecimal :
    ∃ one two last, lex "0x1fg" = .ok [one, two, last] ∧ one.kind.isNumeric = true ∧ two.kind = .identifier "g" ∧
      RunsInto "0x1fg".toList one two :=
  ⟨⟨.number ⟨0x403F000000000000⟩, ⟨0, 4⟩, false⟩, ⟨.identifier "g", ⟨4, 5⟩, false⟩, ⟨.endOfFile, ⟨5, 5⟩, false⟩,
    by decide +kernel, rfl, rfl, rfl, .inl rfl⟩

end ScriptSuite.Script
