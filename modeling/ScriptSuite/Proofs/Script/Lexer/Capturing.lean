import ScriptSuite.Proofs.Script.Lexer.Skipping
import ScriptSuite.Proofs.Script.Lexer.Substitutions

/-!
Which part of a template a substitution is. The skipper counts the braces of regular expressions as well, since it does
not recognise them; with these braces it gets out of a substitution where the tokens of the substitution end.
-/
set_option autoImplicit false

namespace ScriptSuite.Script

open Text

def isBrace (c : Char) : Bool :=
  c == '{' || c == '}'

def bracesLeft : Nat → List Char → Option Nat
  | depth, [] => some depth
  | depth, '{' :: rest => bracesLeft (depth + 1) rest
  | 0, '}' :: _ => none
  | depth + 1, '}' :: rest => bracesLeft depth rest
  | depth, _ :: rest => bracesLeft depth rest

def TokenKind.braces : TokenKind → List Char
  | .punct .lBrace => ['{']
  | .punct .rBrace => ['}']
  | .regex pattern _ => pattern.toList.filter isBrace
  | _ => []

-- Nothing in `word` but its braces concerns the skipper: no quote, no backtick and, before `behind`, no comment.
def Mute (behind : List Char) : List Char → Prop
  | [] => True
  | c :: word => c ∉ ['"', '\'', '`'] ∧ (c = '/' → ∀ d ∈ (word ++ behind).head?, d ≠ '/' ∧ d ≠ '*') ∧ Mute behind word

def MuteAt (source : List Char) (base : Nat) (span : Span) : Prop :=
  ∃ front word back, source = front ++ word ++ back ∧
    span = ⟨base + byteLength front, base + byteLength (front ++ word)⟩ ∧ Mute back word

-- White space and comments, of which the last one is a line comment that no line terminator ends.
def OpenComment (text : List Char) : Prop :=
  ∃ gap comment, text = gap ++ '/' :: '/' :: comment ∧ Gap ('/' :: '/' :: comment) gap ∧
    ∀ c ∈ comment, isLineTerminator c = false

def lastStop (start : Nat) (tokens : List Token) : Nat :=
  (tokens.dropLast.getLast?.map (·.span.stop)).getD start

def EndsInComment (source : List Char) (base : Nat) (tokens : List Token) : Prop :=
  ∃ front behind, source = front ++ behind ∧ base + byteLength front = lastStop base tokens ∧ OpenComment behind

-- The skipper crosses `word` inside of a substitution as it would cross these braces alone.
def CrossesAs (braces word behind : List Char) : Prop :=
  ∀ depth,
    match bracesLeft depth braces with
    | some left => Crosses [.substitution depth] word [.substitution left] behind
    | none => ∃ front back, word = front ++ back ∧ front ≠ [] ∧ Crosses [.substitution depth] front [] (back ++ behind)

theorem braces_left_append (depth : Nat) (a b : List Char) :
    bracesLeft depth (a ++ b) = (bracesLeft depth a).bind fun left => bracesLeft left b := by
  fun_induction bracesLeft depth a with
  | case1 depth => rfl
  | case2 depth rest step => rw [List.cons_append, bracesLeft, step]
  | case3 rest => rfl
  | case4 depth rest step => rw [List.cons_append, bracesLeft, step]
  | case5 depth c rest opening closing more step =>
      rw [List.cons_append, bracesLeft, step]
      · exact opening
      · exact closing
      · exact more

section

variable {braces more a b word behind : List Char}

theorem crosses_as_of_crosses (crosses : ∀ depth, Crosses [.substitution depth] word [.substitution depth] behind) :
    CrossesAs [] word behind :=
  crosses

theorem crosses_as_nothing : CrossesAs [] [] behind :=
  fun _ => crosses_nothing

theorem crosses_as_append (first : CrossesAs braces a (b ++ behind)) (second : CrossesAs more b behind) :
    CrossesAs (braces ++ more) (a ++ b) behind := by
  intro depth
  have crosses := first depth
  rw [braces_left_append]
  cases left : bracesLeft depth braces with
  | none =>
      rw [left] at crosses
      obtain ⟨front, back, rfl, some, crosses⟩ := crosses
      refine ⟨front, back ++ b, by simp, some, ?_⟩
      rwa [List.append_assoc]
  | some depth =>
      rw [left] at crosses
      have onward := second depth
      rw [Option.bind_some]
      split at onward
      · next after found => exact crosses_append crosses onward
      · next found =>
          obtain ⟨front, back, rfl, some, further⟩ := onward
          refine ⟨a ++ front, back, by simp, List.append_ne_nil_of_right_ne_nil a some, ?_⟩
          refine crosses_append ?_ further
          rwa [List.append_assoc] at crosses

theorem crosses_as_opening : CrossesAs ['{'] ['{'] behind :=
  fun _ => crosses_opening

theorem crosses_as_closing : CrossesAs ['}'] ['}'] behind := by
  intro depth
  cases depth with
  | zero => exact ⟨['}'], [], rfl, List.cons_ne_nil _ _, crosses_end⟩
  | succ depth => exact crosses_closing

theorem crosses_as_mute (mute : Mute behind word) : CrossesAs (word.filter isBrace) word behind := by
  induction word with
  | nil => exact crosses_as_nothing
  | cons c word step =>
      obtain ⟨silent, noComment, rest⟩ := mute
      have onward := step rest
      by_cases opening : c = '{'
      · subst opening
        exact crosses_as_append crosses_as_opening onward
      by_cases closing : c = '}'
      · subst closing
        exact crosses_as_append crosses_as_closing onward
      rw [List.filter_cons_of_neg (by simp [isBrace, opening, closing])]
      refine crosses_as_append (a := [c]) (crosses_as_of_crosses fun depth => crosses_plain ?_ noComment) onward
      simp only [List.mem_cons, List.not_mem_nil, or_false, not_or] at silent ⊢
      exact ⟨opening, closing, silent.2.2, silent.1, silent.2.1⟩

end

def skipperMarks : List Char :=
  ['{', '}', '`', '"', '\'', '/']

def Unmarked (word : List Char) : Prop :=
  ∀ c ∈ word, c ∉ skipperMarks

theorem unmarked_append {a b : List Char} (first : Unmarked a) (second : Unmarked b) : Unmarked (a ++ b) :=
  fun c inside => (List.mem_append.mp inside).elim (first c) (second c)

theorem unmarked_accepted (accepts : Char → Bool) (rejects : ∀ d ∈ skipperMarks, accepts d = false) {word : List Char}
    (accepted : ∀ c ∈ word, accepts c = true) : Unmarked word := by
  intro c inside marked
  have refused := rejects c marked
  rw [accepted c inside] at refused
  cases refused

theorem unmarked_crosses_as {word behind : List Char} (unmarked : Unmarked word) : CrossesAs [] word behind := by
  induction word with
  | nil => exact crosses_as_nothing
  | cons c word step =>
      have first := unmarked c List.mem_cons_self
      simp only [skipperMarks, List.mem_cons, List.not_mem_nil, or_false, not_or] at first
      obtain ⟨opening, closing, backtick, double, single, slash⟩ := first
      refine crosses_as_append (a := [c]) (crosses_as_of_crosses fun depth => crosses_plain ?_ fun same => absurd same slash)
        (step fun d inside => unmarked d (List.mem_cons_of_mem c inside))
      simpa using ⟨opening, closing, backtick, double, single⟩

theorem digits_unmarked (radix : Nat) {word : List Char} (digits : ∀ c ∈ word, isDigitOf radix c = true) : Unmarked word := by
  refine unmarked_accepted (isDigitOf radix) (fun d marked => ?_) digits
  have value : digitValue? radix d = if radix < radix then some radix else none := by
    simp only [skipperMarks, List.mem_cons, List.not_mem_nil, or_false] at marked
    rcases marked with rfl | rfl | rfl | rfl | rfl | rfl <;> rfl
  rw [isDigitOf, value, if_neg (Nat.lt_irrefl radix)]
  rfl

theorem digit_run_unmarked (radix : Nat) (text : List Char) : Unmarked (digitRun radix text) := by
  fun_induction digitRun radix text with
  | case1 => simp [Unmarked]
  | case2 c rest accepted step =>
      refine unmarked_append (a := [c]) ?_ step
      rcases Bool.or_eq_true_iff.mp accepted with digit | separator
      · exact digits_unmarked radix (by simpa using digit)
      · have underscore : c = '_' := by simpa using (Bool.and_eq_true_iff.mp separator).1
        rw [underscore]
        simp [Unmarked, skipperMarks]
  | case3 => simp [Unmarked]

theorem fraction_part_unmarked (text : List Char) : Unmarked (fractionPart text) := by
  unfold fractionPart
  split
  · exact unmarked_append (a := ['.']) (by simp [Unmarked, skipperMarks]) (digit_run_unmarked 10 _)
  · simp [Unmarked]

theorem exponent_part_unmarked (text : List Char) : Unmarked (exponentPart text) := by
  unfold exponentPart
  split
  · next mark rest =>
      split
      · next exponent =>
          have first : Unmarked [mark] := by
            rcases Bool.or_eq_true_iff.mp exponent with small | capital
            · rw [beq_iff_eq.mp small]
              simp [Unmarked, skipperMarks]
            · rw [beq_iff_eq.mp capital]
              simp [Unmarked, skipperMarks]
          split
          · next sign digits =>
              split
              · exact unmarked_append first (digit_run_unmarked 10 (sign :: digits))
              · split
                · next signed =>
                    refine unmarked_append first (unmarked_append (a := [sign]) ?_ (digit_run_unmarked 10 _))
                    rcases Bool.or_eq_true_iff.mp (Bool.and_eq_true_iff.mp signed).1 with plus | minus
                    · rw [beq_iff_eq.mp plus]
                      simp [Unmarked, skipperMarks]
                    · rw [beq_iff_eq.mp minus]
                      simp [Unmarked, skipperMarks]
                · simp [Unmarked]
          · simp [Unmarked]
      · simp [Unmarked]
  · simp [Unmarked]

theorem decimal_text_unmarked (text : List Char) : Unmarked (decimalText text) :=
  unmarked_append (unmarked_append (digit_run_unmarked 10 text) (fraction_part_unmarked _)) (exponent_part_unmarked _)

def Inert (kind : TokenKind) (first last : Cursor) : Prop :=
  kind.braces = [] ∧ ∃ word, first.Takes word last ∧ Unmarked word

theorem suffix_unmarked : Unmarked ['n'] := by
  simp [Unmarked, skipperMarks]

theorem radix_prefix_takes {cursor : Cursor} {radix : Nat} (found : radixOfPrefix? cursor.rest = some radix) :
    ∃ word, cursor.Takes word cursor.next.next ∧ Unmarked word := by
  unfold radixOfPrefix? at found
  split at found
  · next mark tail here =>
      have second := takes_next cursor.next mark tail (next_rest cursor '0' _ here)
      refine ⟨['0', mark], takes_append (takes_next cursor '0' _ here) second, ?_⟩
      refine unmarked_accepted (fun c => c ∈ ['0', 'x', 'X', 'o', 'O', 'b', 'B']) (by decide) ?_
      have letter : mark ∈ ['x', 'X', 'o', 'O', 'b', 'B'] := by
        by_contra other
        simp only [List.mem_cons, List.not_mem_nil, or_false, not_or] at other
        simp [other] at found
      simp only [List.mem_cons, List.not_mem_nil, or_false] at letter
      simpa using Or.inr letter
  · cases found

theorem radix_run_takes {cursor : Cursor} {radix : Nat} (found : radixOfPrefix? cursor.rest = some radix) :
    ∃ word, cursor.Takes word (cursor.next.next.advance (digitRun radix cursor.next.next.rest)) ∧ Unmarked word := by
  obtain ⟨opening, takes, unmarked⟩ := radix_prefix_takes found
  exact ⟨_, takes_append takes (takes_advance cursor.next.next _ (digit_run_front radix _)),
    unmarked_append unmarked (digit_run_unmarked radix _)⟩

theorem number_inert {cursor after : Cursor} {kind : TokenKind} (read : NumberRead cursor kind after) :
    Inert kind cursor after := by
  cases read with
  | decimal plain noSuffix valued noName =>
      exact ⟨rfl, _, takes_advance cursor _ (decimal_text_front _), decimal_text_unmarked _⟩
  | bigint plain suffix =>
      exact ⟨rfl, _, takes_append (takes_advance cursor _ (digit_run_front 10 _)) (suffix_takes suffix),
        unmarked_append (digit_run_unmarked 10 _) suffix_unmarked⟩
  | radix found digits noSuffix => exact ⟨rfl, radix_run_takes found⟩
  | radixBigint found digits suffix =>
      obtain ⟨word, takes, unmarked⟩ := radix_run_takes found
      exact ⟨rfl, _, takes_append takes (suffix_takes suffix), unmarked_append unmarked suffix_unmarked⟩

theorem name_unmarked (cursor : Cursor) : Unmarked (cursor.takeWhile isIdentifierPart).1 :=
  unmarked_accepted isIdentifierPart (by decide) fun c inside => List.all_eq_true.mp List.all_takeWhile c inside

theorem punct_unmarked (mark : Punct) :
    mark ∈ [.lBrace, .rBrace, .slash, .slashEq] ∨ (TokenKind.punct mark).braces = [] ∧ Unmarked mark.spelling := by
  cases mark <;> simp [TokenKind.braces, Unmarked, skipperMarks, Punct.spelling]

def Crossed (kind : TokenKind) (first last : Cursor) : Prop :=
  ∃ word, first.Takes word last ∧ ∀ more, CrossesAs kind.braces word (last.rest ++ '}' :: more)

theorem inert_crossed {kind : TokenKind} {first last : Cursor} (inert : Inert kind first last) : Crossed kind first last := by
  obtain ⟨none, word, takes, unmarked⟩ := inert
  exact ⟨word, takes, fun more => none ▸ unmarked_crosses_as unmarked⟩

def Cursor.Uncommented (cursor : Cursor) : Prop :=
  ∀ d rest, cursor.rest = '/' :: d :: rest → d ≠ '/' ∧ d ≠ '*'

theorem head_before_brace {text more : List Char} {d : Char} (head : d ∈ (text ++ '}' :: more).head?) :
    d = '}' ∨ d ∈ text.head? := by
  cases text with
  | nil =>
      cases head
      exact .inl rfl
  | cons e text => exact .inr head

theorem slash_crosses {cursor after : Cursor} (uncommented : cursor.Uncommented) (takes : cursor.Takes ['/'] after)
    (braces : Nat) (more : List Char) :
    Crosses [.substitution braces] ['/'] [.substitution braces] (after.rest ++ '}' :: more) := by
  refine crosses_plain (by decide) fun _ d head => ?_
  rcases head_before_brace head with rfl | inside
  · decide
  · obtain ⟨rest, split⟩ := List.head?_eq_some_iff.mp inside
    exact uncommented d rest (by rw [takes.text, split]; rfl)

theorem punct_crossed {cursor after : Cursor} {mark : Punct} (uncommented : cursor.Uncommented)
    (scanned : scanPunct cursor = .ok (.punct mark, after)) : Crossed (.punct mark) cursor after := by
  obtain ⟨word, -, takes, spelled⟩ := written_punct cursor after _ scanned
  cases spelled
  rcases punct_unmarked mark with special | ⟨none, unmarked⟩
  · refine ⟨mark.spelling, takes, fun more => ?_⟩
    simp only [List.mem_cons, List.not_mem_nil, or_false] at special
    rcases special with rfl | rfl | rfl | rfl
    · exact crosses_as_opening
    · exact crosses_as_closing
    · exact crosses_as_of_crosses fun depth => slash_crosses uncommented takes depth more
    · have sign : Unmarked ['='] := by simp [Unmarked, skipperMarks]
      refine crosses_as_append (a := ['/']) (crosses_as_of_crosses fun depth => crosses_plain (by decide) ?_)
        (unmarked_crosses_as sign)
      rintro - d ⟨⟩
      decide
  · exact inert_crossed ⟨none, mark.spelling, takes, unmarked⟩

theorem regex_body_ends (inClass : Bool) (offset : Nat) (text : List Char) (last : Cursor)
    (skipped : skipRegexBody inClass offset text = .ok ((), last)) :
    ∃ front, Cursor.Takes ⟨text, offset⟩ (front ++ ['/']) last := by
  fun_induction skipRegexBody inClass offset text with
  | case1 | case2 | case3 | case8 => cases skipped
  | case4 inClass offset c rest _ step =>
      obtain ⟨front, takes⟩ := step skipped
      exact ⟨'\\' :: c :: front, takes_cons (takes_cons takes)⟩
  | case5 inClass offset rest _ _ _ step =>
      obtain ⟨front, takes⟩ := step skipped
      exact ⟨'[' :: front, takes_cons takes⟩
  | case6 inClass offset rest _ _ _ _ step =>
      obtain ⟨front, takes⟩ := step skipped
      exact ⟨']' :: front, takes_cons takes⟩
  | case7 inClass offset c rest _ _ _ _ _ ends =>
      cases skipped
      have slash : c = '/' := of_decide_eq_true (Bool.and_eq_true_iff.mp ends).1
      subst slash
      exact ⟨[], rfl, rfl⟩
  | case9 inClass offset c rest _ _ _ _ _ _ _ step =>
      obtain ⟨front, takes⟩ := step skipped
      exact ⟨c :: front, takes_cons takes⟩

theorem mute_before_brace {word back : List Char} (mute : Mute back word) (more : List Char) :
    Mute (back ++ '}' :: more) word := by
  induction word with
  | nil => trivial
  | cons c word step =>
      obtain ⟨silent, noComment, rest⟩ := mute
      refine ⟨silent, fun slash d head => ?_, step rest⟩
      rw [← List.append_assoc] at head
      rcases head_before_brace head with rfl | inside
      · decide
      · exact noComment slash d inside

theorem regex_crossed {cursor after : Cursor} {kind : TokenKind} {rest : List Char} (text : cursor.rest = '/' :: rest)
    (scanned : scanRegex cursor = .ok (kind, after))
    (mute : ∀ pattern flags, kind = .regex pattern flags → ∀ word, cursor.Takes word after → Mute after.rest word) :
    Crossed kind cursor after := by
  obtain ⟨⟨nothing, stop⟩, body, same⟩ := except_bind_ok scanned
  obtain ⟨front, takes⟩ := regex_body_ends _ _ _ _ body
  have flags := takes_advance stop _ (List.takeWhile_prefix (l := stop.rest) isIdentifierPart)
  unfold Cursor.takeWhile at same
  cases same
  have whole := takes_append (takes_next cursor '/' rest text) (takes_append takes flags)
  have silent : (stop.rest.takeWhile isIdentifierPart).filter isBrace = [] := by
    refine List.filter_eq_nil_iff.mpr fun c inside brace => name_unmarked stop c inside ?_
    rcases Bool.or_eq_true_iff.mp brace with opening | closing
    · rw [beq_iff_eq.mp opening]
      decide
    · rw [beq_iff_eq.mp closing]
      decide
  refine ⟨_, whole, fun more => ?_⟩
  have crossing := crosses_as_mute (mute_before_brace (mute _ _ rfl _ whole) more)
  rw [List.filter_append, List.filter_append, List.filter_append, silent] at crossing
  rw [up_to_taken takes, List.dropLast_concat, TokenKind.braces, String.toList_ofList]
  simpa [isBrace] using crossing

theorem scan_kind_crossed {base : Nat} {previous : Option TokenKind} {c : Char} {rest : List Char} {cursor after : Cursor}
    {kind : TokenKind} (text : cursor.rest = c :: rest) (uncommented : cursor.Uncommented)
    (scanned : scanKind base previous c cursor = .ok (kind, after))
    (mute : ∀ pattern flags, kind = .regex pattern flags → ∀ word, cursor.Takes word after → Mute after.rest word) :
    Crossed kind cursor after := by
  cases kind_read scanned with
  | string quoted read =>
      obtain ⟨word, takes, string⟩ := string_read_skips quoted read
      exact ⟨c :: word, takes_append (takes_next cursor c rest text) takes, fun more =>
        crosses_as_of_crosses fun depth => crosses_string quoted string⟩
  | template tick read =>
      subst tick
      obtain ⟨word, takes, -, crosses⟩ := template_read_leaves read
      exact ⟨'`' :: word, takes_append (takes_next cursor '`' rest text) takes, fun more =>
        crosses_as_of_crosses fun depth => crosses_append (a := ['`']) crosses_backtick (crosses [.substitution depth] _)⟩
  | number starts read => exact inert_crossed (number_inert read)
  | bigint starts read => exact inert_crossed (number_inert read)
  | regex slash scanned => exact regex_crossed (slash ▸ text) scanned mute
  | privateName hash starts =>
      subst hash
      refine inert_crossed ⟨rfl, _, takes_append (takes_next cursor '#' rest text) (name_takes cursor.next), ?_⟩
      exact unmarked_append (by simp [Unmarked, skipperMarks]) (name_unmarked cursor.next)
  | keyword starts found => exact inert_crossed ⟨rfl, _, name_takes cursor, name_unmarked cursor⟩
  | name starts free => exact inert_crossed ⟨rfl, _, name_takes cursor, name_unmarked cursor⟩
  | punct scanned => exact punct_crossed uncommented scanned

theorem trivia_from_uncommented (base : Nat) (surroundings : Surroundings) (newline : Bool) (offset : Nat) (text : List Char)
    (found : Bool) (last : Cursor) (skipped : skipTriviaFrom base surroundings newline offset text = .ok (found, last)) :
    last.Uncommented := by
  fun_induction skipTriviaFrom base surroundings newline offset text with
  | case1 => cases skipped
  | case2 =>
      cases skipped
      rintro d rest ⟨⟩
  | case3 _ _ _ _ _ step | case4 _ _ _ _ _ _ _ step | case5 _ _ _ _ _ _ step | case6 _ _ _ _ _ _ step | case7 _ _ _ _ step
  | case8 _ _ _ _ step | case9 _ _ _ _ _ _ _ _ step | case10 _ _ _ _ _ _ _ _ _ step => exact step skipped
  | case11 newline offset c rest lineComment blockComment _ _ =>
      cases skipped
      intro d tail here
      obtain ⟨slash, behind⟩ := List.cons.inj here
      refine ⟨?_, ?_⟩
      · rintro rfl
        exact lineComment tail slash behind
      · rintro rfl
        exact blockComment tail slash behind

theorem blank_unmarked {c : Char} (white : isBlank c = true ∨ c = byteOrderMark) : Unmarked [c] := by
  rcases white with blank | rfl
  · exact unmarked_accepted isBlank (by decide) (by simpa using blank)
  · simp [Unmarked, skipperMarks, byteOrderMark]

theorem gap_crosses_as {following gap : List Char} (white : Gap following gap) (closed : following = [] → ¬ OpenComment gap)
    (more : List Char) : CrossesAs [] gap (following ++ '}' :: more) := by
  induction white with
  | none => exact crosses_as_nothing
  | @blank c rest white onward step =>
      refine crosses_as_append (a := [c]) (unmarked_crosses_as (blank_unmarked white)) (step fun ended comment => ?_)
      apply closed ended
      obtain ⟨gap, line, rfl, before, oneLine⟩ := comment
      exact ⟨c :: gap, line, rfl, .blank white before, oneLine⟩
  | @lineComment text rest oneLine ended onward step =>
      have goesOn : rest ++ following ≠ [] := by
        intro nothing
        obtain ⟨rfl, rfl⟩ := List.append_eq_nil_iff.mp nothing
        exact closed rfl ⟨[], text, by simp, .none, oneLine⟩
      have later : following = [] → ¬ OpenComment rest := by
        rintro rfl ⟨gap, line, rfl, before, silent⟩
        rw [List.append_nil] at ended
        exact closed rfl ⟨'/' :: '/' :: (text ++ gap), line, by simp, .lineComment oneLine ended before, silent⟩
      refine crosses_as_append (a := '/' :: '/' :: text) (crosses_as_of_crosses fun depth => ?_) (step later)
      apply crosses_line_comment oneLine
      obtain ⟨c, tail, split⟩ := List.exists_cons_of_ne_nil goesOn
      rw [← List.append_assoc, split]
      rwa [split] at ended
  | @blockComment text rest opened onward step =>
      have later : following = [] → ¬ OpenComment rest := by
        rintro ended ⟨gap, line, rfl, before, silent⟩
        exact closed ended ⟨'/' :: '*' :: (text ++ '*' :: '/' :: gap), line, by simp, .blockComment opened before, silent⟩
      have comment := block_comment_of_text text opened
      have crossing := crosses_as_append (a := '/' :: '*' :: (text ++ ['*', '/']))
        (crosses_as_of_crosses fun depth => crosses_block_comment comment) (step later)
      simpa using crossing

theorem mute_word {source word : List Char} {base : Nat} {first last : Cursor} (inside : first.IsIn source)
    (takes : first.Takes word last) (mute : MuteAt source base ⟨base + first.offset, base + last.offset⟩) :
    Mute last.rest word := by
  obtain ⟨front, split, bytes⟩ := inside
  obtain ⟨before, other, back, whole, extent, mute⟩ := mute
  obtain ⟨start, stop⟩ := Span.mk.inj extent
  rw [takes.text, ← List.append_assoc] at split
  have length := takes.bytes
  rw [byteLength_append] at stop
  have sameFront : front = before := by
    refine front_of_bytes (b := word ++ last.rest) (d := other ++ back) ?_ (by omega)
    rw [← List.append_assoc, ← List.append_assoc, ← split, whole]
  subst sameFront
  have sameRest : word ++ last.rest = other ++ back := by
    rw [split, List.append_assoc, List.append_assoc] at whole
    exact List.append_cancel_left whole
  have sameWord : word = other := front_of_bytes sameRest (by omega)
  subst sameWord
  rwa [List.append_cancel_left sameRest]

theorem last_stop_onward (start : Nat) (token : Token) {tokens : List Token} (nonempty : tokens ≠ []) :
    lastStop start (token :: tokens) = lastStop token.span.stop tokens := by
  obtain ⟨other, rest, rfl⟩ := List.exists_cons_of_ne_nil nonempty
  exact last_stop_cons token _ start

-- The skipper crosses the text of the tokens as it would cross their braces.
theorem lexed_crosses_as {source : List Char} {base : Nat} {previous : Option TokenKind} {cursor : Cursor}
    {tokens : List Token} (lexed : Lexed base previous cursor tokens) (inside : cursor.IsIn source)
    (mute : ∀ token ∈ tokens, ∀ pattern flags, token.kind = .regex pattern flags → MuteAt source base token.span)
    (closed : ∀ front behind, source = front ++ behind → base + byteLength front = lastStop (base + cursor.offset) tokens →
      ¬ OpenComment behind) (more : List Char) :
    CrossesAs (tokens.flatMap fun token => token.kind.braces) cursor.rest ('}' :: more) := by
  induction lexed with
  | @last previous cursor start newline skipped finished =>
      obtain ⟨gap, takes, white, -⟩ := skip_trivia_takes base cursor start newline skipped
      obtain ⟨front, split, bytes⟩ := inside
      rw [finished] at white
      have crossing := gap_crosses_as white (fun _ => ?_) more
      · rwa [takes.text, finished, List.append_nil]
      · rw [takes.text, finished, List.append_nil] at split
        exact closed front gap split (congrArg (base + ·) bytes.symm)
  | @token previous cursor start after newline c rest kind tokens skipped text scanned onward step =>
      obtain ⟨gap, takes, white, -⟩ := skip_trivia_takes base cursor start newline skipped
      have here := (takes_stands inside takes).1
      have crossed := scan_kind_crossed text (trivia_from_uncommented _ _ _ _ _ _ _ skipped) scanned
        fun pattern flags regex word read => mute_word here read (mute _ List.mem_cons_self pattern flags regex)
      obtain ⟨word, read, crossing⟩ := crossed
      have stops := last_stop_onward (base + cursor.offset) ⟨kind, ⟨base + start.offset, base + after.offset⟩, newline⟩
        onward.nonempty
      have later := step (takes_stands here read).1 (fun token among => mute token (List.mem_cons_of_mem _ among))
        fun front behind split stop => closed front behind split (stop.trans stops.symm)
      have before := gap_crosses_as white (fun ended => by rw [text] at ended; cases ended) more
      rw [List.flatMap_cons, takes.text, read.text]
      rw [read.text] at before
      have whole := crosses_as_append before (crosses_as_append (crossing more) later)
      exact whole

theorem template_of_lex {rest : List Char} {parts : List TemplatePart} {stop : Nat}
    (lexed : lex (String.ofList ('`' :: rest)) = .ok (soleToken (.template parts) stop)) :
    ∃ after, TemplateRead 0 [] ⟨rest, 1⟩ parts after := by
  have start : startCursor 0 ('`' :: rest) = ⟨'`' :: rest, 0⟩ := rfl
  have trivia : skipTrivia 0 ⟨'`' :: rest, 0⟩ = .ok (false, ⟨'`' :: rest, 0⟩) := skip_nothing 0 false 0 '`' rest (by decide)
  have tokens := lexed_of_fragment lexed
  rw [String.toList_ofList, start] at tokens
  generalize shape : soleToken (.template parts) stop = list at tokens
  cases tokens with
  | last skipped finished => cases shape
  | token skipped text scanned onward =>
      have same := (Token.mk.inj (List.cons.inj shape).1).1
      subst same
      rw [trivia] at skipped
      cases skipped
      exact ⟨_, kind_template_read scanned⟩

def inTemplate (e : String) : String :=
  "`$\x7b" ++ e ++ "\x7d`"

def capturedParts (e : String) : List TemplatePart :=
  [.text "", .substitution e 3, .text ""]

theorem in_template_text (e : String) :
    inTemplate e = String.ofList ('`' :: '$' :: '{' :: (e.toList ++ ['}', '`'])) := by
  apply String.toList_inj.mp
  simp [inTemplate]

theorem captured_of_crosses (e : String) (crosses : Crosses [.substitution 0] e.toList [.substitution 0] ['}', '`']) :
    lex (inTemplate e) = .ok (soleToken (.template (capturedParts e)) (byteLength e.toList + 5)) := by
  have length : byteLength ('`' :: '$' :: '{' :: (e.toList ++ ['}', '`'])) = byteLength e.toList + 5 := by
    simp only [byteLength_cons, byteLength_append, byteLength_nil]
    rw [show '`'.utf8Size = 1 from rfl, show '$'.utf8Size = 1 from rfl, show '{'.utf8Size = 1 from rfl,
      show '}'.utf8Size = 1 from rfl]
    omega
  have skipped : skipping [.substitution 0] ⟨e.toList ++ ['}', '`'], 3⟩ = .ok ((), ⟨['`'], byteLength e.toList + 4⟩) := by
    rw [crosses 3, show byteLength e.toList + 4 = 3 + byteLength e.toList + 1 by omega]
    rfl
  have takes : Cursor.Takes ⟨e.toList ++ ['}', '`'], 3⟩ (e.toList ++ ['}']) ⟨['`'], byteLength e.toList + 4⟩ := by
    refine ⟨by simp, ?_⟩
    rw [byteLength_append, show byteLength ['}'] = 1 from rfl]
    show byteLength e.toList + 4 = 3 + (byteLength e.toList + 1)
    omega
  have source : (Cursor.upTo ⟨e.toList ++ ['}', '`'], 3⟩ ⟨['`'], byteLength e.toList + 4⟩).dropLast = e.toList := by
    rw [up_to_taken takes, List.dropLast_concat]
  have read : TemplateRead 0 [] ⟨'$' :: '{' :: (e.toList ++ ['}', '`']), 1⟩
      [.text "", .substitution (String.ofList (Cursor.upTo ⟨e.toList ++ ['}', '`'], 3⟩
        ⟨['`'], byteLength e.toList + 4⟩).dropLast) 3, .text ""] ⟨[], byteLength e.toList + 5⟩ :=
    .opened rfl skipped (.closed rfl)
  rw [source, String.ofList_toList] at read
  rw [in_template_text, ← length]
  refine lex_one_word '`' _ _ (by decide) (by decide) ?_
  rw [length]
  exact TemplateRead.scan read

theorem skipped_of_captured (e : String) (stop : Nat)
    (lexed : lex (inTemplate e) = .ok (soleToken (.template (capturedParts e)) stop)) :
    ∃ after, skipping [.substitution 0] ⟨e.toList ++ ['}', '`'], 3⟩ = .ok ((), after) ∧
      (Cursor.upTo ⟨e.toList ++ ['}', '`'], 3⟩ after).dropLast = e.toList := by
  rw [in_template_text] at lexed
  obtain ⟨last, read⟩ := template_of_lex lexed
  generalize shape : capturedParts e = parts at read
  cases read with
  | closed here => exact absurd (List.cons.inj here).1 (by decide)
  | escaped here => exact absurd (List.cons.inj here).1 (by decide)
  | opened here skipped onward =>
      have second := (List.cons.inj (List.cons.inj shape).2).1
      have source := congrArg String.toList (TemplatePart.substitution.inj second).1
      rw [String.toList_ofList] at source
      exact ⟨_, skipped, source.symm⟩
  | plain here noEnd noEscape noOpening =>
      obtain ⟨dollar, brace⟩ := List.cons.inj here
      exact (noOpening _ dollar.symm brace.symm).elim

/-- Where nothing in its regular expressions looks like a string, a template or a comment and no line comment is open at its
end, a fragment is captured as the only substitution of a template exactly when its braces balance, those in its regular
expressions included. -/
theorem substitution_captured_iff (e : String) (tokens : List Token) (lexed : lexFragment e 3 = .ok tokens)
    (closed : ¬ EndsInComment e.toList 3 tokens)
    (mute : ∀ token ∈ tokens, ∀ pattern flags, token.kind = .regex pattern flags → MuteAt e.toList 3 token.span) :
    lex (inTemplate e) = .ok (soleToken (.template (capturedParts e)) (byteLength e.toList + 5)) ↔
      bracesLeft 0 (tokens.flatMap fun token => token.kind.braces) = some 0 := by
  have begins : startCursor 3 e.toList = ⟨e.toList, 0⟩ := rfl
  have inside : Cursor.IsIn e.toList ⟨e.toList, 0⟩ := ⟨[], rfl, rfl⟩
  have stream := lexed_of_fragment lexed
  rw [begins] at stream
  have crossing := lexed_crosses_as stream inside mute
    (fun front behind split stop comment => closed ⟨front, behind, split, stop, comment⟩) ['`'] 0
  constructor
  · intro captured
    obtain ⟨after, skipped, source⟩ := skipped_of_captured e _ captured
    split at crossing
    · next left found =>
        rw [found]
        rw [crossing 3] at skipped
        cases left with
        | zero => rfl
        | succ depth => cases skipped
    · obtain ⟨front, back, text, some, crosses⟩ := crossing
      have split : e.toList = front ++ back := text
      rw [split, List.append_assoc, crosses 3] at skipped
      cases (skip_done _ _).symm.trans skipped
      have takes : Cursor.Takes ⟨e.toList ++ ['}', '`'], 3⟩ front ⟨back ++ ['}', '`'], 3 + byteLength front⟩ :=
        ⟨by rw [split, List.append_assoc], rfl⟩
      have length := congrArg List.length ((up_to_taken takes ▸ source).trans split)
      have positive := List.length_pos_iff.mpr some
      rw [List.length_dropLast, List.length_append] at length
      omega
  · intro balanced
    rw [balanced] at crossing
    exact captured_of_crosses e crossing

theorem no_comment_behind {source : List Char} {base : Nat} {tokens : List Token}
    (stops : lastStop base tokens = base + byteLength source) : ¬ EndsInComment source base tokens := by
  rintro ⟨front, behind, split, stop, gap, comment, rfl, -⟩
  have whole : byteLength front = byteLength source := by omega
  have same := front_of_bytes (split.symm.trans (List.append_nil source).symm) whole
  subst same
  simp at split

def bracedFragment : String :=
  "`\x7d$\x7b'\x7d'\x7d`/*\x7d*/+/x\x7b2\x7d/.y"

def bracedTokens : List Token :=
  [⟨.template [.text "\x7d", .substitution "'\x7d'" 7, .text ""], ⟨3, 12⟩, false⟩, ⟨.punct .plus, ⟨17, 18⟩, false⟩,
   ⟨.regex "x\x7b2\x7d" "", ⟨18, 24⟩, false⟩, ⟨.punct .dot, ⟨24, 25⟩, false⟩, ⟨.identifier "y", ⟨25, 26⟩, false⟩,
   ⟨.endOfFile, ⟨26, 26⟩, false⟩]

/-- Braces in a template, a string, a comment and a regular expression. -/
theorem braced_fragment_captured :
    lexFragment bracedFragment 3 = .ok bracedTokens ∧ ¬ EndsInComment bracedFragment.toList 3 bracedTokens ∧
      lex (inTemplate bracedFragment) =
        .ok (soleToken (.template (capturedParts bracedFragment)) (byteLength bracedFragment.toList + 5)) := by
  have lexed : lexFragment bracedFragment 3 = .ok bracedTokens := by decide +kernel
  have closed : ¬ EndsInComment bracedFragment.toList 3 bracedTokens := no_comment_behind (by decide +kernel)
  refine ⟨lexed, closed, (substitution_captured_iff bracedFragment bracedTokens lexed closed ?_).mpr (by decide +kernel)⟩
  have regex : MuteAt bracedFragment.toList 3 ⟨18, 24⟩ :=
    ⟨(bracedFragment.toList.take 15), ['/', 'x', '{', '2', '}', '/'], ['.', 'y'], by decide +kernel, by decide +kernel,
      by simp [Mute]⟩
  intro token among pattern flags kind
  simp only [bracedTokens, List.mem_cons, List.not_mem_nil, or_false] at among
  rcases among with rfl | rfl | rfl | rfl | rfl | rfl
  · cases kind
  · cases kind
  · exact regex
  · cases kind
  · cases kind
  · cases kind

/-- A quote in a regular expression is taken for the begin of a string, which the end of the text leaves open. -/
theorem quote_in_regex_not_captured :
    ∃ tokens, lexFragment "/'/" 3 = .ok tokens ∧ bracesLeft 0 (tokens.flatMap fun token => token.kind.braces) = some 0 ∧
      ¬ EndsInComment "/'/".toList 3 tokens ∧ lex (inTemplate "/'/") = .error ⟨.unterminatedString, ⟨0, 8⟩⟩ := by
  refine ⟨[⟨.regex "'" "", ⟨3, 6⟩, false⟩, ⟨.endOfFile, ⟨6, 6⟩, false⟩], by decide +kernel, by decide +kernel,
    no_comment_behind (by decide +kernel), by decide +kernel⟩

end ScriptSuite.Script
