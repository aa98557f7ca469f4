import ScriptSuite.Proofs.Script.Beginning
import ScriptSuite.Proofs.Script.Lexer.Moving
import ScriptSuite.Proofs.Script.Lexer.Skipping

set_option autoImplicit false

namespace ScriptSuite.Script

open Text Number

variable {α : Type} {line : List Char}

def Cursor.extended (line : List Char) (cursor : Cursor) : Cursor :=
  ⟨cursor.rest ++ '\n' :: line, cursor.offset⟩

theorem extended_rest (cursor : Cursor) : (cursor.extended line).rest = cursor.rest ++ '\n' :: line := rfl

theorem extended_next (cursor : Cursor) (nonempty : cursor.rest ≠ []) :
    (cursor.extended line).next = cursor.next.extended line := by
  obtain ⟨text, offset⟩ := cursor
  cases text with
  | nil => exact absurd rfl nonempty
  | cons c rest => rfl

theorem extended_here {cursor : Cursor} {c : Char} {rest : List Char} (here : cursor.rest = c :: rest) :
    (cursor.extended line).rest = c :: (rest ++ '\n' :: line) := by
  rw [extended_rest, here, List.cons_append]

theorem extended_behind {cursor : Cursor} {c : Char} {rest : List Char} (here : cursor.rest = c :: rest) :
    (cursor.extended line).next = cursor.next.extended line :=
  extended_next cursor (by simp [here])

theorem extended_advance (cursor : Cursor) (word : List Char) (short : word.length ≤ cursor.rest.length) :
    (cursor.extended line).advance word = (cursor.advance word).extended line :=
  congrArg (Cursor.mk · _) (List.drop_append_of_le_length short)

theorem extended_takes {first last : Cursor} {word : List Char} (takes : first.Takes word last) :
    (first.extended line).Takes word (last.extended line) :=
  ⟨by rw [extended_rest, extended_rest, takes.text, List.append_assoc], takes.bytes⟩

theorem extended_up_to {first last : Cursor} (precedes : first.Precedes last) :
    (first.extended line).upTo (last.extended line) = first.upTo last := by
  obtain ⟨word, takes⟩ := precedes
  exact (up_to_taken (extended_takes takes)).trans (up_to_taken takes).symm

theorem take_while_line (accepts : Char → Bool) (stops : accepts '\n' = false) (text : List Char) :
    (text ++ '\n' :: line).takeWhile accepts = text.takeWhile accepts := by
  induction text with
  | nil => simp [stops]
  | cons c rest ih =>
      rw [List.cons_append, List.takeWhile_cons, List.takeWhile_cons, ih]

theorem extended_take_while (accepts : Char → Bool) (stops : accepts '\n' = false) (cursor : Cursor) :
    (cursor.extended line).takeWhile accepts =
      ((cursor.takeWhile accepts).1, (cursor.takeWhile accepts).2.extended line) := by
  unfold Cursor.takeWhile
  dsimp only
  rw [extended_rest, take_while_line accepts stops, extended_advance _ _ (List.takeWhile_prefix _).length_le]

theorem extended_skip_line (cursor : Cursor) : skipLine (cursor.extended line) = (skipLine cursor).extended line :=
  congrArg Prod.snd (extended_take_while _ rfl cursor)

theorem head_line (test : Char → Bool) (fails : test '\n' = false) (text : List Char) :
    (text ++ '\n' :: line).head?.any test = text.head?.any test := by
  cases text with
  | nil => simp [fails]
  | cons c rest => rfl

theorem head_is_line (c : Char) (other : c ≠ '\n') (text : List Char) :
    (text ++ '\n' :: line).head? = some c ↔ text.head? = some c := by
  cases text with
  | nil => simp [other.symm]
  | cons first rest => rfl

theorem no_mark_at_line {c one two : Char} {rest : List Char} (plain : two ≠ '\n')
    (apart : ∀ tail, c = one → rest = two :: tail → False) (tail : List Char) (same : c = one)
    (more : rest ++ '\n' :: line = two :: tail) : False := by
  cases rest with
  | nil => exact plain (List.cons.inj more).1.symm
  | cons first rest =>
      rw [List.cons_append, List.cons.injEq] at more
      exact apart rest same (by rw [more.1])

theorem extended_regex_body (inClass : Bool) (offset : Nat) (text : List Char) (last : Cursor)
    (skipped : skipRegexBody inClass offset text = .ok ((), last)) :
    skipRegexBody inClass offset (text ++ '\n' :: line) = .ok ((), last.extended line) := by
  fun_induction skipRegexBody inClass offset text with
  | case1 => cases skipped
  | case2 => cases skipped
  | case3 inClass offset c rest ends => cases skipped
  | case4 inClass offset c rest inner ih =>
      rw [List.cons_append, List.cons_append, skipRegexBody, if_neg inner]
      exact ih skipped
  | case5 inClass offset rest alone other stop ih =>
      rw [List.cons_append, skipRegexBody, if_pos rfl]
      · exact ih skipped
      · simp
      · simp
  | case6 inClass offset rest alone other stop opens ih =>
      rw [List.cons_append, skipRegexBody, if_neg opens, if_pos rfl]
      · exact ih skipped
      · simp
      · simp
  | case7 inClass offset c rest alone other stop opens closes ends =>
      cases skipped
      have noEscape : c ≠ '\\' := by
        rintro rfl
        cases ends
      rw [List.cons_append, skipRegexBody, if_neg opens, if_neg closes, if_pos ends]
      · rfl
      · exact fun escape => absurd escape noEscape
      · exact fun _ _ escape => absurd escape noEscape
  | case8 inClass offset c rest alone other stop opens closes ends breaks => cases skipped
  | case9 inClass offset c rest alone other stop opens closes ends breaks ih =>
      have noEscape : c ≠ '\\' := by
        rintro rfl
        cases rest with
        | nil => exact alone rfl rfl
        | cons first rest => exact other first rest rfl rfl
      rw [List.cons_append, skipRegexBody, if_neg opens, if_neg closes, if_neg ends, if_neg breaks]
      · exact ih skipped
      · exact fun escape => absurd escape noEscape
      · exact fun _ _ escape => absurd escape noEscape

theorem extended_hex_escape (letter : Char) (count : Nat) (cursor : Cursor) :
    scanHexEscape letter count (cursor.extended line) =
      ((scanHexEscape letter count cursor).1, (scanHexEscape letter count cursor).2.extended line) := by
  unfold scanHexEscape
  dsimp only
  rw [extended_rest]
  by_cases long : count ≤ cursor.rest.length
  · rw [List.take_append_of_le_length long, extended_advance _ _ (List.length_take_le' _ _)]
    split <;> rfl
  · obtain ⟨missing, count_eq⟩ := Nat.exists_eq_add_of_lt (Nat.lt_of_not_le long)
    have short : ¬(decide ((cursor.rest.take count).length = count) && (cursor.rest.take count).all isHexDigit) = true := by
      simp [List.length_take]
      omega
    have broken : ((cursor.rest ++ '\n' :: line).take count).all isHexDigit = false := by
      rw [count_eq, Nat.add_assoc, List.take_length_add_append, List.take_succ_cons, List.all_append, List.all_cons]
      simp [show isHexDigit '\n' = false from rfl]
    rw [if_neg short, broken, Bool.and_false, if_neg Bool.false_ne_true]

theorem extended_braced_escape (cursor : Cursor) :
    scanBracedEscape (cursor.extended line) =
      ((scanBracedEscape cursor).1, (scanBracedEscape cursor).2.extended line) := by
  unfold scanBracedEscape
  rw [extended_take_while _ rfl]
  dsimp only
  rw [extended_rest]
  cases text : (cursor.takeWhile isHexDigit).2.rest with
  | nil => rfl
  | cons c rest =>
      have next : ((cursor.takeWhile isHexDigit).2.extended line).next = (cursor.takeWhile isHexDigit).2.next.extended line :=
        extended_next _ (by rw [text]; exact List.cons_ne_nil _ _)
      by_cases brace : c = '}'
      · subst brace
        rw [List.cons_append, next]
        rfl
      · rw [List.cons_append]
        split
        · next same => exact absurd (List.cons.inj same).1 brace
        · split
          · next same => exact absurd (List.cons.inj same).1 brace
          · rfl

-- A line break behind a carriage return belongs to it.
theorem extended_escape (cursor : Cursor) (behind : (scanEscape cursor).2.rest ≠ []) :
    scanEscape (cursor.extended line) = ((scanEscape cursor).1, (scanEscape cursor).2.extended line) := by
  cases text : cursor.rest with
  | nil =>
      rw [scanEscape, text] at behind
      exact absurd text behind
  | cons c rest =>
      have nonempty : cursor.rest ≠ [] := by simp [text]
      have next : cursor.next.rest = rest := next_rest cursor c rest text
      unfold scanEscape at behind ⊢
      rw [extended_rest, text, List.cons_append, extended_next cursor nonempty]
      rw [text] at behind
      dsimp only at behind ⊢
      rw [head_line isAsciiDigit rfl, extended_hex_escape, extended_hex_escape]
      simp only [head_is_line '{' (by decide)]
      have more : rest ≠ [] → (cursor.next.extended line).next = cursor.next.next.extended line :=
        fun some => extended_next cursor.next (by rwa [next])
      split
      case h_7 => split <;> rfl
      case h_9 =>
        split
        · next brace => rw [more (by rintro rfl; cases brace), extended_braced_escape]
        · rfl
      case h_10 =>
        have some : rest ≠ [] := by
          rintro rfl
          exact behind next
        rw [more some]
        have same : (rest ++ '\n' :: line).head? = rest.head? := by
          cases rest with
          | nil => exact absurd rfl some
          | cons first tail => rfl
        rw [same]
        split <;> rfl
      case h_11 => split <;> rfl
      all_goals rfl

theorem extended_escape_read {cursor after : Cursor} {escape : Escape} (read : scanEscape cursor = (escape, after))
    (present : after.rest ≠ []) : scanEscape (cursor.extended line) = (escape, after.extended line) := by
  rw [extended_escape cursor (by rwa [read]), read]

theorem StringRead.extended {quote : Char} {cursor last : Cursor} {text : List Char}
    (read : StringRead quote cursor text last) : StringRead quote (cursor.extended line) text (last.extended line) := by
  induction read with
  | closed here =>
      rw [← extended_behind here]
      exact .closed (extended_here here)
  | escaped here inside escaped present onward ih =>
      refine .escaped (extended_here here) inside ?_ present ih
      rw [extended_behind here, extended_escape_read escaped onward.present]
  | plain here inside noEscape noBreak onward ih =>
      refine .plain (extended_here here) inside noEscape noBreak ?_
      rwa [extended_behind here]

theorem extended_scan_string (quote : Char) (cursor after : Cursor) (kind : TokenKind) (present : cursor.rest ≠ [])
    (scanned : scanString cursor quote = .ok (kind, after)) :
    scanString (cursor.extended line) quote = .ok (kind, after.extended line) := by
  obtain ⟨⟨text, stop⟩, body, same⟩ := except_bind_ok scanned
  cases same
  exact StringRead.scan (extended_next cursor present ▸ (string_body_read body).extended)

-- What is skipped of a substitution is skipped wherever the text up to its end stands, so in front of another line, too.
theorem extended_substitution (enclosures : List Enclosure) (cursor last : Cursor)
    (skipped : skipping enclosures cursor = .ok ((), last)) :
    skipping enclosures (cursor.extended line) = .ok ((), last.extended line) := by
  obtain ⟨word, takes, -, crosses⟩ := skip_leaves _ _ _ _ skipped
  have longer : cursor.extended line = ⟨word ++ (last.extended line).rest, cursor.offset⟩ := by
    rw [Cursor.extended, takes.text, List.append_assoc]
    rfl
  have crossed := crosses [] (last.extended line).rest cursor.offset
  rw [List.append_nil, ← longer, ← takes.bytes] at crossed
  exact crossed.trans (skip_done _ _)

theorem TemplateRead.extended {base : Nat} {literal : List Char} {cursor last : Cursor} {parts : List TemplatePart}
    (read : TemplateRead base literal cursor parts last) :
    TemplateRead base literal (cursor.extended line) parts (last.extended line) := by
  induction read with
  | closed here =>
      rw [← extended_behind here]
      exact .closed (extended_here here)
  | escaped here escaped present onward ih =>
      refine .escaped (extended_here here) ?_ present ih
      rw [extended_behind here, extended_escape_read escaped onward.present]
  | @opened literal rest cursor after last parts here skipped onward ih =>
      have first : (cursor.extended line).next.next = cursor.next.next.extended line := by
        rw [extended_behind here, extended_behind (next_rest cursor _ _ here)]
      have skips : skipping [.substitution 0] (cursor.extended line).next.next = .ok ((), after.extended line) := by
        rw [first]
        exact extended_substitution _ _ _ skipped
      have opened : TemplateRead base literal (cursor.extended line) _ _ := .opened (extended_here here) skips ih
      rwa [first, extended_up_to (precedes_skip_substitution _ _ _ _ skipped)] at opened
  | plain here noEnd noEscape noOpening onward ih =>
      refine .plain (extended_here here) noEnd noEscape (no_mark_at_line (by decide) noOpening) ?_
      rwa [extended_behind here]

theorem extended_scan_template (base : Nat) (cursor after : Cursor) (kind : TokenKind) (present : cursor.rest ≠ [])
    (scanned : scanTemplate base cursor = .ok (kind, after)) :
    scanTemplate base (cursor.extended line) = .ok (kind, after.extended line) := by
  obtain ⟨⟨parts, stop⟩, body, same⟩ := except_bind_ok scanned
  cases same
  exact TemplateRead.scan (extended_next cursor present ▸ (template_body_read body).extended)

theorem identifier_part_no_line : isIdentifierPart '\n' = false := by decide

theorem extended_scan_regex (cursor after : Cursor) (kind : TokenKind) (present : cursor.rest ≠ [])
    (scanned : scanRegex cursor = .ok (kind, after)) :
    scanRegex (cursor.extended line) = .ok (kind, after.extended line) := by
  obtain ⟨⟨nothing, behind⟩, body, same⟩ := except_bind_ok scanned
  cases same
  unfold scanRegex
  dsimp only
  rw [extended_next cursor present, extended_rest, show (cursor.next.extended line).offset = cursor.next.offset from rfl,
    extended_regex_body _ _ _ _ body]
  dsimp only [bind, Except.bind]
  rw [extended_take_while _ identifier_part_no_line, extended_up_to (precedes_skip_regex_body _ _ _ _ body)]
  rfl

theorem line_no_digit (radix : Nat) : isDigitOf radix '\n' = false := by
  have value : digitValue? radix '\n' = if radix < radix then some radix else none := rfl
  rw [isDigitOf, value, if_neg (Nat.lt_irrefl _)]
  rfl

theorem digit_run_line (radix : Nat) (text : List Char) : digitRun radix (text ++ '\n' :: line) = digitRun radix text := by
  induction text with
  | nil =>
      have stops : digitRun radix ('\n' :: line) = [] := by simp [digitRun, line_no_digit]
      exact stops
  | cons c rest ih => rw [List.cons_append, digitRun, digitRun, ih, head_line _ (line_no_digit radix)]

theorem fraction_part_line (text : List Char) : fractionPart (text ++ '\n' :: line) = fractionPart text := by
  cases text with
  | nil => rfl
  | cons c rest =>
      by_cases point : c = '.'
      · subst point
        exact congrArg ('.' :: ·) (digit_run_line 10 rest)
      · simp [fractionPart, point]

theorem exponent_part_line (text : List Char) : exponentPart (text ++ '\n' :: line) = exponentPart text := by
  cases text with
  | nil => rfl
  | cons mark rest =>
      cases rest with
      | nil => simp [exponentPart, show isAsciiDigit '\n' = false from rfl]
      | cons sign digits =>
          have whole : digitRun 10 (sign :: (digits ++ '\n' :: line)) = digitRun 10 (sign :: digits) :=
            digit_run_line 10 (sign :: digits)
          simp only [List.cons_append, exponentPart, whole, digit_run_line, head_line isAsciiDigit rfl]

theorem decimal_text_line (text : List Char) : decimalText (text ++ '\n' :: line) = decimalText text := by
  have whole := (digit_run_front 10 text).length_le
  have fraction := (fraction_part_front (text.drop (digitRun 10 text).length)).length_le
  rw [List.length_drop] at fraction
  unfold decimalText
  dsimp only
  rw [digit_run_line, List.drop_append_of_le_length whole, fraction_part_line,
    List.drop_append_of_le_length (by omega), exponent_part_line]

theorem peek_line (test : Char → Bool) (fails : test '\n' = false) (cursor : Cursor) :
    (cursor.extended line).peek?.any test = cursor.peek?.any test :=
  head_line test fails cursor.rest

theorem peek_is_line (c : Char) (other : c ≠ '\n') (cursor : Cursor) :
    ((cursor.extended line).peek? == some c) = (cursor.peek? == some c) := by
  rw [Bool.eq_iff_iff, beq_iff_eq, beq_iff_eq]
  exact head_is_line c other cursor.rest

theorem peeked_present {c : Char} {cursor : Cursor} (found : (cursor.peek? == some c) = true) : cursor.rest ≠ [] := by
  intro ended
  rw [Cursor.peek?, ended] at found
  cases found

theorem extended_scan_decimal (cursor after : Cursor) (kind : TokenKind) (scanned : scanDecimal cursor = .ok (kind, after)) :
    scanDecimal (cursor.extended line) = .ok (kind, after.extended line) := by
  unfold scanDecimal at scanned ⊢
  dsimp only at scanned ⊢
  rw [extended_rest, digit_run_line, decimal_text_line, extended_advance _ _ (digit_run_front 10 _).length_le,
    extended_advance _ _ (decimal_text_front _).length_le, peek_is_line 'n' (by decide), peek_line _ (by decide)]
  split at scanned
  · next suffix =>
      cases scanned
      rw [if_pos suffix, extended_next _ (peeked_present suffix)]
  · next plain =>
      rw [if_neg plain]
      split at scanned
      · cases scanned
      · split at scanned
        · cases scanned
        · next ends =>
            cases scanned
            exact if_neg ends

theorem extended_scan_radix (cursor after : Cursor) (radix : Nat) (kind : TokenKind) (long : 2 ≤ cursor.rest.length)
    (scanned : scanRadix cursor radix = .ok (kind, after)) :
    scanRadix (cursor.extended line) radix = .ok (kind, after.extended line) := by
  obtain ⟨text, offset⟩ := cursor
  obtain ⟨zero, mark, rest, rfl⟩ : ∃ zero mark rest, text = zero :: mark :: rest := by
    match text, long with
    | zero :: mark :: rest, _ => exact ⟨zero, mark, rest, rfl⟩
  unfold scanRadix at scanned ⊢
  dsimp only at scanned ⊢
  have first : ((Cursor.extended line ⟨zero :: mark :: rest, offset⟩).next.next) =
      Cursor.extended line ((Cursor.mk (zero :: mark :: rest) offset).next.next) := rfl
  rw [first, extended_rest, digit_run_line, extended_advance _ _ (digit_run_front radix _).length_le,
    peek_is_line 'n' (by decide)]
  split at scanned
  · cases scanned
  · next some =>
      rw [if_neg some]
      split at scanned
      · next suffix =>
          cases scanned
          have inside : (digitRun radix rest).length ≤ rest.length := (digit_run_front radix rest).length_le
          have digits : (Cursor.extended line ⟨zero :: mark :: rest, offset⟩).rest.take ((digitRun radix rest).length + 2) =
              (zero :: mark :: rest).take ((digitRun radix rest).length + 2) :=
            List.take_append_of_le_length (Nat.add_le_add_right inside 2)
          rw [if_pos suffix, extended_next _ (peeked_present suffix)]
          exact congrArg (fun word => Except.ok (TokenKind.bigint (String.ofList word), _)) digits
      · next plain =>
          cases scanned
          exact if_neg plain

theorem radix_prefix_long {text : List Char} {radix : Nat} (found : radixOfPrefix? text = some radix) : 2 ≤ text.length := by
  match text with
  | [] => cases found
  | [c] =>
      unfold radixOfPrefix? at found
      split at found
      · next same => cases same
      · cases found
  | _ :: _ :: _ => simp

theorem radix_prefix_line (text : List Char) : radixOfPrefix? (text ++ '\n' :: line) = radixOfPrefix? text := by
  match text with
  | [] => rfl
  | [c] =>
      by_cases zero : c = '0'
      · subst zero
        rfl
      · simp [radixOfPrefix?, zero]
  | c :: mark :: rest =>
      by_cases zero : c = '0'
      · subst zero
        rfl
      · simp [radixOfPrefix?, zero]

theorem extended_scan_number (cursor after : Cursor) (kind : TokenKind) (scanned : scanNumber cursor = .ok (kind, after)) :
    scanNumber (cursor.extended line) = .ok (kind, after.extended line) := by
  unfold scanNumber at scanned ⊢
  rw [extended_rest, radix_prefix_line]
  cases found : radixOfPrefix? cursor.rest with
  | some radix =>
      rw [found] at scanned
      exact extended_scan_radix cursor after radix kind (radix_prefix_long found) scanned
  | none =>
      rw [found] at scanned
      exact extended_scan_decimal cursor after kind scanned

theorem starts_before_line (word text : List Char) (plain : '\n' ∉ word) :
    word.isPrefixOf (text ++ '\n' :: line) = word.isPrefixOf text := by
  induction word generalizing text with
  | nil => simp
  | cons c word ih =>
      have other : c ≠ '\n' := fun same => plain (same ▸ List.mem_cons_self ..)
      cases text with
      | nil => simp [List.isPrefixOf, other]
      | cons first text =>
          rw [List.cons_append, List.isPrefixOf, List.isPrefixOf, ih text fun inside => plain (List.mem_cons_of_mem _ inside)]

theorem spelling_plain (mark : Punct) : '\n' ∉ mark.spelling := by
  cases mark <;> decide

theorem longest_line (text : List Char) : Punct.longest? (text ++ '\n' :: line) = Punct.longest? text := by
  unfold Punct.longest?
  congr 1
  funext mark
  exact starts_before_line mark.spelling text (spelling_plain mark)

theorem extended_scan_punct (cursor after : Cursor) (kind : TokenKind) (scanned : scanPunct cursor = .ok (kind, after)) :
    scanPunct (cursor.extended line) = .ok (kind, after.extended line) := by
  unfold scanPunct at scanned ⊢
  rw [extended_rest, longest_line]
  cases found : Punct.longest? cursor.rest with
  | none =>
      rw [found] at scanned
      cases scanned
  | some mark =>
      rw [found] at scanned
      have front := longest_front cursor.rest mark found
      have advanced : (cursor.extended line).advance mark.spelling = (cursor.advance mark.spelling).extended line :=
        extended_advance cursor mark.spelling front.length_le
      by_cases chain : mark = .questionDot
      · subst chain
        have long : 2 ≤ cursor.rest.length := front.length_le
        have condition : ((cursor.rest ++ '\n' :: line).drop 2).head?.any isAsciiDigit =
            (cursor.rest.drop 2).head?.any isAsciiDigit := by
          rw [List.drop_append_of_le_length long]
          exact head_line isAsciiDigit rfl _
        have one : (cursor.extended line).next = cursor.next.extended line :=
          extended_next cursor (by rintro none; simp [none] at long)
        have two : (cursor.next.extended line).next = cursor.next.next.extended line := by
          obtain ⟨text, offset⟩ := cursor
          match text, long with
          | _ :: _ :: _, _ => rfl
        dsimp only at scanned ⊢
        rw [condition, one, two]
        by_cases digit : (cursor.rest.drop 2).head?.any isAsciiDigit = true
        · rw [if_pos digit] at scanned ⊢
          cases scanned
          rfl
        · rw [if_neg digit] at scanned ⊢
          cases scanned
          rfl
      · simp only at scanned ⊢
        cases scanned
        rw [advanced]

theorem extended_scan_word (cursor : Cursor) :
    scanWord (cursor.extended line) = ((scanWord cursor).1, (scanWord cursor).2.extended line) := by
  unfold scanWord
  rw [extended_take_while _ identifier_part_no_line]
  dsimp only
  cases Keyword.ofName? (String.ofList (cursor.takeWhile isIdentifierPart).1) <;> rfl

theorem extended_scan_private_name (cursor after : Cursor) (kind : TokenKind) (present : cursor.rest ≠ [])
    (scanned : scanPrivateName cursor = .ok (kind, after)) :
    scanPrivateName (cursor.extended line) = .ok (kind, after.extended line) := by
  unfold scanPrivateName at scanned ⊢
  dsimp only at scanned ⊢
  rw [extended_next cursor present, peek_line _ (by decide), extended_take_while _ identifier_part_no_line]
  split at scanned
  · next starts =>
      cases scanned
      exact if_pos starts
  · cases scanned

def Extends (line : List Char) (short long : Scan (TokenKind × Cursor)) : Prop :=
  ∀ kind after, short = .ok (kind, after) → long = .ok (kind, after.extended line)

theorem Extends.ite {condition : Prop} [Decidable condition] {yes no longYes longNo : Scan (TokenKind × Cursor)}
    (one : Extends line yes longYes) (two : Extends line no longNo) :
    Extends line (if condition then yes else no) (if condition then longYes else longNo) := by
  split
  · exact one
  · exact two

theorem extended_scan_kind (base : Nat) (previous : Option TokenKind) (c : Char) (cursor : Cursor)
    (present : cursor.rest ≠ []) :
    Extends line (scanKind base previous c cursor) (scanKind base previous c (cursor.extended line)) := by
  unfold scanKind
  rw [extended_next cursor present, peek_line _ (by decide)]
  refine .ite (fun kind after => extended_scan_string c cursor after kind present) ?_
  refine .ite (fun kind after => extended_scan_template base cursor after kind present) ?_
  refine .ite (fun kind after => extended_scan_number cursor after kind) ?_
  refine .ite (fun kind after => extended_scan_number cursor after kind) ?_
  refine .ite (fun kind after => extended_scan_regex cursor after kind present) ?_
  refine .ite (fun kind after => extended_scan_private_name cursor after kind present) ?_
  refine .ite (fun kind after word => ?_) fun kind after => extended_scan_punct cursor after kind
  rw [extended_scan_word, Except.ok.inj word]

-- At the end of a text the line break ends what is skipped, a line comment as well, and skipping goes on behind it.
theorem trivia_from_line (base : Nat) (surroundings : Surroundings) (newline : Bool) (offset : Nat) (text : List Char)
    (found : Bool) (last : Cursor) (skipped : skipTriviaFrom base surroundings newline offset text = .ok (found, last)) :
    skipTriviaFrom base surroundings newline offset (text ++ '\n' :: line) =
      if last.rest = [] then skipTriviaFrom base .blanks true (last.offset + 1) line else .ok (found, last.extended line) := by
  fun_induction skipTriviaFrom base surroundings newline offset text with
  | case1 newline offset start => cases skipped
  | case2 surroundings newline offset other =>
      cases skipped
      rw [if_pos rfl, List.nil_append]
      cases surroundings with
      | blockComment start => exact absurd rfl (other start)
      | blanks =>
          rw [skipTriviaFrom, if_pos (show isLineTerminator '\n' = true from rfl)]
          · rfl
          · exact fun _ slash => absurd slash (by decide)
          · exact fun _ slash => absurd slash (by decide)
      | lineComment =>
          rw [skipTriviaFrom, if_pos (show isLineTerminator '\n' = true from rfl)]
          rfl
  | case3 newline offset start rest after ih =>
      rw [List.cons_append, List.cons_append, skipTriviaFrom]
      exact ih skipped
  | case4 newline offset start c rest more after ih =>
      rw [List.cons_append, skipTriviaFrom]
      · exact ih skipped
      · exact no_mark_at_line (by decide) more
  | case5 newline offset c rest terminator after ih =>
      rw [List.cons_append, skipTriviaFrom, if_pos terminator]
      exact ih skipped
  | case6 newline offset c rest inner after ih =>
      rw [List.cons_append, skipTriviaFrom, if_neg inner]
      exact ih skipped
  | case7 newline offset rest after ih =>
      rw [List.cons_append, List.cons_append, skipTriviaFrom]
      exact ih skipped
  | case8 newline offset rest after ih =>
      rw [List.cons_append, List.cons_append, skipTriviaFrom]
      exact ih skipped
  | case9 newline offset c rest lineComment blockComment terminator after ih =>
      rw [List.cons_append, skipTriviaFrom, if_pos terminator]
      · exact ih skipped
      · exact no_mark_at_line (by decide) lineComment
      · exact no_mark_at_line (by decide) blockComment
  | case10 newline offset c rest lineComment blockComment inner blank after ih =>
      rw [List.cons_append, skipTriviaFrom, if_neg inner, if_pos blank]
      · exact ih skipped
      · exact no_mark_at_line (by decide) lineComment
      · exact no_mark_at_line (by decide) blockComment
  | case11 newline offset c rest lineComment blockComment inner solid =>
      cases skipped
      rw [if_neg (List.cons_ne_nil _ _), List.cons_append, skipTriviaFrom, if_neg inner, if_neg solid]
      · rfl
      · exact no_mark_at_line (by decide) lineComment
      · exact no_mark_at_line (by decide) blockComment

theorem trivia_from_on_new_line (base : Nat) (surroundings : Surroundings) (newline : Bool) (offset : Nat) (text : List Char)
    (found : Bool) (last : Cursor) (skipped : skipTriviaFrom base surroundings newline offset text = .ok (found, last)) :
    skipTriviaFrom base surroundings true offset text = .ok (true, last) := by
  fun_induction skipTriviaFrom base surroundings newline offset text with
  | case1 newline offset start => cases skipped
  | case2 surroundings newline offset other =>
      cases skipped
      cases surroundings with
      | blockComment start => exact absurd rfl (other start)
      | _ => rfl
  | case3 newline offset start rest after ih =>
      rw [skipTriviaFrom]
      exact ih skipped
  | case4 newline offset start c rest more after ih =>
      rw [skipTriviaFrom, Bool.true_or]
      · exact ih skipped
      · exact more
  | case5 newline offset c rest terminator after ih =>
      rw [skipTriviaFrom, if_pos terminator]
      exact ih skipped
  | case6 newline offset c rest inner after ih =>
      rw [skipTriviaFrom, if_neg inner]
      exact ih skipped
  | case7 newline offset rest after ih =>
      rw [skipTriviaFrom]
      exact ih skipped
  | case8 newline offset rest after ih =>
      rw [skipTriviaFrom]
      exact ih skipped
  | case9 newline offset c rest lineComment blockComment terminator after ih =>
      rw [skipTriviaFrom, if_pos terminator]
      · exact ih skipped
      · exact lineComment
      · exact blockComment
  | case10 newline offset c rest lineComment blockComment inner blank after ih =>
      rw [skipTriviaFrom, if_neg inner, if_pos blank]
      · exact ih skipped
      · exact lineComment
      · exact blockComment
  | case11 newline offset c rest lineComment blockComment inner solid =>
      cases skipped
      rw [skipTriviaFrom, if_neg inner, if_neg solid]
      · exact lineComment
      · exact blockComment

theorem extended_trivia (base : Nat) (cursor last : Cursor) (found : Bool) (skipped : skipTrivia base cursor = .ok (found, last))
    (present : last.rest ≠ []) : skipTrivia base (cursor.extended line) = .ok (found, last.extended line) :=
  (trivia_from_line base .blanks false cursor.offset cursor.rest found last skipped).trans (if_neg present)

theorem trivia_of_line (base : Nat) (stop : Nat) :
    skipTrivia base ⟨'\n' :: line, stop⟩ = skipTriviaFrom base .blanks true (stop + 1) line :=
  trivia_from_line base .blanks false stop [] false ⟨[], stop⟩ rfl

theorem trivia_to_line (base : Nat) (cursor last : Cursor) (found : Bool) (skipped : skipTrivia base cursor = .ok (found, last))
    (ended : last.rest = []) : skipTrivia base (cursor.extended line) = skipTrivia base ⟨'\n' :: line, last.offset⟩ := by
  rw [trivia_of_line]
  exact (trivia_from_line base .blanks false cursor.offset cursor.rest found last skipped).trans (if_pos ended)

theorem scan_kind_after (base : Nat) {previous other : Option TokenKind} (same : regexAllowed previous = regexAllowed other)
    (c : Char) (cursor : Cursor) : scanKind base previous c cursor = scanKind base other c cursor := by
  unfold scanKind
  rw [same]

theorem Lexed.resumed {base : Nat} {previous : Option TokenKind} {cursor other : Cursor} {tokens : List Token}
    (lexed : Lexed base previous cursor tokens) (same : skipTrivia base other = skipTrivia base cursor) :
    Lexed base previous other tokens := by
  cases lexed with
  | last skipped finished => exact .last (same.trans skipped) finished
  | token skipped text scanned onward => exact .token (same.trans skipped) text scanned onward

theorem lexed_second_line {tokens : List Token} (lexed : Lexed 0 none ⟨line, 0⟩ tokens) (previous : Option TokenKind)
    (allowed : regexAllowed previous = true) (stop : Nat) :
    Lexed 0 previous ⟨'\n' :: line, stop⟩ ((Movable.moved (stop + 1) tokens).modifyHead Token.onNewLine) := by
  have whole := lex_from_of_lexed lexed line.length (Nat.le_refl _)
  have further := moved_lex_from (stop + 1) 0 0 line.length none ⟨line, 0⟩
  rw [whole, Nat.zero_add, Nat.zero_add] at further
  have moved : Lexed 0 none ⟨line, stop + 1⟩ (Movable.moved (stop + 1) tokens) := by
    refine lexed_of_lex_from 0 line.length none _ _ (Nat.le_refl _) (Eq.trans ?_ further)
    exact congrArg (fun offset => lexFrom 0 line.length none ⟨line, offset⟩) (Nat.zero_add _).symm
  have behind : ∀ {newline start}, skipTrivia 0 ⟨line, stop + 1⟩ = .ok (newline, start) →
      skipTrivia 0 ⟨'\n' :: line, stop⟩ = .ok (true, start) := by
    intro newline start skipped
    rw [trivia_of_line]
    exact trivia_from_on_new_line _ _ _ _ _ _ _ skipped
  generalize Movable.moved (stop + 1) tokens = others at moved ⊢
  cases moved with
  | last skipped finished => exact .last (behind skipped) finished
  | token skipped text scanned onward =>
      refine .token (behind skipped) text ?_ onward
      rw [← scanned]
      exact scan_kind_after 0 allowed _ _

-- Where no operand stands at the end, the second line is read as it is at the front of a text.
theorem lexed_extended {previous : Option TokenKind} {cursor : Cursor} {tokens : List Token}
    (lexed : Lexed 0 previous cursor tokens) (front tail : List Token) (last : Token) (split : tokens = front ++ [last])
    (allowed : regexAllowed ((front.getLast?.map (·.kind)).or previous) = true)
    (onward : ∀ previous, regexAllowed previous = true → Lexed 0 previous ⟨'\n' :: line, cursor.ceiling 0⟩ tail) :
    Lexed 0 previous (cursor.extended line) (front ++ tail) := by
  induction lexed generalizing front with
  | @last previous cursor start newline skipped finished =>
      have alone : front = [] := by
        cases front with
        | nil => rfl
        | cons token front => simp at split
      subst alone
      obtain ⟨gap, takes, -⟩ := skip_trivia_takes 0 cursor start newline skipped
      have stops : start.offset = cursor.ceiling 0 := by
        rw [← takes_ceiling takes, Cursor.ceiling, finished]
        simp
      have resumed := onward previous allowed
      rw [← stops] at resumed
      exact resumed.resumed (trivia_to_line 0 cursor start newline skipped finished)
  | @token previous cursor start after newline c rest kind tokens skipped text scanned behind ih =>
      cases front with
      | nil =>
          cases split
          exact absurd rfl behind.nonempty
      | cons first front =>
          obtain ⟨same, others⟩ := List.cons.inj split
          subst same
          obtain ⟨gap, takes, -⟩ := skip_trivia_takes 0 cursor start newline skipped
          obtain ⟨word, -, read, -⟩ := scan_kind_written 0 previous c rest start after kind text scanned
          have ceiling : after.ceiling 0 = cursor.ceiling 0 := (takes_ceiling read).trans (takes_ceiling takes)
          have present : start.rest ≠ [] := by simp [text]
          have kept : regexAllowed ((front.getLast?.map (·.kind)).or (some kind)) = true := by
            rw [List.getLast?_cons] at allowed
            cases ended : front.getLast? with
            | none =>
                rw [ended] at allowed
                exact allowed
            | some token =>
                rw [ended] at allowed
                exact allowed
          have step := Lexed.token (extended_trivia 0 cursor start newline skipped present)
            (extended_here text)
            (extended_scan_kind 0 previous c start present kind after scanned)
            (ih front others kept (by rwa [ceiling]))
          exact step

theorem start_cursor_extended (source : List Char) :
    startCursor 0 (source ++ '\n' :: line) = (startCursor 0 source).extended line := by
  unfold startCursor
  rw [starts_before_line _ _ (by decide)]
  dsimp only
  split
  · exact extended_skip_line ⟨source, 0⟩
  · rfl

theorem lex_concatenated (first second : String) (front tokens : List Token) (semi last : Token)
    (lexed : lex first = .ok (front ++ [semi, last])) (ends : semi.kind = .punct .semi)
    (plain : ['#', '!'].isPrefixOf second.toList = false) (other : lex second = .ok tokens) :
    lex (first ++ "\n" ++ second) =
      .ok (front ++ semi :: (Movable.moved (byteLength first.toList + 1) tokens).modifyHead Token.onNewLine) := by
  have one := lexed_of_fragment lexed
  have two := lexed_of_fragment other
  have begins : startCursor 0 second.toList = ⟨second.toList, 0⟩ := by
    unfold startCursor
    rw [plain]
    rfl
  rw [begins] at two
  have stops : (startCursor 0 first.toList).ceiling 0 = byteLength first.toList := by
    rw [takes_ceiling (start_cursor_takes first.toList), Cursor.ceiling]
    simp
  have joined : Lexed 0 none ((startCursor 0 first.toList).extended second.toList) (front ++ [semi] ++ _) :=
    lexed_extended one (front ++ [semi]) ((Movable.moved (byteLength first.toList + 1) tokens).modifyHead Token.onNewLine) last (by simp)
    (by simp [regexAllowed, ends, TokenKind.endsOperand]) (by
      rw [stops]
      exact fun previous allowed => lexed_second_line two previous allowed _)
  have text : (first ++ "\n" ++ second).toList = first.toList ++ '\n' :: second.toList := by simp
  unfold lex lexFragment
  dsimp only
  have enough := start_cursor_shorter 0 first.toList
  rw [text, start_cursor_extended, lex_from_of_lexed joined _ (by rw [extended_rest]; simp; omega)]
  simp

end ScriptSuite.Script
