import ScriptSuite.Proofs.Script.Lexer.Readings

set_option autoImplicit false

namespace ScriptSuite.Script

open Text

-- Whether a text is the spelling of a token. Literals have no spelling of their own; the end of a file is not written.
def TokenKind.SpelledBy (text : List Char) : TokenKind → Prop
  | .keyword word => text = word.spelling.toList
  | .punct mark => text = mark.spelling
  | .identifier name => text = name.toList
  | .privateName name => text = '#' :: name.toList
  | .endOfFile => False
  | _ => True

-- A token of this kind is written from `first` to `last`.
def Written (kind : TokenKind) (first last : Cursor) : Prop :=
  ∃ word, word ≠ [] ∧ first.Takes word last ∧ kind.SpelledBy word

theorem written_behind (kind : TokenKind) (first last : Cursor) (c : Char) (rest : List Char) (text : first.rest = c :: rest)
    (onward : first.next.Precedes last) (spelled : ∀ word, kind.SpelledBy word) : Written kind first last := by
  obtain ⟨word, nonempty, takes⟩ := takes_first text onward
  exact ⟨word, nonempty, takes, spelled word⟩

theorem suffix_takes {cursor : Cursor} (suffix : (cursor.peek? == some 'n') = true) : cursor.Takes ['n'] cursor.next := by
  rw [beq_iff_eq, Cursor.peek?] at suffix
  obtain ⟨tail, here⟩ := List.head?_eq_some_iff.mp suffix
  exact takes_next cursor 'n' tail here

theorem precedes_radix_run (cursor : Cursor) (radix : Nat) :
    cursor.next.Precedes (cursor.next.next.advance (digitRun radix cursor.next.next.rest)) :=
  precedes_trans (precedes_next cursor.next) (precedes_advance cursor.next.next _ (digit_run_front radix _))

theorem written_number {cursor after : Cursor} {kind : TokenKind} {c : Char} {rest : List Char}
    (text : cursor.rest = c :: rest) (starts : isAsciiDigit c = true ∨ c = '.') (read : NumberRead cursor kind after) :
    Written kind cursor after := by
  cases read with
  | decimal plain noSuffix valued noName =>
      refine ⟨decimalText cursor.rest, ?_, takes_advance cursor _ (decimal_text_front _), trivial⟩
      rw [text]
      exact decimal_text_nonempty c rest starts
  | bigint plain suffix =>
      have whole := takes_advance cursor _ (digit_run_front 10 cursor.rest)
      refine ⟨_, ?_, takes_append whole (suffix_takes suffix), trivial⟩
      exact List.append_ne_nil_of_right_ne_nil _ (List.cons_ne_nil _ _)
  | radix found digits noSuffix => exact written_behind _ cursor _ c rest text (precedes_radix_run cursor _) fun _ => trivial
  | radixBigint found digits suffix =>
      exact written_behind _ cursor _ c rest text (precedes_trans (precedes_radix_run cursor _) (precedes_next _)) fun _ => trivial

theorem written_regex (cursor after : Cursor) (kind : TokenKind) (c : Char) (rest : List Char)
    (text : cursor.rest = c :: rest) (scanned : scanRegex cursor = .ok (kind, after)) : Written kind cursor after := by
  obtain ⟨⟨nothing, stop⟩, body, same⟩ := except_bind_ok scanned
  cases same
  have flags := precedes_take_while stop isIdentifierPart
  exact written_behind _ cursor _ c rest text (precedes_trans (precedes_skip_regex_body _ _ _ _ body) flags)
    fun _ => trivial

theorem identifier_part_of_start (c : Char) (starts : isIdentifierStart c = true) : isIdentifierPart c = true := by
  unfold isIdentifierStart at starts
  unfold isIdentifierPart isAlphanumeric
  rcases Bool.or_eq_true_iff.mp starts with mark | letter
  · rcases Bool.or_eq_true_iff.mp mark with dollar | underscore
    · simp [dollar]
    · simp [underscore]
  · simp [letter]

theorem keyword_spelling_of_name (name : String) (word : Keyword) (found : Keyword.ofName? name = some word) :
    word.spelling = name := by
  have accepted := List.find?_some found
  exact beq_iff_eq.mp accepted

theorem name_takes (cursor : Cursor) :
    cursor.Takes (cursor.takeWhile isIdentifierPart).1 (cursor.takeWhile isIdentifierPart).2 :=
  takes_advance cursor _ (List.takeWhile_prefix isIdentifierPart)

theorem name_nonempty {cursor : Cursor} {c : Char} {rest : List Char} (text : cursor.rest = c :: rest)
    (starts : isIdentifierStart c = true) : (cursor.takeWhile isIdentifierPart).1 ≠ [] := by
  simp [Cursor.takeWhile, text, identifier_part_of_start c starts]

theorem longest_front (text : List Char) (mark : Punct) (found : Punct.longest? text = some mark) :
    mark.spelling <+: text := by
  have accepted := List.find?_some (p := fun punct : Punct => punct.spelling.isPrefixOf text) found
  exact List.isPrefixOf_iff_prefix.mp accepted

theorem punct_spelling_nonempty (mark : Punct) : mark.spelling ≠ [] := by
  cases mark <;> exact List.cons_ne_nil _ _

theorem written_punct (cursor after : Cursor) (kind : TokenKind) (scanned : scanPunct cursor = .ok (kind, after)) :
    Written kind cursor after := by
  unfold scanPunct at scanned
  split at scanned
  · cases scanned
  · next found =>
      obtain ⟨tail, text⟩ := longest_front _ _ found
      have question : cursor.Takes ['?'] cursor.next := takes_next cursor '?' ('.' :: tail) text.symm
      split at scanned
      · cases scanned
        exact ⟨['?'], List.cons_ne_nil _ _, question, rfl⟩
      · cases scanned
        have point : cursor.next.Takes ['.'] cursor.next.next :=
          takes_next cursor.next '.' tail (next_rest cursor '?' _ text.symm)
        exact ⟨['?', '.'], List.cons_ne_nil _ _, takes_append question point, rfl⟩
  · next mark _ found =>
      cases scanned
      exact ⟨mark.spelling, punct_spelling_nonempty mark, takes_advance cursor _ (longest_front _ _ found), rfl⟩

theorem scan_kind_written (base : Nat) (previous : Option TokenKind) (c : Char) (rest : List Char) (cursor after : Cursor)
    (kind : TokenKind) (text : cursor.rest = c :: rest) (scanned : scanKind base previous c cursor = .ok (kind, after)) :
    Written kind cursor after := by
  cases kind_read scanned with
  | string quoted read => exact written_behind _ cursor _ c rest text read.precedes fun _ => trivial
  | template tick read => exact written_behind _ cursor _ c rest text read.precedes fun _ => trivial
  | number starts read => exact written_number text starts read
  | bigint starts read => exact written_number text starts read
  | regex slash scanned => exact written_regex cursor after _ c rest text scanned
  | privateName hash starts =>
      subst hash
      refine ⟨_, List.cons_ne_nil _ _, takes_append (takes_next cursor '#' rest text) (name_takes cursor.next), ?_⟩
      rw [TokenKind.SpelledBy, String.toList_ofList]
      rfl
  | keyword starts found =>
      refine ⟨_, name_nonempty text starts, name_takes cursor, ?_⟩
      rw [TokenKind.SpelledBy, keyword_spelling_of_name _ _ found, String.toList_ofList]
  | name starts free => exact ⟨_, name_nonempty text starts, name_takes cursor, String.toList_ofList.symm⟩
  | punct scanned => exact written_punct cursor after _ scanned

end ScriptSuite.Script
