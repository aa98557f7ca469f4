import ScriptSuite.Proofs.Script.Lexer.Substitutions

set_option autoImplicit false

namespace ScriptSuite.Script

open Text

structure Span.Within (text : List Char) (span : Span) : Prop where
  forward : span.start ≤ span.stop
  below : span.stop ≤ byteLength text
  start : Boundary text span.start
  stop : Boundary text span.stop

theorem within_bounds {text : List Char} {span : Span} (forward : span.start ≤ span.stop)
    (start : Boundary text span.start) (stop : Boundary text span.stop) : span.Within text :=
  ⟨forward, boundary_below stop, start, stop⟩

def StopsBehind {α : Type} (first : Cursor) (result : Scan α) : Prop :=
  ∀ halt, result = .error halt → first.Precedes halt.stop

namespace StopsBehind

variable {α β : Type} {first middle : Cursor}

theorem ok (value : α) : StopsBehind first (.ok value) := by
  rintro halt ⟨⟩

theorem error {fault : Fault} {stop : Cursor} (behind : first.Precedes stop) :
    StopsBehind (α := α) first (.error ⟨fault, stop⟩) := by
  rintro halt ⟨⟩
  exact behind

theorem later {result : Scan α} (behind : first.Precedes middle) (stops : StopsBehind middle result) :
    StopsBehind first result :=
  fun halt failed => precedes_trans behind (stops halt failed)

theorem bind {one : Scan α} {two : α → Scan β} (stops : StopsBehind first one)
    (onward : ∀ value, one = .ok value → StopsBehind first (two value)) : StopsBehind first (one >>= two) := by
  intro halt failed
  obtain stopped | ⟨value, read, stopped⟩ := except_bind_error failed
  · exact stops halt stopped
  · exact onward value read halt stopped

end StopsBehind

theorem block_comment_stops (newline : Bool) (offset : Nat) (text : List Char) :
    StopsBehind ⟨text, offset⟩ (skipBlockComment newline offset text) := by
  fun_induction skipBlockComment newline offset text with
  | case1 => exact .error (precedes_refl _)
  | case2 => exact .ok _
  | case3 newline offset c rest _ ih => exact fun halt failed => precedes_behind c rest offset _ _ rfl (ih halt failed)

theorem raw_string_stops (quote : Char) (offset : Nat) (text : List Char) :
    StopsBehind ⟨text, offset⟩ (skipRawString quote offset text) := by
  fun_induction skipRawString quote offset text with
  | case1 => exact .error (precedes_refl _)
  | case2 offset c rest ih =>
      exact fun halt failed => precedes_behind '\\' (c :: rest) offset _ _ rfl
        (precedes_behind c rest _ _ _ rfl (ih halt failed))
  | case3 => exact .ok _
  | case4 offset c rest _ _ ih => exact fun halt failed => precedes_behind c rest offset _ _ rfl (ih halt failed)

theorem regex_body_stops (inClass : Bool) (offset : Nat) (text : List Char) :
    StopsBehind ⟨text, offset⟩ (skipRegexBody inClass offset text) := by
  fun_induction skipRegexBody inClass offset text with
  | case1 => exact .error (precedes_refl _)
  | case2 => exact .error ⟨['\\'], rfl, rfl⟩
  | case3 inClass offset c rest _ =>
      exact .error (precedes_behind '\\' (c :: rest) offset _ _ rfl (precedes_behind c rest _ _ _ rfl (precedes_refl _)))
  | case4 inClass offset c rest _ ih =>
      exact fun halt failed => precedes_behind '\\' (c :: rest) offset _ _ rfl
        (precedes_behind c rest _ _ _ rfl (ih halt failed))
  | case5 inClass offset rest _ _ _ ih => exact fun halt failed => precedes_behind '[' rest offset _ _ rfl (ih halt failed)
  | case6 inClass offset rest _ _ _ _ ih => exact fun halt failed => precedes_behind ']' rest offset _ _ rfl (ih halt failed)
  | case7 => exact .ok _
  | case8 inClass offset c rest _ _ _ _ _ _ _ => exact .error (precedes_behind c rest offset _ _ rfl (precedes_refl _))
  | case9 inClass offset c rest _ _ _ _ _ _ _ ih =>
      exact fun halt failed => precedes_behind c rest offset _ _ rfl (ih halt failed)

theorem string_body_stops (quote : Char) (fuel : List Char) (cursor : Cursor) :
    StopsBehind cursor (scanStringBody quote fuel cursor) := by
  induction fuel generalizing cursor with
  | nil => exact .error (precedes_refl _)
  | cons _ fuel ih =>
      have one := precedes_next cursor
      unfold scanStringBody
      split
      · exact .error (precedes_refl _)
      · split
        · exact .ok _
        · split
          · split
            · next escaped =>
                exact .bind (.later (precedes_trans one (precedes_scan_escape_eq escaped)) (ih _)) fun _ _ => .ok _
            · next escaped => exact .later (precedes_trans one (precedes_scan_escape_eq escaped)) (ih _)
            · next escaped => exact .error (precedes_trans one (precedes_scan_escape_eq escaped))
          · split
            · exact .error one
            · exact .bind (.later one (ih _)) fun _ _ => .ok _

theorem skip_step_stops (cursor : Cursor) (enclosure : Enclosure) : StopsBehind cursor (skipStep cursor enclosure) := by
  intro halt failed
  obtain rfl | ⟨rest, text, unclosed⟩ | ⟨c, rest, quoted, text, unclosed⟩ := skip_step_fails failed
  · exact precedes_refl cursor
  · have opening : cursor.Precedes ⟨rest, cursor.offset + 2⟩ := ⟨['/', '*'], text, rfl⟩
    exact precedes_trans opening (block_comment_stops _ _ _ halt unclosed)
  · exact precedes_trans ⟨[c], takes_quote quoted text⟩ (raw_string_stops _ _ _ halt unclosed)

theorem substitution_stops (fuel : List Char) (outer : List Enclosure) (cursor : Cursor) :
    StopsBehind cursor (skipSubstitution fuel outer cursor) := by
  induction fuel generalizing outer cursor with
  | nil =>
      cases outer with
      | nil => exact .ok _
      | cons enclosure outer => exact .error (precedes_refl _)
  | cons f fuel ih =>
      cases outer with
      | nil => exact .ok _
      | cons enclosure outer =>
          rw [skip_substitution_step]
          exact .bind (skip_step_stops cursor enclosure) fun _ step => .later (precedes_skip_step step) (ih _ _)

theorem template_body_stops (base : Nat) (fuel literal : List Char) (cursor : Cursor) :
    StopsBehind cursor (scanTemplateBody base fuel literal cursor) := by
  induction fuel generalizing literal cursor with
  | nil => exact .error (precedes_refl _)
  | cons _ fuel ih =>
      have one := precedes_next cursor
      have two := precedes_trans one (precedes_next cursor.next)
      unfold scanTemplateBody
      split
      · exact .error (precedes_refl _)
      · exact .ok _
      · split
        · next escaped => exact .later (precedes_trans one (precedes_scan_escape_eq escaped)) (ih _ _)
        · next escaped => exact .later (precedes_trans one (precedes_scan_escape_eq escaped)) (ih _ _)
        · next escaped => exact .error (precedes_trans one (precedes_scan_escape_eq escaped))
      · exact .bind (.later two (substitution_stops _ _ _)) fun found skipped =>
          .bind (.later (precedes_trans two (precedes_skip_substitution _ _ _ _ skipped)) (ih _ _)) fun _ _ => .ok _
      · exact .later one (ih _ _)

theorem decimal_stops (cursor : Cursor) : StopsBehind cursor (scanDecimal cursor) := by
  have read := precedes_advance cursor _ (decimal_text_front cursor.rest)
  unfold scanDecimal
  dsimp only
  split
  · exact .ok _
  · split
    · exact .error read
    · split
      · exact .error (precedes_trans read (precedes_next _))
      · exact .ok _

theorem radix_stops (cursor : Cursor) (radix : Nat) : StopsBehind cursor (scanRadix cursor radix) := by
  have behind := precedes_trans (precedes_next cursor) (precedes_next cursor.next)
  unfold scanRadix
  dsimp only
  split
  · exact .error (precedes_trans behind (precedes_advance _ _ (digit_run_front radix _)))
  · split
    · exact .ok _
    · exact .ok _

theorem number_stops (cursor : Cursor) : StopsBehind cursor (scanNumber cursor) := by
  unfold scanNumber
  split
  · exact radix_stops cursor _
  · exact decimal_stops cursor

theorem punct_stops (cursor : Cursor) : StopsBehind cursor (scanPunct cursor) := by
  unfold scanPunct
  split
  · exact .error (precedes_next cursor)
  · split
    · exact .ok _
    · exact .ok _
  · exact .ok _

theorem private_name_stops (cursor : Cursor) : StopsBehind cursor (scanPrivateName cursor) := by
  unfold scanPrivateName
  dsimp only
  split
  · exact .ok _
  · exact .error (precedes_next cursor)

theorem kind_stops (base : Nat) (previous : Option TokenKind) (c : Char) (cursor : Cursor) :
    StopsBehind cursor (scanKind base previous c cursor) := by
  have one := precedes_next cursor
  unfold scanKind
  split
  · exact .bind (.later one (string_body_stops _ _ _)) fun _ _ => .ok _
  · split
    · exact .bind (.later one (template_body_stops _ _ _ _)) fun _ _ => .ok _
    · split
      · exact number_stops cursor
      · split
        · exact number_stops cursor
        · split
          · exact .bind (.later one (regex_body_stops _ _ _)) fun _ _ => .ok _
          · split
            · exact private_name_stops cursor
            · split
              · exact .ok _
              · exact punct_stops cursor

section

variable {text back : List Char} {base : Nat}

theorem precedes_within {first last : Cursor} (inside : first.InFragment text back base) (precedes : first.Precedes last) :
    Span.Within text ⟨base + first.offset, base + last.offset⟩ := by
  obtain ⟨later, forward⟩ := fragment_precedes inside precedes
  exact within_bounds (Nat.add_le_add_left forward base) (fragment_boundary inside) (fragment_boundary later)

def Surroundings.OpenedIn (text : List Char) (base offset : Nat) : Surroundings → Prop
  | .blockComment start => start ≤ offset ∧ Boundary text (base + start)
  | .blanks | .lineComment => True

theorem trivia_fault_within (surroundings : Surroundings) (newline : Bool) (offset : Nat) (characters : List Char)
    (error : SyntaxError) (failed : skipTriviaFrom base surroundings newline offset characters = .error error)
    (inside : Cursor.InFragment text back base ⟨characters, offset⟩) (opened : surroundings.OpenedIn text base offset) :
    error.span.Within text := by
  have onward : ∀ {c : Char} {rest : List Char} {offset : Nat}, Cursor.InFragment text back base ⟨c :: rest, offset⟩ →
      Cursor.InFragment text back base ⟨rest, offset + c.utf8Size⟩ :=
    fun inside => (fragment_precedes inside (precedes_next _)).1
  fun_induction skipTriviaFrom base surroundings newline offset characters with
  | case1 newline offset start =>
      cases failed
      obtain ⟨forward, boundary⟩ := opened
      exact within_bounds (Nat.add_le_add_left forward base) boundary (fragment_boundary inside)
  | case2 | case11 => cases failed
  | case3 _ _ _ _ _ ih | case7 _ _ _ _ ih => exact ih failed (onward (onward inside)) trivial
  | case4 newline offset start c rest _ after ih =>
      obtain ⟨forward, boundary⟩ := opened
      exact ih failed (onward inside) ⟨Nat.le_trans forward (Nat.le_add_right _ _), boundary⟩
  | case8 newline offset rest _ ih => exact ih failed (onward (onward inside)) ⟨by omega, fragment_boundary inside⟩
  | case5 _ _ _ _ _ _ ih | case6 _ _ _ _ _ _ ih | case9 _ _ _ _ _ _ _ _ ih | case10 _ _ _ _ _ _ _ _ _ ih =>
      exact ih failed (onward inside) trivial

theorem skip_trivia_fault_within {cursor : Cursor} {error : SyntaxError} (inside : cursor.InFragment text back base)
    (failed : skipTrivia base cursor = .error error) : error.span.Within text :=
  trivia_fault_within _ _ _ _ error failed inside trivial

theorem lex_from_fault_within (fuel : Nat) (previous : Option TokenKind) (cursor : Cursor) (error : SyntaxError)
    (inside : cursor.InFragment text back base) (failed : lexFrom base fuel previous cursor = .error error) :
    error.span.Within text := by
  induction fuel generalizing previous cursor with
  | zero =>
      rw [lexFrom] at failed
      obtain unclosed | ⟨behind, -, finished⟩ := except_bind_error failed
      · exact skip_trivia_fault_within inside unclosed
      · cases finished
  | succ fuel ih =>
      rw [lexFrom] at failed
      obtain unclosed | ⟨⟨newline, start⟩, skipped, stopped⟩ := except_bind_error failed
      · exact skip_trivia_fault_within inside unclosed
      · obtain ⟨gap, takes, -⟩ := skip_trivia_takes _ _ _ _ skipped
        have opened := (fragment_takes inside takes).1
        dsimp only at stopped
        split at stopped
        · cases stopped
        · next c rest characters =>
            split at stopped
            · next halt scanned =>
                cases stopped
                exact precedes_within opened (kind_stops _ _ _ _ halt scanned)
            · next kind after scanned =>
                obtain ⟨word, -, read, -⟩ := scan_kind_written base previous c rest start after kind characters scanned
                obtain inner | ⟨tail, -, finished⟩ := except_bind_error stopped
                · exact ih (some kind) after (fragment_takes opened read).1 inner
                · cases finished

end

theorem lex_fault_within {text : List Char} {source : String} {base : Nat} {error : SyntaxError}
    (written : WrittenAt text source.toList base) (failed : lexFragment source base = .error error) :
    error.span.Within text := by
  obtain ⟨front, back, split, rfl⟩ := written
  exact lex_from_fault_within _ none _ error (fragment_begins split) failed

end ScriptSuite.Script
