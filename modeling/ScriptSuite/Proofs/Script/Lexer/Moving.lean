import ScriptSuite.Proofs.Script.Lexer.Stream
import ScriptSuite.Proofs.Script.Lexer.Substitutions
import ScriptSuite.Proofs.Script.Moving
import ScriptSuite.Proofs.Script.Remainder

set_option autoImplicit false

namespace ScriptSuite.Script

open Text Number

variable {α β : Type} {place distance : Nat}

def Cursor.moved (distance : Nat) (cursor : Cursor) : Cursor :=
  ⟨cursor.rest, cursor.offset + distance⟩

def Halt.moved (place distance : Nat) (halt : Halt) : Halt :=
  ⟨halt.fault.moved place, halt.stop.moved distance⟩

def movedScan (place : Nat) (move : α → α) (distance : Nat) : Scan (α × Cursor) → Scan (α × Cursor)
  | .ok (value, after) => .ok (move value, after.moved distance)
  | .error halt => .error (halt.moved place distance)

theorem moved_rest (cursor : Cursor) : (cursor.moved distance).rest = cursor.rest := rfl

theorem moved_next (cursor : Cursor) : (cursor.moved distance).next = cursor.next.moved distance := by
  obtain ⟨text, offset⟩ := cursor
  cases text with
  | nil => rfl
  | cons c rest =>
      have stop : offset + distance + c.utf8Size = offset + c.utf8Size + distance := Nat.add_right_comm ..
      exact congrArg (Cursor.mk rest) stop

theorem moved_cursor_advance (cursor : Cursor) (word : List Char) :
    (cursor.moved distance).advance word = (cursor.advance word).moved distance :=
  congrArg (Cursor.mk _) (Nat.add_right_comm ..)

theorem moved_take_while (cursor : Cursor) (accepts : Char → Bool) :
    (cursor.moved distance).takeWhile accepts =
      ((cursor.takeWhile accepts).1, (cursor.takeWhile accepts).2.moved distance) :=
  congrArg (Prod.mk _) (moved_cursor_advance cursor _)

theorem moved_skip_line (cursor : Cursor) : skipLine (cursor.moved distance) = (skipLine cursor).moved distance :=
  moved_cursor_advance cursor _

theorem moved_up_to (first last : Cursor) : (first.moved distance).upTo (last.moved distance) = first.upTo last :=
  congrArg (takeBytes · first.rest) (Nat.add_sub_add_right ..)

theorem moved_block_comment (newline : Bool) (offset : Nat) (text : List Char) :
    skipBlockComment newline (offset + distance) text = movedScan place id distance (skipBlockComment newline offset text) := by
  fun_induction skipBlockComment newline offset text with
  | case1 => rfl
  | case2 newline offset rest => exact congrArg (fun stop => Except.ok (newline, (⟨rest, stop⟩ : Cursor))) (Nat.add_right_comm ..)
  | case3 newline offset c rest other ih =>
      rw [skipBlockComment, Nat.add_right_comm]
      · exact ih
      · exact other

theorem moved_raw_string (quote : Char) (offset : Nat) (text : List Char) :
    skipRawString quote (offset + distance) text = movedScan place id distance (skipRawString quote offset text) := by
  fun_induction skipRawString quote offset text with
  | case1 => rfl
  | case2 offset c rest ih =>
      rw [skipRawString, show offset + distance + 1 + c.utf8Size = offset + 1 + c.utf8Size + distance by omega]
      exact ih
  | case3 offset rest other =>
      rw [skipRawString, if_pos rfl, Nat.add_right_comm]
      · rfl
      · exact other
  | case4 offset c rest other different ih =>
      rw [skipRawString, if_neg different, Nat.add_right_comm]
      · exact ih
      · exact other

theorem moved_regex_body (inClass : Bool) (offset : Nat) (text : List Char) :
    skipRegexBody inClass (offset + distance) text = movedScan place id distance (skipRegexBody inClass offset text) := by
  fun_induction skipRegexBody inClass offset text with
  | case1 => rfl
  | case2 =>
      rw [skipRegexBody, Nat.add_right_comm]
      rfl
  | case3 inClass offset c rest ends =>
      rw [skipRegexBody, if_pos ends, Nat.add_right_comm offset, Nat.add_right_comm (offset + 1)]
      rfl
  | case4 inClass offset c rest inner ih =>
      rw [skipRegexBody, if_neg inner, Nat.add_right_comm offset, Nat.add_right_comm (offset + 1)]
      exact ih
  | case5 inClass offset rest alone other stop ih =>
      rw [skipRegexBody, if_pos rfl, Nat.add_right_comm]
      · exact ih
      · exact alone
      · exact other
  | case6 inClass offset rest alone other stop opens ih =>
      rw [skipRegexBody, if_neg opens, if_pos rfl, Nat.add_right_comm]
      · exact ih
      · exact alone
      · exact other
  | case7 inClass offset c rest alone other stop opens closes ends =>
      rw [skipRegexBody, if_neg opens, if_neg closes, if_pos ends, Nat.add_right_comm]
      · rfl
      · exact alone
      · exact other
  | case8 inClass offset c rest alone other stop opens closes ends breaks =>
      rw [skipRegexBody, if_neg opens, if_neg closes, if_neg ends, if_pos breaks, Nat.add_right_comm]
      · rfl
      · exact alone
      · exact other
  | case9 inClass offset c rest alone other stop opens closes ends breaks ih =>
      rw [skipRegexBody, if_neg opens, if_neg closes, if_neg ends, if_neg breaks, Nat.add_right_comm]
      · exact ih
      · exact alone
      · exact other

theorem moved_hex_escape (letter : Char) (count : Nat) (cursor : Cursor) :
    scanHexEscape letter count (cursor.moved distance) =
      ((scanHexEscape letter count cursor).1, (scanHexEscape letter count cursor).2.moved distance) := by
  unfold scanHexEscape
  dsimp only [moved_rest]
  rw [moved_cursor_advance]
  split <;> rfl

theorem moved_braced_escape (cursor : Cursor) :
    scanBracedEscape (cursor.moved distance) =
      ((scanBracedEscape cursor).1, (scanBracedEscape cursor).2.moved distance) := by
  unfold scanBracedEscape
  rw [moved_take_while]
  dsimp only [moved_rest]
  split
  · rw [moved_next]
  · rfl

theorem moved_escape (cursor : Cursor) :
    scanEscape (cursor.moved distance) = ((scanEscape cursor).1, (scanEscape cursor).2.moved distance) := by
  unfold scanEscape
  rw [moved_next, moved_rest]
  cases cursor.rest with
  | nil => rfl
  | cons c rest =>
      dsimp only
      rw [moved_hex_escape, moved_hex_escape, moved_next, moved_braced_escape]
      repeat' split
      all_goals rfl

theorem moved_scan_bind {move : α → α} {movedMove : β → β} {first movedFirst : Scan (α × Cursor)}
    {next movedNext : α × Cursor → Scan (β × Cursor)} (one : movedFirst = movedScan place move distance first)
    (two : ∀ value after, movedNext (move value, after.moved distance) = movedScan place movedMove distance (next (value, after))) :
    (movedFirst >>= movedNext) = movedScan place movedMove distance (first >>= next) := by
  subst one
  cases first with
  | error halt => rfl
  | ok read => exact two read.1 read.2

theorem moved_scan_ite {condition : Prop} [Decidable condition] {move : α → α} {yes no movedYes movedNo : Scan (α × Cursor)}
    (one : movedYes = movedScan place move distance yes) (two : movedNo = movedScan place move distance no) :
    (if condition then movedYes else movedNo) = movedScan place move distance (if condition then yes else no) := by
  split
  · exact one
  · exact two

theorem moved_string_body (quote : Char) (fuel : List Char) (cursor : Cursor) :
    scanStringBody quote fuel (cursor.moved distance) = movedScan place id distance (scanStringBody quote fuel cursor) := by
  induction fuel generalizing cursor with
  | nil => rfl
  | cons _ fuel ih =>
      rw [scanStringBody, scanStringBody, moved_rest]
      cases cursor.rest with
      | nil => rfl
      | cons c rest =>
          dsimp only
          rw [moved_next, moved_escape]
          split
          · rfl
          · split
            · cases scanEscape cursor.next with
              | mk escape after =>
                  cases escape with
                  | character value => exact moved_scan_bind (ih after) fun _ _ => rfl
                  | lineContinuation => exact ih after
                  | endOfText => rfl
            · split
              · rfl
              · exact moved_scan_bind (ih cursor.next) fun _ _ => rfl

theorem moved_scan_string (quote : Char) (cursor : Cursor) :
    scanString (cursor.moved distance) quote = movedScan place (TokenKind.moved place) distance (scanString cursor quote) := by
  unfold scanString
  rw [moved_next]
  exact moved_scan_bind (moved_string_body quote _ _) fun _ _ => rfl

theorem moved_skip_step (cursor : Cursor) (enclosure : Enclosure) :
    skipStep (cursor.moved distance) enclosure = movedScan place id distance (skipStep cursor enclosure) := by
  cases enclosure with
  | template =>
      rw [skipStep, skipStep, moved_rest, moved_next, moved_next]
      split <;> rfl
  | substitution braces =>
      unfold skipStep
      dsimp only
      rw [moved_rest, moved_next, moved_skip_line]
      split
      · rfl
      · rfl
      · cases braces <;> rfl
      · rfl
      · rfl
      · rw [show (cursor.moved distance).offset + 2 = cursor.offset + 2 + distance from Nat.add_right_comm ..]
        exact moved_scan_bind (moved_block_comment _ _ _) fun _ _ => rfl
      · rw [show (cursor.moved distance).offset + 1 = cursor.offset + 1 + distance from Nat.add_right_comm ..]
        split
        · exact moved_scan_bind (moved_raw_string _ _ _) fun _ _ => rfl
        · rfl

theorem moved_substitution (fuel : List Char) (enclosures : List Enclosure) (cursor : Cursor) :
    skipSubstitution fuel enclosures (cursor.moved distance) =
      movedScan place id distance (skipSubstitution fuel enclosures cursor) := by
  induction fuel generalizing enclosures cursor with
  | nil => cases enclosures <;> rfl
  | cons f fuel ih =>
      cases enclosures with
      | nil => rfl
      | cons enclosure outer =>
          rw [skip_substitution_step, skip_substitution_step]
          exact moved_scan_bind (moved_skip_step cursor enclosure) fun inner after => ih (inner ++ outer) after

theorem moved_template_body (base shift : Nat) (fuel literal : List Char) (cursor : Cursor) :
    scanTemplateBody (base + shift) fuel literal (cursor.moved distance) =
      movedScan (shift + distance) (Movable.moved (shift + distance)) distance (scanTemplateBody base fuel literal cursor) := by
  induction fuel generalizing literal cursor with
  | nil => rfl
  | cons _ fuel ih =>
      rw [scanTemplateBody, scanTemplateBody, moved_rest, moved_next, moved_next]
      split
      · rfl
      · rfl
      · rw [moved_escape]
        cases scanEscape cursor.next with
        | mk escape after =>
            cases escape with
            | character value => exact ih _ _
            | lineContinuation => exact ih _ _
            | endOfText => rfl
      · dsimp only [moved_rest]
        refine moved_scan_bind (moved_substitution _ _ _) fun _ after => ?_
        rw [moved_up_to]
        refine moved_scan_bind (ih _ _) fun parts stop => ?_
        have offset : base + shift + (cursor.next.next.offset + distance) =
            base + cursor.next.next.offset + (shift + distance) := by omega
        exact congrArg (fun place => Except.ok (TemplatePart.text _ :: .substitution _ place ::
          Movable.moved (shift + distance) parts, stop.moved distance)) offset
      · exact ih _ _

theorem moved_scan_template (base shift : Nat) (cursor : Cursor) :
    scanTemplate (base + shift) (cursor.moved distance) =
      movedScan (shift + distance) (TokenKind.moved (shift + distance)) distance (scanTemplate base cursor) := by
  unfold scanTemplate
  rw [moved_next]
  exact moved_scan_bind (moved_template_body base shift _ _ _) fun _ _ => rfl

theorem moved_scan_regex (cursor : Cursor) :
    scanRegex (cursor.moved distance) = movedScan place (TokenKind.moved place) distance (scanRegex cursor) := by
  unfold scanRegex
  rw [moved_next]
  refine moved_scan_bind (moved_regex_body _ _ _) fun _ after => ?_
  dsimp only
  rw [moved_take_while, moved_up_to]
  rfl

theorem moved_scan_decimal (cursor : Cursor) :
    scanDecimal (cursor.moved distance) = movedScan place (TokenKind.moved place) distance (scanDecimal cursor) := by
  unfold scanDecimal
  simp only [Cursor.peek?, moved_rest, moved_cursor_advance, moved_next]
  refine moved_scan_ite rfl ?_
  cases Double.ofText? (dropSeparators (decimalText cursor.rest)) with
  | none => rfl
  | some value => exact moved_scan_ite rfl rfl

theorem moved_scan_radix (cursor : Cursor) (radix : Nat) :
    scanRadix (cursor.moved distance) radix = movedScan place (TokenKind.moved place) distance (scanRadix cursor radix) := by
  unfold scanRadix
  simp only [Cursor.peek?, moved_rest, moved_cursor_advance, moved_next]
  exact moved_scan_ite rfl (moved_scan_ite rfl rfl)

theorem moved_scan_number (cursor : Cursor) :
    scanNumber (cursor.moved distance) = movedScan place (TokenKind.moved place) distance (scanNumber cursor) := by
  unfold scanNumber
  rw [moved_rest]
  cases radixOfPrefix? cursor.rest with
  | some radix => exact moved_scan_radix cursor radix
  | none => exact moved_scan_decimal cursor

theorem moved_scan_punct (cursor : Cursor) :
    scanPunct (cursor.moved distance) = movedScan place (TokenKind.moved place) distance (scanPunct cursor) := by
  unfold scanPunct
  rw [moved_rest, moved_next, moved_next]
  cases Punct.longest? cursor.rest with
  | none => rfl
  | some mark =>
      by_cases chain : mark = .questionDot
      · subst chain
        exact moved_scan_ite rfl rfl
      · simp only
        rw [moved_cursor_advance]
        rfl

theorem moved_scan_word (cursor : Cursor) :
    .ok (scanWord (cursor.moved distance)) = movedScan place (TokenKind.moved place) distance (.ok (scanWord cursor)) := by
  unfold scanWord
  rw [moved_take_while]
  dsimp only
  cases Keyword.ofName? (String.ofList (cursor.takeWhile isIdentifierPart).1) <;> rfl

theorem moved_scan_private_name (cursor : Cursor) :
    scanPrivateName (cursor.moved distance) = movedScan place (TokenKind.moved place) distance (scanPrivateName cursor) := by
  unfold scanPrivateName
  simp only [Cursor.peek?, moved_rest, moved_next, moved_take_while]
  exact moved_scan_ite rfl rfl

theorem moved_ends_operand (place : Nat) (kind : TokenKind) : (kind.moved place).endsOperand = kind.endsOperand := by
  cases kind <;> rfl

theorem moved_regex_allowed (place : Nat) (previous : Option TokenKind) :
    regexAllowed (Movable.moved place previous) = regexAllowed previous := by
  cases previous with
  | none => rfl
  | some kind => exact congrArg not (moved_ends_operand place kind)

theorem moved_scan_kind (base shift : Nat) (previous : Option TokenKind) (c : Char) (cursor : Cursor) :
    scanKind (base + shift) (Movable.moved (shift + distance) previous) c (cursor.moved distance) =
      movedScan (shift + distance) (TokenKind.moved (shift + distance)) distance (scanKind base previous c cursor) := by
  unfold scanKind
  rw [moved_regex_allowed, moved_next]
  refine moved_scan_ite (moved_scan_string c cursor) (moved_scan_ite (moved_scan_template base shift cursor) ?_)
  refine moved_scan_ite (moved_scan_number cursor) (moved_scan_ite (moved_scan_number cursor) ?_)
  refine moved_scan_ite (moved_scan_regex cursor) (moved_scan_ite (moved_scan_private_name cursor) ?_)
  exact moved_scan_ite (moved_scan_word cursor) (moved_scan_punct cursor)

def Surroundings.moved (distance : Nat) : Surroundings → Surroundings
  | .blockComment start => .blockComment (start + distance)
  | surroundings => surroundings

def movedTrivia (shift distance : Nat) : Except SyntaxError (Bool × Cursor) → Except SyntaxError (Bool × Cursor)
  | .ok (newline, after) => .ok (newline, after.moved distance)
  | .error failure => .error (failure.moved (shift + distance))

theorem moved_span (distance base shift start stop : Nat) :
    (⟨base + shift + (start + distance), base + shift + (stop + distance)⟩ : Span) =
      Span.shift (shift + distance) ⟨base + start, base + stop⟩ := by
  simp only [Span.shift, Span.mk.injEq]
  omega

theorem moved_trivia_from (base shift : Nat) (surroundings : Surroundings) (newline : Bool) (offset : Nat)
    (text : List Char) :
    skipTriviaFrom (base + shift) (surroundings.moved distance) newline (offset + distance) text =
      movedTrivia shift distance (skipTriviaFrom base surroundings newline offset text) := by
  fun_induction skipTriviaFrom base surroundings newline offset text with
  | case1 newline offset start =>
      exact congrArg (fun span => Except.error (SyntaxError.mk .unterminatedComment span)) (moved_span distance base shift start offset)
  | case2 surroundings newline offset other =>
      cases surroundings with
      | blockComment start => exact absurd rfl (other start)
      | _ => rfl
  | case3 newline offset start rest after ih =>
      rw [← ih, Surroundings.moved, skipTriviaFrom]
      congr 1
      omega
  | case4 newline offset start c rest more after ih =>
      rw [← ih, Surroundings.moved, skipTriviaFrom, Nat.add_right_comm]
      exact more
  | case5 newline offset c rest terminator after ih =>
      rw [← ih, Surroundings.moved, skipTriviaFrom, if_pos terminator, Nat.add_right_comm]
      · rfl
      · exact fun _ => Surroundings.noConfusion
  | case6 newline offset c rest inner after ih =>
      rw [← ih, Surroundings.moved, skipTriviaFrom, if_neg inner, Nat.add_right_comm]
      exact fun _ => Surroundings.noConfusion
  | case7 newline offset rest after ih =>
      rw [← ih, Surroundings.moved, skipTriviaFrom]
      · congr 1
        omega
      · exact fun _ => Surroundings.noConfusion
  | case8 newline offset rest after ih =>
      rw [← ih, Surroundings.moved, Surroundings.moved, skipTriviaFrom]
      · congr 1
        omega
      · exact fun _ => Surroundings.noConfusion
  | case9 newline offset c rest line block terminator after ih =>
      rw [← ih, Surroundings.moved, skipTriviaFrom, if_pos terminator, Nat.add_right_comm]
      · exact line
      · exact block
      · exact fun _ => Surroundings.noConfusion
  | case10 newline offset c rest line block inner blank after ih =>
      rw [← ih, Surroundings.moved, skipTriviaFrom, if_neg inner, if_pos blank, Nat.add_right_comm]
      · exact line
      · exact block
      · exact fun _ => Surroundings.noConfusion
  | case11 newline offset c rest line block inner solid =>
      rw [Surroundings.moved, skipTriviaFrom, if_neg inner, if_neg solid]
      · rfl
      · exact line
      · exact block
      · exact fun _ => Surroundings.noConfusion

theorem moved_trivia (base shift : Nat) (cursor : Cursor) :
    skipTrivia (base + shift) (cursor.moved distance) = movedTrivia shift distance (skipTrivia base cursor) :=
  moved_trivia_from base shift .blanks false cursor.offset cursor.rest

def movedTokens (distance : Nat) : Except SyntaxError (List Token) → Except SyntaxError (List Token)
  | .ok tokens => .ok (Movable.moved distance tokens)
  | .error failure => .error (failure.moved distance)

theorem moved_lex_from (distance base shift fuel : Nat) (previous : Option TokenKind) (cursor : Cursor) :
    lexFrom (base + shift) fuel (Movable.moved (shift + distance) previous) (cursor.moved distance) =
      movedTokens (shift + distance) (lexFrom base fuel previous cursor) := by
  have ends : ∀ newline (stop : Cursor), endToken (base + shift) newline (stop.moved distance) =
      (endToken base newline stop).moved (shift + distance) :=
    fun newline stop => congrArg (Token.mk .endOfFile · newline) (moved_span distance base shift stop.offset stop.offset)
  induction fuel generalizing previous cursor with
  | zero =>
      rw [lexFrom, lexFrom, moved_trivia]
      cases skipTrivia base cursor with
      | error failure => rfl
      | ok skipped => exact congrArg (fun token => Except.ok [token]) (ends skipped.1 skipped.2)
  | succ fuel ih =>
      rw [lexFrom, lexFrom, moved_trivia]
      cases skipTrivia base cursor with
      | error failure => rfl
      | ok skipped =>
          obtain ⟨newline, start⟩ := skipped
          dsimp only [movedTrivia, bind, Except.bind, moved_rest]
          cases start.rest with
          | nil => exact congrArg (fun token => Except.ok [token]) (ends newline start)
          | cons c rest =>
              dsimp only
              rw [moved_scan_kind]
              cases scanKind base previous c start with
              | error halt =>
                  exact congrArg (fun span => Except.error (SyntaxError.mk (halt.fault.moved _) span))
                    (moved_span distance base shift start.offset halt.stop.offset)
              | ok read =>
                  obtain ⟨kind, after⟩ := read
                  have behind := ih (some kind) after
                  dsimp only [movedScan]
                  rw [show some (kind.moved (shift + distance)) = Movable.moved (shift + distance) (some kind) from rfl, behind]
                  cases lexFrom base fuel (some kind) after with
                  | error failure => rfl
                  | ok tokens =>
                      exact congrArg (fun span => Except.ok (⟨kind.moved (shift + distance), span, newline⟩ ::
                        Movable.moved (shift + distance) tokens)) (moved_span distance base shift start.offset after.offset)

theorem moved_fragment (source : String) (offset : Nat) (behind : offset ≠ 0) :
    lexFragment source (offset + distance) = movedTokens distance (lexFragment source offset) := by
  have first : ∀ place, place ≠ 0 → startCursor place source.toList = ⟨source.toList, 0⟩ := by
    intro place positive
    simp [startCursor, positive]
  unfold lexFragment
  dsimp only
  rw [first offset behind, first (offset + distance) (by omega)]
  exact moved_lex_from 0 offset distance source.toList.length none ⟨source.toList, 0⟩

theorem byte_length_ascii (count : Nat) : byteLength (List.replicate count 'a') = count := by
  induction count with
  | zero => rfl
  | succ count ih =>
      rw [List.replicate_succ, byteLength_cons, ih, Nat.add_comm]
      rfl

theorem placed_behind {text : List Char} {first last : Nat} {parts : List TemplatePart}
    (placed : PartsPlaced text first last parts) (source : String) (offset : Nat)
    (found : .substitution source offset ∈ parts) : first ≤ offset := by
  induction parts generalizing first with
  | nil => cases found
  | cons part rest ih =>
      cases part with
      | text value => exact ih placed (List.mem_of_ne_of_mem TemplatePart.noConfusion found)
      | substitution here start =>
          rcases List.mem_cons.mp found with same | later
          · cases same
            exact placed.1
          · have further := ih placed.2.2 later
            have begins := placed.1
            omega

theorem template_anchored {base : Nat} {cursor after : Cursor} {c : Char} {rest : List Char} {parts : List TemplatePart}
    (text : cursor.rest = c :: rest) (read : TemplateRead base [] cursor.next parts after) (source : String) :
    .substitution source 0 ∉ parts := by
  have opened : 0 < cursor.next.offset := by
    rw [Cursor.next, text]
    exact Nat.lt_add_left _ (Char.utf8Size_pos c)
  have inside : cursor.next.InFragment (List.replicate (base + cursor.next.offset) 'a' ++ (cursor.next.rest ++ [])) [] base :=
    ⟨_, rfl, (byte_length_ascii _).symm⟩
  intro first
  have begins := placed_behind (template_parts_placed inside read) source 0 first
  omega

theorem lexed_anchored {base : Nat} {previous : Option TokenKind} {cursor : Cursor} {tokens : List Token}
    (lexed : Lexed base previous cursor tokens) : AllAnchored tokens := by
  induction lexed with
  | last skipped finished =>
      intro token inside parts source template
      rw [List.mem_singleton.mp inside] at template
      cases template
  | token skipped text scanned onward ih =>
      intro token inside
      rcases List.mem_cons.mp inside with same | later
      · intro parts source template
        rw [same] at template
        dsimp only at template
        subst template
        exact template_anchored text (kind_template_read scanned) source
      · exact ih token later

end ScriptSuite.Script
