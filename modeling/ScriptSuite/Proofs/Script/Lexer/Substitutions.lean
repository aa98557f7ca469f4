import ScriptSuite.Proofs.Script.Lexer.Layout
import ScriptSuite.Proofs.Script.Lexer.Rendering

set_option autoImplicit false

namespace ScriptSuite.Script

def Boundary (text : List Char) (offset : Nat) : Prop :=
  ∃ front back, text = front ++ back ∧ offset = byteLength front

-- `word` is the part of the text that begins at `offset`.
def WrittenAt (text word : List Char) (offset : Nat) : Prop :=
  ∃ front back, text = front ++ word ++ back ∧ offset = byteLength front

def PartsPlaced (text : List Char) : Nat → Nat → List TemplatePart → Prop
  | first, last, [] => first ≤ last
  | first, last, .text _ :: rest => PartsPlaced text first last rest
  | first, last, .substitution source offset :: rest =>
      first ≤ offset ∧ WrittenAt text source.toList offset ∧
        PartsPlaced text (offset + byteLength source.toList) last rest

structure Token.Placed (text : List Char) (floor ceiling : Nat) (token : Token) : Prop where
  above : floor ≤ token.span.start
  forward : token.span.start ≤ token.span.stop
  below : token.span.stop ≤ ceiling
  start : Boundary text token.span.start
  stop : Boundary text token.span.stop
  parts : ∀ parts, token.kind = .template parts → PartsPlaced text token.span.start token.span.stop parts

-- The tokens stand one behind the other between two offsets, and an end of the file is among them.
def Stream (text : List Char) (ceiling : Nat) : Nat → List Token → Prop
  | _, [] => False
  | floor, token :: rest =>
      token.Placed text floor ceiling ∧
        (token.kind ≠ .endOfFile → token.span.start < token.span.stop ∧ Stream text ceiling token.span.stop rest)

def Cursor.InFragment (text back : List Char) (base : Nat) (cursor : Cursor) : Prop :=
  ∃ front, text = front ++ (cursor.rest ++ back) ∧ base + cursor.offset = byteLength front

theorem boundary_below {text : List Char} {offset : Nat} (boundary : Boundary text offset) : offset ≤ byteLength text := by
  obtain ⟨front, back, rfl, rfl⟩ := boundary
  rw [byteLength_append]
  exact Nat.le_add_right _ _

theorem parts_placed_earlier {text : List Char} {first other last : Nat} {parts : List TemplatePart}
    (placed : PartsPlaced text first last parts) (earlier : other ≤ first) : PartsPlaced text other last parts := by
  induction parts generalizing first with
  | nil => exact Nat.le_trans earlier placed
  | cons part rest ih =>
      cases part with
      | text value => exact ih placed earlier
      | substitution source offset => exact ⟨Nat.le_trans earlier placed.1, placed.2⟩

theorem stream_lower {text : List Char} {ceiling floor lower : Nat} {tokens : List Token}
    (stream : Stream text ceiling floor tokens) (below : lower ≤ floor) : Stream text ceiling lower tokens := by
  cases tokens with
  | nil => exact stream
  | cons token rest =>
      obtain ⟨placed, onward⟩ := stream
      exact ⟨⟨Nat.le_trans below placed.above, placed.forward, placed.below, placed.start, placed.stop, placed.parts⟩,
        onward⟩

section

variable {text back : List Char} {base : Nat}

theorem fragment_boundary {cursor : Cursor} (inside : cursor.InFragment text back base) :
    Boundary text (base + cursor.offset) := by
  obtain ⟨front, split, bytes⟩ := inside
  exact ⟨front, cursor.rest ++ back, split, bytes⟩

theorem fragment_takes {first last : Cursor} {word : List Char} (inside : first.InFragment text back base)
    (takes : first.Takes word last) :
    last.InFragment text back base ∧ WrittenAt text word (base + first.offset) ∧
      last.offset = first.offset + byteLength word := by
  obtain ⟨front, split, bytes⟩ := inside
  have whole : text = front ++ word ++ (last.rest ++ back) := by
    rw [split, takes.text, List.append_assoc, List.append_assoc]
  refine ⟨⟨front ++ word, whole, ?_⟩, ⟨front, last.rest ++ back, whole, bytes⟩, takes.bytes⟩
  rw [takes.bytes, byteLength_append, ← bytes, Nat.add_assoc]

theorem fragment_precedes {first last : Cursor} (inside : first.InFragment text back base)
    (precedes : first.Precedes last) : last.InFragment text back base ∧ first.offset ≤ last.offset := by
  obtain ⟨word, takes⟩ := precedes
  obtain ⟨later, -, bytes⟩ := fragment_takes inside takes
  exact ⟨later, by omega⟩

theorem written_front {word front : List Char} {offset : Nat} (written : WrittenAt text word offset)
    (starts : front <+: word) : WrittenAt text front offset := by
  obtain ⟨before, after, split, bytes⟩ := written
  obtain ⟨rest, rfl⟩ := starts
  exact ⟨before, rest ++ after, by rw [split]; simp, bytes⟩

theorem byte_length_front {front word : List Char} (starts : front <+: word) : byteLength front ≤ byteLength word := by
  obtain ⟨rest, rfl⟩ := starts
  rw [byteLength_append]
  exact Nat.le_add_right _ _

theorem up_to_taken {first last : Cursor} {word : List Char} (takes : first.Takes word last) :
    first.upTo last = word := by
  unfold Cursor.upTo
  rw [takes.bytes, Nat.add_sub_cancel_left, takes.text, take_bytes_front]

theorem template_parts_placed {literal : List Char} {cursor last : Cursor} {parts : List TemplatePart}
    (inside : cursor.InFragment text back base) (read : TemplateRead base literal cursor parts last) :
    PartsPlaced text (base + cursor.offset) (base + last.offset) parts := by
  have further : ∀ {first after : Cursor} {parts : List TemplatePart}, first.InFragment text back base →
      first.Precedes after → (after.InFragment text back base →
        PartsPlaced text (base + after.offset) (base + last.offset) parts) →
      PartsPlaced text (base + first.offset) (base + last.offset) parts := by
    intro first after parts stands precedes placed
    obtain ⟨later, forward⟩ := fragment_precedes stands precedes
    exact parts_placed_earlier (placed later) (Nat.add_le_add_left forward base)
  induction read with
  | closed here => exact further inside (precedes_next _) fun _ => Nat.le_refl _
  | escaped here escaped present onward ih =>
      exact further inside (precedes_trans (precedes_next _) (precedes_scan_escape_eq escaped)) fun later => ih later further
  | @opened literal rest cursor after last parts here skipped onward ih =>
      obtain ⟨opened, forward⟩ := fragment_precedes inside (precedes_trans (precedes_next cursor) (precedes_next _))
      obtain ⟨word, takes⟩ := precedes_skip_substitution _ _ _ _ skipped
      obtain ⟨later, written, bytes⟩ := fragment_takes opened takes
      have front : word.dropLast <+: word := List.dropLast_prefix word
      have shorter := byte_length_front front
      refine ⟨Nat.add_le_add_left forward base, ?_, ?_⟩
      · rw [up_to_taken takes, String.toList_ofList]
        exact written_front written front
      · rw [up_to_taken takes, String.toList_ofList]
        exact parts_placed_earlier (ih later further) (by omega)
  | plain here noEnd noEscape noOpening onward ih => exact further inside (precedes_next _) fun later => ih later further

theorem kind_template_read {previous : Option TokenKind} {c : Char} {cursor after : Cursor} {parts : List TemplatePart}
    (scanned : scanKind base previous c cursor = .ok (.template parts, after)) :
    TemplateRead base [] cursor.next parts after := by
  cases kind_read scanned with
  | template tick read => exact read

theorem template_token_placed {cursor after : Cursor} {parts : List TemplatePart}
    (inside : cursor.InFragment text back base) (read : TemplateRead base [] cursor.next parts after) :
    PartsPlaced text (base + cursor.offset) (base + after.offset) parts := by
  obtain ⟨opened, forward⟩ := fragment_precedes inside (precedes_next cursor)
  exact parts_placed_earlier (template_parts_placed opened read) (by omega)

def Cursor.ceiling (base : Nat) (cursor : Cursor) : Nat :=
  base + cursor.offset + byteLength cursor.rest

theorem takes_ceiling {first last : Cursor} {word : List Char} (takes : first.Takes word last) :
    last.ceiling base = first.ceiling base := by
  unfold Cursor.ceiling
  rw [takes.bytes, takes.text, byteLength_append]
  omega

theorem end_token_streams {ceiling : Nat} {cursor start : Cursor} {gap : List Char} (newline : Bool)
    (inside : cursor.InFragment text back base) (bound : cursor.ceiling base = ceiling) (skipped : cursor.Takes gap start) :
    Stream text ceiling (base + cursor.offset) [endToken base newline start] := by
  obtain ⟨later, -, bytes⟩ := fragment_takes inside skipped
  have below : start.ceiling base = cursor.ceiling base := takes_ceiling skipped
  unfold Cursor.ceiling at below bound
  have here := fragment_boundary later
  refine ⟨⟨?_, Nat.le_refl _, ?_, here, here, fun parts kind => ?_⟩, fun present => absurd rfl present⟩
  · show base + cursor.offset ≤ base + start.offset
    omega
  · show base + start.offset ≤ ceiling
    omega
  · cases kind

theorem lex_from_streams {ceiling : Nat} (fuel : Nat) (previous : Option TokenKind) (cursor : Cursor) (tokens : List Token)
    (inside : cursor.InFragment text back base) (bound : cursor.ceiling base = ceiling)
    (lexed : lexFrom base fuel previous cursor = .ok tokens) : Stream text ceiling (base + cursor.offset) tokens := by
  induction fuel generalizing previous cursor tokens with
  | zero =>
      rw [lexFrom] at lexed
      obtain ⟨⟨newline, start⟩, skipped, finished⟩ := except_bind_ok lexed
      obtain ⟨gap, takes, -⟩ := skip_trivia_takes _ _ _ _ skipped
      cases finished
      exact end_token_streams newline inside bound takes
  | succ fuel ih =>
      rw [lexFrom] at lexed
      obtain ⟨⟨newline, start⟩, skipped, finished⟩ := except_bind_ok lexed
      obtain ⟨gap, takes, -⟩ := skip_trivia_takes _ _ _ _ skipped
      dsimp only at finished
      split at finished
      · cases finished
        exact end_token_streams newline inside bound takes
      · next c rest chars =>
          split at finished
          · cases finished
          · next kind after scanned =>
              obtain ⟨tail, inner, same⟩ := except_bind_ok finished
              cases same
              obtain ⟨opened, -, gapBytes⟩ := fragment_takes inside takes
              obtain ⟨word, nonempty, read, -⟩ :=
                scan_kind_written base previous c rest start after kind chars scanned
              obtain ⟨later, -, wordBytes⟩ := fragment_takes opened read
              have same : after.ceiling base = ceiling := by rw [takes_ceiling read, takes_ceiling takes, bound]
              have wide : 0 < byteLength word := by
                obtain ⟨first, rest, rfl⟩ := List.exists_cons_of_ne_nil nonempty
                have size := Char.utf8Size_pos first
                rw [byteLength_cons]
                omega
              have below : base + after.offset ≤ ceiling := by
                unfold Cursor.ceiling at same
                omega
              refine ⟨⟨?_, ?_, below, fragment_boundary opened, fragment_boundary later, ?_⟩,
                fun _ => ⟨?_, ih (some kind) after tail later same inner⟩⟩
              · show base + cursor.offset ≤ base + start.offset
                omega
              · show base + start.offset ≤ base + after.offset
                omega
              · rintro parts rfl
                exact template_token_placed opened (kind_template_read scanned)
              · show base + start.offset < base + after.offset
                omega

end

theorem start_cursor_behind (base : Nat) (source : List Char) :
    Cursor.Precedes ⟨source, 0⟩ (startCursor base source) := by
  unfold startCursor
  dsimp only
  split
  · exact ⟨_, takes_advance _ _ (List.takeWhile_prefix _)⟩
  · exact precedes_refl _

theorem fragment_begins {text back : List Char} {source : String} {front : List Char}
    (split : text = front ++ source.toList ++ back) :
    (startCursor (byteLength front) source.toList).InFragment text back (byteLength front) := by
  have begins : Cursor.InFragment text back (byteLength front) ⟨source.toList, 0⟩ :=
    ⟨front, by rw [split, List.append_assoc], rfl⟩
  exact (fragment_precedes begins (start_cursor_behind _ _)).1

theorem lex_fragment_streams {text : List Char} {source : String} {base : Nat} {tokens : List Token}
    (written : WrittenAt text source.toList base) (lexed : lexFragment source base = .ok tokens) :
    Stream text (base + byteLength source.toList) base tokens := by
  obtain ⟨front, back, split, rfl⟩ := written
  obtain ⟨line, takes⟩ := start_cursor_behind (byteLength front) source.toList
  have bound : (startCursor (byteLength front) source.toList).ceiling (byteLength front) =
      byteLength front + byteLength source.toList := by
    rw [takes_ceiling takes]
    rfl
  have streamed := lex_from_streams _ none _ tokens (fragment_begins split) bound lexed
  exact stream_lower streamed (Nat.le_add_right _ _)

end ScriptSuite.Script
