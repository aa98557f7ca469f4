import ScriptSuite.Proofs.Script.Concatenation

set_option autoImplicit false

namespace ScriptSuite.Script

def movedProgram (distance : Nat) : Except SyntaxError Program → Except SyntaxError Program
  | .ok program => .ok (program.moved distance)
  | .error failure => .error (failure.moved distance)

theorem lex_fragment_moved (source : String) (plain : ['#', '!'].isPrefixOf source.toList = false) (base : Nat) :
    lexFragment source base = movedTokens base (lex source) := by
  have first : ∀ place, startCursor place source.toList = ⟨source.toList, 0⟩ := by
    intro place
    simp [startCursor, plain]
  unfold lex lexFragment
  dsimp only
  rw [first, first]
  have moved := moved_lex_from 0 0 base source.toList.length none ⟨source.toList, 0⟩
  rwa [Nat.zero_add, Nat.add_zero] at moved

section

variable {g : Grammar} {distance : Nat}

theorem program_round_moved (alike : g.Echoes distance) (before : Body) {state : State} (anchored : AllAnchored state.rest) :
    programRound g (Movable.moved distance before) .top (state.moved distance) =
        (programRound g before .top state).moved distance ∧
      AllAnchored (programRound g before .top state).state.rest := by
  obtain ⟨runs, kept⟩ := alike.statement.shifts .top state anchored
  rw [program_round_run, program_round_run, moved_peek, moved_token_kind]
  by_cases ended : state.peek.kind = .endOfFile
  · rw [if_pos ended, if_pos ((moved_eq_end distance _).mpr ended), ← moved_reverse]
    exact ⟨rfl, anchored⟩
  · rw [if_neg ended, if_neg fun isEnd => ended ((moved_eq_end distance _).mp isEnd), runs]
    cases outcome : g.statement .top state with
    | error failure after =>
        rw [outcome] at kept
        exact ⟨rfl, kept⟩
    | ok statement after =>
        rw [outcome] at kept
        exact ⟨rfl, kept⟩

theorem program_rounds_moved (closed : g.Closed) (alike : g.Echoes distance) (before : Body) {state : State}
    (anchored : AllAnchored state.rest) :
    repeatRounds (programRound g) (Movable.moved distance before) .top (state.moved distance) =
      (repeatRounds (programRound g) before .top state).moved distance := by
  induction size : state.rest.length using Nat.strongRecOn generalizing before state with
  | _ size ih =>
      have shortens := program_round_shortens closed
      obtain ⟨round, kept⟩ := program_round_moved alike before anchored
      rw [repeat_rounds_unfold shortens, repeat_rounds_unfold shortens, round]
      cases result : programRound g before .top state with
      | error failure after => rfl
      | ok step after =>
          rw [result] at kept
          cases step with
          | done body => rfl
          | again next =>
              have shorter := shortens before .top state next after result
              exact ih after.rest.length (by omega) next kept rfl

end

theorem parse_moved {tokens : List Token} (nonempty : tokens ≠ []) (anchored : AllAnchored tokens) (distance : Nat) :
    parse (Movable.moved distance tokens) = movedProgram distance (parse tokens) := by
  have start : State.ofTokens (Movable.moved distance tokens) = (State.ofTokens tokens).moved distance := by
    obtain ⟨token, rest, rfl⟩ := List.exists_cons_of_ne_nil nonempty
    rfl
  have reads : AllAnchored (State.ofTokens tokens).rest := anchored
  have whole := program_rounds_moved full_closed (of_levels_echo maxNesting distance) [] reads
  unfold parse programBody
  rw [start]
  rw [moved_nil] at whole
  rw [whole]
  cases repeatRounds (programRound Grammar.full) [] .top (.ofTokens tokens) <;> rfl

-- The texts that are lexed for a file, each with its offset: its own, and those that the templates of one of them hold.
inductive Captured (file : String) : String → Nat → Prop where
  | file : Captured file file 0
  | substitution {source inner : String} {base offset : Nat} {tokens : List Token} {token : Token}
      {parts : List TemplatePart} (outer : Captured file source base) (lexed : lexFragment source base = .ok tokens)
      (inside : token ∈ tokens) (template : token.kind = .template parts)
      (part : .substitution inner offset ∈ parts) : Captured file inner offset

theorem parts_written {text : List Char} {first last : Nat} {parts : List TemplatePart}
    (placed : PartsPlaced text first last parts) {source : String} {offset : Nat}
    (found : .substitution source offset ∈ parts) : WrittenAt text source.toList offset := by
  induction parts generalizing first with
  | nil => cases found
  | cons part rest ih =>
      cases part with
      | text value => exact ih placed (List.mem_of_ne_of_mem TemplatePart.noConfusion found)
      | substitution here start =>
          rcases List.mem_cons.mp found with same | later
          · cases same
            exact placed.2.1
          · exact ih placed.2.2 later

theorem written_inside {text word inner : List Char} {offset start : Nat} (outer : WrittenAt text word offset)
    (written : WrittenAt word inner start) : WrittenAt text inner (offset + start) := by
  obtain ⟨front, back, rfl, rfl⟩ := outer
  obtain ⟨before, behind, rfl, rfl⟩ := written
  exact ⟨front ++ before, behind ++ back, by simp, (byteLength_append _ _).symm⟩

theorem lexed_whole {base : Nat} {previous : Option TokenKind} {cursor : Cursor} {tokens : List Token}
    (lexed : Lexed base previous cursor tokens) : WholeFile tokens := by
  refine ⟨?_, lexed_anchored lexed⟩
  induction lexed with
  | @last previous cursor start newline skipped finished => exact ⟨[], _, rfl, rfl, by simp⟩
  | token skipped text scanned onward ih =>
      obtain ⟨front, last, rfl, isEnd, present⟩ := ih
      obtain ⟨word, -, -, spelled⟩ := scan_kind_written _ _ _ _ _ _ _ text scanned
      refine ⟨_ :: front, last, rfl, isEnd, List.forall_mem_cons.mpr ⟨?_, present⟩⟩
      rintro rfl
      exact spelled

theorem stream_placed {text : List Char} {ceiling floor : Nat} {front : List Token} {last : Token}
    (stream : Stream text ceiling floor (front ++ [last])) (present : ∀ token ∈ front, token.kind ≠ .endOfFile) :
    ∀ token ∈ front ++ [last], token.Placed text floor ceiling := by
  induction front generalizing floor with
  | nil =>
      intro token inside
      rw [List.mem_singleton.mp inside]
      exact stream.1
  | cons first front ih =>
      obtain ⟨here, onward⟩ := stream
      obtain ⟨firstPresent, others⟩ := List.forall_mem_cons.mp present
      obtain ⟨-, rest⟩ := onward firstPresent
      intro token inside
      rcases List.mem_cons.mp inside with rfl | later
      · exact here
      · have earlier := Nat.le_trans here.above here.forward
        exact ih (stream_lower rest earlier) others token later

theorem fragment_placed {text : List Char} {source : String} {base : Nat} {tokens : List Token}
    (written : WrittenAt text source.toList base) (lexed : lexFragment source base = .ok tokens) :
    ∀ token ∈ tokens, token.Placed text base (base + byteLength source.toList) := by
  obtain ⟨front, last, rfl, -, present⟩ := (lexed_whole (lexed_of_fragment lexed)).ends
  exact stream_placed (lex_fragment_streams written lexed) present

theorem captured_written {file source : String} {base : Nat} (captured : Captured file source base) :
    WrittenAt file.toList source.toList base := by
  induction captured with
  | file => exact ⟨[], [], by simp, rfl⟩
  | substitution outer lexed inside template part ih =>
      exact parts_written ((fragment_placed ih lexed _ inside).parts _ template) part

theorem lexed_written {base : Nat} {previous : Option TokenKind} {cursor : Cursor} {tokens : List Token}
    (lexed : Lexed base previous cursor tokens) :
    ∀ token ∈ tokens, ∃ word offset, WrittenAt cursor.rest word offset ∧
      token.span = ⟨base + cursor.offset + offset, base + cursor.offset + offset + byteLength word⟩ := by
  induction lexed with
  | @last previous cursor start newline skipped finished =>
      intro token inside
      obtain ⟨gap, takes, -⟩ := skip_trivia_takes _ _ _ _ skipped
      rw [List.mem_singleton.mp inside]
      refine ⟨[], byteLength gap, ⟨gap, start.rest, by simpa using takes.text, rfl⟩, ?_⟩
      simp only [endToken, takes.bytes, Nat.add_assoc, byteLength_nil, Nat.add_zero]
  | @token previous cursor start after newline c rest kind tokens skipped text scanned onward ih =>
      obtain ⟨gap, takes, -⟩ := skip_trivia_takes _ _ _ _ skipped
      obtain ⟨word, -, read, -⟩ := scan_kind_written _ _ _ _ _ _ _ text scanned
      intro token inside
      rcases List.mem_cons.mp inside with rfl | later
      · refine ⟨word, byteLength gap, ⟨gap, after.rest, by rw [takes.text, read.text, List.append_assoc], rfl⟩, ?_⟩
        simp only [read.bytes, takes.bytes, Nat.add_assoc]
      · obtain ⟨inner, offset, written, span⟩ := ih token later
        have behind : WrittenAt cursor.rest after.rest (byteLength gap + byteLength word) :=
          ⟨gap ++ word, [], by rw [takes.text, read.text]; simp, (byteLength_append _ _).symm⟩
        refine ⟨inner, _, written_inside behind written, ?_⟩
        rw [span, read.bytes, takes.bytes]
        simp only [Nat.add_assoc]

theorem fragment_written {source : String} {base : Nat} {tokens : List Token} (lexed : lexFragment source base = .ok tokens) :
    ∀ token ∈ tokens, ∃ word offset, WrittenAt source.toList word offset ∧
      token.span = ⟨base + offset, base + offset + byteLength word⟩ := by
  obtain ⟨line, takes⟩ := start_cursor_behind base source.toList
  intro token inside
  obtain ⟨word, offset, written, span⟩ := lexed_written (lexed_of_fragment lexed) token inside
  have behind : WrittenAt source.toList (startCursor base source.toList).rest (byteLength line) :=
    ⟨line, [], by rw [List.append_nil]; exact takes.text, rfl⟩
  refine ⟨word, _, written_inside behind written, ?_⟩
  rw [span, takes.bytes]
  simp only [Nat.zero_add, Nat.add_assoc]

theorem parse_fragment_lexed {source : String} {base : Nat} {tokens : List Token}
    (lexed : lexFragment source base = .ok tokens) : parseFragment source base = parse tokens := by
  unfold parseFragment
  rw [lexed]
  rfl

theorem parse_fragment_moved (source : String) (plain : ['#', '!'].isPrefixOf source.toList = false) (base : Nat) :
    parseFragment source base = movedProgram base (parseFragment source 0) := by
  have begins : lexFragment source 0 = lex source := rfl
  unfold parseFragment
  rw [lex_fragment_moved source plain base, begins]
  cases lexed : lex source with
  | error failure => rfl
  | ok tokens =>
      have read := lexed_of_fragment lexed
      exact parse_moved read.nonempty (lexed_anchored read) base

/-- A fragment at an offset is lexed and parsed as it is alone, with every place that far on; and the texts that templates
hold for the parser, at any depth, stand in the file where their offsets and the spans of their tokens say. -/
theorem fragments_stand_in_file :
    (∀ (source : String) (base : Nat), ['#', '!'].isPrefixOf source.toList = false →
      lexFragment source base = movedTokens base (lex source) ∧
        (∀ tokens, lex source = .ok tokens → parse (Movable.moved base tokens) = movedProgram base (parse tokens)) ∧
        parseFragment source base = movedProgram base (parseFragment source 0) ∧
        ∀ error : SyntaxError, (error.moved base).message = error.message ∧ (error.moved base).span = error.span.shift base) ∧
    ∀ (file source : String) (base : Nat), Captured file source base →
      WrittenAt file.toList source.toList base ∧
        ∀ tokens, lexFragment source base = .ok tokens → ∀ token ∈ tokens, ∃ word offset,
          WrittenAt source.toList word offset ∧ WrittenAt file.toList word (base + offset) ∧
            token.span = ⟨base + offset, base + offset + byteLength word⟩ := by
  constructor
  · intro source base plain
    refine ⟨lex_fragment_moved source plain base, fun tokens lexed => ?_, parse_fragment_moved source plain base,
      fun error => ⟨moved_message base error, rfl⟩⟩
    have read := lexed_of_fragment lexed
    exact parse_moved read.nonempty (lexed_anchored read) base
  · intro file source base captured
    have stands := captured_written captured
    refine ⟨stands, fun tokens lexed token inside => ?_⟩
    obtain ⟨word, offset, written, span⟩ := fragment_written lexed token inside
    exact ⟨word, offset, written, written_inside stands written, span⟩

def nestedText : String := "`é$\x7b`$\x7b[]\x7d`\x7d`"

def innerText : String := "`$\x7b[]\x7d`"

def innerTokens : List Token :=
  [⟨.template [.text "", .substitution "[]" 3, .text ""], ⟨0, 7⟩, false⟩, ⟨.endOfFile, ⟨7, 7⟩, false⟩]

def innerProgram : Program :=
  ⟨[⟨.expr ⟨.template ⟨["", ""], [⟨.array [], ⟨3, 5⟩⟩]⟩, ⟨0, 7⟩⟩, ⟨0, 7⟩⟩], []⟩

theorem nested_text_stands :
    ['#', '!'].isPrefixOf innerText.toList = false ∧ lex innerText = .ok innerTokens ∧
      parseFragment innerText 0 = .ok innerProgram ∧
      lexFragment innerText 5 = .ok [⟨.template [.text "", .substitution "[]" 8, .text ""], ⟨5, 12⟩, false⟩,
        ⟨.endOfFile, ⟨12, 12⟩, false⟩] ∧
      parseFragment innerText 5 = .ok ⟨[⟨.expr ⟨.template ⟨["", ""], [⟨.array [], ⟨8, 10⟩⟩]⟩, ⟨5, 12⟩⟩, ⟨5, 12⟩⟩], []⟩ ∧
      Captured nestedText innerText 5 ∧ Captured nestedText "[]" 8 ∧ WrittenAt nestedText.toList "[]".toList 8 := by
  have plain : ['#', '!'].isPrefixOf innerText.toList = false := by decide +kernel
  have lexed : lex innerText = .ok innerTokens := by decide +kernel
  have alone : parseFragment innerText 0 = .ok innerProgram := parse_fragment_lexed lexed
  have outer : lex nestedText = .ok [⟨.template [.text "é", .substitution innerText 5, .text ""], ⟨0, 14⟩, false⟩,
      ⟨.endOfFile, ⟨14, 14⟩, false⟩] := by decide +kernel
  obtain ⟨moves, stands⟩ := fragments_stand_in_file
  obtain ⟨tokens, -, program, -⟩ := moves innerText 5 plain
  rw [lexed] at tokens
  rw [alone] at program
  have inner : Captured nestedText innerText 5 :=
    .substitution .file outer (List.mem_cons_self ..) rfl (List.mem_cons_of_mem _ (List.mem_cons_self ..))
  have innermost : Captured nestedText "[]" 8 :=
    .substitution inner tokens (List.mem_cons_self ..) rfl (List.mem_cons_of_mem _ (List.mem_cons_self ..))
  exact ⟨plain, lexed, alone, tokens, program, inner, innermost, (stands nestedText "[]" 8 innermost).1⟩

end ScriptSuite.Script
