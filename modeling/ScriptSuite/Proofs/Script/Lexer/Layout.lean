import Mathlib.Control.Monad.Basic
import ScriptSuite.Proofs.Script.Lexer.Written

set_option autoImplicit false

namespace ScriptSuite.Script

open Text

-- White space and comments, as they may stand before `following`. A line comment goes on to the end of its line.
inductive Gap (following : List Char) : List Char → Prop where
  | none : Gap following []
  | blank {c : Char} {rest : List Char} (white : isBlank c = true ∨ c = byteOrderMark) (onward : Gap following rest) :
      Gap following (c :: rest)
  | lineComment {text rest : List Char} (oneLine : ∀ c ∈ text, isLineTerminator c = false)
      (ended : ∀ c ∈ (rest ++ following).head?, isLineTerminator c = true) (onward : Gap following rest) :
      Gap following ('/' :: '/' :: (text ++ rest))
  | blockComment {text rest : List Char} (opened : ¬ ['*', '/'] <:+: text) (onward : Gap following rest) :
      Gap following ('/' :: '*' :: (text ++ '*' :: '/' :: rest))

def hasLineTerminator (text : List Char) : Bool :=
  text.any isLineTerminator

def GapFrom (surroundings : Surroundings) (following text : List Char) : Prop :=
  match surroundings with
  | .blanks => Gap following text
  | .lineComment => ∃ inside rest, text = inside ++ rest ∧ (∀ c ∈ inside, isLineTerminator c = false) ∧
      (∀ c ∈ (rest ++ following).head?, isLineTerminator c = true) ∧ Gap following rest
  | .blockComment _ => ∃ inside rest, text = inside ++ '*' :: '/' :: rest ∧ ¬ ['*', '/'] <:+: inside ∧ Gap following rest

def Skips (surroundings : Surroundings) (newline : Bool) (first : Cursor) (found : Bool) (last : Cursor) : Prop :=
  ∃ text, first.Takes text last ∧ GapFrom surroundings last.rest text ∧ found = (newline || hasLineTerminator text)

theorem takes_cons {c : Char} {rest text : List Char} {offset : Nat} {last : Cursor}
    (takes : Cursor.Takes ⟨rest, offset + c.utf8Size⟩ text last) : Cursor.Takes ⟨c :: rest, offset⟩ (c :: text) last :=
  takes_append (takes_next ⟨c :: rest, offset⟩ c rest rfl) takes

theorem has_line_terminator_cons (c : Char) (text : List Char) :
    hasLineTerminator (c :: text) = (isLineTerminator c || hasLineTerminator text) := rfl

theorem has_line_terminator_opening (c : Char) (text : List Char) (mark : c = '/' ∨ c = '*') :
    hasLineTerminator ('/' :: c :: text) = hasLineTerminator text := by
  rcases mark with rfl | rfl <;> rfl

theorem skips_blank {c : Char} {rest : List Char} {newline found : Bool} {offset : Nat} {last : Cursor}
    (white : isBlank c = true ∨ c = byteOrderMark)
    (onward : Skips .blanks (newline || isLineTerminator c) ⟨rest, offset + c.utf8Size⟩ found last) :
    Skips .blanks newline ⟨c :: rest, offset⟩ found last := by
  obtain ⟨text, takes, gap, flag⟩ := onward
  refine ⟨c :: text, takes_cons takes, .blank white gap, ?_⟩
  rw [flag, has_line_terminator_cons, Bool.or_assoc]

theorem skips_line_comment_end {c : Char} {rest : List Char} {newline found : Bool} {offset : Nat} {last : Cursor}
    (terminator : isLineTerminator c = true) (onward : Skips .blanks true ⟨rest, offset + c.utf8Size⟩ found last) :
    Skips .lineComment newline ⟨c :: rest, offset⟩ found last := by
  obtain ⟨text, takes, gap, flag⟩ := onward
  refine ⟨c :: text, takes_cons takes, ⟨[], c :: text, rfl, ?_, ?_, ?_⟩, ?_⟩
  · simp
  · simpa using terminator
  · exact .blank (.inl (isBlank_of_isLineTerminator c terminator)) gap
  · rw [flag, has_line_terminator_cons, terminator]
    simp

theorem skips_in_line_comment {c : Char} {rest : List Char} {newline found : Bool} {offset : Nat} {last : Cursor}
    (plain : isLineTerminator c = false) (onward : Skips .lineComment newline ⟨rest, offset + c.utf8Size⟩ found last) :
    Skips .lineComment newline ⟨c :: rest, offset⟩ found last := by
  obtain ⟨text, takes, ⟨inside, tail, rfl, oneLine, ended, gap⟩, flag⟩ := onward
  refine ⟨c :: (inside ++ tail), takes_cons takes, ⟨c :: inside, tail, rfl, ?_, ended, gap⟩, ?_⟩
  · simpa [plain] using oneLine
  · rw [flag, has_line_terminator_cons, plain, Bool.false_or]

theorem skips_in_block_comment {c : Char} {rest : List Char} {newline found : Bool} {offset start : Nat} {last : Cursor}
    (opened : ∀ tail, c = '*' → rest = '/' :: tail → False)
    (onward : Skips (.blockComment start) (newline || isLineTerminator c) ⟨rest, offset + c.utf8Size⟩ found last) :
    Skips (.blockComment start) newline ⟨c :: rest, offset⟩ found last := by
  obtain ⟨text, takes, ⟨inside, tail, rfl, inner, gap⟩, flag⟩ := onward
  refine ⟨c :: (inside ++ '*' :: '/' :: tail), takes_cons takes, ⟨c :: inside, tail, rfl, ?_, gap⟩, ?_⟩
  · intro closing
    rcases List.infix_cons_iff.mp closing with front | within
    · obtain ⟨star, slash⟩ := List.cons_prefix_cons.mp front
      obtain ⟨behind, rfl⟩ := slash
      exact opened _ star.symm takes.text
    · exact inner within
  · rw [flag, has_line_terminator_cons, Bool.or_assoc]

theorem skips_comment_start {inner : Surroundings} {c : Char} {rest : List Char} {newline found : Bool} {offset : Nat}
    {last : Cursor} (mark : (c = '/' ∧ inner = .lineComment) ∨ c = '*' ∧ ∃ start, inner = .blockComment start)
    (onward : Skips inner newline ⟨rest, offset + '/'.utf8Size + 1⟩ found last) :
    Skips .blanks newline ⟨'/' :: c :: rest, offset⟩ found last := by
  have one : c.utf8Size = 1 := by
    rcases mark with ⟨rfl, -⟩ | ⟨rfl, -⟩ <;> rfl
  obtain ⟨text, takes, gap, flag⟩ := onward
  rw [← one] at takes
  refine ⟨'/' :: c :: text, takes_cons (takes_cons takes), ?_, ?_⟩
  · rcases mark with ⟨rfl, rfl⟩ | ⟨rfl, start, rfl⟩
    · obtain ⟨inside, tail, rfl, oneLine, ended, onward⟩ := gap
      exact .lineComment oneLine ended onward
    · obtain ⟨inside, tail, rfl, inner, onward⟩ := gap
      exact .blockComment inner onward
  · rw [flag, has_line_terminator_opening c text (mark.imp And.left And.left)]

theorem skips_block_comment_end {rest : List Char} {newline found : Bool} {offset start : Nat} {last : Cursor}
    (onward : Skips .blanks newline ⟨rest, offset + '*'.utf8Size + 1⟩ found last) :
    Skips (.blockComment start) newline ⟨'*' :: '/' :: rest, offset⟩ found last := by
  obtain ⟨text, takes, gap, flag⟩ := onward
  refine ⟨'*' :: '/' :: text, takes_cons (takes_cons takes), ⟨[], text, rfl, ?_, gap⟩, flag⟩
  simp

theorem skip_trivia_from_skips (base : Nat) (surroundings : Surroundings) (newline : Bool) (offset : Nat) (text : List Char)
    (found : Bool) (last : Cursor) (skipped : skipTriviaFrom base surroundings newline offset text = .ok (found, last)) :
    Skips surroundings newline ⟨text, offset⟩ found last := by
  fun_induction skipTriviaFrom base surroundings newline offset text with
  | case1 => cases skipped
  | case2 surroundings newline offset outside =>
      cases skipped
      refine ⟨[], takes_nothing _, ?_, by simp [hasLineTerminator]⟩
      cases surroundings with
      | blanks => exact .none
      | lineComment => exact ⟨[], [], rfl, by simp, by simp, .none⟩
      | blockComment start => exact absurd rfl (outside start)
  | case3 newline offset start rest _ ih => exact skips_block_comment_end (ih skipped)
  | case4 newline offset start c rest opened _ ih => exact skips_in_block_comment opened (ih skipped)
  | case5 newline offset c rest terminator _ ih => exact skips_line_comment_end terminator (ih skipped)
  | case6 newline offset c rest plain _ ih => exact skips_in_line_comment (Bool.eq_false_iff.mpr plain) (ih skipped)
  | case7 newline offset rest _ ih => exact skips_comment_start (.inl ⟨rfl, rfl⟩) (ih skipped)
  | case8 newline offset rest _ ih => exact skips_comment_start (.inr ⟨rfl, offset, rfl⟩) (ih skipped)
  | case9 newline offset c rest _ _ terminator _ ih =>
      refine skips_blank (.inl (isBlank_of_isLineTerminator c terminator)) ?_
      rw [terminator, Bool.or_true]
      exact ih skipped
  | case10 newline offset c rest _ _ plain white _ ih =>
      refine skips_blank ?_ ?_
      · simpa using white
      · rw [Bool.eq_false_iff.mpr plain, Bool.or_false]
        exact ih skipped
  | case11 newline offset c rest _ _ _ _ =>
      cases skipped
      exact ⟨[], takes_nothing _, .none, by simp [hasLineTerminator]⟩

theorem skip_trivia_takes (base : Nat) (cursor last : Cursor) (found : Bool)
    (skipped : skipTrivia base cursor = .ok (found, last)) :
    ∃ gap, cursor.Takes gap last ∧ Gap last.rest gap ∧ found = hasLineTerminator gap := by
  obtain ⟨gap, takes, white, flag⟩ := skip_trivia_from_skips base .blanks false cursor.offset cursor.rest found last skipped
  rw [Bool.false_or] at flag
  exact ⟨gap, takes, white, flag⟩

theorem takes_length {first last : Cursor} {word : List Char} (takes : first.Takes word last) :
    first.rest.length = word.length + last.rest.length := by
  rw [takes.text, List.length_append]

inductive Lexed (base : Nat) : Option TokenKind → Cursor → List Token → Prop where
  | last {previous : Option TokenKind} {cursor start : Cursor} {newline : Bool}
      (skipped : skipTrivia base cursor = .ok (newline, start)) (finished : start.rest = []) :
      Lexed base previous cursor [endToken base newline start]
  | token {previous : Option TokenKind} {cursor start after : Cursor} {newline : Bool} {c : Char} {rest : List Char}
      {kind : TokenKind} {tokens : List Token} (skipped : skipTrivia base cursor = .ok (newline, start))
      (text : start.rest = c :: rest) (scanned : scanKind base previous c start = .ok (kind, after))
      (onward : Lexed base (some kind) after tokens) :
      Lexed base previous cursor (⟨kind, ⟨base + start.offset, base + after.offset⟩, newline⟩ :: tokens)

theorem skip_trivia_length (base : Nat) (cursor last : Cursor) (found : Bool)
    (skipped : skipTrivia base cursor = .ok (found, last)) : last.rest.length ≤ cursor.rest.length := by
  obtain ⟨gap, takes, _⟩ := skip_trivia_takes base cursor last found skipped
  have length := takes_length takes
  omega

theorem scan_kind_shortens (base : Nat) (previous : Option TokenKind) (c : Char) (rest : List Char) (cursor after : Cursor)
    (kind : TokenKind) (text : cursor.rest = c :: rest) (scanned : scanKind base previous c cursor = .ok (kind, after)) :
    after.rest.length < cursor.rest.length := by
  obtain ⟨word, nonempty, takes, _⟩ := scan_kind_written base previous c rest cursor after kind text scanned
  have length := takes_length takes
  have positive := List.length_pos_iff.mpr nonempty
  omega

theorem lex_from_of_lexed {base : Nat} {previous : Option TokenKind} {cursor : Cursor} {tokens : List Token}
    (lexed : Lexed base previous cursor tokens) (fuel : Nat) (enough : cursor.rest.length ≤ fuel) :
    lexFrom base fuel previous cursor = .ok tokens := by
  induction lexed generalizing fuel with
  | last skipped finished =>
      cases fuel with
      | zero =>
          rw [lexFrom, skipped]
          rfl
      | succ fuel =>
          rw [lexFrom, skipped]
          simp only [bind, Except.bind, finished]
          rfl
  | @token previous cursor start after newline c rest kind tokens skipped text scanned onward ih =>
      have trivia := skip_trivia_length base cursor start newline skipped
      have shorter := scan_kind_shortens base previous c rest start after kind text scanned
      cases fuel with
      | zero => omega
      | succ fuel =>
          rw [lexFrom, skipped]
          simp only [bind, Except.bind, text, scanned, ih fuel (by omega)]
          rfl

theorem lexed_of_lex_from (base fuel : Nat) (previous : Option TokenKind) (cursor : Cursor) (tokens : List Token)
    (enough : cursor.rest.length ≤ fuel) (lexed : lexFrom base fuel previous cursor = .ok tokens) :
    Lexed base previous cursor tokens := by
  induction fuel generalizing previous cursor tokens with
  | zero =>
      rw [lexFrom] at lexed
      obtain ⟨⟨newline, start⟩, skipped, finished⟩ := except_bind_ok lexed
      have trivia := skip_trivia_length base cursor start newline skipped
      cases finished
      exact .last skipped (List.length_eq_zero_iff.mp (by omega))
  | succ fuel ih =>
      rw [lexFrom] at lexed
      obtain ⟨⟨newline, start⟩, skipped, finished⟩ := except_bind_ok lexed
      have trivia := skip_trivia_length base cursor start newline skipped
      dsimp only at finished
      split at finished
      · next ended =>
          cases finished
          exact .last skipped ended
      · next c rest text =>
          split at finished
          · cases finished
          · next kind after scanned =>
              obtain ⟨tail, inner, same⟩ := except_bind_ok finished
              cases same
              have shorter := scan_kind_shortens base previous c rest start after kind text scanned
              exact .token skipped text scanned (ih _ _ _ (by omega) inner)

theorem start_cursor_shorter (base : Nat) (source : List Char) :
    (startCursor base source).rest.length ≤ source.length := by
  unfold startCursor
  dsimp only
  split
  · exact (List.drop_suffix _ _).length_le
  · exact Nat.le_refl _

theorem lexed_of_fragment {source : String} {base : Nat} {tokens : List Token} (lexed : lexFragment source base = .ok tokens) :
    Lexed base none (startCursor base source.toList) tokens :=
  lexed_of_lex_from base _ none _ tokens (start_cursor_shorter base _) lexed

inductive Laid (base : Nat) : Cursor → List Token → Prop where
  | last {cursor : Cursor} {gap : List Char} {stop : Nat} (skipped : cursor.Takes gap ⟨[], stop⟩) (white : Gap [] gap) :
      Laid base cursor [⟨.endOfFile, ⟨base + stop, base + stop⟩, hasLineTerminator gap⟩]
  | token {cursor start after : Cursor} {gap : List Char} {kind : TokenKind} {tokens : List Token}
      (skipped : cursor.Takes gap start) (white : Gap start.rest gap) (written : Written kind start after)
      (onward : Laid base after tokens) :
      Laid base cursor (⟨kind, ⟨base + start.offset, base + after.offset⟩, hasLineTerminator gap⟩ :: tokens)

theorem laid_of_lexed {base : Nat} {previous : Option TokenKind} {cursor : Cursor} {tokens : List Token}
    (lexed : Lexed base previous cursor tokens) : Laid base cursor tokens := by
  induction lexed with
  | @last previous cursor start newline skipped finished =>
      obtain ⟨gap, takes, white, rfl⟩ := skip_trivia_takes _ _ _ _ skipped
      obtain ⟨rest, stop⟩ := start
      cases finished
      exact .last takes white
  | @token previous cursor start after newline c rest kind tokens skipped text scanned onward ih =>
      obtain ⟨gap, takes, white, rfl⟩ := skip_trivia_takes _ _ _ _ skipped
      exact .token takes white (scan_kind_written base previous c rest start after kind text scanned) ih

def StandsAt (source word : List Char) (span : Span) : Prop :=
  ∃ front back, source = front ++ word ++ back ∧ span = ⟨byteLength front, byteLength (front ++ word)⟩

def hashbangLine (source : List Char) : List Char :=
  if ['#', '!'].isPrefixOf source then source.takeWhile fun c => !isLineTerminator c else []

-- `gap` stands before a token and behind the tokens `before`. It is trivia; before the first token the hashbang line
-- comes in front of it.
def GapBetween (source : List Char) (before : List Token) (gap : List Char) (token : Token) : Prop :=
  ∃ front trivia back, source = front ++ gap ++ back ∧
    byteLength front = (before.getLast?.map (·.span.stop)).getD 0 ∧
    byteLength (front ++ gap) = token.span.start ∧
    gap = (if before = [] then hashbangLine source else []) ++ trivia ∧
    Gap back trivia ∧
    (token.newlineBefore = true ↔ ∃ c ∈ gap, isLineTerminator c = true)

structure AccountsFor (source : List Char) (tokens : List Token) : Prop where
  ends : ∃ front flag, tokens = front ++ [⟨.endOfFile, ⟨byteLength source, byteLength source⟩, flag⟩] ∧
    ∀ token ∈ front, token.kind ≠ .endOfFile
  words : ∀ token ∈ tokens, token.kind ≠ .endOfFile →
    ∃ word, word ≠ [] ∧ StandsAt source word token.span ∧ token.kind.SpelledBy word
  ordered : tokens.Pairwise fun a b => a.span.stop ≤ b.span.start
  gaps : ∀ before token after, tokens = before ++ token :: after → ∃ gap, GapBetween source before gap token

def Cursor.IsIn (source : List Char) (cursor : Cursor) : Prop :=
  ∃ front, source = front ++ cursor.rest ∧ cursor.offset = byteLength front

theorem takes_stands {source word : List Char} {first last : Cursor} (inside : first.IsIn source)
    (takes : first.Takes word last) : last.IsIn source ∧ StandsAt source word ⟨first.offset, last.offset⟩ := by
  obtain ⟨front, text, bytes⟩ := inside
  have split : source = front ++ word ++ last.rest := by rw [text, takes.text, List.append_assoc]
  have stop : last.offset = byteLength (front ++ word) := by rw [takes.bytes, bytes, byteLength_append]
  exact ⟨⟨front ++ word, split, stop⟩, front, last.rest, split, by rw [bytes, stop]⟩

theorem written_stands {source : List Char} {kind : TokenKind} {first last : Cursor} (inside : first.IsIn source)
    (written : Written kind first last) :
    last.IsIn source ∧ first.offset ≤ last.offset ∧ kind ≠ .endOfFile ∧
      ∃ word, word ≠ [] ∧ StandsAt source word ⟨first.offset, last.offset⟩ ∧ kind.SpelledBy word := by
  obtain ⟨word, nonempty, takes, spelled⟩ := written
  obtain ⟨later, stands⟩ := takes_stands inside takes
  refine ⟨later, ?_, ?_, word, nonempty, stands, spelled⟩
  · rw [takes.bytes]
    exact Nat.le_add_right _ _
  · rintro rfl
    exact spelled

theorem end_offset {source : List Char} {stop : Nat} (inside : Cursor.IsIn source ⟨[], stop⟩) : stop = byteLength source := by
  obtain ⟨front, text, bytes⟩ := inside
  rw [text, List.append_nil]
  exact bytes

theorem laid_ends {source : List Char} {cursor : Cursor} {tokens : List Token} (inside : cursor.IsIn source)
    (laid : Laid 0 cursor tokens) :
    ∃ front flag, tokens = front ++ [⟨.endOfFile, ⟨byteLength source, byteLength source⟩, flag⟩] ∧
      ∀ token ∈ front, token.kind ≠ .endOfFile := by
  induction laid with
  | last skipped white =>
      have stop := end_offset (takes_stands inside skipped).1
      rw [stop, Nat.zero_add]
      exact ⟨[], _, rfl, by simp⟩
  | token skipped white written onward ih =>
      obtain ⟨later, -, present, -⟩ := written_stands (takes_stands inside skipped).1 written
      obtain ⟨front, flag, rfl, others⟩ := ih later
      refine ⟨_ :: front, flag, rfl, ?_⟩
      simpa using ⟨present, others⟩

theorem laid_words {source : List Char} {cursor : Cursor} {tokens : List Token} (inside : cursor.IsIn source)
    (laid : Laid 0 cursor tokens) :
    ∀ token ∈ tokens, token.kind ≠ .endOfFile →
      ∃ word, word ≠ [] ∧ StandsAt source word token.span ∧ token.kind.SpelledBy word := by
  induction laid with
  | last skipped white => simp
  | token skipped white written onward ih =>
      obtain ⟨later, -, -, word⟩ := written_stands (takes_stands inside skipped).1 written
      simp only [List.mem_cons, forall_eq_or_imp, Nat.zero_add]
      exact ⟨fun _ => word, ih later⟩

theorem laid_ordered {source : List Char} {cursor : Cursor} {tokens : List Token} (inside : cursor.IsIn source)
    (laid : Laid 0 cursor tokens) :
    (∀ token ∈ tokens, cursor.offset ≤ token.span.start) ∧ tokens.Pairwise fun a b => a.span.stop ≤ b.span.start := by
  induction laid with
  | last skipped white =>
      have later : _ ≤ _ := Nat.le.intro skipped.bytes.symm
      simpa using later
  | token skipped white written onward ih =>
      obtain ⟨later, forward, -⟩ := written_stands (takes_stands inside skipped).1 written
      obtain ⟨above, ordered⟩ := ih later
      have start : _ ≤ _ := Nat.le.intro skipped.bytes.symm
      simp only [List.mem_cons, forall_eq_or_imp, List.pairwise_cons, Nat.zero_add]
      exact ⟨⟨start, fun token inside => Nat.le_trans (Nat.le_trans start forward) (above token inside)⟩, above, ordered⟩

theorem last_stop_cons (token : Token) (before : List Token) (offset : Nat) :
    ((token :: before).getLast?.map (·.span.stop)).getD offset =
      (before.getLast?.map (·.span.stop)).getD token.span.stop := by
  rw [List.getLast?_cons]
  cases before.getLast? with
  | none => rfl
  | some last => rfl

theorem laid_gaps {source : List Char} {cursor : Cursor} {tokens : List Token} (inside : cursor.IsIn source)
    (laid : Laid 0 cursor tokens) (before : List Token) (token : Token) (after : List Token)
    (split : tokens = before ++ token :: after) :
    ∃ front gap back, source = front ++ gap ++ back ∧
      byteLength front = (before.getLast?.map (·.span.stop)).getD cursor.offset ∧
      byteLength (front ++ gap) = token.span.start ∧ Gap back gap ∧ token.newlineBefore = hasLineTerminator gap := by
  have first : ∀ {cursor start : Cursor} {gap : List Char}, cursor.IsIn source → cursor.Takes gap start →
      Gap start.rest gap → ∃ front back, source = front ++ gap ++ back ∧ byteLength front = cursor.offset ∧
        byteLength (front ++ gap) = 0 + start.offset ∧ Gap back gap := by
    intro cursor start gap inside takes white
    obtain ⟨front, text, bytes⟩ := inside
    refine ⟨front, start.rest, by rw [text, takes.text, List.append_assoc], bytes.symm, ?_, white⟩
    rw [byteLength_append, takes.bytes, bytes, Nat.zero_add]
  induction laid generalizing before with
  | @last cursor gap stop skipped white =>
      cases before with
      | nil =>
          cases split
          obtain ⟨front, back, text, start, stop, trivia⟩ := first inside skipped white
          exact ⟨front, gap, back, text, start, stop, trivia, rfl⟩
      | cons other before => simp at split
  | @token cursor start last gap kind tokens skipped white written onward ih =>
      cases before with
      | nil =>
          cases split
          obtain ⟨front, back, text, start, stop, trivia⟩ := first inside skipped white
          exact ⟨front, gap, back, text, start, stop, trivia, rfl⟩
      | cons other before =>
          cases split
          obtain ⟨later, -⟩ := written_stands (takes_stands inside skipped).1 written
          obtain ⟨front, gap, back, text, start, rest⟩ := ih later before rfl
          refine ⟨front, gap, back, text, ?_, rest⟩
          rw [start, last_stop_cons]
          simp only [Nat.zero_add]

theorem front_of_bytes {a b c d : List Char} (same : a ++ b = c ++ d) (bytes : byteLength a = byteLength c) : a = c := by
  induction a generalizing c with
  | nil =>
      cases c with
      | nil => rfl
      | cons x c =>
          have size := Char.utf8Size_pos x
          simp only [byteLength_nil, byteLength_cons] at bytes
          omega
  | cons x a ih =>
      cases c with
      | nil =>
          have size := Char.utf8Size_pos x
          simp only [byteLength_nil, byteLength_cons] at bytes
          omega
      | cons y c =>
          obtain ⟨rfl, rest⟩ := List.cons.inj same
          rw [ih rest (by simpa using bytes)]

theorem start_cursor_takes (source : List Char) :
    Cursor.Takes ⟨source, 0⟩ (hashbangLine source) (startCursor 0 source) := by
  unfold startCursor hashbangLine
  by_cases hashbang : ['#', '!'].isPrefixOf source = true
  · rw [if_pos hashbang]
    simp only [hashbang, decide_true, Bool.and_self, if_true]
    exact takes_advance ⟨source, 0⟩ _ (List.takeWhile_prefix _)
  · rw [if_neg hashbang]
    simp only [hashbang, decide_true, Bool.and_false, Bool.false_eq_true, if_false]
    exact takes_nothing _

theorem hashbang_one_line (source : List Char) (c : Char) (inside : c ∈ hashbangLine source) :
    isLineTerminator c = false := by
  unfold hashbangLine at inside
  split at inside
  · simpa using List.all_eq_true.mp List.all_takeWhile c inside
  · cases inside

theorem lex_accounts_for_source (source : String) (tokens : List Token) (lexed : lex source = .ok tokens) :
    AccountsFor source.toList tokens := by
  have start := start_cursor_takes source.toList
  have begins : Cursor.IsIn source.toList ⟨source.toList, 0⟩ := ⟨[], rfl, rfl⟩
  have inside := (takes_stands begins start).1
  have laid := laid_of_lexed (lexed_of_fragment lexed)
  refine ⟨laid_ends inside laid, laid_words inside laid, (laid_ordered inside laid).2, ?_⟩
  intro before token after split
  obtain ⟨front, trivia, back, text, opens, closes, white, flag⟩ := laid_gaps inside laid before token after split
  have terminator : token.newlineBefore = true ↔ ∃ c ∈ trivia, isLineTerminator c = true := by
    rw [flag, hasLineTerminator, List.any_eq_true]
  by_cases initial : before = []
  · have line : front = hashbangLine source.toList := by
      refine front_of_bytes (b := trivia ++ back) (d := (startCursor 0 source.toList).rest) ?_ ?_
      · rw [← List.append_assoc, ← text, ← start.text]
      · rw [opens, initial, start.bytes]
        exact Nat.zero_add _
    refine ⟨front ++ trivia, [], trivia, back, text, ?_, closes, ?_, white, terminator.trans ?_⟩
    · rw [initial]
      rfl
    · rw [if_pos initial, line]
    · have none : ¬ ∃ c ∈ front, isLineTerminator c = true := by
        rintro ⟨c, member, ends⟩
        rw [line] at member
        rw [hashbang_one_line _ c member] at ends
        cases ends
      simp only [List.mem_append, or_and_right, exists_or, none, false_or]
  · refine ⟨trivia, front, trivia, back, text, ?_, closes, ?_, white, terminator⟩
    · rw [opens]
      obtain ⟨front, last, rfl⟩ := List.eq_nil_or_concat before |>.resolve_left initial
      simp
    · rw [if_neg initial, List.nil_append]

def gappedSource : String := "#!run\n/*\n*/ a.if//é\n`$`;"

def gappedTokens : List Token :=
  [⟨.identifier "a", ⟨12, 13⟩, true⟩, ⟨.punct .dot, ⟨13, 14⟩, false⟩, ⟨.keyword .ifWord, ⟨14, 16⟩, false⟩,
   ⟨.template [.text "$"], ⟨21, 24⟩, true⟩, ⟨.punct .semi, ⟨24, 25⟩, false⟩, ⟨.endOfFile, ⟨25, 25⟩, false⟩]

theorem gapped_source_accounted : lex gappedSource = .ok gappedTokens ∧ AccountsFor gappedSource.toList gappedTokens := by
  have lexed : lex gappedSource = .ok gappedTokens := by decide +kernel
  exact ⟨lexed, lex_accounts_for_source gappedSource gappedTokens lexed⟩

end ScriptSuite.Script
