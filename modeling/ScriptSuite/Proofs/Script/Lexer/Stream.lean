import ScriptSuite.Proofs.Script.Lexer.Layout

set_option autoImplicit false

namespace ScriptSuite.Script

open Text

theorem Lexed.nonempty {base : Nat} {previous : Option TokenKind} {cursor : Cursor} {tokens : List Token}
    (lexed : Lexed base previous cursor tokens) : tokens ≠ [] := by
  cases lexed <;> exact List.cons_ne_nil _ _

structure Piece where
  gap : List Char
  word : List Char
  kind : TokenKind

def spell (pieces : List Piece) : List Char :=
  pieces.flatMap fun piece => piece.gap ++ piece.word

def place (offset : Nat) : List Piece → List Token
  | [] => []
  | piece :: rest =>
      let start := offset + byteLength piece.gap
      let stop := start + byteLength piece.word
      ⟨piece.kind, ⟨start, stop⟩, hasLineTerminator piece.gap⟩ :: place stop rest

structure Piece.Scans (piece : Piece) (following : List Char) : Prop where
  blank : ∀ c ∈ piece.gap, isBlank c = true
  nonempty : piece.word ≠ []
  audible : ∀ c ∈ piece.word.head?, isBlank c = false ∧ c ≠ byteOrderMark ∧ c ≠ '/'
  scans : ∀ previous offset, ∀ c ∈ piece.word.head?,
    scanKind 0 previous c ⟨piece.word ++ following, offset⟩ =
      .ok (piece.kind, ⟨following, offset + byteLength piece.word⟩)

def AllScan : List Piece → List Char → Prop
  | [], _ => True
  | piece :: rest, following => piece.Scans (spell rest ++ following) ∧ AllScan rest following

theorem spell_append (left right : List Piece) : spell (left ++ right) = spell left ++ spell right :=
  List.flatMap_append

theorem spell_cons (piece : Piece) (rest : List Piece) : spell (piece :: rest) = piece.gap ++ piece.word ++ spell rest :=
  List.flatMap_cons

theorem place_append (offset : Nat) (left right : List Piece) :
    place offset (left ++ right) = place offset left ++ place (offset + byteLength (spell left)) right := by
  induction left generalizing offset with
  | nil => rfl
  | cons piece rest step =>
      rw [List.cons_append, place, place, step, spell_cons, byteLength_append, byteLength_append]
      simp only [List.cons_append, Nat.add_assoc]

theorem all_scan_append (left right : List Piece) (following : List Char) :
    AllScan (left ++ right) following ↔ AllScan left (spell right ++ following) ∧ AllScan right following := by
  induction left with
  | nil => simp [AllScan]
  | cons piece rest step =>
      rw [List.cons_append, AllScan, AllScan, step, spell_append, List.append_assoc, and_assoc]

theorem skip_blanks (base : Nat) (newline : Bool) (offset : Nat) (gap text : List Char)
    (blank : ∀ c ∈ gap, isBlank c = true) :
    skipTriviaFrom base .blanks newline offset (gap ++ text) =
      skipTriviaFrom base .blanks (newline || hasLineTerminator gap) (offset + byteLength gap) text := by
  induction gap generalizing newline offset with
  | nil => simp [hasLineTerminator]
  | cons c rest step =>
      have white := blank c (List.mem_cons_self ..)
      have notSlash : c ≠ '/' := by
        rintro rfl
        exact absurd white (by decide)
      rw [List.cons_append, has_line_terminator_cons, byteLength_cons, ← Nat.add_assoc, ← Bool.or_assoc]
      have deeper := fun flag => step flag (offset + c.utf8Size) fun other inside => blank other (List.mem_cons_of_mem _ inside)
      by_cases terminator : isLineTerminator c = true
      · rw [skipTriviaFrom, if_pos terminator, deeper, terminator, Bool.or_true]
        · simp [notSlash]
        · simp [notSlash]
      · rw [skipTriviaFrom, if_neg terminator, if_pos (by simp [white]), deeper, Bool.eq_false_iff.mpr terminator,
          Bool.or_false]
        · simp [notSlash]
        · simp [notSlash]

theorem skip_nothing (base : Nat) (newline : Bool) (offset : Nat) (c : Char) (rest : List Char)
    (audible : isBlank c = false ∧ c ≠ byteOrderMark ∧ c ≠ '/') :
    skipTriviaFrom base .blanks newline offset (c :: rest) = .ok (newline, ⟨c :: rest, offset⟩) := by
  obtain ⟨dark, noMark, notSlash⟩ := audible
  have noTerminator : ¬isLineTerminator c = true := fun terminator => by
    rw [isBlank_of_isLineTerminator c terminator] at dark
    cases dark
  rw [skipTriviaFrom, if_neg noTerminator, if_neg (by simp [dark, noMark])]
  · simp [notSlash]
  · simp [notSlash]

def soleToken (kind : TokenKind) (stop : Nat) : List Token :=
  [⟨kind, ⟨0, stop⟩, false⟩, ⟨.endOfFile, ⟨stop, stop⟩, false⟩]

theorem lex_one_word (c : Char) (rest : List Char) (kind : TokenKind)
    (audible : isBlank c = false ∧ c ≠ byteOrderMark ∧ c ≠ '/') (plain : c ≠ '#')
    (scanned : scanKind 0 none c ⟨c :: rest, 0⟩ = .ok (kind, ⟨[], byteLength (c :: rest)⟩)) :
    lex (String.ofList (c :: rest)) = .ok (soleToken kind (byteLength (c :: rest))) := by
  have start : startCursor 0 (c :: rest) = ⟨c :: rest, 0⟩ := by
    simp [startCursor, List.isPrefixOf, plain.symm]
  have last : Lexed 0 (some kind) ⟨[], byteLength (c :: rest)⟩ [endToken 0 false ⟨[], byteLength (c :: rest)⟩] :=
    .last rfl rfl
  have skipped : skipTrivia 0 ⟨c :: rest, 0⟩ = .ok (false, ⟨c :: rest, 0⟩) := skip_nothing 0 false 0 c rest audible
  have word := Lexed.token skipped rfl scanned last
  rw [Nat.zero_add, Nat.zero_add] at word
  unfold lex lexFragment
  dsimp only
  rw [String.toList_ofList, start, lex_from_of_lexed word _ (Nat.le_refl _), endToken, soleToken, Nat.zero_add]

theorem lexed_pieces (pieces : List Piece) (following : List Char) (previous : Option TokenKind) (offset : Nat)
    (tokens : List Token) (scan : AllScan pieces following)
    (onward : ∀ previous, Lexed 0 previous ⟨following, offset + byteLength (spell pieces)⟩ tokens) :
    Lexed 0 previous ⟨spell pieces ++ following, offset⟩ (place offset pieces ++ tokens) := by
  induction pieces generalizing offset previous with
  | nil => exact onward previous
  | cons piece rest step =>
      obtain ⟨here, others⟩ := scan
      obtain ⟨blank, nonempty, audible, scans⟩ := here
      obtain ⟨c, word, shape⟩ := List.exists_cons_of_ne_nil nonempty
      have head : c ∈ piece.word.head? := by simp [shape]
      have start : skipTrivia 0 ⟨spell (piece :: rest) ++ following, offset⟩ =
          .ok (hasLineTerminator piece.gap, ⟨piece.word ++ (spell rest ++ following), offset + byteLength piece.gap⟩) := by
        rw [skipTrivia, spell_cons, List.append_assoc, List.append_assoc, skip_blanks 0 false offset _ _ blank, shape,
          List.cons_append, skip_nothing 0 _ _ c _ (audible c head), Bool.false_or]
      have scanned := scans previous (offset + byteLength piece.gap) c head
      have tail := step (some piece.kind) (offset + byteLength piece.gap + byteLength piece.word) others (by
        intro previous
        have later := onward previous
        rwa [spell_cons, byteLength_append, byteLength_append, ← Nat.add_assoc, ← Nat.add_assoc] at later)
      have token := Lexed.token start (by rw [shape]; rfl) scanned tail
      rw [Nat.zero_add, Nat.zero_add] at token
      exact token

end ScriptSuite.Script
