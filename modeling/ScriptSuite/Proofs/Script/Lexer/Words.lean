import ScriptSuite.Proofs.Script.Lexer.Stream

set_option autoImplicit false

namespace ScriptSuite.Script

open Text

def blankCodes : List Nat :=
  [0x09, 0x0A, 0x0B, 0x0C, 0x0D, 0x20, 0x85, 0xA0, 0x1680, 0x2000, 0x2001, 0x2002, 0x2003, 0x2004, 0x2005, 0x2006,
    0x2007, 0x2008, 0x2009, 0x200A, 0x2028, 0x2029, 0x202F, 0x205F, 0x3000]

theorem blank_code (c : Char) (blank : isBlank c = true) : c.toNat ∈ blankCodes := by
  simp only [isBlank, Bool.or_eq_true, Bool.and_eq_true, decide_eq_true_eq, beq_iff_eq] at blank
  simp only [blankCodes, List.mem_cons, List.not_mem_nil, or_false]
  omega

theorem between_codes (low high c : Char) (between : (low ≤ c && c ≤ high) = true) :
    low.toNat ≤ c.toNat ∧ c.toNat ≤ high.toNat := by
  obtain ⟨lower, upper⟩ := Bool.and_eq_true_iff.mp between
  exact ⟨of_decide_eq_true lower, of_decide_eq_true upper⟩

theorem digit_code (c : Char) (digit : isAsciiDigit c = true) : c.toNat ∈ [48, 49, 50, 51, 52, 53, 54, 55, 56, 57] := by
  have codes := between_codes '0' '9' c digit
  have zero : '0'.toNat = 48 := rfl
  have nine : '9'.toNat = 57 := rfl
  simp only [List.mem_cons, List.not_mem_nil, or_false]
  omega

theorem no_name_starts_with (code : Nat) (listed : code ∈ blankCodes ++ [48, 49, 50, 51, 52, 53, 54, 55, 56, 57]) :
    isIdentifierStart (Char.ofNat code) = false := by
  revert code
  decide +kernel

theorem identifier_start_dark (c : Char) (starts : isIdentifierStart c = true) : isBlank c = false := by
  refine Bool.eq_false_iff.mpr fun blank => ?_
  have none := no_name_starts_with c.toNat (List.mem_append_left _ (blank_code c blank))
  rw [Char.ofNat_toNat, starts] at none
  cases none

theorem identifier_start_not_digit (c : Char) (starts : isIdentifierStart c = true) : isAsciiDigit c = false := by
  refine Bool.eq_false_iff.mpr fun digit => ?_
  have none := no_name_starts_with c.toNat (List.mem_append_right _ (digit_code c digit))
  rw [Char.ofNat_toNat, starts] at none
  cases none

theorem identifier_start_ne (c other : Char) (starts : isIdentifierStart c = true)
    (outside : isIdentifierStart other = false) : c ≠ other := by
  rintro rfl
  rw [starts] at outside
  cases outside

theorem digit_ne (c other : Char) (digit : isAsciiDigit c = true) (outside : isAsciiDigit other = false) : c ≠ other := by
  rintro rfl
  rw [digit] at outside
  cases outside

theorem scan_kind_digit (base : Nat) (previous : Option TokenKind) (c : Char) (cursor : Cursor) (digit : isAsciiDigit c = true) :
    scanKind base previous c cursor = scanNumber cursor := by
  have differs := fun other outside => digit_ne c other digit outside
  unfold scanKind
  rw [if_neg (by simp [differs '"' (by decide), differs '\'' (by decide)]), if_neg (differs '`' (by decide)), if_pos digit]

theorem scan_kind_name (base : Nat) (previous : Option TokenKind) (c : Char) (cursor : Cursor)
    (starts : isIdentifierStart c = true) : scanKind base previous c cursor = .ok (scanWord cursor) := by
  have differs := fun other outside => identifier_start_ne c other starts outside
  unfold scanKind
  simp [differs '"' (by decide), differs '\'' (by decide), differs '`' (by decide), differs '.' (by decide),
    differs '/' (by decide), differs '#' (by decide), identifier_start_not_digit c starts, starts]

instance decidableAllText {p : Char → Prop} [DecidablePred p] (text : List Char) : Decidable (∀ c ∈ text, p c) :=
  List.decidableBAll p text

instance decidableAllFirst {p : Char → Prop} [DecidablePred p] (first : Option Char) : Decidable (∀ c ∈ first, p c) :=
  Option.decidableForallMem first

instance decidableAnyFirst {p : Char → Prop} [DecidablePred p] (first : Option Char) : Decidable (∃ c ∈ first, p c) :=
  Option.decidableExistsMem first

def IsName (word : List Char) : Prop :=
  (∃ c ∈ word.head?, isIdentifierStart c = true) ∧ ∀ c ∈ word, isIdentifierPart c = true

instance decidableIsName (word : List Char) : Decidable (IsName word) :=
  inferInstanceAs (Decidable (_ ∧ _))

def wordKind (name : String) : TokenKind :=
  match Keyword.ofName? name with
  | some word => .keyword word
  | none => .identifier name

def EndsName (following : List Char) : Prop :=
  ∀ c ∈ following.head?, isIdentifierPart c = false

theorem take_name (word following : List Char) (parts : ∀ c ∈ word, isIdentifierPart c = true)
    (ends : EndsName following) : (word ++ following).takeWhile isIdentifierPart = word := by
  rw [List.takeWhile_append_of_pos parts]
  cases following with
  | nil => simp
  | cons c rest => simp [ends c rfl]

theorem scan_name (base : Nat) (previous : Option TokenKind) (c : Char) (word following : List Char) (offset : Nat)
    (name : IsName word) (first : c ∈ word.head?) (ends : EndsName following) :
    scanKind base previous c ⟨word ++ following, offset⟩ =
      .ok (wordKind (String.ofList word), ⟨following, offset + byteLength word⟩) := by
  obtain ⟨⟨d, head, starts⟩, parts⟩ := name
  have same : c = d := Option.some.inj (first.symm.trans head)
  subst same
  rw [scan_kind_name base previous c _ starts]
  unfold scanWord Cursor.takeWhile Cursor.advance wordKind
  dsimp only
  rw [take_name word following parts ends, List.drop_left]
  cases Keyword.ofName? (String.ofList word) <;> rfl

def Piece.name (gap : List Char) (text : String) : Piece :=
  ⟨gap, text.toList, wordKind text⟩

def Piece.mark (gap : List Char) (punct : Punct) : Piece :=
  ⟨gap, punct.spelling, .punct punct⟩

theorem name_scans (gap : List Char) (text : String) (following : List Char) (blank : ∀ c ∈ gap, isBlank c = true)
    (name : IsName text.toList) (ends : EndsName following) : (Piece.name gap text).Scans following := by
  obtain ⟨d, head, starts⟩ := name.1
  refine ⟨blank, ?_, ?_, ?_⟩
  · intro empty
    rw [show text.toList = [] from empty] at head
    cases head
  · intro c first
    have same : c = d := Option.some.inj (first.symm.trans head)
    subst same
    exact ⟨identifier_start_dark c starts, identifier_start_ne c _ starts (by decide +kernel),
      identifier_start_ne c _ starts (by decide)⟩
  · intro previous offset c first
    have scanned := scan_name 0 previous c text.toList following offset name first ends
    rwa [String.ofList_toList] at scanned

def simpleMarks : List Punct :=
  [.lParen, .rParen, .comma, .lBrace, .rBrace, .semi]

theorem mark_scans (gap : List Char) (punct : Punct) (following : List Char) (blank : ∀ c ∈ gap, isBlank c = true)
    (simple : punct ∈ simpleMarks) : (Piece.mark gap punct).Scans following := by
  simp only [simpleMarks, List.mem_cons, List.not_mem_nil, or_false] at simple
  rcases simple with rfl | rfl | rfl | rfl | rfl | rfl
  all_goals
    refine ⟨blank, List.cons_ne_nil _ _, ?_, ?_⟩
    · rintro c ⟨⟩
      decide
    · rintro previous offset c ⟨⟩
      rfl

theorem dot_scans (gap : List Char) (following : List Char) (blank : ∀ c ∈ gap, isBlank c = true)
    (name : ∃ c ∈ following.head?, isIdentifierStart c = true) : (Piece.mark gap .dot).Scans following := by
  obtain ⟨c, head, starts⟩ := name
  obtain ⟨rest, rfl⟩ := List.head?_eq_some_iff.mp head
  have noDigit := identifier_start_not_digit c starts
  have noDot := identifier_start_ne c '.' starts (by decide)
  have mark : Punct.longest? ('.' :: c :: rest) = some .dot := by
    simp [Punct.longest?, Punct.all, Punct.spelling, Ne.symm noDot]
  refine ⟨blank, List.cons_ne_nil _ _, ?_, ?_⟩
  · rintro c ⟨⟩
    decide
  · rintro previous offset d ⟨⟩
    have plain : scanKind 0 previous '.' ⟨'.' :: c :: rest, offset⟩ = scanPunct ⟨'.' :: c :: rest, offset⟩ := by
      have pointNoDigit : isAsciiDigit '.' = false := by decide
      have pointNoStart : isIdentifierStart '.' = false := by decide
      unfold scanKind
      simp [Cursor.next, Cursor.peek?, noDigit, pointNoDigit, pointNoStart]
    show scanKind 0 previous '.' ⟨'.' :: c :: rest, offset⟩ = _
    rw [plain]
    unfold scanPunct
    rw [mark]
    rfl

def escaped (c : Char) : List Char :=
  match c with
  | '\\' => ['\\', '\\']
  | '\'' => ['\\', '\'']
  | '\n' => ['\\', 'n']
  | '\r' => ['\\', 'r']
  | c => [c]

def singleQuoted (text : List Char) : List Char :=
  '\'' :: (text.flatMap escaped ++ ['\''])

theorem escaped_read (c : Char) {rest text : List Char} {offset : Nat} {last : Cursor}
    (onward : StringRead '\'' ⟨rest, offset + byteLength (escaped c)⟩ text last) :
    StringRead '\'' ⟨escaped c ++ rest, offset⟩ (c :: text) last := by
  revert onward
  unfold escaped
  split
  · exact fun onward => .character rfl (by decide) rfl onward
  · exact fun onward => .character rfl (by decide) rfl onward
  · exact fun onward => .character rfl (by decide) rfl onward
  · exact fun onward => .character rfl (by decide) rfl onward
  · next noSlash noQuote noFeed noReturn =>
      have otherBreak : ¬(c = '\n' || c = '\r') = true := by
        simp only [Bool.or_eq_true, decide_eq_true_eq]
        exact fun either => either.elim noFeed noReturn
      exact fun onward => .plain rfl noQuote noSlash otherBreak onward

def Piece.string (gap : List Char) (text : String) : Piece :=
  ⟨gap, singleQuoted text.toList, .string text⟩

theorem string_scans (gap : List Char) (text : String) (following : List Char) (blank : ∀ c ∈ gap, isBlank c = true) :
    (Piece.string gap text).Scans following := by
  refine ⟨blank, List.cons_ne_nil _ _, ?_, ?_⟩
  · rintro c ⟨⟩
    decide
  · rintro previous offset c ⟨⟩
    have read := string_read_written escaped_read text.toList following (offset + 1)
    have shape : (Piece.string gap text).word ++ following = '\'' :: (text.toList.flatMap escaped ++ '\'' :: following) := by
      simp [Piece.string, singleQuoted]
    have size : offset + 1 + byteLength (text.toList.flatMap escaped) + '\''.utf8Size =
        offset + byteLength (Piece.string gap text).word := by
      have quote : '\''.utf8Size = 1 := rfl
      simp only [Piece.string, singleQuoted, byteLength_cons, byteLength_append, byteLength_nil, quote]
      omega
    rw [size] at read
    rw [shape]
    show scanString ⟨'\'' :: (text.toList.flatMap escaped ++ '\'' :: following), offset⟩ '\'' = _
    rw [StringRead.scan read, String.ofList_toList]
    rfl

end ScriptSuite.Script
