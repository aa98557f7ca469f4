import ScriptSuite.Proofs.Script.Lexer.Words

set_option autoImplicit false

namespace ScriptSuite.Script

open Text

def EndsGap : List Char → Prop
  | [] => True
  | c :: rest => isBlank c = false ∧ c ≠ byteOrderMark ∧ (c = '/' → ∀ d ∈ rest.head?, d ≠ '/' ∧ d ≠ '*')

theorem skip_at_end_of_gap (base : Nat) (newline : Bool) (offset : Nat) (text : List Char) (ends : EndsGap text) :
    skipTriviaFrom base .blanks newline offset text = .ok (newline, ⟨text, offset⟩) := by
  cases text with
  | nil => rw [skipTriviaFrom]; simp
  | cons c rest =>
      obtain ⟨dark, noMark, word⟩ := ends
      have noTerminator : ¬isLineTerminator c = true := fun terminator => by
        rw [isBlank_of_isLineTerminator c terminator] at dark
        cases dark
      rw [skipTriviaFrom, if_neg noTerminator, if_neg (by simp [dark, noMark])]
      · rintro tail rfl rfl
        exact (word rfl '/' rfl).1 rfl
      · rintro tail rfl rfl
        exact (word rfl '*' rfl).2 rfl

theorem skip_blank (base : Nat) (newline : Bool) (offset : Nat) (c : Char) (rest : List Char)
    (white : isBlank c = true ∨ c = byteOrderMark) :
    skipTriviaFrom base .blanks newline offset (c :: rest) =
      skipTriviaFrom base .blanks (newline || isLineTerminator c) (offset + c.utf8Size) rest := by
  have notSlash : c ≠ '/' := by
    rintro rfl
    revert white
    decide
  by_cases terminator : isLineTerminator c = true
  · rw [skipTriviaFrom, if_pos terminator, terminator, Bool.or_true]
    · simp [notSlash]
    · simp [notSlash]
  · rw [skipTriviaFrom, if_neg terminator, if_pos (by simpa using white), Bool.eq_false_iff.mpr terminator,
      Bool.or_false]
    · simp [notSlash]
    · simp [notSlash]

theorem skip_in_line_comment (base : Nat) (newline : Bool) (offset : Nat) (text rest : List Char)
    (oneLine : ∀ c ∈ text, isLineTerminator c = false) :
    skipTriviaFrom base .lineComment newline offset (text ++ rest) =
      skipTriviaFrom base .lineComment newline (offset + byteLength text) rest := by
  induction text generalizing offset with
  | nil => rfl
  | cons c text step =>
      have plain := oneLine c (List.mem_cons_self ..)
      rw [List.cons_append, skipTriviaFrom, if_neg (by simp [plain]), byteLength_cons, ← Nat.add_assoc]
      exact step _ fun other inside => oneLine other (List.mem_cons_of_mem c inside)

theorem skip_line_comment_end (base : Nat) (newline : Bool) (offset : Nat) (rest : List Char)
    (ended : ∀ c ∈ rest.head?, isLineTerminator c = true) :
    skipTriviaFrom base .lineComment newline offset rest = skipTriviaFrom base .blanks newline offset rest := by
  cases rest with
  | nil => simp [skipTriviaFrom]
  | cons c rest =>
      have terminator := ended c rfl
      rw [skip_blank base newline offset c rest (.inl (isBlank_of_isLineTerminator c terminator)), skipTriviaFrom,
        if_pos terminator, terminator, Bool.or_true]

theorem skip_in_block_comment (base start : Nat) (newline : Bool) (offset : Nat) (text rest : List Char)
    (opened : ¬ ['*', '/'] <:+: text) :
    skipTriviaFrom base (.blockComment start) newline offset (text ++ '*' :: '/' :: rest) =
      skipTriviaFrom base .blanks (newline || hasLineTerminator text) (offset + byteLength text + 2) rest := by
  induction text generalizing newline offset with
  | nil => simp [skipTriviaFrom, hasLineTerminator, Nat.add_assoc, show '*'.utf8Size = 1 from rfl]
  | cons c text step =>
      have inner : ¬ ['*', '/'] <:+: text := fun within => opened (within.trans (List.infix_cons List.infix_rfl))
      have goesOn : ∀ tail, c = '*' → text ++ '*' :: '/' :: rest = '/' :: tail → False := by
        rintro tail rfl split
        cases text with
        | nil => cases split
        | cons d text =>
            cases split
            exact opened ⟨[], text, rfl⟩
      rw [List.cons_append, skipTriviaFrom, step _ _ inner, has_line_terminator_cons, byteLength_cons, Bool.or_assoc,
        Nat.add_assoc offset]
      exact goesOn

theorem skip_gap (base : Nat) (newline : Bool) (offset : Nat) (following gap : List Char) (white : Gap following gap)
    (ends : EndsGap following) :
    skipTriviaFrom base .blanks newline offset (gap ++ following) =
      .ok (newline || hasLineTerminator gap, ⟨following, offset + byteLength gap⟩) := by
  induction white generalizing newline offset with
  | none =>
      rw [List.nil_append, skip_at_end_of_gap base newline offset following ends]
      simp [hasLineTerminator]
  | @blank c rest blank _ step =>
      rw [List.cons_append, skip_blank base newline offset c _ blank, step, has_line_terminator_cons, byteLength_cons,
        Bool.or_assoc, Nat.add_assoc]
  | @lineComment text rest oneLine ended _ step =>
      have quiet : hasLineTerminator text = false := by
        rw [hasLineTerminator, List.any_eq_false]
        simpa using oneLine
      have split : hasLineTerminator (text ++ rest) = hasLineTerminator rest := by
        rw [hasLineTerminator, List.any_append]
        exact (congrArg (· || _) quiet).trans (Bool.false_or _)
      rw [has_line_terminator_opening '/' _ (.inl rfl), split, List.cons_append, List.cons_append, List.append_assoc,
        skipTriviaFrom, skip_in_line_comment base newline _ text _ oneLine,
        skip_line_comment_end base newline _ _ ended, step]
      simp only [byteLength_cons, byteLength_append, Nat.add_assoc, show '/'.utf8Size = 1 from rfl]
  | @blockComment text rest opened _ step =>
      have split : hasLineTerminator (text ++ '*' :: '/' :: rest) = (hasLineTerminator text || hasLineTerminator rest) := by
        rw [hasLineTerminator, List.any_append]
        rfl
      rw [has_line_terminator_opening '*' _ (.inr rfl), split, List.cons_append, List.cons_append, List.append_assoc,
        List.cons_append, List.cons_append, skipTriviaFrom, skip_in_block_comment base offset newline _ text _ opened,
        step, Bool.or_assoc]
      have size : offset + '/'.utf8Size + 1 + byteLength text + 2 + byteLength rest =
          offset + byteLength ('/' :: '*' :: (text ++ '*' :: '/' :: rest)) := by
        simp only [byteLength_cons, byteLength_append, show '/'.utf8Size = 1 from rfl, show '*'.utf8Size = 1 from rfl]
        omega
      rw [size]

def quotedChar (quote c : Char) : List Char :=
  if c = '\\' then ['\\', '\\']
  else if c = quote then ['\\', quote]
  else if c = '\n' then ['\\', 'n']
  else if c = '\r' then ['\\', 'r']
  else [c]

def templateChar (c : Char) : List Char :=
  if c = '\\' then ['\\', '\\']
  else if c = '`' then ['\\', '`']
  else if c = '$' then ['\\', '$']
  else [c]

def templateText : List TemplatePart → List Char
  | [.text value] => value.toList
  | _ => []

-- The canonical spelling of a token; strings are written between the marks `quote`.
def TokenKind.spelledWith (quote : Char) : TokenKind → List Char
  | .keyword word => word.spelling.toList
  | .punct mark => mark.spelling
  | .identifier name => name.toList
  | .privateName name => '#' :: name.toList
  | .bigint digits => digits.toList ++ ['n']
  | .string value => quote :: (value.toList.flatMap (quotedChar quote) ++ [quote])
  | .template parts => '`' :: ((templateText parts).flatMap templateChar ++ ['`'])
  | .regex pattern flags => '/' :: (pattern.toList ++ '/' :: flags.toList)
  | .number _ => []
  | .endOfFile => []

-- Whether a pattern ends outside all classes and escapes when it is read from inside or outside a class.
def closesClasses (inClass : Bool) : List Char → Bool
  | [] => !inClass
  | ['\\'] => false
  | '\\' :: _ :: rest => closesClasses inClass rest
  | '[' :: rest => closesClasses true rest
  | ']' :: rest => closesClasses false rest
  | _ :: rest => closesClasses inClass rest

def guardsSlashes (inClass : Bool) : List Char → Bool
  | [] => true
  | '\\' :: _ :: rest => guardsSlashes inClass rest
  | '[' :: rest => guardsSlashes true rest
  | ']' :: rest => guardsSlashes false rest
  | '/' :: rest => inClass && guardsSlashes inClass rest
  | _ :: rest => guardsSlashes inClass rest

structure IsPattern (pattern : List Char) : Prop where
  nonempty : pattern ≠ []
  noComment : ∀ c ∈ pattern.head?, c ≠ '/' ∧ c ≠ '*'
  oneLine : ∀ c ∈ pattern, isLineTerminator c = false
  closed : closesClasses false pattern = true

def TokenKind.Spellable : TokenKind → Prop
  | .keyword _ => True
  | .punct _ => True
  | .identifier name => IsName name.toList ∧ Keyword.ofName? name = none
  | .privateName name => IsName name.toList
  | .bigint digits => digits.toList ≠ [] ∧ ∀ c ∈ digits.toList, isAsciiDigit c = true
  | .string _ => True
  | .template parts => ∃ value, parts = [.text value]
  | .regex pattern flags => IsPattern pattern.toList ∧ ∀ c ∈ flags.toList, isIdentifierPart c = true
  | .number _ => False
  | .endOfFile => False

-- What begins with a slash has its meaning from the token before it.
def TokenKind.fitsBehind (previous : Option TokenKind) : TokenKind → Bool
  | .punct .slash => !regexAllowed previous
  | .punct .slashEq => !regexAllowed previous
  | .regex _ _ => regexAllowed previous
  | _ => true

def EndsWord (following : List Char) : Prop :=
  ∀ c ∈ following.head?, isBlank c = true ∨ c = byteOrderMark

theorem quoted_char_read {quote : Char} (mark : quote = '"' ∨ quote = '\'') (c : Char) {rest text : List Char} {offset : Nat}
    {last : Cursor} (onward : StringRead quote ⟨rest, offset + byteLength (quotedChar quote c)⟩ text last) :
    StringRead quote ⟨quotedChar quote c ++ rest, offset⟩ (c :: text) last := by
  have inside : '\\' ≠ quote := by
    rcases mark with rfl | rfl <;> decide
  revert onward
  unfold quotedChar
  split
  · next same =>
      subst same
      exact fun onward => .character rfl inside rfl onward
  · split
    · next same =>
        subst same
        rcases mark with rfl | rfl
        · exact fun onward => .character rfl inside rfl onward
        · exact fun onward => .character rfl inside rfl onward
    · split
      · next same =>
          subst same
          exact fun onward => .character rfl inside rfl onward
      · split
        · next same =>
            subst same
            exact fun onward => .character rfl inside rfl onward
        · next noSlash noQuote noFeed noReturn =>
            exact fun onward => .plain rfl noQuote noSlash (by simp [noFeed, noReturn]) onward

theorem template_char_read {base : Nat} {c : Char} {literal rest : List Char} {offset : Nat} {parts : List TemplatePart}
    {last : Cursor} (onward : TemplateRead base (c :: literal) ⟨rest, offset + byteLength (templateChar c)⟩ parts last) :
    TemplateRead base literal ⟨templateChar c ++ rest, offset⟩ parts last := by
  revert onward
  unfold templateChar
  split
  · next same =>
      subst same
      exact fun onward => .character rfl rfl onward
  · split
    · next same =>
        subst same
        exact fun onward => .character rfl rfl onward
    · split
      · next same =>
          subst same
          exact fun onward => .character rfl rfl onward
      · next noSlash noTick noDollar =>
          exact fun onward => .plain rfl noTick noSlash (fun _ dollar => absurd dollar noDollar) onward

theorem template_text_read (base : Nat) (text literal following : List Char) (offset : Nat) :
    TemplateRead base literal ⟨text.flatMap templateChar ++ '`' :: following, offset⟩
      [.text (String.ofList (literal.reverse ++ text))]
      ⟨following, offset + byteLength (text.flatMap templateChar) + 1⟩ := by
  induction text generalizing literal offset with
  | nil =>
      rw [List.append_nil]
      exact .closed rfl
  | cons c text ih =>
      have behind := ih (c :: literal) (offset + byteLength (templateChar c))
      rw [List.reverse_cons, List.append_assoc, List.singleton_append] at behind
      rw [List.flatMap_cons, List.append_assoc, byteLength_append, ← Nat.add_assoc]
      exact template_char_read behind

theorem skip_pattern (inClass : Bool) (offset : Nat) (pattern more : List Char)
    (oneLine : ∀ c ∈ pattern, isLineTerminator c = false) (closed : closesClasses inClass pattern = true)
    (guarded : guardsSlashes inClass pattern = true) :
    skipRegexBody inClass offset (pattern ++ '/' :: more) = .ok ((), ⟨more, offset + byteLength pattern + 1⟩) := by
  fun_induction closesClasses inClass pattern generalizing offset with
  | case1 inClass =>
      cases inClass with
      | false => rfl
      | true => cases closed
  | case2 => cases closed
  | case3 inClass c rest step =>
      have plain := oneLine c (by simp)
      rw [List.cons_append, List.cons_append, skipRegexBody, if_neg (by simp [plain]),
        step _ (fun other inside => oneLine other (by simp [inside])) closed (by rwa [guardsSlashes] at guarded)]
      simp only [byteLength_cons, Nat.add_assoc, show '\\'.utf8Size = 1 from rfl]
  | case4 inClass rest step =>
      rw [List.cons_append, skipRegexBody, if_pos rfl,
        step _ (fun other inside => oneLine other (by simp [inside])) closed (by rwa [guardsSlashes] at guarded)]
      · simp only [byteLength_cons, Nat.add_assoc]
      · simp
      · simp
  | case5 inClass rest step =>
      rw [List.cons_append, skipRegexBody, if_neg (by decide), if_pos rfl,
        step _ (fun other inside => oneLine other (by simp [inside])) closed (by rwa [guardsSlashes] at guarded)]
      · simp only [byteLength_cons, Nat.add_assoc]
      · simp
      · simp
  | case6 inClass c rest noLast noEscape noOpening noClosing step =>
      have noSlash : c ≠ '\\' := by
        rintro rfl
        cases rest with
        | nil => exact noLast rfl rfl
        | cons d rest => exact noEscape d rest rfl rfl
      have inside : ¬(c = '/' && !inClass) = true ∧ guardsSlashes inClass rest = true := by
        by_cases slash : c = '/'
        · subst slash
          rw [guardsSlashes] at guarded
          simpa using guarded
        · rw [guardsSlashes] at guarded
          · exact ⟨by simp [slash], guarded⟩
          · exact noEscape
          · exact noOpening
          · exact noClosing
          · exact slash
      have plain := oneLine c (by simp)
      rw [List.cons_append, skipRegexBody, if_neg noOpening, if_neg noClosing, if_neg inside.1, if_neg (by simp [plain]),
        step _ (fun other inside => oneLine other (by simp [inside])) closed inside.2]
      · simp only [byteLength_cons, Nat.add_assoc]
      · simp [noSlash]
      · simp [noSlash]

theorem take_bytes_front (front rest : List Char) : takeBytes (byteLength front) (front ++ rest) = front := by
  induction front with
  | nil =>
      cases rest with
      | nil => rfl
      | cons c rest => simp [takeBytes]
  | cons c front step =>
      have size := Char.utf8Size_pos c
      rw [List.cons_append, takeBytes, byteLength_cons, if_neg (by omega), Nat.add_sub_cancel_left, step]

theorem blank_ends_name (following : List Char) (ends : EndsWord following) : EndsName following := by
  intro c first
  have codes : ∀ code ∈ blankCodes ++ [byteOrderMark.toNat], isIdentifierPart (Char.ofNat code) = false := by
    decide +kernel
  have listed : c.toNat ∈ blankCodes ++ [byteOrderMark.toNat] := by
    rcases ends c first with blank | rfl
    · exact List.mem_append_left _ (blank_code c blank)
    · exact List.mem_append_right _ (List.mem_singleton_self _)
  have none := codes c.toNat listed
  rwa [Char.ofNat_toNat] at none

theorem punct_dark (mark : Punct) (c : Char) (member : c ∈ mark.spelling) : isBlank c = false ∧ c ≠ byteOrderMark := by
  have dark : mark.spelling.all (fun c => !isBlank c && c != byteOrderMark) = true := by cases mark <;> decide
  simpa using List.all_eq_true.mp dark c member

theorem spelling_front_iff (mark written : Punct) (following : List Char) (ends : EndsWord following) :
    mark.spelling.isPrefixOf (written.spelling ++ following) = mark.spelling.isPrefixOf written.spelling := by
  rw [Bool.eq_iff_iff, List.isPrefixOf_iff_prefix, List.isPrefixOf_iff_prefix]
  constructor
  · intro front
    rcases Nat.le_total mark.spelling.length written.spelling.length with shorter | longer
    · exact List.prefix_of_prefix_length_le front (List.prefix_append _ _) shorter
    · obtain ⟨more, split⟩ := List.prefix_of_prefix_length_le (List.prefix_append _ _) front longer
      cases more with
      | nil =>
          exact ⟨[], by rw [List.append_nil, ← split, List.append_nil]⟩
      | cons c more =>
          rw [← split] at front
          have first := List.prefix_append_right_inj _ |>.mp front
          obtain ⟨rest, rfl⟩ := first
          obtain ⟨dark, noMark⟩ := punct_dark mark c (by rw [← split]; simp)
          rcases ends c rfl with blank | same
          · rw [dark] at blank
            cases blank
          · exact absurd same noMark
  · exact fun front => front.trans (List.prefix_append _ _)

theorem longest_written (mark : Punct) (following : List Char) (ends : EndsWord following) :
    Punct.longest? (mark.spelling ++ following) = some mark := by
  have same : Punct.longest? (mark.spelling ++ following) = Punct.longest? mark.spelling := by
    unfold Punct.longest?
    congr 1
    funext other
    exact spelling_front_iff other mark following ends
  rw [same, Punct.longest?_spelling]

def ReadsAs (base : Nat) (previous : Option TokenKind) (word following : List Char) (kind : TokenKind) : Prop :=
  ∀ offset, ∀ c ∈ word.head?,
    scanKind base previous c ⟨word ++ following, offset⟩ = .ok (kind, ⟨following, offset + byteLength word⟩)

theorem punct_first (mark : Punct) (c : Char) (first : c ∈ mark.spelling.head?) :
    c ≠ '"' ∧ c ≠ '\'' ∧ c ≠ '`' ∧ c ≠ '#' ∧ isAsciiDigit c = false ∧ isIdentifierStart c = false := by
  have other : mark.spelling.head?.all (fun c => c != '"' && c != '\'' && c != '`' && c != '#' && !isAsciiDigit c &&
      !isIdentifierStart c) = true := by cases mark <;> decide +kernel
  rw [first] at other
  simpa [and_assoc] using other

theorem no_digit_ends_word (following : List Char) (ends : EndsWord following) :
    following.head?.any isAsciiDigit = false := by
  rw [Option.any_eq_false]
  intro c first
  have dark : isAsciiDigit byteOrderMark = false := by decide
  rcases ends c first with blank | rfl
  · refine Bool.eq_false_iff.mpr fun digit => ?_
    have white := blank_code c blank
    have code := digit_code c digit
    simp only [blankCodes, List.mem_cons, List.not_mem_nil, or_false] at white code
    omega
  · exact dark

theorem no_digit_behind_point (mark : Punct) (following : List Char) (first : mark.spelling.head? = some '.')
    (ends : EndsWord following) : (mark.spelling ++ following).tail.head?.any isAsciiDigit = false := by
  have points : mark = .ellipsis ∨ mark = .dot := by
    revert first
    cases mark <;> decide
  rcases points with rfl | rfl
  · rfl
  · exact no_digit_ends_word following ends

theorem slash_mark (mark : Punct) (first : mark.spelling.head? = some '/') : mark = .slash ∨ mark = .slashEq := by
  revert first
  cases mark <;> decide

theorem scan_written_punct (mark : Punct) (following : List Char) (offset : Nat) (ends : EndsWord following) :
    scanPunct ⟨mark.spelling ++ following, offset⟩ =
      .ok (.punct mark, ⟨following, offset + byteLength mark.spelling⟩) := by
  unfold scanPunct
  rw [longest_written mark following ends]
  split
  · next absent => cases absent
  · next question =>
      cases question
      have noDigit : ((Punct.questionDot.spelling ++ following).drop 2).head?.any isAsciiDigit = false :=
        no_digit_ends_word following ends
      rw [if_neg (by rw [noDigit]; exact Bool.false_ne_true)]
      rfl
  · next other _ same =>
      cases same
      rw [Cursor.advance, List.drop_left]

theorem punct_reads (base : Nat) (previous : Option TokenKind) (mark : Punct) (following : List Char)
    (fits : (TokenKind.punct mark).fitsBehind previous = true) (ends : EndsWord following) :
    ReadsAs base previous mark.spelling following (.punct mark) := by
  intro offset c first
  obtain ⟨noQuote, noApostrophe, noTick, noHash, noDigit, noName⟩ := punct_first mark c first
  have behind : (Cursor.next ⟨mark.spelling ++ following, offset⟩).peek? = (mark.spelling ++ following).tail.head? := by
    obtain ⟨tail, text⟩ := List.head?_eq_some_iff.mp first
    rw [text]
    rfl
  have noNumber : ¬(c = '.' && (Cursor.next ⟨mark.spelling ++ following, offset⟩).peek?.any isAsciiDigit) = true := by
    by_cases point : c = '.'
    · subst point
      rw [behind, no_digit_behind_point mark following first ends]
      simp
    · simp [point]
  have noRegex : ¬(c = '/' && regexAllowed previous) = true := by
    by_cases slash : c = '/'
    · subst slash
      rcases slash_mark mark first with rfl | rfl
      · simpa [TokenKind.fitsBehind] using fits
      · simpa [TokenKind.fitsBehind] using fits
    · simp [slash]
  unfold scanKind
  rw [if_neg (by simp [noQuote, noApostrophe]), if_neg noTick, if_neg (by simp [noDigit]), if_neg noNumber,
    if_neg noRegex, if_neg noHash, if_neg (by simp [noName])]
  exact scan_written_punct mark following offset ends

theorem name_reads (base : Nat) (previous : Option TokenKind) (word following : List Char) (name : IsName word)
    (ends : EndsWord following) : ReadsAs base previous word following (wordKind (String.ofList word)) :=
  fun offset c first => scan_name base previous c word following offset name first (blank_ends_name following ends)

theorem keyword_is_name (word : Keyword) : IsName word.spelling.toList := by
  cases word <;> decide +kernel

theorem private_name_reads (base : Nat) (previous : Option TokenKind) (name following : List Char) (spelled : IsName name)
    (ends : EndsWord following) :
    ReadsAs base previous ('#' :: name) following (.privateName (String.ofList name)) := by
  rintro offset c ⟨⟩
  obtain ⟨⟨d, head, starts⟩, parts⟩ := spelled
  obtain ⟨tail, rfl⟩ := List.head?_eq_some_iff.mp head
  have plain : scanKind base previous '#' ⟨'#' :: (d :: tail) ++ following, offset⟩ =
      scanPrivateName ⟨'#' :: (d :: tail) ++ following, offset⟩ := by
    have noDigit : isAsciiDigit '#' = false := by decide
    unfold scanKind
    simp [noDigit]
  have first : Cursor.next ⟨'#' :: (d :: tail) ++ following, offset⟩ = ⟨d :: tail ++ following, offset + 1⟩ := rfl
  rw [plain]
  unfold scanPrivateName
  rw [first, if_pos (by simpa [Cursor.peek?] using starts)]
  unfold Cursor.takeWhile Cursor.advance
  dsimp only
  rw [take_name (d :: tail) following parts (blank_ends_name following ends), List.drop_left, byteLength_cons, Nat.add_assoc]
  rfl

theorem digit_run_digits (digits following : List Char) (decimal : ∀ c ∈ digits, isAsciiDigit c = true) :
    digitRun 10 (digits ++ 'n' :: following) = digits := by
  induction digits with
  | nil => rfl
  | cons c digits step =>
      have digit := is_digit_of_ascii c (decimal c (List.mem_cons_self ..))
      rw [List.cons_append, digitRun, if_pos (by simp [digit]),
        step fun other inside => decimal other (List.mem_cons_of_mem c inside)]

theorem no_separators (digits : List Char) (decimal : ∀ c ∈ digits, isAsciiDigit c = true) :
    dropSeparators digits = digits := by
  refine List.filter_eq_self.mpr fun c inside => ?_
  have digit := decimal c inside
  refine bne_iff_ne.mpr ?_
  rintro rfl
  cases digit

theorem no_radix_mark (digits following : List Char) (decimal : ∀ c ∈ digits, isAsciiDigit c = true) :
    radixOfPrefix? (digits ++ 'n' :: following) = none := by
  unfold radixOfPrefix?
  split
  · next mark tail text =>
      have plain : isAsciiDigit mark = true ∨ mark = 'n' := by
        match digits, text with
        | [_], text =>
            cases text
            exact .inr rfl
        | _ :: _ :: _, text =>
            cases text
            exact .inl (decimal mark (by simp))
      have other : ∀ letter : Char, isAsciiDigit letter = false → letter ≠ 'n' → (mark == letter) = false := by
        intro letter dark differs
        refine beq_eq_false_iff_ne.mpr ?_
        rintro rfl
        rcases plain with digit | same
        · rw [dark] at digit
          cases digit
        · exact differs same
      simp [other 'x' (by decide) (by decide), other 'X' (by decide) (by decide), other 'o' (by decide) (by decide),
        other 'O' (by decide) (by decide), other 'b' (by decide) (by decide), other 'B' (by decide) (by decide)]
  · rfl

theorem bigint_reads (base : Nat) (previous : Option TokenKind) (digits following : List Char) (nonempty : digits ≠ [])
    (decimal : ∀ c ∈ digits, isAsciiDigit c = true) :
    ReadsAs base previous (digits ++ ['n']) following (.bigint (String.ofList digits)) := by
  intro offset c first
  obtain ⟨d, rest, rfl⟩ := List.exists_cons_of_ne_nil nonempty
  cases first
  have plain : scanKind base previous c ⟨c :: rest ++ 'n' :: following, offset⟩ =
      scanDecimal ⟨c :: rest ++ 'n' :: following, offset⟩ := by
    rw [scan_kind_digit base previous c _ (decimal c (List.mem_cons_self ..)), scanNumber,
      no_radix_mark (c :: rest) following decimal]
  have behind : Cursor.advance ⟨c :: rest ++ 'n' :: following, offset⟩ (c :: rest) =
      ⟨'n' :: following, offset + byteLength (c :: rest)⟩ := by
    rw [Cursor.advance, List.drop_left]
  have suffixed : (Cursor.peek? ⟨'n' :: following, offset + byteLength (c :: rest)⟩ == some 'n') = true := rfl
  rw [List.append_assoc, List.singleton_append, plain]
  unfold scanDecimal
  dsimp only
  rw [digit_run_digits (c :: rest) following decimal, behind, if_pos suffixed, no_separators _ decimal, byteLength_append,
    ← Nat.add_assoc]
  rfl

theorem string_body_reads (base : Nat) (previous : Option TokenKind) (quote : Char) (mark : quote = '"' ∨ quote = '\'')
    (text value following : List Char)
    (body : ∀ offset, StringRead quote ⟨text ++ quote :: following, offset⟩ value
      ⟨following, offset + byteLength text + quote.utf8Size⟩) :
    ReadsAs base previous (quote :: (text ++ [quote])) following (.string (String.ofList value)) := by
  rintro offset c ⟨⟩
  have size : quote.utf8Size = 1 := by
    rcases mark with rfl | rfl <;> rfl
  have plain : ∀ cursor, scanKind base previous quote cursor = scanString cursor quote := by
    intro cursor
    unfold scanKind
    rw [if_pos (by simpa using mark)]
  have first : Cursor.next ⟨quote :: (text ++ quote :: following), offset⟩ = ⟨text ++ quote :: following, offset + 1⟩ := by
    rw [← size]
    rfl
  have bytes : offset + byteLength (quote :: (text ++ [quote])) = offset + 1 + byteLength text + quote.utf8Size := by
    simp only [byteLength_cons, byteLength_append, byteLength_nil, size]
    omega
  rw [bytes, List.cons_append, List.append_assoc, List.singleton_append, plain]
  exact StringRead.scan (first ▸ body (offset + 1))

theorem string_reads (base : Nat) (previous : Option TokenKind) (quote : Char) (text following : List Char)
    (mark : quote = '"' ∨ quote = '\'') :
    ReadsAs base previous (quote :: (text.flatMap (quotedChar quote) ++ [quote])) following
      (.string (String.ofList text)) := by
  refine string_body_reads base previous quote mark _ text following fun offset => ?_
  exact string_read_written (quoted_char_read mark) text following offset

theorem template_reads (base : Nat) (previous : Option TokenKind) (text following : List Char) :
    ReadsAs base previous ('`' :: (text.flatMap templateChar ++ ['`'])) following
      (.template [.text (String.ofList text)]) := by
  rintro offset c ⟨⟩
  have plain : ∀ cursor, scanKind base previous '`' cursor = scanTemplate base cursor := fun _ => rfl
  have first : Cursor.next ⟨'`' :: (text.flatMap templateChar ++ '`' :: following), offset⟩ =
      ⟨text.flatMap templateChar ++ '`' :: following, offset + 1⟩ := rfl
  have bytes : offset + byteLength ('`' :: (text.flatMap templateChar ++ ['`'])) =
      offset + 1 + byteLength (text.flatMap templateChar) + 1 := by
    simp only [byteLength_cons, byteLength_append, byteLength_nil, show '`'.utf8Size = 1 from rfl]
    omega
  rw [bytes, List.cons_append, List.append_assoc, List.singleton_append, plain]
  exact TemplateRead.scan (first ▸ template_text_read base text [] following (offset + 1))

theorem regex_reads (base : Nat) (previous : Option TokenKind) (pattern flags following : List Char)
    (shaped : IsPattern pattern) (guarded : guardsSlashes false pattern = true)
    (parts : ∀ c ∈ flags, isIdentifierPart c = true) (fits : regexAllowed previous = true) (ends : EndsWord following) :
    ReadsAs base previous ('/' :: (pattern ++ '/' :: flags)) following
      (.regex (String.ofList pattern) (String.ofList flags)) := by
  rintro offset c ⟨⟩
  have plain : ∀ cursor : Cursor, scanKind base previous '/' cursor = scanRegex cursor := by
    intro cursor
    have noDigit : isAsciiDigit '/' = false := by decide
    unfold scanKind
    simp [noDigit, fits]
  have first : Cursor.next ⟨'/' :: (pattern ++ '/' :: (flags ++ following)), offset⟩ =
      ⟨pattern ++ '/' :: (flags ++ following), offset + 1⟩ := rfl
  have bytes : offset + byteLength ('/' :: (pattern ++ '/' :: flags)) =
      offset + 1 + byteLength pattern + 1 + byteLength flags := by
    simp only [byteLength_cons, byteLength_append, show '/'.utf8Size = 1 from rfl]
    omega
  have source : Cursor.upTo ⟨pattern ++ '/' :: (flags ++ following), offset + 1⟩
      ⟨flags ++ following, offset + 1 + byteLength pattern + 1⟩ = pattern ++ ['/'] := by
    have size : offset + 1 + byteLength pattern + 1 - (offset + 1) = byteLength (pattern ++ ['/']) := by
      simp only [byteLength_append, byteLength_cons, byteLength_nil, show '/'.utf8Size = 1 from rfl]
      omega
    have front := take_bytes_front (pattern ++ ['/']) (flags ++ following)
    rw [List.append_assoc] at front
    unfold Cursor.upTo
    dsimp only
    rw [size]
    exact front
  rw [bytes, List.cons_append, List.append_assoc, List.cons_append, plain]
  unfold scanRegex
  rw [first]
  dsimp only
  rw [skip_pattern false (offset + 1) pattern (flags ++ following) shaped.oneLine shaped.closed guarded]
  show Except.ok _ = Except.ok _
  unfold Cursor.takeWhile Cursor.advance
  dsimp only
  rw [source, take_name flags following parts (blank_ends_name following ends), List.drop_left, List.dropLast_concat]

def TokenKind.guarded : TokenKind → Bool
  | .regex pattern _ => guardsSlashes false pattern.toList
  | _ => true

theorem kind_reads (base : Nat) (previous : Option TokenKind) (quote : Char) (kind : TokenKind) (following : List Char)
    (spellable : kind.Spellable) (mark : quote = '"' ∨ quote = '\'') (guarded : kind.guarded = true)
    (fits : kind.fitsBehind previous = true) (ends : EndsWord following) :
    ReadsAs base previous (kind.spelledWith quote) following kind := by
  cases kind with
  | keyword word =>
      have reads := name_reads base previous word.spelling.toList following (keyword_is_name word) ends
      rwa [wordKind, String.ofList_toList, Keyword.ofName?_spelling] at reads
  | punct mark => exact punct_reads base previous mark following fits ends
  | identifier name =>
      have reads := name_reads base previous name.toList following spellable.1 ends
      rwa [wordKind, String.ofList_toList, spellable.2] at reads
  | privateName name =>
      have reads := private_name_reads base previous name.toList following spellable ends
      rwa [String.ofList_toList] at reads
  | number value => exact spellable.elim
  | bigint digits =>
      have reads := bigint_reads base previous digits.toList following spellable.1 spellable.2
      rwa [String.ofList_toList] at reads
  | string value =>
      have reads := string_reads base previous quote value.toList following mark
      rwa [String.ofList_toList] at reads
  | template parts =>
      obtain ⟨value, rfl⟩ := spellable
      have reads := template_reads base previous value.toList following
      rwa [String.ofList_toList] at reads
  | regex pattern flags =>
      have reads := regex_reads base previous pattern.toList flags.toList following spellable.1 guarded spellable.2 fits ends
      rwa [String.ofList_toList, String.ofList_toList] at reads
  | endOfFile => exact spellable.elim

theorem name_ends_gap (word following : List Char) (name : IsName word) : word ≠ [] ∧ EndsGap (word ++ following) := by
  obtain ⟨⟨c, head, starts⟩, _⟩ := name
  obtain ⟨rest, rfl⟩ := List.head?_eq_some_iff.mp head
  refine ⟨List.cons_ne_nil _ _, identifier_start_dark c starts, identifier_start_ne c _ starts (by decide +kernel), ?_⟩
  intro slash
  exact absurd slash (identifier_start_ne c _ starts (by decide))

theorem punct_ends_gap (mark : Punct) (following : List Char) (ends : EndsWord following) :
    mark.spelling ≠ [] ∧ EndsGap (mark.spelling ++ following) := by
  obtain ⟨c, rest, spelling⟩ := List.exists_cons_of_ne_nil (punct_spelling_nonempty mark)
  obtain ⟨dark, noMark⟩ := punct_dark mark c (by simp [spelling])
  refine ⟨punct_spelling_nonempty mark, ?_⟩
  rw [spelling]
  refine ⟨dark, noMark, ?_⟩
  rintro rfl d second
  rcases slash_mark mark (by rw [spelling]; rfl) with rfl | rfl
  · cases spelling
    constructor
    all_goals
      rintro rfl
      exact absurd (ends _ second) (by decide)
  · cases spelling
    cases second
    decide

theorem kind_ends_gap (quote : Char) (kind : TokenKind) (following : List Char) (spellable : kind.Spellable)
    (mark : quote = '"' ∨ quote = '\'') (ends : EndsWord following) :
    kind.spelledWith quote ≠ [] ∧ EndsGap (kind.spelledWith quote ++ following) := by
  cases kind with
  | keyword word => exact name_ends_gap _ following (keyword_is_name word)
  | punct mark => exact punct_ends_gap mark following ends
  | identifier name => exact name_ends_gap _ following spellable.1
  | privateName name => exact ⟨List.cons_ne_nil _ _, by decide, by decide, fun slash => absurd slash (by decide)⟩
  | number value => exact spellable.elim
  | bigint digits =>
      obtain ⟨nonempty, decimal⟩ := spellable
      obtain ⟨d, rest, text⟩ := List.exists_cons_of_ne_nil nonempty
      have digit := decimal d (by simp [text])
      have codes := digit_code d digit
      have other : ∀ c : Char, c.toNat ∉ [48, 49, 50, 51, 52, 53, 54, 55, 56, 57] → d ≠ c := by
        rintro c absent rfl
        exact absent codes
      simp only [TokenKind.spelledWith, text]
      refine ⟨List.cons_ne_nil _ _, Bool.eq_false_iff.mpr fun blank => ?_, other _ (by decide), ?_⟩
      · have white := blank_code d blank
        simp only [blankCodes, List.mem_cons, List.not_mem_nil, or_false] at white codes
        omega
      · exact fun slash => absurd slash (other '/' (by decide))
  | string value =>
      rcases mark with rfl | rfl
      · exact ⟨List.cons_ne_nil _ _, by decide, by decide, fun slash => absurd slash (by decide)⟩
      · exact ⟨List.cons_ne_nil _ _, by decide, by decide, fun slash => absurd slash (by decide)⟩
  | template parts => exact ⟨List.cons_ne_nil _ _, by decide, by decide, fun slash => absurd slash (by decide)⟩
  | regex pattern flags =>
      obtain ⟨shaped, _⟩ := spellable
      obtain ⟨c, rest, text⟩ := List.exists_cons_of_ne_nil shaped.nonempty
      refine ⟨List.cons_ne_nil _ _, by decide, by decide, ?_⟩
      rintro - d second
      refine shaped.noComment d ?_
      simpa [text] using second
  | endOfFile => exact spellable.elim

-- Tokens in their canonical spellings, with gaps between them that begin with white space. A gap may also stand before
-- the first word and behind the last one.
def Rendered : Option TokenKind → List Piece → List Char → Prop
  | previous, [], trailing => Gap [] trailing ∧ (previous ≠ none → EndsWord trailing)
  | previous, piece :: rest, trailing =>
      piece.kind.Spellable ∧ (∃ quote, (quote = '"' ∨ quote = '\'') ∧ piece.word = piece.kind.spelledWith quote) ∧
        piece.kind.fitsBehind previous = true ∧ Gap (piece.word ++ (spell rest ++ trailing)) piece.gap ∧
        (previous ≠ none → ∃ c ∈ piece.gap.head?, isBlank c = true ∨ c = byteOrderMark) ∧
        Rendered (some piece.kind) rest trailing

theorem rendered_ends_word (kind : TokenKind) (pieces : List Piece) (trailing : List Char)
    (rendered : Rendered (some kind) pieces trailing) : EndsWord (spell pieces ++ trailing) := by
  cases pieces with
  | nil => exact rendered.2 (by simp)
  | cons piece rest =>
      obtain ⟨-, -, -, -, separated, -⟩ := rendered
      obtain ⟨c, head, white⟩ := separated (by simp)
      obtain ⟨tail, gap⟩ := List.head?_eq_some_iff.mp head
      intro d first
      rw [spell_cons, gap] at first
      cases first
      exact white

theorem lexed_rendered (pieces : List Piece) (trailing : List Char) (previous : Option TokenKind) (offset : Nat)
    (rendered : Rendered previous pieces trailing) (guarded : ∀ piece ∈ pieces, piece.kind.guarded = true) :
    Lexed 0 previous ⟨spell pieces ++ trailing, offset⟩
      (place offset pieces ++
        [endToken 0 (hasLineTerminator trailing) ⟨[], offset + byteLength (spell pieces ++ trailing)⟩]) := by
  induction pieces generalizing previous offset with
  | nil =>
      have skipped := skip_gap 0 false offset [] trailing rendered.1 trivial
      rw [List.append_nil, Bool.false_or] at skipped
      exact .last skipped rfl
  | cons piece rest step =>
      obtain ⟨spellable, ⟨quote, mark, spelled⟩, fits, white, -, others⟩ := rendered
      have ends := rendered_ends_word piece.kind rest trailing others
      obtain ⟨nonempty, begins⟩ := kind_ends_gap quote piece.kind (spell rest ++ trailing) spellable mark ends
      rw [← spelled] at nonempty begins
      obtain ⟨c, word, shape⟩ := List.exists_cons_of_ne_nil nonempty
      have start : skipTrivia 0 ⟨spell (piece :: rest) ++ trailing, offset⟩ =
          .ok (hasLineTerminator piece.gap, ⟨piece.word ++ (spell rest ++ trailing), offset + byteLength piece.gap⟩) := by
        rw [skipTrivia, spell_cons, List.append_assoc, List.append_assoc, skip_gap 0 false offset _ _ white begins,
          Bool.false_or]
      have reads := kind_reads 0 previous quote piece.kind (spell rest ++ trailing) spellable mark
        (guarded piece (List.mem_cons_self ..)) fits ends
      rw [← spelled] at reads
      have scanned := reads (offset + byteLength piece.gap) c (by simp [shape])
      have tail := step (some piece.kind) (offset + byteLength piece.gap + byteLength piece.word) others
        fun other inside => guarded other (List.mem_cons_of_mem piece inside)
      have token := Lexed.token start (by rw [shape]; rfl) scanned tail
      rw [Nat.zero_add, Nat.zero_add] at token
      have size : offset + byteLength piece.gap + byteLength piece.word + byteLength (spell rest ++ trailing) =
          offset + byteLength (spell (piece :: rest) ++ trailing) := by
        simp only [spell_cons, byteLength_append]
        omega
      rw [size] at token
      exact token

theorem gap_no_hash (following gap : List Char) (white : Gap following gap) : gap.head? ≠ some '#' := by
  cases white with
  | none => simp
  | @blank c rest blank _ =>
      rintro ⟨⟩
      revert blank
      decide
  | lineComment _ _ _ => simp
  | blockComment _ _ => simp

theorem rendered_no_hashbang (pieces : List Piece) (trailing : List Char) (rendered : Rendered none pieces trailing)
    (guarded : ∀ piece ∈ pieces, piece.kind.guarded = true) :
    ['#', '!'].isPrefixOf (spell pieces ++ trailing) = false := by
  refine Bool.eq_false_iff.mpr fun hashbang => ?_
  obtain ⟨tail, text⟩ := List.isPrefixOf_iff_prefix.mp hashbang
  cases pieces with
  | nil =>
      have whole : trailing = '#' :: '!' :: tail := text.symm
      exact gap_no_hash [] trailing rendered.1 (by rw [whole]; rfl)
  | cons piece rest =>
      obtain ⟨spellable, ⟨quote, mark, spelled⟩, fits, white, -, others⟩ := rendered
      rw [spell_cons, List.append_assoc, List.append_assoc] at text
      cases gap : piece.gap with
      | cons c gap' =>
          rw [gap] at text white
          have hash : '#' = c := (List.cons.inj text).1
          exact gap_no_hash _ _ white (by rw [← hash]; rfl)
      | nil =>
          rw [gap, List.nil_append] at text
          have ends := rendered_ends_word piece.kind rest trailing others
          have reads := kind_reads 0 none quote piece.kind (spell rest ++ trailing) spellable mark
            (guarded piece (List.mem_cons_self ..)) fits ends
          obtain ⟨nonempty, -⟩ := kind_ends_gap quote piece.kind (spell rest ++ trailing) spellable mark ends
          rw [← spelled] at reads nonempty
          obtain ⟨c, word, shape⟩ := List.exists_cons_of_ne_nil nonempty
          have hash : '#' = c := by
            rw [shape] at text
            exact (List.cons.inj text).1
          have scanned := reads 0 c (by simp [shape])
          rw [← text, ← hash] at scanned
          cases scanned

theorem place_kinds (offset : Nat) (pieces : List Piece) : (place offset pieces).map (·.kind) = pieces.map (·.kind) := by
  induction pieces generalizing offset with
  | nil => rfl
  | cons piece rest step => rw [place, List.map_cons, List.map_cons, step]

theorem place_flags (offset : Nat) (pieces : List Piece) :
    (place offset pieces).map (·.newlineBefore) = pieces.map fun piece => hasLineTerminator piece.gap := by
  induction pieces generalizing offset with
  | nil => rfl
  | cons piece rest step => rw [place, List.map_cons, List.map_cons, step]

theorem lex_pieces (pieces : List Piece) (trailing : List Char) (rendered : Rendered none pieces trailing)
    (guarded : ∀ piece ∈ pieces, piece.kind.guarded = true) :
    lex (String.ofList (spell pieces ++ trailing)) = .ok (place 0 pieces ++
      [endToken 0 (hasLineTerminator trailing) ⟨[], 0 + byteLength (spell pieces ++ trailing)⟩]) := by
  have lexed := lexed_rendered pieces trailing none 0 rendered guarded
  unfold lex lexFragment startCursor
  dsimp only
  rw [String.toList_ofList, rendered_no_hashbang pieces trailing rendered guarded]
  simp only [Bool.and_false, Bool.false_eq_true, if_false]
  exact lex_from_of_lexed lexed _ (Nat.le_refl _)

theorem lex_rendered (pieces : List Piece) (trailing : List Char) (rendered : Rendered none pieces trailing)
    (guarded : ∀ piece ∈ pieces, piece.kind.guarded = true) :
    ∃ tokens, lex (String.ofList (spell pieces ++ trailing)) = .ok tokens ∧
      tokens.map (·.kind) = pieces.map (·.kind) ++ [.endOfFile] ∧
      tokens.map (·.newlineBefore) =
        pieces.map (fun piece => hasLineTerminator piece.gap) ++ [hasLineTerminator trailing] := by
  refine ⟨_, lex_pieces pieces trailing rendered guarded, ?_, ?_⟩
  · rw [List.map_append, place_kinds]
    rfl
  · rw [List.map_append, place_flags]
    rfl

def awkwardPieces : List Piece :=
  [⟨"/**/".toList, "/[/]\\/=/gi".toList, .regex "[/]\\/=" "gi"⟩, ⟨" //\n".toList, "#of".toList, .privateName "of"⟩,
   ⟨[' '], ['/'], .punct .slash⟩, ⟨['\u2028'], "'it\\'s\\n'".toList, .string "it's\n"⟩,
   ⟨[' '], "`\\$\x7b`".toList, .template [.text "$\x7b"]⟩, ⟨[' '], "007n".toList, .bigint "007"⟩]

/-- A class and escapes in a pattern, comments in gaps, a division behind a name, and contents that need escapes. -/
theorem awkward_pieces_read_back : Rendered none awkwardPieces ['\n'] ∧
    (∀ piece ∈ awkwardPieces, piece.kind.guarded = true) ∧
    ∃ tokens, lex (String.ofList (spell awkwardPieces ++ ['\n'])) = .ok tokens ∧
      tokens.map (·.kind) = awkwardPieces.map (·.kind) ++ [.endOfFile] ∧
      tokens.map (·.newlineBefore) = [false, true, false, true, false, false, true] := by
  have pattern : IsPattern "[/]\\/=".toList := ⟨by decide, by decide, by decide, by decide⟩
  have rendered : Rendered none awkwardPieces ['\n'] := by
    refine ⟨⟨pattern, by decide⟩, ⟨'"', by decide, by decide⟩, by decide,
      .blockComment (by decide : ¬ ['*', '/'] <:+: []) .none,
      by decide, ?_⟩
    refine ⟨(by decide +kernel : IsName _), ⟨'"', by decide, by decide⟩, by decide,
      .blank (by decide) (@Gap.lineComment _ [] _ (by decide) (by decide) (.blank (by decide) .none)), fun _ => by decide, ?_⟩
    refine ⟨trivial, ⟨'"', by decide, by decide⟩, by decide, .blank (by decide) .none, fun _ => by decide, ?_⟩
    refine ⟨trivial, ⟨'\'', by decide, by decide⟩, by decide, .blank (by decide) .none, fun _ => by decide, ?_⟩
    refine ⟨⟨_, rfl⟩, ⟨'"', by decide, by decide⟩, by decide, .blank (by decide) .none, fun _ => by decide, ?_⟩
    refine ⟨⟨by decide, by decide⟩, ⟨'"', by decide, by decide⟩, by decide, .blank (by decide) .none, fun _ => by decide, ?_⟩
    exact ⟨.blank (by decide) .none, fun _ => by unfold EndsWord; decide⟩
  have guarded : ∀ piece ∈ awkwardPieces, piece.kind.guarded = true := by decide
  exact ⟨rendered, guarded, lex_rendered awkwardPieces ['\n'] rendered guarded⟩

def bareSlash : List Piece :=
  [⟨[], "/a/b/".toList, .regex "a/b" ""⟩]

/-- A slash outside all classes ends the pattern, and what stands behind it is read as flags. -/
theorem bare_slash_ends_pattern : Rendered none bareSlash [] ∧
    ¬ ∃ tokens, lex (String.ofList (spell bareSlash ++ [])) = .ok tokens ∧
      tokens.map (·.kind) = bareSlash.map (·.kind) ++ [.endOfFile] ∧
      tokens.map (·.newlineBefore) = [false, false] := by
  have pattern : IsPattern "a/b".toList := ⟨by decide, by decide, by decide, by decide⟩
  refine ⟨⟨⟨pattern, by decide⟩, ⟨'"', by decide, by decide⟩, by decide, .none, by decide, .none, fun _ => by unfold EndsWord; decide⟩, ?_⟩
  have lexed : lex (String.ofList (spell bareSlash ++ [])) =
      .ok [⟨.regex "a" "b", ⟨0, 4⟩, false⟩, ⟨.punct .slash, ⟨4, 5⟩, false⟩, ⟨.endOfFile, ⟨5, 5⟩, false⟩] := by
    decide +kernel
  rw [lexed]
  rintro ⟨tokens, same, kinds, -⟩
  cases same
  revert kinds
  decide

end ScriptSuite.Script
