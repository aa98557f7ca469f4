import ScriptSuite.Proofs.Script.Lexer.Words

set_option autoImplicit false

namespace ScriptSuite.Script

open Text

theorem skip_done (fuel : List Char) (cursor : Cursor) : skipSubstitution fuel [] cursor = .ok ((), cursor) := by
  cases fuel <;> rfl

theorem skip_ended (fuel : List Char) (enclosure : Enclosure) (outer : List Enclosure) {cursor : Cursor} (ended : cursor.rest = []) :
    skipSubstitution fuel (enclosure :: outer) cursor = .error ⟨.unterminatedTemplate, cursor⟩ := by
  cases fuel with
  | nil => rfl
  | cons f fuel =>
      have step : skipStep cursor enclosure = .error ⟨.unterminatedTemplate, cursor⟩ := by
        cases enclosure <;> simp only [skipStep, ended]
      rw [skip_substitution_step, step]
      rfl

theorem skip_step_shortens {cursor after : Cursor} {enclosure : Enclosure} {inner : List Enclosure}
    (skipped : skipStep cursor enclosure = .ok (inner, after)) : after.rest.length < cursor.rest.length := by
  obtain ⟨word, nonempty, takes⟩ := skip_step_takes skipped
  have length := takes_length takes
  have some := List.length_pos_iff.mpr nonempty
  omega

-- The characters to come are enough fuel, and more of it changes nothing.
theorem skip_fuel (fuel more : List Char) (enclosures : List Enclosure) (cursor : Cursor)
    (enough : cursor.rest.length ≤ fuel.length) (plenty : cursor.rest.length ≤ more.length) :
    skipSubstitution fuel enclosures cursor = skipSubstitution more enclosures cursor := by
  induction fuel generalizing more enclosures cursor with
  | nil =>
      have ended : cursor.rest = [] := List.length_eq_zero_iff.mp (Nat.le_zero.mp enough)
      cases enclosures with
      | nil => rw [skip_done, skip_done]
      | cons enclosure outer => rw [skip_ended _ _ _ ended, skip_ended _ _ _ ended]
  | cons f fuel ih =>
      cases enclosures with
      | nil => rw [skip_done, skip_done]
      | cons enclosure outer =>
          cases more with
          | nil =>
              have ended : cursor.rest = [] := List.length_eq_zero_iff.mp (Nat.le_zero.mp plenty)
              rw [skip_ended _ _ _ ended, skip_ended _ _ _ ended]
          | cons m more =>
              rw [skip_substitution_step, skip_substitution_step]
              cases read : skipStep cursor enclosure with
              | error halt => rfl
              | ok step =>
                  have shorter : step.2.rest.length < cursor.rest.length := skip_step_shortens read
                  apply ih more (step.1 ++ outer) step.2
                  · exact Nat.le_of_lt_succ (Nat.lt_of_lt_of_le shorter enough)
                  · exact Nat.le_of_lt_succ (Nat.lt_of_lt_of_le shorter plenty)

def skipping (enclosures : List Enclosure) (cursor : Cursor) : Scan (Unit × Cursor) :=
  skipSubstitution cursor.rest enclosures cursor

-- In front of `behind`, the skipper reads `word` inside some enclosures and is inside other ones behind it.
def Crosses (before : List Enclosure) (word : List Char) (after : List Enclosure) (behind : List Char) : Prop :=
  ∀ offset, skipping before ⟨word ++ behind, offset⟩ = skipping after ⟨behind, offset + byteLength word⟩

section

variable {before middle after outer : List Enclosure} {braces : Nat} {c : Char} {a b behind : List Char}

theorem crosses_nothing : Crosses before [] before behind :=
  fun _ => rfl

theorem crosses_append (first : Crosses before a middle (b ++ behind)) (second : Crosses middle b after behind) :
    Crosses before (a ++ b) after behind := by
  intro offset
  rw [List.append_assoc, first, second, byteLength_append, Nat.add_assoc]

theorem crosses_step {enclosure : Enclosure} {word : List Char} (inner : List Enclosure) (nonempty : word ≠ [])
    (step : ∀ offset, skipStep ⟨word ++ behind, offset⟩ enclosure = .ok (inner, ⟨behind, offset + byteLength word⟩)) :
    Crosses (enclosure :: outer) word (inner ++ outer) behind := by
  intro offset
  obtain ⟨first, rest, rfl⟩ := List.exists_cons_of_ne_nil nonempty
  have whole : skipping (enclosure :: outer) ⟨first :: rest ++ behind, offset⟩ =
      skipStep ⟨first :: rest ++ behind, offset⟩ enclosure >>= fun step =>
        skipSubstitution (rest ++ behind) (step.1 ++ outer) step.2 :=
    skip_substitution_step first (rest ++ behind) enclosure outer _
  rw [whole, step offset]
  exact skip_fuel (rest ++ behind) behind _ ⟨behind, _⟩ (by simp) (Nat.le_refl _)

theorem crosses_opening : Crosses (.substitution braces :: outer) ['{'] (.substitution (braces + 1) :: outer) behind :=
  fun _ => rfl

theorem crosses_closing : Crosses (.substitution (braces + 1) :: outer) ['}'] (.substitution braces :: outer) behind :=
  fun _ => rfl

theorem crosses_end : Crosses (.substitution 0 :: outer) ['}'] outer behind :=
  fun _ => rfl

theorem crosses_backtick : Crosses (.substitution braces :: outer) ['`'] (.template :: .substitution braces :: outer) behind :=
  fun _ => rfl

theorem crosses_template_end : Crosses (.template :: outer) ['`'] outer behind :=
  fun _ => rfl

theorem crosses_template_opening :
    Crosses (.template :: outer) ['$', '{'] (.substitution 0 :: .template :: outer) behind :=
  crosses_step [.substitution 0, .template] (List.cons_ne_nil _ _) fun _ => rfl

theorem crosses_template_escape : Crosses (.template :: outer) ['\\', c] (.template :: outer) behind := by
  refine crosses_step [.template] (List.cons_ne_nil _ _) fun offset => ?_
  rw [show offset + byteLength ['\\', c] = offset + 1 + c.utf8Size from by simp [Nat.add_assoc]; rfl]
  rfl

theorem crosses_template_plain (noEscape : c ≠ '\\') (noEnd : c ≠ '`') (noOpening : c = '$' → behind.head? ≠ some '{') :
    Crosses (.template :: outer) [c] (.template :: outer) behind := by
  refine crosses_step [.template] (List.cons_ne_nil _ _) fun offset => ?_
  rw [List.singleton_append, skipStep]
  simp only
  split
  · contradiction
  · next same => exact absurd (List.cons.inj same).1 noEscape
  · next same => exact absurd (List.cons.inj same).1 noEnd
  · next same =>
      cases same
      exact absurd rfl (noOpening rfl)
  · rfl

theorem crosses_plain (plain : c ∉ ['{', '}', '`', '"', '\'']) (noComment : c = '/' → ∀ d ∈ behind.head?, d ≠ '/' ∧ d ≠ '*') :
    Crosses (.substitution braces :: outer) [c] (.substitution braces :: outer) behind := by
  simp only [List.mem_cons, List.not_mem_nil, or_false, not_or] at plain
  obtain ⟨opening, closing, backtick, double, single⟩ := plain
  refine crosses_step [.substitution braces] (List.cons_ne_nil _ _) fun offset => ?_
  rw [List.singleton_append]
  unfold skipStep
  dsimp only
  split
  · contradiction
  · next same => exact absurd (List.cons.inj same).1 opening
  · next same => exact absurd (List.cons.inj same).1 closing
  · next same => exact absurd (List.cons.inj same).1 backtick
  · next same =>
      cases same
      exact absurd rfl (noComment rfl '/' rfl).1
  · next same =>
      cases same
      exact absurd rfl (noComment rfl '*' rfl).2
  · next same =>
      cases same
      rw [if_neg (by simp [double, single])]
      rfl

end

theorem skip_line_text (line behind : List Char) (offset : Nat) (oneLine : ∀ c ∈ line, isLineTerminator c = false)
    (ended : ∀ c ∈ behind.head?, isLineTerminator c = true) :
    skipLine ⟨line ++ behind, offset⟩ = ⟨behind, offset + byteLength line⟩ := by
  have stops : behind.takeWhile (fun c => !isLineTerminator c) = [] := by
    cases behind with
    | nil => rfl
    | cons c behind => simp [ended c rfl]
  have taken : (line ++ behind).takeWhile (fun c => !isLineTerminator c) = line := by
    rw [List.takeWhile_append_of_pos (by simpa using oneLine), stops, List.append_nil]
  simp only [skipLine, Cursor.skipWhile, Cursor.takeWhile, taken, Cursor.advance, List.drop_left]

theorem line_split (text : List Char) :
    ∃ line behind, (∀ c ∈ line, isLineTerminator c = false) ∧ (∀ c ∈ behind.head?, isLineTerminator c = true) ∧
      text = line ++ behind := by
  refine ⟨text.takeWhile fun c => !isLineTerminator c, text.dropWhile fun c => !isLineTerminator c, ?_, ?_, ?_⟩
  · intro c inside
    simpa using List.all_eq_true.mp List.all_takeWhile c inside
  · intro c head
    have stops := List.head?_dropWhile_not (fun c => !isLineTerminator c) text
    rw [Option.mem_def.mp head] at stops
    simpa using stops
  · exact (List.takeWhile_append_dropWhile).symm

def BlockComment (word : List Char) : Prop :=
  ∀ newline offset behind, ∃ found,
    skipBlockComment newline offset (word ++ behind) = .ok (found, ⟨behind, offset + byteLength word⟩)

theorem block_comment_ends : BlockComment ['*', '/'] :=
  fun newline _ _ => ⟨newline, rfl⟩

theorem block_comment_goes_on {c d : Char} {word : List Char} (unclosed : ¬ (c = '*' ∧ d = '/'))
    (comment : BlockComment (d :: word)) : BlockComment (c :: d :: word) := by
  intro newline offset behind
  obtain ⟨found, skipped⟩ := comment (newline || isLineTerminator c) (offset + c.utf8Size) behind
  refine ⟨found, ?_⟩
  rw [List.cons_append, skipBlockComment, skipped, byteLength_cons c, Nat.add_assoc]
  intro tail star slash
  cases slash
  exact unclosed ⟨star, rfl⟩

theorem block_comment_of_text (text : List Char) (inside : ¬ ['*', '/'] <:+: text) : BlockComment (text ++ ['*', '/']) := by
  induction text with
  | nil => exact block_comment_ends
  | cons c text step =>
      have comment := step fun closes => inside (List.infix_cons closes)
      cases text with
      | nil => exact block_comment_goes_on (by simp) comment
      | cons d text =>
          refine block_comment_goes_on ?_ comment
          rintro ⟨rfl, rfl⟩
          exact inside ⟨[], text, rfl⟩

theorem block_comment_taken (newline : Bool) (offset : Nat) (text : List Char) (found : Bool) (last : Cursor)
    (skipped : skipBlockComment newline offset text = .ok (found, last)) :
    ∃ c word, Cursor.Takes ⟨text, offset⟩ (c :: word) last ∧ BlockComment (c :: word) := by
  fun_induction skipBlockComment newline offset text with
  | case1 => cases skipped
  | case2 newline offset rest =>
      cases skipped
      exact ⟨'*', ['/'], ⟨rfl, rfl⟩, block_comment_ends⟩
  | case3 newline offset c rest other step =>
      obtain ⟨d, word, takes, comment⟩ := step skipped
      refine ⟨c, d :: word, takes_cons takes, block_comment_goes_on ?_ comment⟩
      rintro ⟨rfl, rfl⟩
      exact other _ rfl takes.text

def RawString (quote : Char) (word : List Char) : Prop :=
  ∀ offset behind, skipRawString quote offset (word ++ behind) = .ok ((), ⟨behind, offset + byteLength word⟩)

section

variable {quote c : Char} {word : List Char}

theorem raw_string_ends (plain : quote ≠ '\\') : RawString quote [quote] := by
  intro offset behind
  rw [List.singleton_append, skipRawString, if_pos rfl]
  · rfl
  · exact fun _ _ escape => absurd escape plain

theorem raw_string_escape (string : RawString quote word) : RawString quote ('\\' :: c :: word) := by
  intro offset behind
  rw [List.cons_append, List.cons_append, skipRawString, string, byteLength_cons, byteLength_cons, ← Nat.add_assoc,
    ← Nat.add_assoc]
  rfl

theorem raw_string_plain (noEscape : c ≠ '\\') (other : c ≠ quote) (string : RawString quote word) :
    RawString quote (c :: word) := by
  intro offset behind
  rw [List.cons_append, skipRawString, if_neg other, string, byteLength_cons, ← Nat.add_assoc]
  exact fun _ _ escape => absurd escape noEscape

theorem raw_string_taken (plain : quote ≠ '\\') (offset : Nat) (text : List Char) (last : Cursor)
    (skipped : skipRawString quote offset text = .ok ((), last)) :
    ∃ word, Cursor.Takes ⟨text, offset⟩ word last ∧ RawString quote word := by
  fun_induction skipRawString quote offset text with
  | case1 => cases skipped
  | case2 offset c rest step =>
      obtain ⟨word, takes, string⟩ := step skipped
      exact ⟨'\\' :: c :: word, takes_cons (takes_cons takes), raw_string_escape string⟩
  | case3 offset rest =>
      cases skipped
      exact ⟨[quote], ⟨rfl, rfl⟩, raw_string_ends plain⟩
  | case4 offset c rest other different step =>
      obtain ⟨word, takes, string⟩ := step skipped
      refine ⟨c :: word, takes_cons takes, raw_string_plain ?_ different string⟩
      rintro rfl
      cases rest with
      | nil => cases skipped
      | cons d rest => exact other d rest rfl rfl

end

section

variable {outer : List Enclosure} {braces : Nat} {behind : List Char}

theorem crosses_line_comment {comment : List Char} (oneLine : ∀ c ∈ comment, isLineTerminator c = false)
    (ended : ∀ c ∈ behind.head?, isLineTerminator c = true) :
    Crosses (.substitution braces :: outer) ('/' :: '/' :: comment) (.substitution braces :: outer) behind := by
  refine crosses_step [.substitution braces] (List.cons_ne_nil _ _) fun offset => ?_
  have line := skip_line_text ('/' :: '/' :: comment) behind offset (by simpa using ⟨rfl, oneLine⟩) ended
  exact congrArg (fun after => Except.ok ([Enclosure.substitution braces], after)) line

theorem crosses_block_comment {word : List Char} (comment : BlockComment word) :
    Crosses (.substitution braces :: outer) ('/' :: '*' :: word) (.substitution braces :: outer) behind := by
  refine crosses_step [.substitution braces] (List.cons_ne_nil _ _) fun offset => ?_
  obtain ⟨found, skipped⟩ := comment false (offset + 2) behind
  have step : skipStep ⟨'/' :: '*' :: word ++ behind, offset⟩ (.substitution braces) =
      skipBlockComment false (offset + 2) (word ++ behind) >>= fun read => .ok ([.substitution braces], read.2) := rfl
  have size : offset + byteLength ('/' :: '*' :: word) = offset + 2 + byteLength word := by
    simp only [byteLength_cons, ← Nat.add_assoc]
    rfl
  rw [step, skipped, size]
  rfl

theorem crosses_string {quote : Char} {word : List Char} (quoted : quote = '"' ∨ quote = '\'')
    (string : RawString quote word) :
    Crosses (.substitution braces :: outer) (quote :: word) (.substitution braces :: outer) behind := by
  refine crosses_step [.substitution braces] (List.cons_ne_nil _ _) fun offset => ?_
  have step : skipStep ⟨quote :: word ++ behind, offset⟩ (.substitution braces) =
      skipRawString quote (offset + 1) (word ++ behind) >>= fun read => .ok ([.substitution braces], read.2) := by
    rcases quoted with rfl | rfl <;> rfl
  have size : offset + byteLength (quote :: word) = offset + 1 + byteLength word := by
    rcases quoted with rfl | rfl <;> simp only [byteLength_cons, ← Nat.add_assoc] <;> rfl
  rw [step, string, size]
  rfl

end

theorem head_taken {first last : Cursor} {word : List Char} (takes : first.Takes word last) (nonempty : word ≠ [])
    (behind : List Char) : (word ++ behind).head? = first.rest.head? := by
  obtain ⟨c, rest, rfl⟩ := List.exists_cons_of_ne_nil nonempty
  rw [takes.text]
  rfl

-- The skipper gets out of the enclosures at `last`, and it does so wherever the text up to there stands.
def Leaves (enclosures : List Enclosure) (first last : Cursor) : Prop :=
  ∃ word, first.Takes word last ∧ (enclosures ≠ [] → word ≠ []) ∧
    ∀ outer behind, Crosses (enclosures ++ outer) word outer behind

-- What is read of the text behind a step does not depend on what follows it.
theorem leaves_behind {enclosures next : List Enclosure} {first middle last : Cursor} {step : List Char}
    (takes : first.Takes step middle) (nonempty : step ≠ []) (rest : Leaves next middle last)
    (crosses : ∀ outer behind, (next ≠ [] → behind.head? = middle.rest.head?) →
      Crosses (enclosures ++ outer) step (next ++ outer) behind) : Leaves enclosures first last := by
  obtain ⟨word, onward, some, inner⟩ := rest
  refine ⟨step ++ word, takes_append takes onward, fun _ => List.append_ne_nil_of_left_ne_nil nonempty word, ?_⟩
  intro outer behind
  exact crosses_append (crosses outer _ fun inside => head_taken onward (some inside) behind) (inner outer behind)

theorem leaves_none (cursor : Cursor) : Leaves [] cursor cursor :=
  ⟨[], takes_nothing cursor, fun some => absurd rfl some, fun _ _ => crosses_nothing⟩

section

variable {cursor after : Cursor} {inner : List Enclosure}

-- What a step reads it reads in front of any text that begins alike. Only an escape at the end of a text is read shorter.
theorem template_step_crosses (skipped : skipStep cursor .template = .ok (inner, after)) (present : inner ≠ [] → after.rest ≠ []) :
    ∃ word, cursor.Takes word after ∧ word ≠ [] ∧ ∀ outer behind, (inner ≠ [] → behind.head? = after.rest.head?) →
      Crosses (.template :: outer) word (inner ++ outer) behind := by
  rw [skipStep] at skipped
  split at skipped
  · cases skipped
  · next rest here =>
      cases skipped
      have escape := next_rest cursor '\\' rest here
      cases rest with
      | nil =>
          refine absurd ?_ (present (List.cons_ne_nil _ _))
          simp only [Cursor.next, here]
      | cons c rest =>
          have takes := takes_append (takes_next cursor '\\' _ here) (takes_next cursor.next c rest escape)
          exact ⟨_, takes, List.cons_ne_nil _ _, fun outer behind _ => crosses_template_escape⟩
  · next rest here =>
      cases skipped
      exact ⟨_, takes_next cursor '`' rest here, List.cons_ne_nil _ _, fun outer behind _ => crosses_template_end⟩
  · next rest here =>
      cases skipped
      have brace := next_rest cursor '$' _ here
      have takes := takes_append (takes_next cursor '$' _ here) (takes_next cursor.next '{' rest brace)
      exact ⟨_, takes, List.cons_ne_nil _ _, fun outer behind _ => crosses_template_opening⟩
  · next c rest noEscape noEnd noOpening here =>
      cases skipped
      refine ⟨_, takes_next cursor c rest here, List.cons_ne_nil _ _, fun outer behind same => ?_⟩
      refine crosses_template_plain noEscape noEnd fun dollar brace => ?_
      rw [same (List.cons_ne_nil _ _), next_rest cursor c rest here] at brace
      obtain ⟨tail, split⟩ := List.head?_eq_some_iff.mp brace
      exact noOpening tail dollar split

-- A line comment is skipped up to the line terminator behind it, which stands there still.
theorem line_comment_step_crosses (braces : Nat) {rest : List Char} (here : cursor.rest = '/' :: '/' :: rest) :
    ∃ word, cursor.Takes word (skipLine cursor) ∧ word ≠ [] ∧ ∀ outer behind, behind.head? = (skipLine cursor).rest.head? →
      Crosses (.substitution braces :: outer) word (.substitution braces :: outer) behind := by
  obtain ⟨comment, behind, oneLine, ended, rfl⟩ := line_split rest
  have read : skipLine cursor = ⟨behind, cursor.offset + byteLength ('/' :: '/' :: comment)⟩ := by
    rw [← skip_line_text ('/' :: '/' :: comment) behind cursor.offset (by simpa using ⟨rfl, oneLine⟩) ended]
    exact congrArg (fun text => skipLine ⟨text, cursor.offset⟩) here
  rw [read]
  refine ⟨'/' :: '/' :: comment, ⟨here, rfl⟩, List.cons_ne_nil _ _, fun outer behind same => ?_⟩
  refine crosses_line_comment oneLine ?_
  rwa [same]

theorem plain_step_crosses {braces : Nat} {c : Char} {rest : List Char} (here : cursor.rest = c :: rest)
    (plain : c ∉ ['{', '}', '`', '"', '\'']) (lineComment : ∀ tail, c = '/' → rest = '/' :: tail → False)
    (blockComment : ∀ tail, c = '/' → rest = '*' :: tail → False) (outer : List Enclosure) (behind : List Char)
    (same : behind.head? = cursor.next.rest.head?) :
    Crosses (.substitution braces :: outer) [c] (.substitution braces :: outer) behind := by
  refine crosses_plain plain fun slash d head => ?_
  rw [same, next_rest cursor c rest here] at head
  obtain ⟨tail, split⟩ := List.head?_eq_some_iff.mp head
  refine ⟨?_, ?_⟩
  · rintro rfl
    exact lineComment tail slash split
  · rintro rfl
    exact blockComment tail slash split

theorem braces_step_crosses {braces : Nat} (skipped : skipStep cursor (.substitution braces) = .ok (inner, after)) :
    ∃ word, cursor.Takes word after ∧ word ≠ [] ∧ ∀ outer behind, (inner ≠ [] → behind.head? = after.rest.head?) →
      Crosses (.substitution braces :: outer) word (inner ++ outer) behind := by
  unfold skipStep at skipped
  dsimp only at skipped
  split at skipped
  · cases skipped
  · next rest here =>
      cases skipped
      exact ⟨_, takes_next cursor '{' rest here, List.cons_ne_nil _ _, fun outer behind _ => crosses_opening⟩
  · next rest here =>
      have takes := takes_next cursor '}' rest here
      cases braces with
      | zero =>
          cases skipped
          exact ⟨_, takes, List.cons_ne_nil _ _, fun outer behind _ => crosses_end⟩
      | succ depth =>
          cases skipped
          exact ⟨_, takes, List.cons_ne_nil _ _, fun outer behind _ => crosses_closing⟩
  · next rest here =>
      cases skipped
      exact ⟨_, takes_next cursor '`' rest here, List.cons_ne_nil _ _, fun outer behind _ => crosses_backtick⟩
  · next rest here =>
      cases skipped
      obtain ⟨word, takes, nonempty, crosses⟩ := line_comment_step_crosses braces here
      exact ⟨word, takes, nonempty, fun outer behind same => crosses outer behind (same (List.cons_ne_nil _ _))⟩
  · next rest here =>
      obtain ⟨⟨found, stop⟩, comment, same⟩ := except_bind_ok skipped
      cases same
      obtain ⟨c, word, takes, everywhere⟩ := block_comment_taken _ _ _ _ _ comment
      have opening : cursor.Takes ['/', '*'] ⟨rest, cursor.offset + 2⟩ := ⟨here, rfl⟩
      exact ⟨_, takes_append opening takes, List.cons_ne_nil _ _, fun outer behind _ => crosses_block_comment everywhere⟩
  · next c rest opening closing backtick lineComment blockComment here =>
      split at skipped
      · next quoted =>
          obtain ⟨⟨found, stop⟩, literal, same⟩ := except_bind_ok skipped
          cases same
          have quote : c = '"' ∨ c = '\'' := by simpa using quoted
          have plain : c ≠ '\\' := by rcases quote with rfl | rfl <;> decide
          obtain ⟨word, takes, everywhere⟩ := raw_string_taken plain _ _ _ literal
          exact ⟨_, takes_append (takes_quote quoted here) takes, List.cons_ne_nil _ _,
            fun outer behind _ => crosses_string quote everywhere⟩
      · next other =>
          cases skipped
          have plain : c ∉ ['{', '}', '`', '"', '\''] := by
            simp only [Bool.or_eq_true, decide_eq_true_eq, not_or] at other
            simpa using ⟨opening, closing, backtick, other.1, other.2⟩
          exact ⟨_, takes_next cursor c rest here, List.cons_ne_nil _ _, fun outer behind same =>
            plain_step_crosses here plain lineComment blockComment outer behind (same (List.cons_ne_nil _ _))⟩

theorem skip_step_crosses {enclosure : Enclosure} (skipped : skipStep cursor enclosure = .ok (inner, after))
    (present : inner ≠ [] → after.rest ≠ []) :
    ∃ word, cursor.Takes word after ∧ word ≠ [] ∧ ∀ outer behind, (inner ≠ [] → behind.head? = after.rest.head?) →
      Crosses (enclosure :: outer) word (inner ++ outer) behind := by
  cases enclosure with
  | template => exact template_step_crosses skipped present
  | substitution braces => exact braces_step_crosses skipped

end

theorem leaves_present {enclosures : List Enclosure} {first last : Cursor} (leaves : Leaves enclosures first last)
    (inside : enclosures ≠ []) : first.rest ≠ [] := by
  obtain ⟨word, takes, some, -⟩ := leaves
  rw [takes.text]
  exact List.append_ne_nil_of_left_ne_nil (some inside) last.rest

theorem skip_leaves (fuel : List Char) (enclosures : List Enclosure) (cursor last : Cursor)
    (skipped : skipSubstitution fuel enclosures cursor = .ok ((), last)) : Leaves enclosures cursor last := by
  induction fuel generalizing enclosures cursor with
  | nil =>
      cases enclosures with
      | nil =>
          cases skipped
          exact leaves_none last
      | cons enclosure outer => cases skipped
  | cons f fuel ih =>
      cases enclosures with
      | nil =>
          cases skipped
          exact leaves_none last
      | cons enclosure outer =>
          rw [skip_substitution_step] at skipped
          obtain ⟨⟨inner, after⟩, step, onward⟩ := except_bind_ok skipped
          have rest : Leaves (inner ++ outer) after last := ih _ _ onward
          have within : inner ≠ [] → inner ++ outer ≠ [] := fun some => List.append_ne_nil_of_left_ne_nil some outer
          obtain ⟨word, takes, nonempty, crosses⟩ := skip_step_crosses step fun some => leaves_present rest (within some)
          refine leaves_behind takes nonempty rest fun more behind same => ?_
          rw [List.append_assoc]
          exact crosses (outer ++ more) behind fun some => same (within some)

def Harmless (c : Char) : Prop :=
  c ∉ ['\\', '"', '\'', '`', '$']

theorem hex_digit_harmless (c : Char) (digit : isHexDigit c = true) : Harmless c := by
  intro inside
  simp only [List.mem_cons, List.not_mem_nil, or_false] at inside
  rcases inside with rfl | rfl | rfl | rfl | rfl <;> exact absurd digit (by decide)

theorem hex_escape_takes (letter : Char) (count : Nat) (cursor : Cursor) :
    ∃ digits, cursor.Takes digits (scanHexEscape letter count cursor).2 ∧ ∀ c ∈ digits, Harmless c := by
  unfold scanHexEscape
  dsimp only
  split
  · next digits =>
      refine ⟨_, takes_advance cursor _ (List.take_prefix count _), fun c inside => hex_digit_harmless c ?_⟩
      exact List.all_eq_true.mp (Bool.and_eq_true_iff.mp digits).2 c inside
  · exact ⟨[], takes_nothing cursor, by simp⟩

theorem braced_escape_takes (cursor : Cursor) :
    ∃ word, cursor.Takes word (scanBracedEscape cursor).2 ∧ ∀ c ∈ word, Harmless c := by
  have digits := takes_advance cursor _ (List.takeWhile_prefix (l := cursor.rest) isHexDigit)
  have harmless : ∀ c ∈ cursor.rest.takeWhile isHexDigit, Harmless c := fun c inside =>
    hex_digit_harmless c (List.all_eq_true.mp List.all_takeWhile c inside)
  unfold scanBracedEscape Cursor.takeWhile
  dsimp only
  split
  · next rest here =>
      refine ⟨_, takes_append digits (takes_next _ '}' rest here), fun c inside => ?_⟩
      rcases List.mem_append.mp inside with digit | brace
      · exact harmless c digit
      · cases List.mem_singleton.mp brace
        simp [Harmless]
  · exact ⟨_, digits, harmless⟩

theorem escape_takes (cursor : Cursor) (c : Char) (rest : List Char) (text : cursor.rest = c :: rest) :
    ∃ tail, cursor.Takes (c :: tail) (scanEscape cursor).2 ∧ ∀ d ∈ tail, Harmless d := by
  have one := takes_next cursor c rest text
  have alone : ∃ tail, cursor.Takes (c :: tail) cursor.next ∧ ∀ d ∈ tail, Harmless d := ⟨[], one, by simp⟩
  have hex : ∀ count letter,
      ∃ tail, cursor.Takes (c :: tail) (scanHexEscape letter count cursor.next).2 ∧ ∀ d ∈ tail, Harmless d := by
    intro count letter
    obtain ⟨digits, takes, harmless⟩ := hex_escape_takes letter count cursor.next
    exact ⟨digits, takes_append one takes, harmless⟩
  have mark : ∀ d, Harmless d → rest.head? = some d → cursor.next.Takes [d] cursor.next.next := by
    intro d _ head
    obtain ⟨tail, split⟩ := List.head?_eq_some_iff.mp head
    exact takes_next cursor.next d tail ((next_rest cursor c rest text).trans split)
  unfold scanEscape
  rw [text]
  dsimp only
  split
  case h_7 => split <;> exact alone
  case h_8 => exact hex _ _
  case h_9 =>
    split
    · next brace =>
        obtain ⟨word, takes, harmless⟩ := braced_escape_takes cursor.next.next
        refine ⟨'{' :: word, takes_append one (takes_append (mark '{' (by simp [Harmless]) brace) takes), ?_⟩
        simpa [Harmless] using harmless
    · exact hex _ _
  case h_10 =>
    split
    · next newline =>
        exact ⟨['\n'], takes_append one (mark '\n' (by simp [Harmless]) newline), by simp [Harmless]⟩
    · exact alone
  case h_11 => split <;> exact alone
  all_goals exact alone

theorem escape_read {cursor after : Cursor} {escape : Escape} (read : scanEscape cursor = (escape, after))
    (some : escape ≠ .endOfText) : ∃ c tail, cursor.Takes (c :: tail) after ∧ ∀ d ∈ tail, Harmless d := by
  cases text : cursor.rest with
  | nil =>
      rw [scanEscape, text] at read
      cases read
      exact absurd rfl some
  | cons c rest =>
      have takes := escape_takes cursor c rest text
      rw [read] at takes
      exact ⟨c, takes⟩

theorem raw_string_harmless {quote : Char} {tail word : List Char} (quoted : quote = '"' ∨ quote = '\'')
    (harmless : ∀ c ∈ tail, Harmless c) (string : RawString quote word) : RawString quote (tail ++ word) := by
  induction tail with
  | nil => exact string
  | cons c tail step =>
      have first := harmless c List.mem_cons_self
      simp only [Harmless, List.mem_cons, List.not_mem_nil, or_false, not_or] at first
      refine raw_string_plain first.1 ?_ (step fun d inside => harmless d (List.mem_cons_of_mem c inside))
      rcases quoted with rfl | rfl
      · exact first.2.1
      · exact first.2.2.1

theorem string_read_skips {quote : Char} (quoted : quote = '"' ∨ quote = '\'') {cursor last : Cursor} {text : List Char}
    (read : StringRead quote cursor text last) : ∃ word, cursor.Takes word last ∧ RawString quote word := by
  induction read with
  | closed here =>
      have plain : quote ≠ '\\' := by rcases quoted with rfl | rfl <;> decide
      exact ⟨[quote], takes_next _ quote _ here, raw_string_ends plain⟩
  | escaped here inside read present onward ih =>
      obtain ⟨word, takes, string⟩ := ih
      obtain ⟨c, tail, taken, harmless⟩ := escape_read read present
      refine ⟨_, takes_append (takes_next _ '\\' _ here) (takes_append taken takes), ?_⟩
      exact raw_string_escape (raw_string_harmless quoted harmless string)
  | plain here inside noEscape noBreak onward ih =>
      obtain ⟨word, takes, string⟩ := ih
      exact ⟨_, takes_append (takes_next _ _ _ here) takes, raw_string_plain noEscape inside string⟩

theorem crosses_harmless {outer : List Enclosure} {tail behind : List Char} (harmless : ∀ c ∈ tail, Harmless c) :
    Crosses (.template :: outer) tail (.template :: outer) behind := by
  induction tail with
  | nil => exact crosses_nothing
  | cons c tail step =>
      have first := harmless c List.mem_cons_self
      simp only [Harmless, List.mem_cons, List.not_mem_nil, or_false, not_or] at first
      obtain ⟨noEscape, -, -, noEnd, noDollar⟩ := first
      exact crosses_append (a := [c]) (crosses_template_plain noEscape noEnd fun dollar => absurd dollar noDollar)
        (step fun d inside => harmless d (List.mem_cons_of_mem c inside))

theorem template_read_leaves {base : Nat} {literal : List Char} {cursor last : Cursor} {parts : List TemplatePart}
    (read : TemplateRead base literal cursor parts last) : Leaves [.template] cursor last := by
  induction read with
  | closed here =>
      exact leaves_behind (takes_next _ '`' _ here) (List.cons_ne_nil _ _) (leaves_none _)
        fun outer behind _ => crosses_template_end
  | escaped here read present onward ih =>
      obtain ⟨c, tail, taken, harmless⟩ := escape_read read present
      refine leaves_behind (takes_append (takes_next _ '\\' _ here) taken) (List.cons_ne_nil _ _) ih
        fun outer behind _ => ?_
      exact crosses_append (a := ['\\', c]) crosses_template_escape (crosses_harmless harmless)
  | @opened literal rest cursor after last parts here skipped onward ih =>
      obtain ⟨word, takes, -, crosses⟩ := skip_leaves _ _ _ _ skipped
      have opening : cursor.Takes ['$', '{'] cursor.next.next :=
        takes_append (takes_next cursor '$' _ here) (takes_next cursor.next '{' rest (next_rest cursor '$' _ here))
      refine leaves_behind (takes_append opening takes) (List.cons_ne_nil _ _) ih fun outer behind _ => ?_
      exact crosses_append crosses_template_opening (crosses (.template :: outer) behind)
  | @plain literal rest cursor last c parts here noEnd noEscape noOpening onward ih =>
      refine leaves_behind (takes_next cursor c rest here) (List.cons_ne_nil _ _) ih
        fun outer behind same => crosses_template_plain noEscape noEnd ?_
      rintro rfl brace
      rw [same (List.cons_ne_nil _ _), next_rest cursor '$' rest here] at brace
      obtain ⟨tail, split⟩ := List.head?_eq_some_iff.mp brace
      exact noOpening tail rfl split

end ScriptSuite.Script
