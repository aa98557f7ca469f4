import ScriptSuite.Proofs.Discovery.Suite
import ScriptSuite.Proofs.Script.Lexer.Neighbours

set_option autoImplicit false

namespace ScriptSuite.Discovery

open Text Script

-- The lexer makes one name or reserved word of the whole text.
def LexesAsWord (text : List Char) : Prop :=
  ∃ word last, lex (String.ofList text) = .ok [word, last] ∧ word.span = ⟨0, byteLength text⟩ ∧ word.kind.isWord = true ∧
    last.kind = .endOfFile

def joiners : List Char :=
  ['\u200c', '\u200d']

theorem word_kind_is_word (name : String) : (wordKind name).isWord = true := by
  unfold wordKind
  split <;> rfl

theorem lexes_of_name {text : List Char} (name : IsName text) : LexesAsWord text := by
  obtain ⟨c, head, starts⟩ := name.1
  obtain ⟨rest, rfl⟩ := List.head?_eq_some_iff.mp head
  have begins : beginsWord c = true := by rw [beginsWord, starts, Bool.true_or]
  have scanned := scan_name 0 none c (c :: rest) [] 0 name rfl (by simp [EndsName])
  rw [List.append_nil, Nat.zero_add] at scanned
  have lexed := lex_one_word c rest _ (begins_word_audible begins) (identifier_start_ne c '#' starts (by decide)) scanned
  exact ⟨_, _, lexed, rfl, word_kind_is_word _, rfl⟩

theorem whole_taken {text : List Char} {accepts : Char → Bool}
    (bytes : byteLength (text.takeWhile accepts) = byteLength text) : ∀ c ∈ text, accepts c = true := by
  have split : text.takeWhile accepts ++ text.dropWhile accepts = text ++ [] := by
    rw [List.takeWhile_append_dropWhile, List.append_nil]
  have same := front_of_bytes split bytes
  intro c inside
  rw [← same] at inside
  exact List.all_eq_true.mp List.all_takeWhile c inside

theorem name_of_lexes {text : List Char} (lexes : LexesAsWord text) : IsName text := by
  obtain ⟨word, last, lexed, extent, isWord, -⟩ := lexes
  have whole : Cursor.IsIn text ⟨text, 0⟩ := ⟨[], rfl, rfl⟩
  have first := (takes_stands whole (start_cursor_takes text)).1
  have stream := lexed_of_fragment lexed
  rw [String.toList_ofList] at stream
  have alone : [word, last] = [] ++ word :: last :: [] := rfl
  obtain ⟨previous, c, start, after, here, head, span, scanned, -⟩ := lexed_neighbours stream first alone
  obtain ⟨begin, stop⟩ := Span.mk.inj (span.symm.trans extent)
  -- The word begins with the text, so nothing was skipped before it.
  have same := is_in_unique here whole begin
  subst same
  obtain ⟨starts, behind⟩ := word_extent isWord scanned
  refine ⟨⟨c, head, starts⟩, whole_taken ?_⟩
  rw [behind] at stop
  simpa [Cursor.takeWhile, Cursor.advance] using stop

theorem lexes_as_word_iff (text : List Char) : LexesAsWord text ↔ IsName text :=
  ⟨name_of_lexes, lexes_of_name⟩

theorem identifier_no_joiner {text : List Char} (identifier : isIdentifier text = true) : ∀ c ∈ text, c ∉ joiners := by
  have dark : ∀ d ∈ joiners, (d == '$' || d == '_' || isAlphabetic d) = false ∧
      (d == '$' || d == '_' || isAlphanumeric d) = false := by
    decide +kernel
  intro c inside joiner
  obtain ⟨noStart, noPart⟩ := dark c joiner
  cases text with
  | nil => cases inside
  | cons d rest =>
      obtain ⟨first, others⟩ := Bool.and_eq_true_iff.mp identifier
      cases inside with
      | head =>
          rw [noStart] at first
          cases first
      | tail _ behind =>
          have accepted := List.all_eq_true.mp others c behind
          rw [noPart] at accepted
          cases accepted

theorem identifier_iff (text : List Char) : isIdentifier text = true ↔ IsName text ∧ ∀ c ∈ text, c ∉ joiners := by
  constructor
  · intro identifier
    exact ⟨identifier_is_name text identifier, identifier_no_joiner identifier⟩
  · rintro ⟨⟨⟨c, head, starts⟩, parts⟩, noJoiner⟩
    obtain ⟨rest, rfl⟩ := List.head?_eq_some_iff.mp head
    refine Bool.and_eq_true_iff.mpr ⟨starts, List.all_eq_true.mpr fun d inside => ?_⟩
    have part := parts d (List.mem_cons_of_mem c inside)
    have plain := noJoiner d (List.mem_cons_of_mem c inside)
    simp only [joiners, List.mem_cons, List.not_mem_nil, or_false, not_or] at plain
    simpa [isIdentifierPart, plain] using part

theorem split_points_single {text : List Char} (noPoint : '.' ∉ text) : splitPoints text = [text] := by
  induction text with
  | nil => rfl
  | cons c rest step =>
      obtain ⟨other, later⟩ := not_or.mp (mt List.mem_cons.mpr noPoint)
      rw [splitPoints, if_neg (Ne.symm other), step later]

theorem segment_parses (segment : String) (index : Nat) (noPoint : '.' ∉ segment.toList) :
    (∃ pattern, CallPattern.parse segment index = .ok pattern) ↔ isIdentifier (trim segment.toList) = true := by
  unfold CallPattern.parse
  rw [split_points_single noPoint]
  by_cases identifier : isIdentifier (trim segment.toList) = true
  · have nonempty : trim segment.toList ≠ [] := by
      intro empty
      rw [empty] at identifier
      cases identifier
    simp [identifier, nonempty]
  · by_cases empty : trim segment.toList = []
    · simp [empty, isIdentifier]
    · simp [identifier, empty]

/-- A call pattern of one segment is accepted exactly when the lexer makes one name or reserved word of the trimmed text and
no joiner stands in it. -/
theorem segment_parses_iff (segment : String) (index : Nat) (noPoint : '.' ∉ segment.toList) :
    (∃ pattern, CallPattern.parse segment index = .ok pattern) ↔
      LexesAsWord (trim segment.toList) ∧ ∀ c ∈ trim segment.toList, c ∉ joiners := by
  rw [segment_parses segment index noPoint, identifier_iff, lexes_as_word_iff]

/-- White space around a name with an accent. -/
theorem accented_segment_parses :
    '.' ∉ " été_2\t".toList ∧ ∃ pattern, CallPattern.parse " été_2\t" 0 = .ok pattern := by
  have noPoint : '.' ∉ " été_2\t".toList := by decide
  refine ⟨noPoint, (segment_parses_iff _ 0 noPoint).mpr ⟨?_, by decide +kernel⟩⟩
  exact lexes_of_name (by decide +kernel)

/-- A name that a script can write and a pattern cannot. -/
theorem joined_name_rejected :
    LexesAsWord (trim "a\u200cb".toList) ∧ ∀ pattern, CallPattern.parse "a\u200cb" 0 ≠ .ok pattern := by
  have refused : CallPattern.parse "a\u200cb" 0 = .error ⟨"a\u200cb", .notAnIdentifier "a\u200cb"⟩ := by decide +kernel
  refine ⟨lexes_of_name (by decide +kernel), fun pattern accepted => ?_⟩
  rw [refused] at accepted
  cases accepted

end ScriptSuite.Discovery
