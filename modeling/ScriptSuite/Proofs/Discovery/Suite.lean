import ScriptSuite.Discovery.CallPattern
import ScriptSuite.Proofs.Script.Lexer.Words

set_option autoImplicit false

namespace ScriptSuite.Discovery

open Text Script

-- `pattern(null,..,'name', function (test) { test.done(); });`, with as many `null` before the name as the pattern says.
def declaringCall (pattern : CallPattern) (name : String) : List Char :=
  pattern.text.toList ++ '(' :: ((List.replicate pattern.argumentIndex "null,".toList).flatten ++
    (singleQuoted name.toList ++ ", function (test) \x7b test.done(); \x7d);".toList))

def declaringLine (pattern : CallPattern) (name : String) : List Char :=
  declaringCall pattern name ++ ['\n']

def suiteText (pattern : CallPattern) (names : List String) : String :=
  String.ofList (names.flatMap (declaringLine pattern))

structure CallPattern.Spellable (pattern : CallPattern) : Prop where
  nonempty : pattern.path ≠ []
  names : ∀ segment ∈ pattern.path, IsName segment.toList

theorem identifier_is_name (segment : List Char) (identifier : isIdentifier segment = true) : IsName segment := by
  cases segment with
  | nil => cases identifier
  | cons c rest =>
      obtain ⟨first, others⟩ := Bool.and_eq_true_iff.mp identifier
      have starts : isIdentifierStart c = true := first
      refine ⟨⟨c, rfl, starts⟩, fun d inside => ?_⟩
      cases inside with
      | head => exact identifier_part_of_start c starts
      | tail _ behind =>
          have accepted := List.all_eq_true.mp others d behind
          simp only [Bool.or_eq_true] at accepted
          simp only [isIdentifierPart, Bool.or_eq_true]
          rcases accepted with (dollar | underscore) | letter
          · simp [dollar]
          · simp [underscore]
          · simp [letter]

theorem split_points_nonempty (text : List Char) : splitPoints text ≠ [] := by
  cases text with
  | nil => exact List.cons_ne_nil _ _
  | cons c rest =>
      rw [splitPoints]
      split
      · exact List.cons_ne_nil _ _
      · split <;> exact List.cons_ne_nil _ _

theorem parse_spellable (dotted : String) (index : Nat) (pattern : CallPattern)
    (parsed : CallPattern.parse dotted index = .ok pattern) : pattern.Spellable := by
  unfold CallPattern.parse at parsed
  dsimp only at parsed
  split at parsed
  · cases parsed
  · split at parsed
    · cases parsed
    · next none =>
        cases parsed
        constructor
        · simpa using split_points_nonempty dotted.toList
        · intro segment inside
          obtain ⟨text, listed, rfl⟩ := List.mem_map.mp inside
          have fine := List.find?_eq_none.mp none text listed
          rw [String.toList_ofList]
          exact identifier_is_name text (by simpa using fine)

def linkPieces (segments : List String) : List Piece :=
  segments.flatMap fun segment => [.mark [] .dot, .name [] segment]

def pathPieces (gap : List Char) : List String → List Piece
  | [] => []
  | first :: rest => .name gap first :: linkPieces rest

def nullPieces (count : Nat) : List Piece :=
  (List.replicate count [.name [] "null", .mark [] .comma]).flatten

def functionPieces : List Piece :=
  [.name [' '] "function", .mark [' '] .lParen, .name [] "test", .mark [] .rParen, .mark [' '] .lBrace,
    .name [' '] "test", .mark [] .dot, .name [] "done", .mark [] .lParen, .mark [] .rParen, .mark [] .semi,
    .mark [' '] .rBrace]

def closingPieces : List Piece :=
  [.mark [] .rParen, .mark [] .semi]

def argumentPieces (index : Nat) (name : String) : List Piece :=
  nullPieces index ++ .string [] name :: .mark [] .comma :: (functionPieces ++ closingPieces)

def linePieces (pattern : CallPattern) (gap : List Char) (name : String) : List Piece :=
  pathPieces gap pattern.path ++ .mark [] .lParen :: argumentPieces pattern.argumentIndex name

-- The first line begins behind `gap`, the others behind the end of the line before.
def suitePieces (pattern : CallPattern) (gap : List Char) : List String → List Piece
  | [] => []
  | name :: rest => linePieces pattern gap name ++ suitePieces pattern ['\n'] rest

def lastGap (gap : List Char) : List String → List Char
  | [] => gap
  | _ :: rest => lastGap ['\n'] rest

theorem spell_links (segments : List String) :
    spell (linkPieces segments) = segments.flatMap fun segment => '.' :: segment.toList := by
  induction segments with
  | nil => rfl
  | cons segment rest step =>
      have here : linkPieces (segment :: rest) = .mark [] .dot :: .name [] segment :: linkPieces rest := rfl
      rw [here, spell_cons, spell_cons, step]
      rfl

theorem spell_path (gap : List Char) (path : List String) (nonempty : path ≠ []) :
    spell (pathPieces gap path) = gap ++ (String.intercalate "." path).toList := by
  cases path with
  | nil => exact absurd rfl nonempty
  | cons first rest =>
      rw [pathPieces, spell_cons, spell_links, List.append_assoc]
      congr 1
      clear nonempty
      induction rest generalizing first with
      | nil => simp [Piece.name]
      | cons second rest step =>
          rw [String.intercalate_cons_cons, String.toList_append, ← step second]
          simp [Piece.name]

theorem spell_nulls (count : Nat) : spell (nullPieces count) = (List.replicate count "null,".toList).flatten := by
  induction count with
  | zero => rfl
  | succ count step =>
      have here : nullPieces (count + 1) = [.name [] "null", .mark [] .comma] ++ nullPieces count := rfl
      rw [here, spell_append, step, List.replicate_succ, List.flatten_cons]
      rfl

theorem spell_line (pattern : CallPattern) (gap : List Char) (name : String) (spellable : pattern.Spellable) :
    spell (linePieces pattern gap name) ++ ['\n'] = gap ++ declaringLine pattern name := by
  have rest : ',' :: spell (functionPieces ++ closingPieces) = ", function (test) \x7b test.done(); \x7d);".toList := by
    decide +kernel
  rw [linePieces, argumentPieces, spell_append, spell_path gap _ spellable.nonempty, spell_cons, spell_append, spell_nulls,
    spell_cons, spell_cons, declaringLine, declaringCall, ← rest]
  simp [Piece.mark, Piece.string, Punct.spelling, CallPattern.text]

theorem spell_suite (pattern : CallPattern) (gap : List Char) (names : List String) (spellable : pattern.Spellable) :
    spell (suitePieces pattern gap names) ++ lastGap gap names = gap ++ names.flatMap (declaringLine pattern) := by
  induction names generalizing gap with
  | nil => simp [suitePieces, lastGap, spell]
  | cons name rest step =>
      rw [suitePieces, lastGap, spell_append, List.append_assoc, step, ← List.append_assoc, spell_line _ _ _ spellable,
        List.flatMap_cons, List.append_assoc]

theorem links_scan (segments : List String) (following : List Char) (names : ∀ segment ∈ segments, IsName segment.toList)
    (ends : EndsName following) :
    AllScan (linkPieces segments) following ∧ EndsName (spell (linkPieces segments) ++ following) := by
  induction segments with
  | nil => exact ⟨trivial, ends⟩
  | cons segment rest step =>
      obtain ⟨others, behind⟩ := step fun other inside => names other (List.mem_cons_of_mem _ inside)
      have name := names segment (List.mem_cons_self ..)
      have blank : ∀ c ∈ ([] : List Char), isBlank c = true := fun c inside => absurd inside List.not_mem_nil
      obtain ⟨c, head, starts⟩ := name.1
      refine ⟨⟨dot_scans [] _ blank ⟨c, ?_, starts⟩, name_scans [] segment _ blank name behind, others⟩, ?_⟩
      · show c ∈ (segment.toList ++ spell (linkPieces rest) ++ following).head?
        rw [List.append_assoc, List.head?_append, show segment.toList.head? = some c from head]
        rfl
      · rintro d ⟨⟩
        decide

theorem no_gap (c : Char) (inside : c ∈ ([] : List Char)) : isBlank c = true :=
  absurd inside List.not_mem_nil

theorem one_gap (c : Char) (blank : isBlank c = true) : ∀ d ∈ [c], isBlank d = true := by
  intro d inside
  rwa [List.mem_singleton.mp inside]

theorem word_scans (gap : List Char) (text : String) (c : Char) (rest : List Char) (blank : gap.all isBlank = true)
    (name : text.toList.head?.any isIdentifierStart = true ∧ text.toList.all isIdentifierPart = true)
    (ends : isIdentifierPart c = false) : (Piece.name gap text).Scans (c :: rest) := by
  refine name_scans gap text _ (List.all_eq_true.mp blank) ⟨?_, List.all_eq_true.mp name.2⟩ ?_
  · exact (Option.any_eq_true _ _).mp name.1
  · rintro d ⟨⟩
    exact ends

theorem nulls_scan (count : Nat) (following : List Char) : AllScan (nullPieces count) following := by
  induction count with
  | zero => trivial
  | succ count step =>
      exact ⟨word_scans [] "null" ',' _ rfl (by decide +kernel) (by decide), mark_scans [] .comma _ no_gap (by decide), step⟩

theorem function_scans (following : List Char) : AllScan functionPieces following := by
  have space := one_gap ' ' rfl
  exact ⟨word_scans [' '] "function" ' ' _ rfl (by decide +kernel) (by decide),
    mark_scans [' '] .lParen _ space (by decide),
    word_scans [] "test" ')' _ rfl (by decide +kernel) (by decide),
    mark_scans [] .rParen _ no_gap (by decide),
    mark_scans [' '] .lBrace _ space (by decide),
    word_scans [' '] "test" '.' _ rfl (by decide +kernel) (by decide),
    dot_scans [] _ no_gap ⟨'d', rfl, by decide⟩,
    word_scans [] "done" '(' _ rfl (by decide +kernel) (by decide),
    mark_scans [] .lParen _ no_gap (by decide),
    mark_scans [] .rParen _ no_gap (by decide),
    mark_scans [] .semi _ no_gap (by decide),
    mark_scans [' '] .rBrace _ space (by decide), trivial⟩

theorem arguments_scan (index : Nat) (name : String) (following : List Char) :
    AllScan (argumentPieces index name) following := by
  refine (all_scan_append _ _ _).mpr ⟨nulls_scan _ _, string_scans [] name _ no_gap,
    mark_scans [] .comma _ no_gap (by decide), (all_scan_append _ _ _).mpr ⟨function_scans _, ?_⟩⟩
  exact ⟨mark_scans [] .rParen _ no_gap (by decide), mark_scans [] .semi _ no_gap (by decide), trivial⟩

theorem line_scans (pattern : CallPattern) (gap : List Char) (name : String) (following : List Char)
    (spellable : pattern.Spellable) (blank : ∀ c ∈ gap, isBlank c = true) :
    AllScan (linePieces pattern gap name) following := by
  obtain ⟨nonempty, names⟩ := spellable
  refine (all_scan_append _ _ _).mpr ⟨?_, mark_scans [] .lParen _ no_gap (by decide), arguments_scan _ name following⟩
  obtain ⟨first, rest, path⟩ := List.exists_cons_of_ne_nil nonempty
  rw [path] at names ⊢
  obtain ⟨others, behind⟩ := links_scan rest
    (spell (.mark [] .lParen :: argumentPieces pattern.argumentIndex name) ++ following)
    (fun other inside => names other (List.mem_cons_of_mem _ inside)) (by rintro d ⟨⟩; decide)
  exact ⟨name_scans gap first _ blank (names first (List.mem_cons_self ..)) behind, others⟩

theorem suite_scans (pattern : CallPattern) (gap : List Char) (names : List String) (following : List Char)
    (spellable : pattern.Spellable) (blank : ∀ c ∈ gap, isBlank c = true) :
    AllScan (suitePieces pattern gap names) following := by
  induction names generalizing gap with
  | nil => trivial
  | cons name rest step =>
      exact (all_scan_append _ _ _).mpr ⟨line_scans pattern gap name _ spellable blank, step ['\n'] (one_gap '\n' rfl)⟩

theorem last_gap_blank (gap : List Char) (names : List String) (blank : ∀ c ∈ gap, isBlank c = true) :
    ∀ c ∈ lastGap gap names, isBlank c = true := by
  induction names generalizing gap with
  | nil => exact blank
  | cons name rest step => exact step ['\n'] (one_gap '\n' rfl)

theorem suite_text_spelled (pattern : CallPattern) (names : List String) (spellable : pattern.Spellable) :
    (suiteText pattern names).toList = spell (suitePieces pattern [] names) ++ lastGap [] names := by
  rw [suiteText, String.toList_ofList, spell_suite pattern [] names spellable, List.nil_append]

theorem suite_no_hashbang (pattern : CallPattern) (names : List String) (spellable : pattern.Spellable) :
    ['#', '!'].isPrefixOf (suiteText pattern names).toList = false := by
  rw [suite_text_spelled pattern names spellable]
  cases names with
  | nil => rfl
  | cons name rest =>
      obtain ⟨first, others, path⟩ := List.exists_cons_of_ne_nil spellable.nonempty
      obtain ⟨⟨c, head, starts⟩, -⟩ := spellable.names first (by rw [path]; exact List.mem_cons_self ..)
      obtain ⟨tail, word⟩ := List.head?_eq_some_iff.mp head
      have differs : '#' ≠ c := Ne.symm (identifier_start_ne c '#' starts (by decide))
      simp [suitePieces, linePieces, path, pathPieces, spell_cons, Piece.name, word, List.isPrefixOf, differs]

theorem lexed_blanks (previous : Option TokenKind) (gap : List Char) (offset : Nat) (blank : ∀ c ∈ gap, isBlank c = true) :
    Lexed 0 previous ⟨gap, offset⟩ [endToken 0 (hasLineTerminator gap) ⟨[], offset + byteLength gap⟩] := by
  refine .last ?_ rfl
  have skipped := skip_blanks 0 false offset gap [] blank
  rw [List.append_nil, Bool.false_or] at skipped
  rw [skipTrivia, skipped]
  rfl

theorem lex_suite (pattern : CallPattern) (names : List String) (spellable : pattern.Spellable) :
    ∃ last : Token, lex (suiteText pattern names) = .ok (place 0 (suitePieces pattern [] names) ++ [last]) ∧
      last.kind = .endOfFile := by
  have lexed := lexed_pieces (suitePieces pattern [] names) (lastGap [] names) none 0 _
    (suite_scans pattern [] names _ spellable no_gap)
    (fun previous => lexed_blanks previous _ _ (last_gap_blank [] names no_gap))
  rw [← suite_text_spelled pattern names spellable] at lexed
  have start : startCursor 0 (suiteText pattern names).toList = ⟨(suiteText pattern names).toList, 0⟩ := by
    rw [startCursor, suite_no_hashbang pattern names spellable, Bool.and_false]
    rfl
  have whole := lex_from_of_lexed lexed _ (Nat.le_refl _)
  refine ⟨_, Eq.trans ?_ whole, rfl⟩
  rw [lex, lexFragment, start]

end ScriptSuite.Discovery
