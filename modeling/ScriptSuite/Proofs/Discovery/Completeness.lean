import Mathlib.Data.List.TakeWhile
import ScriptSuite.Discovery.TestCase
import ScriptSuite.Proofs.Discovery.Calls
import ScriptSuite.Proofs.Script.LineIndex

set_option autoImplicit false

namespace ScriptSuite.Discovery

open Text Script

def Declared (pattern : CallPattern) : Nat → List String → Body → Prop
  | _, [], body => body = []
  | start, name :: rest, body => ∃ call span more, body = ⟨.expr call, span⟩ :: more ∧ span.start = start ∧
      Declares pattern name call.node ∧ Declared pattern (start + byteLength (declaringLine pattern name)) rest more

theorem position_behind_lines {α : Type} (line : α → List Char) (unbroken : ∀ item, '\n' ∉ line item) (items : List α)
    (rest : List Char) :
    positionIn ((items.flatMap fun item => line item ++ ['\n']) ++ rest)
      (byteLength (items.flatMap fun item => line item ++ ['\n'])) = ⟨items.length + 1, 0⟩ := by
  rw [position_at_front, Nat.add_comm 1]
  congr 1
  · induction items with
    | nil => rfl
    | cons item items step => simp [step, List.count_eq_zero.mpr (unbroken item), Nat.add_comm]
  · cases items using List.reverseRecOn with
    | nil => rfl
    | append_singleton items item =>
        rw [List.flatMap_append, List.flatMap_singleton, ← List.append_assoc, List.rtakeWhile_concat]
        rfl

theorem suite_read (pattern : CallPattern) (gap : List Char) (names : List String) (last : Token) (offset lastEnd : Nat)
    (body : Body) (first : String) (others : List String) (path : pattern.path = first :: others)
    (plain : Keyword.ofName? first = none) (noAwait : pattern.path ≠ ["await"]) (spellable : pattern.Spellable)
    (ends : last.kind = .endOfFile) :
    ∃ statements after, repeatRounds (programRound Grammar.full) body .top
        ⟨place offset (suitePieces pattern gap names) ++ [last], lastEnd, []⟩ = .ok (body.reverse ++ statements) after ∧
      after.recovered = [] ∧ Declared pattern (offset + byteLength gap) names statements := by
  have shortens := program_round_shortens full_closed
  induction names generalizing gap offset lastEnd body with
  | nil =>
      refine ⟨[], ⟨[last], lastEnd, []⟩, ?_, rfl, rfl⟩
      rw [suitePieces, place, List.nil_append, repeat_rounds_unfold shortens, program_round_run, peek_cons, if_pos ends,
        List.append_nil]
  | cons name rest step =>
      obtain ⟨call, span, stop, read, start, declares⟩ := line_read 150 offset lastEnd
        (place (offset + byteLength (spell (linePieces pattern gap name))) (suitePieces pattern ['\n'] rest) ++ [last]) []
        pattern gap name first others path plain noAwait
      obtain ⟨statements, after, onward, recovered, declared⟩ :=
        step ['\n'] (offset + byteLength (spell (linePieces pattern gap name))) stop (⟨.expr call, span⟩ :: body)
      refine ⟨⟨.expr call, span⟩ :: statements, after, ?_, recovered, call, span, statements, rfl, start, declares, ?_⟩
      · have top : Grammar.full.statement = statementBody (Grammar.ofLevels (150 + 9)) := rfl
        obtain ⟨_, _, _, _, _, _, _, tokens⟩ := line_tokens offset pattern gap name first others path plain
        rw [suitePieces, place_append, List.append_assoc, repeat_rounds_unfold shortens, program_round_run, if_neg ?_, top,
          read]
        · rw [List.reverse_cons, List.append_assoc] at onward
          exact onward
        · rw [tokens, List.cons_append, peek_cons]
          simp
      · have size : '\n'.utf8Size = 1 := rfl
        have same := congrArg byteLength (spell_line pattern gap name spellable)
        simp only [byteLength_append, byteLength_cons, byteLength_nil, size] at same declared
        rwa [show offset + byteLength gap + byteLength (declaringLine pattern name) =
          offset + byteLength (spell (linePieces pattern gap name)) + (1 + 0) by omega]

theorem text_unbroken (pattern : CallPattern) (spellable : pattern.Spellable) : '\n' ∉ pattern.text.toList := by
  obtain ⟨nonempty, names⟩ := spellable
  have noName : ∀ segment ∈ pattern.path, '\n' ∉ segment.toList := by
    intro segment listed inside
    exact absurd ((names segment listed).2 '\n' inside) (by decide)
  have spelled := spell_path [] pattern.path nonempty
  obtain ⟨first, rest, path⟩ := List.exists_cons_of_ne_nil nonempty
  rw [CallPattern.text, ← List.nil_append (String.intercalate "." pattern.path).toList, ← spelled]
  rw [path] at noName ⊢
  rw [pathPieces, spell_cons, spell_links]
  intro inside
  rcases List.mem_append.mp inside with front | behind
  · exact noName first (List.mem_cons_self ..) front
  · obtain ⟨segment, listed, within⟩ := List.mem_flatMap.mp behind
    cases within with
    | tail _ deeper => exact noName segment (List.mem_cons_of_mem _ listed) deeper

theorem escaped_unbroken (c : Char) : '\n' ∉ escaped c := by
  unfold escaped
  split
  · decide
  · decide
  · decide
  · decide
  · next other _ => exact fun inside => other (List.mem_singleton.mp inside).symm

theorem call_unbroken (pattern : CallPattern) (spellable : pattern.Spellable) (name : String) :
    '\n' ∉ declaringCall pattern name := by
  have quoted : '\n' ∉ singleQuoted name.toList := by
    intro inside
    rcases List.mem_append.mp ((List.mem_cons.mp inside).resolve_left (by decide)) with body | quote
    · obtain ⟨c, -, within⟩ := List.mem_flatMap.mp body
      exact escaped_unbroken c within
    · exact absurd quote (by decide)
  have text := text_unbroken pattern spellable
  simp [declaringCall, text, quoted]

theorem drop_blanks_empty (text : List Char) : text.dropWhile isBlank = [] ↔ isAllBlank text = true :=
  List.dropWhile_eq_nil_iff.trans List.all_eq_true.symm

theorem trim_empty_iff (text : List Char) : trim text = [] ↔ isAllBlank text = true := by
  rw [trim, trimEnd, trimStart, List.reverse_eq_nil_iff, drop_blanks_empty, isAllBlank, List.all_reverse]
  refine ⟨fun blank => ?_, fun blank => ?_⟩
  · cases dropped : text.dropWhile isBlank with
    | nil => exact (drop_blanks_empty text).mp dropped
    | cons c rest =>
        rw [dropped, List.all_cons, Bool.and_eq_true_iff] at blank
        have dark := List.head?_dropWhile_not isBlank text
        rw [dropped] at dark
        simp [blank.1] at dark
  · rw [(drop_blanks_empty text).mpr blank]
    rfl

theorem declared_found (pattern : CallPattern) (spellable : pattern.Spellable) (before names : List String) (body : Body)
    (declared : Declared pattern (byteLength (before.flatMap (declaringLine pattern))) names body) :
    (body.filterMap (declarationOf? ((before ++ names).flatMap (declaringLine pattern)) pattern)).map
        (fun found => (found.name, found.position)) =
      ((names.zipIdx (before.length + 1)).filter fun entry => !isAllBlank entry.1.toList).map
        fun entry => (entry.1, ⟨entry.2, 0⟩) := by
  induction names generalizing before body with
  | nil =>
      cases declared
      rfl
  | cons name rest step =>
      obtain ⟨call, span, more, rfl, start, declares, onward⟩ := declared
      have later := step (before ++ [name]) more (by
        rwa [List.flatMap_append, List.flatMap_singleton, byteLength_append])
      rw [List.append_assoc, List.singleton_append, List.length_append, List.length_singleton] at later
      have position : positionIn ((before ++ name :: rest).flatMap (declaringLine pattern)) span.start =
          ⟨before.length + 1, 0⟩ := by
        rw [start, List.flatMap_append]
        exact position_behind_lines (declaringCall pattern) (call_unbroken pattern spellable) before
          ((name :: rest).flatMap (declaringLine pattern))
      have here : declarationOf? ((before ++ name :: rest).flatMap (declaringLine pattern)) pattern ⟨.expr call, span⟩ =
          if isAllBlank name.toList then none else some ⟨name, ⟨before.length + 1, 0⟩, span⟩ := by
        show (declaredName? pattern call.node).map _ = _
        rw [declared_name_of pattern name call.node declares, position]
        split <;> rfl
      rw [List.filterMap_cons, here, List.zipIdx_cons]
      cases blank : isAllBlank name.toList with
      | true => simpa [blank] using later
      | false => simpa [blank] using later

/-- A generated suite declares its tests, which discovery finds all, but for those whose names are blank: in their order,
each at the beginning of its line. -/
theorem discover_suite (dotted : String) (index : Nat) (pattern : CallPattern)
    (parsed : CallPattern.parse dotted index = .ok pattern)
    (plain : ∀ first ∈ pattern.path.head?, Keyword.ofName? first = none) (noAwait : pattern.path ≠ ["await"])
    (path : Path) (names : List String) :
    ∃ cases, discoverSource path (suiteText pattern names) pattern = .ok cases ∧
      cases.map (fun found => (found.displayName, found.sourceFile, found.position, found.id)) =
        ((names.zipIdx 1).filter fun entry => trim entry.1.toList ≠ []).map
          fun entry => (entry.1, path, ⟨entry.2, 0⟩, path.text ++ "::" ++ entry.1) := by
  have spellable := parse_spellable dotted index pattern parsed
  obtain ⟨first, others, segments⟩ := List.exists_cons_of_ne_nil spellable.nonempty
  obtain ⟨last, lexed, ends⟩ := lex_suite pattern names spellable
  obtain ⟨body, after, read, clean, declared⟩ := suite_read pattern [] names last 0
    (State.ofTokens (place 0 (suitePieces pattern [] names) ++ [last])).lastEnd [] first others segments
    (plain first (by rw [segments]; rfl)) noAwait spellable ends
  have program : parse (place 0 (suitePieces pattern [] names) ++ [last]) = .ok ⟨body, []⟩ := by
    have run : programBody Grammar.full .top (State.ofTokens (place 0 (suitePieces pattern [] names) ++ [last])) =
        .ok body after := read
    unfold parse
    rw [run]
    simp only [clean]
  have parsedSource : parseSource (suiteText pattern names) = .ok ⟨body, []⟩ := by
    have fragment : parseFragment (suiteText pattern names) 0 = .ok ⟨body, []⟩ := by
      unfold parseFragment
      rw [show lexFragment (suiteText pattern names) 0 = _ from lexed]
      exact program
    rw [parseSource, fragment]
    rfl
  have found := declared_found pattern spellable [] names body declared
  refine ⟨_, by rw [discoverSource, declarationsIn, parsedSource]; rfl, ?_⟩
  have text : (suiteText pattern names).toList = names.flatMap (declaringLine pattern) := String.toList_ofList
  have named : (fun entry : String × Nat => decide (trim entry.1.toList ≠ [])) =
      fun entry => !isAllBlank entry.1.toList := by
    funext entry
    cases blank : isAllBlank entry.1.toList <;> simp [trim_empty_iff, blank]
  have identified := congrArg
    (List.map fun entry : String × Position => (entry.1, path, entry.2, path.text ++ "::" ++ entry.1)) found
  rw [List.map_map, List.map_map] at identified
  rw [named, declarations, text, List.map_map]
  exact identified

/-- Contextual words and reserved ones in a path, two leading arguments, and names with every escaped character. -/
theorem discover_awkward_suite :
    CallPattern.parse " async . if " 2 = .ok ⟨["async", "if"], 2⟩ ∧
      (∀ first ∈ ["async", "if"].head?, Keyword.ofName? first = none) ∧ ["async", "if"] ≠ ["await"] ∧
      ∃ cases, discoverSource ⟨"suite.js"⟩ (suiteText ⟨["async", "if"], 2⟩ ["it's", " \n", "a\\\r\nb"]) ⟨["async", "if"], 2⟩ =
          .ok cases ∧
        cases.map (fun found => (found.displayName, found.sourceFile, found.position, found.id)) =
          [("it's", ⟨"suite.js"⟩, ⟨1, 0⟩, "suite.js::it's"), ("a\\\r\nb", ⟨"suite.js"⟩, ⟨3, 0⟩, "suite.js::a\\\r\nb")] := by
  have parsed : CallPattern.parse " async . if " 2 = .ok ⟨["async", "if"], 2⟩ := by decide +kernel
  have plain : ∀ first ∈ ["async", "if"].head?, Keyword.ofName? first = none := by decide +kernel
  have noAwait : ["async", "if"] ≠ ["await"] := by decide
  obtain ⟨cases, found, listed⟩ := discover_suite " async . if " 2 ⟨["async", "if"], 2⟩ parsed plain noAwait ⟨"suite.js"⟩
    ["it's", " \n", "a\\\r\nb"]
  exact ⟨parsed, plain, noAwait, cases, found, listed.trans (by decide +kernel)⟩

end ScriptSuite.Discovery
