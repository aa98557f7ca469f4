import ScriptSuite.Discovery.Declaration
import ScriptSuite.Proofs.Discovery.Suite
import ScriptSuite.Proofs.Script.FunctionBody
import ScriptSuite.Proofs.Script.Rounds

set_option autoImplicit false

namespace ScriptSuite.Discovery

open Text Script

theorem word_null : wordKind "null" = .keyword .nullWord := rfl

theorem word_function : wordKind "function" = .keyword .functionWord := rfl

theorem word_test : wordKind "test" = .identifier "test" := rfl

theorem word_done : wordKind "done" = .identifier "done" := rfl

theorem async_function_absent (state : State) (plain : (state.peekAt 1).kind ≠ .keyword .functionWord) :
    asyncFunctionAhead .top state = .ok false state := by
  have run : asyncFunctionAhead .top state =
      .ok ((state.peekAt 1).kind == .keyword .functionWord && !(state.peekAt 1).newlineBefore) state := rfl
  rw [run, beq_eq_false_iff_ne.mpr plain, Bool.false_and]

section

variable (levels offset lastEnd : Nat) (rest : List Token) (recovered : List SyntaxError) (items : List (Spanned Expr))

abbrev argumentRound (levels : Nat) : List (Spanned Expr) → Parser (Round (List (Spanned Expr)) (List (Spanned Expr))) :=
  commaRound .rParen (spreadOrAssignment (Grammar.ofLevels (levels + 7)))

theorem null_read (nullSpan commaSpan : Span) (one two : Bool) :
    ∃ value, argumentRound levels items .top
        ⟨⟨.keyword .nullWord, nullSpan, one⟩ :: ⟨.punct .comma, commaSpan, two⟩ :: rest, lastEnd, recovered⟩ =
      .ok (.again (value :: items)) ⟨rest, commaSpan.stop, recovered⟩ :=
  ⟨_, rfl⟩

theorem string_read (text : String) (stringSpan commaSpan : Span) (one two : Bool) :
    ∃ value, argumentRound levels items .top
        ⟨⟨.string text, stringSpan, one⟩ :: ⟨.punct .comma, commaSpan, two⟩ :: rest, lastEnd, recovered⟩ =
      .ok (.again (value :: items)) ⟨rest, commaSpan.stop, recovered⟩ ∧ value.node = .literal (.string text) :=
  ⟨_, rfl, rfl⟩

theorem function_read (span : Span) (newline : Bool) :
    ∃ value stop, argumentRound levels items .top
        ⟨place offset functionPieces ++ ⟨.punct .rParen, span, newline⟩ :: rest, lastEnd, recovered⟩ =
      .ok (.done (value :: items).reverse) ⟨⟨.punct .rParen, span, newline⟩ :: rest, stop, recovered⟩ := by
  simp only [functionPieces, place, Piece.name, Piece.mark, word_function, word_test, word_done]
  exact ⟨_, _, rfl⟩

theorem nulls_read (count : Nat) :
    ∃ nulls stop, nulls.length = count ∧
      Reaches (argumentRound levels) .top items ⟨place offset (nullPieces count) ++ rest, lastEnd, recovered⟩
        (nulls ++ items) ⟨rest, stop, recovered⟩ := by
  induction count generalizing offset lastEnd items with
  | zero => exact ⟨[], lastEnd, rfl, .here items _⟩
  | succ count step =>
      have here : nullPieces (count + 1) = [.name [] "null", .mark [] .comma] ++ nullPieces count := rfl
      rw [here, place_append, List.append_assoc]
      simp only [place, Piece.name, Piece.mark, word_null, List.cons_append, List.nil_append]
      obtain ⟨value, first⟩ := null_read levels lastEnd
        (place (offset + byteLength (spell [Piece.name [] "null", Piece.mark [] .comma])) (nullPieces count) ++ rest)
        recovered items _ _ _ _
      obtain ⟨nulls, stop, length, onward⟩ := step _ _ (value :: items)
      refine ⟨nulls ++ [value], stop, by simp [length], .again first ?_⟩
      rw [List.append_assoc]
      exact onward

theorem argument_round_shortens : RoundShortens (argumentRound levels) :=
  comma_round_shortens .rParen (closes_spread_or_assignment (of_levels_closed (levels + 7)))

theorem arguments_run (g : Grammar) (tokens : List Token) (lastEnd : Nat) (recovered : List SyntaxError)
    (span : Span) (newline : Bool) :
    arguments g .top ⟨⟨.punct .lParen, span, newline⟩ :: tokens, lastEnd, recovered⟩ =
      (do
        let args ← commaList .rParen (spreadOrAssignment g)
        let _ ← expectPunct .rParen
        return args : Parser (List (Spanned Expr))) .top ⟨tokens, span.stop, recovered⟩ :=
  rfl

theorem closing_tokens :
    ∃ span newline semi, place offset closingPieces = [⟨.punct .rParen, span, newline⟩, semi] ∧ semi.kind = .punct .semi :=
  ⟨_, _, _, rfl, rfl⟩

theorem arguments_read (index : Nat) (name : String) (span : Span) (newline : Bool) :
    ∃ args argument semi stop, arguments (Grammar.ofLevels (levels + 7)) .top
        ⟨⟨.punct .lParen, span, newline⟩ :: (place offset (argumentPieces index name) ++ rest), lastEnd, recovered⟩ =
      .ok args ⟨semi :: rest, stop, recovered⟩ ∧
      semi.kind = .punct .semi ∧ args[index]? = some argument ∧ argument.node = .literal (.string name) := by
  have shortens := argument_round_shortens levels
  rw [argumentPieces, place_append, List.append_assoc]
  simp only [place, place_append, Piece.string, Piece.mark, List.cons_append, List.append_assoc]
  generalize offset + byteLength (spell (nullPieces index)) = start
  generalize behindComma : start + _ + _ + _ + _ = behind
  obtain ⟨closeSpan, closeNewline, semi, closing, semiKind⟩ := closing_tokens (behind + byteLength (spell functionPieces))
  rw [closing, List.cons_append, List.singleton_append]
  obtain ⟨nulls, between, length, nullsRead⟩ := nulls_read levels offset span.stop _ recovered [] index
  obtain ⟨quoted, stringRead, text⟩ := string_read levels _ _ recovered (nulls ++ []) name _ _ _ _
  obtain ⟨callback, stop, functionRead⟩ := function_read levels behind _ _ recovered (quoted :: (nulls ++ [])) _ _
  refine ⟨(callback :: quoted :: (nulls ++ [])).reverse, quoted, semi, closeSpan.stop, ?_, semiKind, by simp [← length], text⟩
  refine Eq.trans (arguments_run _ _ lastEnd recovered span newline) ?_
  unfold commaList
  rw [bind_run, repeat_rounds_reaches shortens nullsRead, repeat_rounds_unfold shortens, stringRead]
  dsimp only
  rw [repeat_rounds_unfold shortens, functionRead]
  rfl

theorem link_read (start : Nat) (object : Spanned Expr) (segment : String) (dotSpan span : Span) (one two : Bool) :
    ∃ value, chainRound (Grammar.ofLevels levels) start object .top
        ⟨⟨.punct .dot, dotSpan, one⟩ :: ⟨wordKind segment, span, two⟩ :: rest, lastEnd, recovered⟩ =
      .ok (.again value) ⟨rest, span.stop, recovered⟩ ∧ value.node = .member object (.ident segment) false := by
  unfold wordKind
  split
  · next word found =>
      rw [← keyword_spelling_of_name segment word found]
      exact ⟨_, rfl, rfl⟩
  · exact ⟨_, rfl, rfl⟩

theorem spells_link (path : List String) (segment : String) (object : Spanned Expr) (nonempty : path ≠ [])
    (spells : spellsPath path object.node = true) :
    spellsPath (segment :: path) (.member object (.ident segment) false) = true := by
  obtain ⟨last, others, rfl⟩ := List.exists_cons_of_ne_nil nonempty
  simpa [spellsPath, unparen, memberName?] using spells

theorem links_read (start : Nat) (object : Spanned Expr) (seen segments : List String) (nonempty : seen ≠ [])
    (spells : spellsPath seen.reverse object.node = true) :
    ∃ callee stop, spellsPath (seen ++ segments).reverse callee.node = true ∧
      Reaches (chainRound (Grammar.ofLevels levels) start) .top object
        ⟨place offset (linkPieces segments) ++ rest, lastEnd, recovered⟩ callee ⟨rest, stop, recovered⟩ := by
  induction segments generalizing offset lastEnd object seen with
  | nil => exact ⟨object, lastEnd, by rwa [List.append_nil], .here object _⟩
  | cons segment others step =>
      have here : linkPieces (segment :: others) = [.mark [] .dot, .name [] segment] ++ linkPieces others := rfl
      rw [here, place_append, List.append_assoc]
      simp only [place, Piece.name, Piece.mark, List.cons_append, List.nil_append]
      obtain ⟨value, first, node⟩ := link_read levels lastEnd
        (place (offset + byteLength (spell [Piece.mark [] .dot, Piece.name [] segment])) (linkPieces others) ++ rest)
        recovered start object segment _ _ _ _
      have further : spellsPath (seen ++ [segment]).reverse value.node = true := by
        rw [List.reverse_append, node]
        exact spells_link seen.reverse segment object (by simpa using nonempty) spells
      obtain ⟨callee, stop, whole, onward⟩ := step _ _ value (seen ++ [segment]) (by simp) further
      rw [List.append_assoc] at whole
      exact ⟨callee, stop, whole, .again first onward⟩

-- The expression calls what the pattern names, with the name of the test at its place.
def Declares (pattern : CallPattern) (name : String) (expr : Expr) : Prop :=
  ∃ callee args argument, expr = .call callee args false ∧ spellsPath pattern.path.reverse callee.node = true ∧
    args[pattern.argumentIndex]? = some argument ∧ argument.node = .literal (.string name)

theorem declared_name_of (pattern : CallPattern) (name : String) (expr : Expr) (declares : Declares pattern name expr) :
    declaredName? pattern expr = if isAllBlank name.toList then none else some name := by
  obtain ⟨callee, args, argument, rfl, spells, found, text⟩ := declares
  cases blank : isAllBlank name.toList <;>
    simp [declaredName?, unparen, spells, found, literalText?, text, Option.filter, blank]

theorem head_read (heritage : Parser (Spanned Expr)) (word : String) (span : Span) (newline : Bool) (second : Token)
    (plain : second.kind ≠ .keyword .functionWord) :
    callMemberWith (Grammar.ofLevels levels) heritage .top
        ⟨⟨.identifier word, span, newline⟩ :: second :: rest, lastEnd, recovered⟩ =
      repeatRounds (chainRound (Grammar.ofLevels levels) span.start)
        ⟨.ident word, ⟨span.start, max span.stop span.start⟩⟩ .top ⟨second :: rest, span.stop, recovered⟩ := by
  generalize same : State.mk (⟨.identifier word, span, newline⟩ :: second :: rest) lastEnd recovered = state
  have notAhead : asyncFunctionAhead .top state = .ok false state :=
    async_function_absent state (by rw [← same]; exact plain)
  have named : nameOrAsyncFunction (Grammar.ofLevels levels) word .top state =
      .ok (.ident word) ⟨second :: rest, span.stop, recovered⟩ := by
    unfold nameOrAsyncFunction
    rw [bind_run_ok notAhead, Bool.and_false, ← same]
    rfl
  have head : primary (Grammar.ofLevels levels) heritage .top state =
      .ok ⟨.ident word, ⟨span.start, max span.stop span.start⟩⟩ ⟨second :: rest, span.stop, recovered⟩ := by
    have run : primary (Grammar.ofLevels levels) heritage .top state =
        (nameOrAsyncFunction (Grammar.ofLevels levels) word >>= spannedFrom span.start) .top state := by
      rw [← same]
      rfl
    rw [run, bind_run_ok named]
    rfl
  have run : callMemberWith (Grammar.ofLevels levels) heritage .top state =
      (primary (Grammar.ofLevels levels) heritage >>= repeatRounds (chainRound (Grammar.ofLevels levels) span.start))
        .top state := by
    rw [← same]
    rfl
  rw [run, bind_run_ok head]

section

variable {g : Grammar} {state : State} {call : Spanned Expr} {word : String} {second : Token} {more : List Token}
variable {span semiSpan : Span} {newline semiNewline : Bool} {stop : Nat}

theorem await_absent (kind : state.peek.kind = .identifier word) (noAwait : word = "await" → (state.peekAt 1).kind = .punct .dot) :
    awaitAhead .top state = .ok false state := by
  unfold awaitAhead checkWord
  rw [bind_run, check_run, kind]
  by_cases await : word = "await"
  · have waits : awaitsOperand (state.peekAt 1) = false := by simp [awaitsOperand, noAwait await]
    rw [await, beq_self_eq_true]
    show Outcome.ok (Context.top.inAsync || awaitsOperand (state.peekAt 1)) state = .ok false state
    rw [waits]
    rfl
  · rw [beq_eq_false_iff_ne.mpr fun same => await (TokenKind.identifier.inj same)]
    rfl

-- A call in front of a semicolon is an expression at each level: no operator stands before it or behind it.
theorem unary_of_call (noAwait : word = "await" → second.kind = .punct .dot)
    (called : callMember g .top ⟨⟨.identifier word, span, newline⟩ :: second :: more, lastEnd, recovered⟩ =
      .ok call ⟨⟨.punct .semi, semiSpan, semiNewline⟩ :: rest, stop, recovered⟩) :
    unaryBody g .top ⟨⟨.identifier word, span, newline⟩ :: second :: more, lastEnd, recovered⟩ =
      .ok call ⟨⟨.punct .semi, semiSpan, semiNewline⟩ :: rest, stop, recovered⟩ := by
  have run : unaryBody g .top ⟨⟨.identifier word, span, newline⟩ :: second :: more, lastEnd, recovered⟩ =
      (awaitAhead >>= fun ahead => if ahead then do
          let _ ← advance
          let value ← g.unary
          spannedFrom span.start (.await value)
        else postfixUpdate g span.start) .top
          ⟨⟨.identifier word, span, newline⟩ :: second :: more, lastEnd, recovered⟩ := rfl
  rw [run, bind_run_ok (await_absent rfl noAwait)]
  exact Eq.trans (bind_run_ok called) rfl

theorem binary_of_unary
    (unary : g.unary .top state = .ok call ⟨⟨.punct .semi, semiSpan, semiNewline⟩ :: rest, stop, recovered⟩) :
    binaryFrom g 1 .top state = .ok call ⟨⟨.punct .semi, semiSpan, semiNewline⟩ :: rest, stop, recovered⟩ := by
  have run : binaryFrom g 1 .top state =
      (g.unary >>= repeatRounds (binaryRound g state.peek.span.start 1)) .top state := rfl
  rw [run, bind_run_ok unary]
  rfl

theorem assignment_of_binary (noArrow : arrowAhead state.rest = false)
    (binary : binaryFrom g 1 .top state = .ok call ⟨⟨.punct .semi, semiSpan, semiNewline⟩ :: rest, stop, recovered⟩) :
    assignmentBody g .top state = .ok call ⟨⟨.punct .semi, semiSpan, semiNewline⟩ :: rest, stop, recovered⟩ := by
  have start : startOffset .top state = .ok state.peek.span.start state := rfl
  have test : conditional g .top state = .ok call ⟨⟨.punct .semi, semiSpan, semiNewline⟩ :: rest, stop, recovered⟩ := by
    refine (bind_run_ok start).trans ?_
    rw [bind_run_ok binary]
    rfl
  have tail : assignmentTail g .top state = .ok call ⟨⟨.punct .semi, semiSpan, semiNewline⟩ :: rest, stop, recovered⟩ := by
    refine (bind_run_ok start).trans ?_
    rw [bind_run_ok test]
    rfl
  have arrow : isArrowAhead .top state = .ok false state := congrArg (Outcome.ok · _) noArrow
  exact (bind_run_ok arrow).trans tail

theorem statement_of_assignment
    (assignment : g.assignment .top state = .ok call ⟨⟨.punct .semi, semiSpan, semiNewline⟩ :: rest, stop, recovered⟩) :
    expressionStatement g .top state = .ok (.expr call) ⟨rest, semiSpan.stop, recovered⟩ := by
  have whole : expression g .top state = .ok call ⟨⟨.punct .semi, semiSpan, semiNewline⟩ :: rest, stop, recovered⟩ :=
    (bind_run_ok assignment).trans rfl
  exact (bind_run_ok whole).trans rfl

theorem named_statement_plain (mark : (state.peekAt 1).kind = .punct .dot ∨ (state.peekAt 1).kind = .punct .lParen) :
    namedStatement g word .top state = expressionStatement g .top state := by
  have look : peekAt 1 .top state = .ok (state.peekAt 1) state := rfl
  have noLet : letDeclares .top state = .ok false state := by
    unfold letDeclares
    rw [bind_run_ok look]
    rcases mark with point | paren
    · rw [point]
      rfl
    · rw [paren]
      rfl
  have noFunction : asyncFunctionAhead .top state = .ok false state := by
    refine async_function_absent state ?_
    rcases mark with point | paren
    · simp [point]
    · simp [paren]
  have noLabel : ((state.peekAt 1).kind == .punct .colon) = false := by
    rcases mark with point | paren
    · rw [point]
      rfl
    · rw [paren]
      rfl
  unfold namedStatement
  rw [bind_run_ok noLet, Bool.and_false, if_neg Bool.false_ne_true, bind_run_ok noFunction, Bool.and_false,
    if_neg Bool.false_ne_true, bind_run_ok look, noLabel, if_neg Bool.false_ne_true]

theorem statement_of_call (mark : second.kind = .punct .dot ∨ second.kind = .punct .lParen)
    (noAwait : word = "await" → second.kind = .punct .dot)
    (noArrow : arrowAhead (⟨.identifier word, span, newline⟩ :: second :: more) = false)
    (called : callMember (Grammar.ofLevels levels) .top
        ⟨⟨.identifier word, span, newline⟩ :: second :: more, lastEnd, recovered⟩ =
      .ok call ⟨⟨.punct .semi, semiSpan, semiNewline⟩ :: rest, stop, recovered⟩) :
    statementBody (Grammar.ofLevels (levels + 2)) .top
        ⟨⟨.identifier word, span, newline⟩ :: second :: more, lastEnd, recovered⟩ =
      .ok ⟨.expr call, ⟨span.start, max semiSpan.stop span.start⟩⟩ ⟨rest, semiSpan.stop, recovered⟩ := by
  have binary := binary_of_unary rest recovered (g := Grammar.ofLevels (levels + 1)) (unary_of_call _ _ _ noAwait called)
  have statement : namedStatement (Grammar.ofLevels (levels + 2)) word .top
      ⟨⟨.identifier word, span, newline⟩ :: second :: more, lastEnd, recovered⟩ =
      .ok (.expr call) ⟨rest, semiSpan.stop, recovered⟩ := by
    refine (named_statement_plain ?_).trans (statement_of_assignment _ _ (assignment_of_binary _ _ noArrow binary))
    exact mark
  have run : statementBody (Grammar.ofLevels (levels + 2)) .top
      ⟨⟨.identifier word, span, newline⟩ :: second :: more, lastEnd, recovered⟩ =
      (namedStatement (Grammar.ofLevels (levels + 2)) word >>= spannedFrom span.start) .top
        ⟨⟨.identifier word, span, newline⟩ :: second :: more, lastEnd, recovered⟩ := rfl
  rw [run, bind_run_ok statement]
  rfl

end

theorem no_arrow_after_nulls (count : Nat) :
    arrowAfterClosing 1 (place offset (nullPieces count) ++ rest) = arrowAfterClosing 1 rest := by
  induction count generalizing offset with
  | zero => rfl
  | succ count step =>
      have here : nullPieces (count + 1) = [.name [] "null", .mark [] .comma] ++ nullPieces count := rfl
      rw [here, place_append, List.append_assoc]
      simp only [place, Piece.name, Piece.mark, word_null, List.cons_append, List.nil_append]
      exact step _

theorem no_arrow_after_arguments (index : Nat) (name : String) :
    arrowAfterClosing 1 (place offset (argumentPieces index name) ++ rest) = false := by
  rw [argumentPieces, place_append, List.append_assoc, no_arrow_after_nulls]
  simp only [functionPieces, closingPieces, place, Piece.name, Piece.string, Piece.mark, word_function, word_test, word_done,
    List.cons_append, List.nil_append]
  rfl

theorem behind_first_segment (segments : List String) (span : Span) (newline : Bool) :
    ∃ second more, place offset (linkPieces segments) ++ ⟨.punct .lParen, span, newline⟩ :: rest = second :: more ∧
      (second.kind = .punct .dot ∨ segments = [] ∧ second.kind = .punct .lParen ∧ more = rest) := by
  cases segments with
  | nil => exact ⟨_, _, rfl, .inr ⟨rfl, rfl, rfl⟩⟩
  | cons segment others => exact ⟨_, _, rfl, .inl rfl⟩

theorem no_arrow_ahead (word : String) (span : Span) (newline : Bool) (second : Token) (more : List Token)
    (mark : second.kind = .punct .dot ∨ second.kind = .punct .lParen ∧ arrowAfterClosing 1 more = false) :
    arrowAhead (⟨.identifier word, span, newline⟩ :: second :: more) = false := by
  have plain : arrowHead (⟨.identifier word, span, newline⟩ :: second :: more) = false := by
    show (second.kind == .punct .arrow && !second.newlineBefore) = false
    rcases mark with point | ⟨paren, -⟩
    · simp [point]
    · simp [paren]
  unfold arrowAhead
  dsimp only
  split
  · rcases mark with point | ⟨paren, arguments⟩
    · next async => simp [point, startsParams] at async
    · rw [arrowHead, paren]
      exact arguments
  · exact plain

theorem call_read (start : Nat) (callee : Spanned Expr) (args : List (Spanned Expr)) (tokens : List Token) (stop : Nat)
    (parenSpan semiSpan : Span) (parenNewline semiNewline : Bool)
    (read : arguments (Grammar.ofLevels levels) .top
        ⟨⟨.punct .lParen, parenSpan, parenNewline⟩ :: tokens, lastEnd, recovered⟩ =
      .ok args ⟨⟨.punct .semi, semiSpan, semiNewline⟩ :: rest, stop, recovered⟩) :
    repeatRounds (chainRound (Grammar.ofLevels levels) start) callee .top
        ⟨⟨.punct .lParen, parenSpan, parenNewline⟩ :: tokens, lastEnd, recovered⟩ =
      .ok ⟨.call callee args false, ⟨start, max stop start⟩⟩
        ⟨⟨.punct .semi, semiSpan, semiNewline⟩ :: rest, stop, recovered⟩ := by
  have shortens := chain_round_shortens (of_levels_closed levels) start
  have round : chainRound (Grammar.ofLevels levels) start callee .top
        ⟨⟨.punct .lParen, parenSpan, parenNewline⟩ :: tokens, lastEnd, recovered⟩ =
      .ok (.again ⟨.call callee args false, ⟨start, max stop start⟩⟩)
        ⟨⟨.punct .semi, semiSpan, semiNewline⟩ :: rest, stop, recovered⟩ := by
    have link : chainLink (Grammar.ofLevels levels) callee .top
          ⟨⟨.punct .lParen, parenSpan, parenNewline⟩ :: tokens, lastEnd, recovered⟩ =
        .ok (some (.call callee args false)) ⟨⟨.punct .semi, semiSpan, semiNewline⟩ :: rest, stop, recovered⟩ :=
      (bind_run_ok read).trans rfl
    exact (bind_run_ok link).trans rfl
  rw [repeat_rounds_unfold shortens, round]
  dsimp only
  rw [repeat_rounds_unfold shortens]
  rfl

theorem line_tokens (pattern : CallPattern) (gap : List Char) (name first : String) (others : List String)
    (path : pattern.path = first :: others) (plain : Keyword.ofName? first = none) :
    ∃ span newline parenSpan parenNewline linkOffset argumentOffset,
      span.start = offset + byteLength gap ∧
      place offset (linePieces pattern gap name) = ⟨.identifier first, span, newline⟩ ::
        (place linkOffset (linkPieces others) ++ ⟨.punct .lParen, parenSpan, parenNewline⟩ ::
          place argumentOffset (argumentPieces pattern.argumentIndex name)) := by
  have kind : wordKind first = .identifier first := by rw [wordKind, plain]
  rw [linePieces, path, pathPieces, List.cons_append, place, place_append, place, Piece.name, kind]
  exact ⟨_, _, _, _, _, _, rfl, rfl⟩

theorem line_read (pattern : CallPattern) (gap : List Char) (name first : String) (others : List String)
    (path : pattern.path = first :: others) (plain : Keyword.ofName? first = none) (noAwait : pattern.path ≠ ["await"]) :
    ∃ call span stop, statementBody (Grammar.ofLevels (levels + 9)) .top
        ⟨place offset (linePieces pattern gap name) ++ rest, lastEnd, recovered⟩ =
      .ok ⟨.expr call, span⟩ ⟨rest, stop, recovered⟩ ∧
      span.start = offset + byteLength gap ∧ Declares pattern name call.node := by
  obtain ⟨span, newline, parenSpan, parenNewline, linkOffset, argumentOffset, start, tokens⟩ :=
    line_tokens offset pattern gap name first others path plain
  rw [tokens, List.cons_append, List.append_assoc, List.cons_append]
  obtain ⟨callee, between, spells, links⟩ := links_read (levels + 7) linkOffset span.stop
    (⟨.punct .lParen, parenSpan, parenNewline⟩ ::
      (place argumentOffset (argumentPieces pattern.argumentIndex name) ++ rest)) recovered span.start
    ⟨.ident first, ⟨span.start, max span.stop span.start⟩⟩ [first] others (by simp) (by simp [spellsPath, unparen])
  obtain ⟨args, argument, semi, stop, argumentsRead, semiKind, found, text⟩ :=
    arguments_read levels argumentOffset between rest recovered pattern.argumentIndex name parenSpan parenNewline
  obtain ⟨kind, semiSpan, semiNewline⟩ := semi
  cases semiKind
  obtain ⟨second, more, shape, mark⟩ := behind_first_segment linkOffset
    (place argumentOffset (argumentPieces pattern.argumentIndex name) ++ rest) others parenSpan parenNewline
  rw [shape] at links ⊢
  have called : callMember (Grammar.ofLevels (levels + 7)) .top
        ⟨⟨.identifier first, span, newline⟩ :: second :: more, lastEnd, recovered⟩ =
      .ok ⟨.call callee args false, ⟨span.start, max stop span.start⟩⟩
        ⟨⟨.punct .semi, semiSpan, semiNewline⟩ :: rest, stop, recovered⟩ := by
    have run : callMember (Grammar.ofLevels (levels + 7)) .top
          ⟨⟨.identifier first, span, newline⟩ :: second :: more, lastEnd, recovered⟩ =
        callMemberWith (Grammar.ofLevels (levels + 7)) (callMemberFrom (Grammar.ofLevels (levels + 7)) (second :: more))
          .top ⟨⟨.identifier first, span, newline⟩ :: second :: more, lastEnd, recovered⟩ := rfl
    rw [run, head_read (levels + 7) lastEnd more recovered _ first span newline second
      (by rcases mark with point | ⟨-, paren, -⟩ <;> simp_all),
      repeat_rounds_reaches (chain_round_shortens (of_levels_closed (levels + 7)) span.start) links]
    exact call_read (levels + 7) between rest recovered span.start callee args _ stop parenSpan semiSpan parenNewline
      semiNewline argumentsRead
  refine ⟨_, _, _, statement_of_call (levels + 7) lastEnd rest recovered ?_ ?_ ?_ called, start, callee, args, argument, rfl,
    by rw [path]; exact spells, found, text⟩
  · exact mark.imp_right fun alone => alone.2.1
  · rintro rfl
    exact mark.resolve_right fun alone => noAwait (by rw [path, alone.1])
  · refine no_arrow_ahead first span newline second more (mark.imp_right fun alone => ⟨alone.2.1, ?_⟩)
    rw [alone.2.2]
    exact no_arrow_after_arguments argumentOffset rest pattern.argumentIndex name

end

end ScriptSuite.Discovery
