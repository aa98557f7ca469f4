import ScriptSuite.Proofs.Script.Fragment
import ScriptSuite.Proofs.Script.Lexer.Faults
import ScriptSuite.Proofs.Script.LineIndex
import ScriptSuite.Proofs.Script.Registers.Statement

/-!
Errors point inside the source. The parser names only spans of tokens that it has seen, and all of them stand in the source,
those of the fragments in templates as well.
-/
set_option autoImplicit false

namespace ScriptSuite.Script

theorem placed_within {text : List Char} {token : Token} {floor ceiling : Nat} (placed : token.Placed text floor ceiling) :
    token.span.Within text :=
  within_bounds placed.forward placed.start placed.stop

theorem boundary_end_placed {text : List Char} {offset : Nat} (boundary : Boundary text offset) :
    Token.Placed text 0 (byteLength text) ⟨.endOfFile, ⟨offset, offset⟩, false⟩ :=
  ⟨Nat.zero_le _, Nat.le_refl _, boundary_below boundary, boundary, boundary, fun _ kind => TokenKind.noConfusion kind⟩

theorem lexes_written {text : List Char} {source : String} {base : Nat} (written : WrittenAt text source.toList base) :
    Lexes (Token.Placed text 0 (byteLength text)) (Span.Within text) (lexFragment source base) := by
  cases lexed : lexFragment source base with
  | error error => exact lex_fault_within written lexed
  | ok tokens =>
      intro token inside
      have placed := fragment_placed written lexed token inside
      exact ⟨Nat.zero_le _, placed.forward, boundary_below placed.stop, placed.start, placed.stop, placed.parts⟩

def Sight.within (text : List Char) : Sight where
  seen := Token.Placed text 0 (byteLength text)
  marked := Span.Within text
  spans _ placed := placed_within placed
  ends _ placed := boundary_end_placed placed.stop
  empty := boundary_end_placed ⟨[], text, rfl, rfl⟩
  lexes _ _ _ _ placed template part := lexes_written (parts_written (placed.parts _ template) part)

theorem position_line_inside (text : List Char) (offset : Nat) :
    1 ≤ (positionIn text offset).line ∧ (positionIn text offset).line ≤ 1 + text.count '\n' := by
  have before := (List.take_sublist offset (utf8Bytes text)).count_le 10
  rw [line_feeds] at before
  rw [position_line]
  omega

/-- The error stands in the source and is reported at the position where it begins, in one of the lines. What a report
underlines begins where the error begins and is as long as the error is: at least one byte, in the source. At the end of
the source there is no byte left. -/
structure ParseError.PointsInside (source : String) (error : ParseError) : Prop where
  span : error.span.Within source.toList
  begins : error.position = positionAt source error.span.start
  firstLine : 1 ≤ error.position.line
  lastLine : error.position.line ≤ source.toList.count '\n' + 1
  underlined : error.label source = (error.span.start, max (error.span.stop - error.span.start) 1)
  starts : Boundary source.toList (error.label source).1
  inside : error.span.start ≠ source.utf8ByteSize →
    1 ≤ (error.label source).2 ∧ (error.label source).1 + (error.label source).2 ≤ source.utf8ByteSize
  atEnd : error.span.start = source.utf8ByteSize → error.label source = (source.utf8ByteSize, 1)

theorem located_points_inside {source : String} {error : SyntaxError} (within : error.span.Within source.toList) :
    (error.locate source).PointsInside source := by
  obtain ⟨low, high⟩ := position_line_inside source.toList error.span.start
  have size := source_size source
  have stops := within.below
  have forward := within.forward
  have underlined : (error.locate source).label source = (error.span.start, max (error.span.stop - error.span.start) 1) := by
    show (min error.span.start source.utf8ByteSize, min (max (error.span.stop - error.span.start) 1)
      (max (source.utf8ByteSize - min error.span.start source.utf8ByteSize) 1)) = _
    rw [Prod.mk.injEq]
    omega
  refine ⟨within, rfl, low, by rw [Nat.add_comm]; exact high, underlined, ?_, ?_, ?_⟩
  · rw [underlined]
    exact within.start
  · show error.span.start ≠ _ → _
    rw [underlined]
    dsimp only
    omega
  · show error.span.start = _ → _
    intro ended
    rw [underlined, Prod.mk.injEq]
    omega

theorem parse_within {text : List Char} {tokens : List Token}
    (placed : ∀ token ∈ tokens, token.Placed text 0 (byteLength text)) :
    (∀ error, parse tokens = .error error → error.span.Within text) ∧
      ∀ program, parse tokens = .ok program → ∀ skipped ∈ program.recovered, skipped.span.Within text := by
  obtain ⟨outcome, runs, tells⟩ := follows_program_body (of_levels_followed (.within text) maxNesting)
    ⟨0, false, false, false⟩ (.ofTokens tokens) rfl (sees_of_tokens placed)
  have result : programBody Grammar.full .top (.ofTokens tokens) = outcome := runs.sound
  unfold parse
  rw [result]
  cases outcome with
  | ok body after =>
      refine ⟨fun error failed => (by cases failed), ?_⟩
      rintro program ⟨⟩
      exact tells.2.recorded
  | error error after =>
      refine ⟨?_, fun program parsed => (by cases parsed)⟩
      rintro found ⟨⟩
      exact tells.1

theorem parse_fragment_within {text : List Char} {source : String} {base : Nat}
    (written : WrittenAt text source.toList base) :
    (∀ error, parseFragment source base = .error error → error.span.Within text) ∧
      ∀ program, parseFragment source base = .ok program → ∀ skipped ∈ program.recovered, skipped.span.Within text := by
  have lexes := lexes_written written
  constructor
  · intro error failed
    obtain unlexed | ⟨tokens, lexed, unparsed⟩ := except_bind_error failed
    · rw [unlexed] at lexes
      exact lexes
    · rw [lexed] at lexes
      exact (parse_within lexes).1 error unparsed
  · intro program read
    obtain ⟨tokens, lexed, parsed⟩ := except_bind_ok read
    rw [lexed] at lexes
    exact (parse_within lexes).2 program parsed

/-- Every error of a script that cannot be parsed, and every error that was skipped in one that can, points inside it. -/
theorem errors_point_inside (source : String) :
    (∀ error, parseSource source = .error error → error.PointsInside source) ∧
      ∀ program, parseSource source = .ok program →
        ∀ skipped ∈ program.recovered, skipped.span.Within source.toList := by
  have whole : WrittenAt source.toList source.toList 0 := ⟨[], [], by simp, rfl⟩
  obtain ⟨fails, succeeds⟩ := parse_fragment_within whole
  unfold parseSource
  cases parsed : parseFragment source 0 with
  | error error =>
      refine ⟨?_, fun program read => (by cases read)⟩
      rintro found ⟨⟩
      exact located_points_inside (fails error parsed)
  | ok program =>
      refine ⟨fun error failed => (by cases failed), ?_⟩
      rintro found ⟨⟩
      exact succeeds program parsed

def brokenTemplate : String := "`é$\x7b]\x7d`"

def brokenTemplateTokens : List Token :=
  [⟨.template [.text "é", .substitution "]" 5, .text ""], ⟨0, 8⟩, false⟩, ⟨.endOfFile, ⟨8, 8⟩, false⟩]

def brokenBlock : String := "\x7bé )\n;x\x7d"

def brokenBlockTokens : List Token :=
  [⟨.punct .lBrace, ⟨0, 1⟩, false⟩, ⟨.identifier "é", ⟨1, 3⟩, false⟩, ⟨.punct .rParen, ⟨4, 5⟩, false⟩,
    ⟨.punct .semi, ⟨6, 7⟩, true⟩, ⟨.identifier "x", ⟨7, 8⟩, false⟩, ⟨.punct .rBrace, ⟨8, 9⟩, false⟩,
    ⟨.endOfFile, ⟨9, 9⟩, false⟩]

theorem broken_template_fails :
    parse brokenTemplateTokens = .error ⟨.unexpected .expression (.punct .rBracket), ⟨5, 6⟩⟩ :=
  rfl

theorem broken_block_parses : parse brokenBlockTokens =
    .ok ⟨[⟨.block [⟨.expr ⟨.ident "x", ⟨7, 8⟩⟩, ⟨7, 8⟩⟩], ⟨0, 9⟩⟩], [⟨.unexpected (.mark .semi) (.punct .rParen), ⟨4, 5⟩⟩]⟩ :=
  rfl

theorem broken_texts_point_inside :
    (∃ error, parseSource brokenTemplate = .error error ∧ error.span = ⟨5, 6⟩ ∧ error.PointsInside brokenTemplate) ∧
      ∃ program, parseSource brokenBlock = .ok program ∧
        program.recovered = [⟨.unexpected (.mark .semi) (.punct .rParen), ⟨4, 5⟩⟩] ∧
        ∀ skipped ∈ program.recovered, skipped.span.Within brokenBlock.toList := by
  have template : lexFragment brokenTemplate 0 = .ok brokenTemplateTokens := by decide +kernel
  have block : lexFragment brokenBlock 0 = .ok brokenBlockTokens := by decide +kernel
  have failed : parseSource brokenTemplate = .error (SyntaxError.locate
      ⟨.unexpected .expression (.punct .rBracket), ⟨5, 6⟩⟩ brokenTemplate) := by
    unfold parseSource
    rw [parse_fragment_lexed template, broken_template_fails]
    rfl
  have parsed : parseSource brokenBlock = .ok ⟨[⟨.block [⟨.expr ⟨.ident "x", ⟨7, 8⟩⟩, ⟨7, 8⟩⟩], ⟨0, 9⟩⟩],
      [⟨.unexpected (.mark .semi) (.punct .rParen), ⟨4, 5⟩⟩]⟩ := by
    unfold parseSource
    rw [parse_fragment_lexed block, broken_block_parses]
    rfl
  exact ⟨⟨_, failed, rfl, (errors_point_inside brokenTemplate).1 _ failed⟩,
    ⟨_, parsed, rfl, (errors_point_inside brokenBlock).2 _ parsed⟩⟩

end ScriptSuite.Script
