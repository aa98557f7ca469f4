import ScriptSuite.Proofs.Script.Echo.Statement
import ScriptSuite.Proofs.Script.Lexer.Extending
import ScriptSuite.Proofs.Script.LineIndex

/-!
Two scripts one after the other. Where the first one ends in a semicolon and no error was skipped in it, its tokens are
those of the whole up to there, and no decision of the parser about them has looked behind the semicolon; the second one
is read as it is alone, further on in the text.
-/
set_option autoImplicit false

namespace ScriptSuite.Script

inductive StatementRun (g : Grammar) : State → Body → State → Prop where
  | done {state : State} (ended : state.peek.kind = .endOfFile) : StatementRun g state [] state
  | next {state between after : State} {statement : Spanned Statement} {body : Body}
      (inside : state.peek.kind ≠ .endOfFile) (read : g.statement .top state = .ok statement between)
      (onward : StatementRun g between body after) : StatementRun g state (statement :: body) after

section

variable {g : Grammar} {distance : Nat}

theorem run_of_rounds (closed : g.Closed) {before whole : Body} {state after : State}
    (success : repeatRounds (programRound g) before .top state = .ok whole after) :
    ∃ body, whole = before.reverse ++ body ∧ StatementRun g state body after := by
  induction size : state.rest.length using Nat.strongRecOn generalizing before state with
  | _ size ih =>
      rw [repeat_rounds_unfold (program_round_shortens closed), program_round_run] at success
      by_cases ended : state.peek.kind = .endOfFile
      · rw [if_pos ended] at success
        cases success
        exact ⟨[], by simp, .done ended⟩
      · rw [if_neg ended] at success
        cases outcome : g.statement .top state with
        | error error failed =>
            rw [outcome] at success
            cases success
        | ok statement between =>
            rw [outcome] at success
            have shorter := closed.statement.shortens .top state statement between outcome
            obtain ⟨body, same, run⟩ := ih between.rest.length (by omega) success rfl
            exact ⟨statement :: body, by simp [same], .next ended outcome run⟩

theorem rounds_of_run (closed : g.Closed) {body : Body} {state after : State} (run : StatementRun g state body after)
    (before : Body) : repeatRounds (programRound g) before .top state = .ok (before.reverse ++ body) after := by
  induction run generalizing before with
  | done ended =>
      rw [repeat_rounds_unfold (program_round_shortens closed), program_round_run, if_pos ended, List.append_nil]
  | next inside read onward ih =>
      rw [repeat_rounds_unfold (program_round_shortens closed), program_round_run, if_neg inside, read]
      dsimp only
      rw [ih, List.reverse_cons, List.append_assoc, List.singleton_append]

theorem parse_run (tokens : List Token) (program : Program) :
    parse tokens = .ok program ↔
      ∃ after, StatementRun Grammar.full (.ofTokens tokens) program.body after ∧ after.recovered = program.recovered := by
  unfold parse programBody
  constructor
  · intro success
    cases outcome : repeatRounds (programRound Grammar.full) [] .top (.ofTokens tokens) with
    | error error after =>
        rw [outcome] at success
        cases success
    | ok body after =>
        rw [outcome] at success
        cases success
        obtain ⟨read, rfl, run⟩ := run_of_rounds full_closed outcome
        exact ⟨after, run, rfl⟩
  · rintro ⟨after, run, same⟩
    rw [rounds_of_run full_closed run [], List.reverse_nil, List.nil_append]
    dsimp only
    rw [same]

theorem run_moved (alike : g.Echoes distance) {body : Body} {state after : State} (run : StatementRun g state body after)
    (anchored : AllAnchored state.rest) :
    StatementRun g (state.moved distance) (Movable.moved distance body) (after.moved distance) := by
  induction run with
  | done ended => exact .done (by rw [moved_peek, moved_token_kind, moved_eq_end]; exact ended)
  | @next state between after statement body inside read onward ih =>
      obtain ⟨runs, kept⟩ := alike.statement.shifts .top state anchored
      rw [read] at runs kept
      exact .next (by rw [moved_peek, moved_token_kind, ne_eq, moved_eq_end]; exact inside) runs (ih kept)

theorem run_balances (alike : g.Echoes distance) {body : Body} {state after : State}
    (run : StatementRun g state body after) (anchored : AllAnchored state.rest) (clean : after.recovered = []) :
    state.recovered = [] ∧ ∃ read, state.rest = read ++ after.rest ∧ closing 0 read = true := by
  induction run with
  | done => exact ⟨clean, [], rfl, rfl⟩
  | @next state between after statement body inside read onward ih =>
      have kept := (alike.statement.shifts .top state anchored).2
      rw [read] at kept
      obtain ⟨untouched, late, lateTokens, lateClosed⟩ := ih kept clean
      obtain ⟨start, early, earlyTokens, earlyClosed⟩ := alike.statement.balances anchored read untouched
      exact ⟨start, early ++ late, by rw [earlyTokens, lateTokens, List.append_assoc],
        closing_append 0 0 early late earlyClosed lateClosed⟩

theorem run_consumes (closed : g.Closed) {body : Body} {state after : State} (run : StatementRun g state body after) :
    Consumes state.rest after.rest ∧ after.peek.kind = .endOfFile := by
  induction run with
  | done ended => exact ⟨⟨[], rfl, by simp⟩, ended⟩
  | @next state between after statement body inside read onward ih =>
      obtain ⟨⟨late, lateTokens, latePresent⟩, ended⟩ := ih
      have passes := closed.statement.closes .top state
      rw [read] at passes
      obtain ⟨early, earlyTokens, earlyPresent⟩ := passes.consumed
      dsimp only [Outcome.state] at earlyTokens
      refine ⟨⟨early ++ late, by rw [earlyTokens, lateTokens, List.append_assoc], ?_⟩, ended⟩
      exact List.forall_mem_append.mpr ⟨earlyPresent, latePresent⟩

theorem run_before (alike : g.Echoes distance) {one two : Body} {front tail : List Token} {last : Token} {lastEnd : Nat}
    {after : State} {recovered : List SyntaxError} (run : StatementRun g ⟨front ++ [last], lastEnd, []⟩ one after)
    (clean : after.recovered = []) (left : front = [] ∨ Remainder front last) (isEnd : last.kind = .endOfFile)
    (calm : Calm tail)
    (behind : ∀ stop, ∃ final, StatementRun g ⟨tail, stop, []⟩ two final ∧ final.recovered = recovered) :
    ∃ final, StatementRun g ⟨front ++ tail, lastEnd, []⟩ (one ++ two) final ∧ final.recovered = recovered := by
  generalize here : (⟨front ++ [last], lastEnd, []⟩ : State) = state at run
  induction run generalizing front lastEnd with
  | done ended =>
      subst here
      rcases left with rfl | remainder
      · exact behind lastEnd
      · obtain ⟨token, rest, rfl⟩ := remainder.head
        exact absurd ended (remainder.present token (List.mem_cons_self ..))
  | @next state between after statement body inside read onward ih =>
      subst here
      rcases left with rfl | remainder
      · exact absurd isEnd inside
      · have kept := (alike.statement.shifts .top ⟨front ++ [last], lastEnd, []⟩ remainder.whole).2
        rw [read] at kept
        obtain ⟨untouched, -⟩ := run_balances alike onward kept clean
        obtain ⟨rest, stop, suffix, leaves, rfl, other⟩ := alike.statement.prolongs remainder calm read untouched
        have less : rest = [] ∨ Remainder rest last :=
          leaves.symm.imp (·.2) fun ends => remainder.behind suffix ends
        obtain ⟨final, onward, same⟩ := ih clean less rfl
        obtain ⟨token, early, rfl⟩ := remainder.head
        exact ⟨final, .next inside other onward, same⟩

theorem run_on_new_line (begins : g.Begins) {body : Body} {token : Token} {rest : List Token} {lastEnd : Nat}
    {recovered : List SyntaxError} {after : State} (run : StatementRun g ⟨token :: rest, lastEnd, recovered⟩ body after)
    (more : token.kind ≠ .endOfFile → rest ≠ []) :
    token.kind ≠ .keyword .elseWord ∧ ∀ stop, ∃ final,
      StatementRun g ⟨token.onNewLine :: rest, stop, recovered⟩ body final ∧ final.recovered = after.recovered := by
  cases run with
  | done ended =>
      have last : token.kind = .endOfFile := ended
      exact ⟨by simp [last], fun stop => ⟨_, .done last, rfl⟩⟩
  | next inside read onward =>
      cases rest with
      | nil => exact absurd rfl (more inside)
      | cons second rest =>
          have noElse := (begins.statement token inside .top (second :: rest) lastEnd lastEnd recovered _ _ (fun _ => rfl) read).1
          refine ⟨noElse, fun stop => ?_⟩
          have other := (begins.statement token inside .top (second :: rest) lastEnd stop recovered _ _
            (fun ended => absurd ended (List.cons_ne_nil _ _)) read).2
          exact ⟨after, .next inside other onward, rfl⟩

end

-- The tokens of a file: the last one is its end, and no other one is.
structure WholeFile (tokens : List Token) : Prop where
  ends : ∃ front last, tokens = front ++ [last] ∧ last.kind = .endOfFile ∧ ∀ token ∈ front, token.kind ≠ .endOfFile
  anchored : AllAnchored tokens

theorem lex_whole_file {source : String} {tokens : List Token} (lexed : lex source = .ok tokens) : WholeFile tokens := by
  obtain ⟨front, flag, same, present⟩ := (lex_accounts_for_source source tokens lexed).ends
  exact ⟨⟨front, _, same, rfl, present⟩, lexed_anchored (lexed_of_fragment lexed)⟩

theorem WholeFile.split {front : List Token} {last : Token} (whole : WholeFile (front ++ [last])) :
    last.kind = .endOfFile ∧ ∀ token ∈ front, token.kind ≠ .endOfFile := by
  obtain ⟨early, final, same, isEnd, present⟩ := whole.ends
  obtain ⟨rfl, one⟩ := List.append_inj' same rfl
  cases one
  exact ⟨isEnd, present⟩

theorem WholeFile.head {tokens : List Token} (whole : WholeFile tokens) :
    ∃ token rest, tokens = token :: rest ∧ (token.kind ≠ .endOfFile → rest ≠ []) := by
  obtain ⟨front, last, rfl, isEnd, present⟩ := whole.ends
  cases front with
  | nil => exact ⟨last, [], rfl, fun inside => absurd isEnd inside⟩
  | cons token front => exact ⟨token, front ++ [last], rfl, fun _ => by simp⟩

theorem run_remainder {g : Grammar} (closed : g.Closed) (alike : g.Echoes 0) {front : List Token} {last : Token}
    {lastEnd : Nat} {body : Body} {after : State} (run : StatementRun g ⟨front ++ [last], lastEnd, []⟩ body after)
    (clean : after.recovered = []) (whole : WholeFile (front ++ [last])) (ends : EndsStatement front) :
    Remainder front last := by
  obtain ⟨isEnd, present⟩ := whole.split
  obtain ⟨consumed, ended⟩ := run_consumes closed run
  obtain ⟨behind, rest, suffix⟩ := consumes_keeps_end isEnd consumed
  have none : behind = [] := by
    cases behind with
    | nil => rfl
    | cons token behind =>
        have first : after.peek = token := by simp [State.peek, State.peekAt, rest]
        exact absurd (first ▸ ended) (present token (suffix.subset (List.mem_cons_self ..)))
  obtain ⟨-, read, tokens, balanced⟩ := run_balances alike run whole.anchored clean
  rw [rest, none, List.nil_append] at tokens
  refine ⟨ends, present, fun token inside => whole.anchored token (List.mem_append_left _ inside), isEnd, 0, ?_⟩
  rw [List.append_cancel_right tokens]
  exact balanced

theorem run_on_next_line {tokens : List Token} {program : Program} (whole : WholeFile tokens)
    (parsed : parse tokens = .ok program) (distance : Nat) :
    Calm ((Movable.moved distance tokens).modifyHead Token.onNewLine) ∧ ∀ stop, ∃ final,
      StatementRun Grammar.full ⟨(Movable.moved distance tokens).modifyHead Token.onNewLine, stop, []⟩
        (program.moved distance).body final ∧ final.recovered = (program.moved distance).recovered := by
  obtain ⟨token, rest, rfl, more⟩ := whole.head
  obtain ⟨after, run, skipped⟩ := (parse_run _ program).mp parsed
  have moved : StatementRun Grammar.full ⟨token.moved distance :: Movable.moved distance rest, _, []⟩ _ _ :=
    run_moved (of_levels_echo maxNesting distance) run whole.anchored
  obtain ⟨noElse, onward⟩ := run_on_new_line (of_levels_begin maxNesting) moved fun present none =>
    more (fun isEnd => present ((moved_eq_end distance token.kind).mpr isEnd)) (List.map_eq_nil_iff.mp none)
  refine ⟨fun first head => ?_, fun stop => ?_⟩
  · cases head
    exact noElse
  · obtain ⟨final, anew, same⟩ := onward stop
    exact ⟨final, anew, same.trans (congrArg (Movable.moved distance) skipped)⟩

theorem parse_joined {front tokens : List Token} {last : Token} {one two : Program} (distance : Nat)
    (whole : WholeFile (front ++ [last])) (ends : EndsStatement front) (parsed : parse (front ++ [last]) = .ok one)
    (clean : one.recovered = []) (second : WholeFile tokens) (other : parse tokens = .ok two) :
    parse (front ++ (Movable.moved distance tokens).modifyHead Token.onNewLine) =
      .ok ⟨one.body ++ (two.moved distance).body, (two.moved distance).recovered⟩ := by
  obtain ⟨after, run, skipped⟩ := (parse_run _ one).mp parsed
  have remainder := run_remainder full_closed (of_levels_echo maxNesting 0) run (skipped.trans clean) whole ends
  obtain ⟨calm, behind⟩ := run_on_next_line second other distance
  obtain ⟨token, rest, rfl⟩ := remainder.head
  refine (parse_run _ _).mpr ?_
  exact run_before (of_levels_echo maxNesting 0) run (skipped.trans clean) (.inr remainder) remainder.isEnd calm behind

theorem parse_source_run (source : String) (program : Program) :
    parseSource source = .ok program ↔ ∃ tokens, lex source = .ok tokens ∧ parse tokens = .ok program := by
  have runs : parseSource source = (lex source >>= parse).mapError fun error => error.locate source := rfl
  rw [runs]
  cases lexed : lex source with
  | error error => simp [bind, Except.bind, Except.mapError]
  | ok tokens => cases parsed : parse tokens <;> simp [bind, Except.bind, Except.mapError, parsed]

def lastKind? (source : String) : Option TokenKind :=
  match lex source with
  | .ok tokens => tokens.dropLast.getLast?.map (·.kind)
  | .error _ => none

theorem last_kind_ends {source : String} {tokens : List Token} {kind : TokenKind} (lexed : lex source = .ok tokens)
    (ends : lastKind? source = some kind) :
    ∃ front final last, tokens = front ++ [final, last] ∧ final.kind = kind := by
  obtain ⟨front, last, rfl, -, -⟩ := (lex_whole_file lexed).ends
  unfold lastKind? at ends
  rw [lexed] at ends
  dsimp only at ends
  rw [List.dropLast_concat] at ends
  obtain ⟨final, found, same⟩ := Option.map_eq_some_iff.mp ends
  obtain ⟨early, rfl⟩ := List.getLast?_eq_some_iff.mp found
  exact ⟨early, final, last, by simp, same⟩

/-- A script behind one in which no error was skipped and that ends in a semicolon is read as it is alone, as far on in the
text as it stands. -/
theorem parse_concatenated (first second : String) (one two : Program) (parsed : parseSource first = .ok one)
    (clean : one.recovered = []) (ends : lastKind? first = some (.punct .semi))
    (plain : ['#', '!'].isPrefixOf second.toList = false) (other : parseSource second = .ok two) :
    parseSource (first ++ "\n" ++ second) =
      .ok ⟨one.body ++ (two.moved (first.utf8ByteSize + 1)).body, (two.moved (first.utf8ByteSize + 1)).recovered⟩ := by
  obtain ⟨tokens, lexed, read⟩ := (parse_source_run first one).mp parsed
  obtain ⟨others, otherLexed, otherRead⟩ := (parse_source_run second two).mp other
  obtain ⟨front, semi, last, rfl, mark⟩ := last_kind_ends lexed ends
  have size : byteLength first.toList = first.utf8ByteSize := by rw [byte_length_list, String.ofList_toList]
  have joined := lex_concatenated first second front others semi last lexed mark plain otherLexed
  have split : front ++ [semi, last] = front ++ [semi] ++ [last] := by simp
  rw [size, ← List.singleton_append, ← List.append_assoc] at joined
  rw [split] at lexed read
  refine (parse_source_run _ _).mpr ⟨_, joined, ?_⟩
  exact parse_joined _ (lex_whole_file lexed) ⟨front, semi, rfl, mark⟩ read clean (lex_whole_file otherLexed) otherRead

def callingText : String := "f(`é${[]}`);"

def callingTokens : List Token :=
  [⟨.identifier "f", ⟨0, 1⟩, false⟩, ⟨.punct .lParen, ⟨1, 2⟩, false⟩,
    ⟨.template [.text "é", .substitution "[]" 7, .text ""], ⟨2, 11⟩, false⟩, ⟨.punct .rParen, ⟨11, 12⟩, false⟩,
    ⟨.punct .semi, ⟨12, 13⟩, false⟩, ⟨.endOfFile, ⟨13, 13⟩, false⟩]

def callingProgram : Program :=
  ⟨[⟨.expr ⟨.call ⟨.ident "f", ⟨0, 1⟩⟩ [⟨.template ⟨["é", ""], [⟨.array [], ⟨7, 9⟩⟩]⟩, ⟨2, 11⟩⟩] false, ⟨0, 12⟩⟩,
    ⟨0, 13⟩⟩], []⟩

theorem calling_text_lexed : lex callingText = .ok callingTokens := by decide +kernel

theorem calling_text_parses : parseSource callingText = .ok callingProgram :=
  (parse_source_run callingText callingProgram).mpr ⟨callingTokens, calling_text_lexed, rfl⟩

def faultyText : String := "{ a b } `${[]}`"

def faultyTokens : List Token :=
  [⟨.punct .lBrace, ⟨0, 1⟩, false⟩, ⟨.identifier "a", ⟨2, 3⟩, false⟩, ⟨.identifier "b", ⟨4, 5⟩, false⟩,
    ⟨.punct .rBrace, ⟨6, 7⟩, false⟩, ⟨.template [.text "", .substitution "[]" 11, .text ""], ⟨8, 15⟩, false⟩,
    ⟨.endOfFile, ⟨15, 15⟩, false⟩]

def faultyProgram : Program :=
  ⟨[⟨.block [], ⟨0, 7⟩⟩, ⟨.expr ⟨.template ⟨["", ""], [⟨.array [], ⟨11, 13⟩⟩]⟩, ⟨8, 15⟩⟩, ⟨8, 15⟩⟩],
    [⟨.unexpected (.mark .semi) (.identifier "b"), ⟨4, 5⟩⟩]⟩

theorem faulty_text_parses : parseSource faultyText = .ok faultyProgram := by
  have lexed : lex faultyText = .ok faultyTokens := by decide +kernel
  exact (parse_source_run faultyText faultyProgram).mpr ⟨faultyTokens, lexed, rfl⟩

theorem faulty_text_behind_call :
    parseSource callingText = .ok callingProgram ∧ callingProgram.recovered = [] ∧
      lastKind? callingText = some (.punct .semi) ∧ ['#', '!'].isPrefixOf faultyText.toList = false ∧
      parseSource faultyText = .ok faultyProgram ∧
      parseSource (callingText ++ "\n" ++ faultyText) =
        .ok ⟨callingProgram.body ++
            [⟨.block [], ⟨14, 21⟩⟩, ⟨.expr ⟨.template ⟨["", ""], [⟨.array [], ⟨25, 27⟩⟩]⟩, ⟨22, 29⟩⟩, ⟨22, 29⟩⟩],
          [⟨.unexpected (.mark .semi) (.identifier "b"), ⟨18, 19⟩⟩]⟩ := by
  have ends : lastKind? callingText = some (.punct .semi) := by
    unfold lastKind?
    rw [calling_text_lexed]
    rfl
  have plain : ['#', '!'].isPrefixOf faultyText.toList = false := by decide +kernel
  have whole := parse_concatenated callingText faultyText callingProgram faultyProgram calling_text_parses rfl ends plain
    faulty_text_parses
  have size : callingText.utf8ByteSize = 13 := by decide +kernel
  rw [size] at whole
  exact ⟨calling_text_parses, rfl, ends, plain, faulty_text_parses, whole⟩

end ScriptSuite.Script
