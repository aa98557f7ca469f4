import ScriptSuite.Proofs.Script.Recovery
import ScriptSuite.Proofs.Script.Stepping

/-!
The body of a function whose brackets are well nested. Its block always reaches a closing brace, and this is the one
that ends the body if and only if no statement of the body was left inside braces that it had opened.
-/
set_option autoImplicit false

namespace ScriptSuite.Script

def endsLast : List Token → Prop
  | [] => True
  | token :: rest => (token.kind = .endOfFile → rest = []) ∧ endsLast rest

structure Framed (tokens : List Token) : Prop where
  fit : bracketsFit [] tokens
  ends : endsLast tokens

theorem ends_last_suffix (tokens rest : List Token) (suffix : rest <:+ tokens) (ends : endsLast tokens) :
    endsLast rest := by
  induction tokens with
  | nil =>
      rw [List.suffix_nil.mp suffix]
      trivial
  | cons token tail ih =>
      rcases List.suffix_cons_iff.mp suffix with whole | within
      · rw [whole]
        exact ends
      · exact ih within ends.2

theorem Framed.suffix {tokens rest : List Token} (framed : Framed tokens) (suffix : rest <:+ tokens) : Framed rest :=
  ⟨brackets_fit_suffix tokens rest suffix framed.fit, ends_last_suffix tokens rest suffix framed.ends⟩

theorem Framed.present {state : State} (framed : Framed state.rest) (owes : 1 ≤ owedBraces state.rest) :
    state.peek.kind ≠ .endOfFile := by
  intro ended
  cases state with
  | mk tokens lastEnd recovered =>
      cases tokens with
      | nil => exact absurd owes (by simp [owedBraces])
      | cons token rest =>
          have kind : token.kind = .endOfFile := ended
          have last : rest = [] := framed.ends.1 kind
          simp [owedBraces, kind, last] at owes

theorem owed_advance (state : State) (closing : state.peek.kind = .punct .rBrace) :
    owedBraces state.rest = owedBraces state.advance.rest + 1 := by
  have present : state.peek.kind ≠ .endOfFile := by simp [closing]
  obtain ⟨rest, tokens⟩ := peek_present state present
  rw [advance_rest state state.peek rest tokens present, tokens]
  exact owed_close state.peek rest closing

theorem skipping_exact (state : State) (error : SyntaxError) (framed : Framed state.rest)
    (owes : 1 ≤ owedBraces state.rest) :
    owedBraces (state.skipping error).rest = owedBraces state.rest := by
  have passed := skipping_passes state error
  have kept := passed.owed framed.fit
  have inside := (framed.suffix passed.suffix).present (by omega)
  rcases (skip_to_boundary_skipped [] state.lastEnd state.rest framed.fit).exact with ended | equal
  · obtain ⟨rest, tokens⟩ := peek_present (state.skipping error) inside
    exact absurd (ended (state.skipping error).peek (by
      show _ ∈ (state.skipping error).rest.head?
      rw [tokens]
      exact rfl)) inside
  · exact equal.symm

theorem starts_statement_plain (kind : TokenKind) (starts : startsStatement kind = true) :
    kind ≠ .punct .lBrace ∧ kind ≠ .punct .rBrace := by
  constructor <;> (rintro rfl; cases starts)

-- The token that is dropped where nothing else moves is a word that starts a statement.
theorem resuming_exact (state : State) (before : List Token) (error : SyntaxError) (suffix : state.rest <:+ before)
    (framed : Framed state.rest) (owes : 1 ≤ owedBraces state.rest) :
    owedBraces (state.resuming before error).rest = owedBraces state.rest := by
  have skipped := skipping_exact state error framed owes
  unfold State.resuming
  split
  · next stuck =>
      have passed := skipping_passes state error
      have stays : (state.skipping error).rest = state.rest :=
        passed.suffix.eq_of_length (by have := suffix.length_le; have := passed.suffix.length_le; omega)
      have present : (state.skipping error).peek.kind ≠ .endOfFile :=
        (framed.suffix passed.suffix).present (by omega)
      obtain ⟨rest, tokens⟩ := peek_present (state.skipping error) present
      rw [advance_rest _ _ rest tokens present, ← skipped, tokens]
      have boundary := skip_stays_at_boundary state.lastEnd (state.skipping error).peek rest (by
        rw [← tokens, stays]
        exact stays)
      rcases boundary with ended | closing | starts
      · exact absurd ended present
      · exact absurd closing stuck.2
      · have plain := starts_statement_plain _ starts
        exact (owed_plain _ rest plain.1 plain.2).symm
  · exact skipped

theorem resuming_shortens (start state : State) (error : SyntaxError) (suffix : state.rest <:+ start.rest)
    (notClosing : start.peek.kind ≠ .punct .rBrace) (present : start.peek.kind ≠ .endOfFile) :
    (state.resuming start.rest error).rest.length < start.rest.length := by
  have passed := (skipping_passes state error).suffix.trans suffix
  have bound := passed.length_le
  obtain ⟨rest, tokens⟩ := peek_present start present
  unfold State.resuming
  by_cases stays : (state.skipping error).rest.length = start.rest.length
  · have same : (state.skipping error).rest = start.peek :: rest := by
      rw [← tokens]
      exact passed.eq_of_length stays
    have first : (state.skipping error).peek = start.peek := by
      unfold State.peek State.peekAt
      rw [same, tokens]
      rfl
    rw [if_pos ⟨stays, by rw [first]; exact notClosing⟩]
    have shorter := advance_shortens (state.skipping error) (by rw [first]; exact present)
    omega
  · rw [if_neg (fun both => stays both.1)]
    omega

-- The statement that is read in `state`, or fails there, ends outside all braces that it has opened.
def LeavesNoBraceOpen (g : Grammar) (context : Context) (state : State) : Prop :=
  owedBraces (g.statement context state).state.rest = owedBraces state.rest

section

variable {g : Grammar} (closed : g.Closed)
include closed

theorem block_round_shortens (brace : Span) : RoundShortens (blockRound g brace) := by
  intro body context state next after step
  cases block_round_step step with
  | reads notClosing present statement read outcome => exact closed.statement.shortens context state statement after outcome
  | skips notClosing present error failed outcome =>
      have passed := closed.statement.closes context state
      rw [outcome] at passed
      exact resuming_shortens state failed error passed.suffix notClosing present

omit closed in
theorem resuming_records (state : State) (before : List Token) (error : SyntaxError) :
    error ∈ (state.resuming before error).recovered := by
  have recorded : error ∈ (state.skipping error).recovered := by simp [State.skipping]
  unfold State.resuming
  split
  · next stuck => exact (advance_passes _ stuck.2).recorded.subset recorded
  · exact recorded

omit closed in
theorem block_step_quiet {brace : Span} {body : Body} {context : Context} {state after : State} {value : Round Body (Body × Span)}
    (step : BlockStep g brace body context state value after) (notClosing : state.peek.kind ≠ .punct .rBrace)
    (clean : after.recovered = []) :
    state.peek.kind ≠ .endOfFile ∧
      ∃ statement, g.statement context state = .ok statement after ∧ value = .again (statement :: body) := by
  cases step with
  | ends closing => exact absurd closing notClosing
  | reads _ present statement read outcome => exact ⟨present, statement, outcome, rfl⟩
  | skips _ present error failed outcome =>
      have recorded := resuming_records failed state.rest error
      rw [clean] at recorded
      cases recorded

-- As long as a brace is owed, the round of a block neither ends the parse nor loses the error it skips.
theorem block_round_inside (brace : Span) (body : Body) (context : Context) (state : State)
    (framed : Framed state.rest) (owes : 1 ≤ owedBraces state.rest) (notClosing : state.peek.kind ≠ .punct .rBrace) :
    ∃ next after, blockRound g brace body context state = .ok (.again next) after ∧
      owedBraces after.rest = owedBraces (g.statement context state).state.rest ∧
      ∀ error failed, g.statement context state = .error error failed → error ∈ after.recovered := by
  have passed := closed.statement.closes context state
  rw [block_round_attempts g brace body context state notClosing (framed.present owes)]
  cases outcome : g.statement context state with
  | ok statement after => exact ⟨statement :: body, after, rfl, rfl, fun error failed failure => by cases failure⟩
  | error error failed =>
      rw [outcome] at passed
      have inner : Framed failed.rest := framed.suffix passed.suffix
      have still : 1 ≤ owedBraces failed.rest := by
        have kept := passed.owed framed.fit
        exact Nat.le_trans owes kept
      refine ⟨body, failed.resuming state.rest error, if_neg (inner.present still), ?_, ?_⟩
      · exact resuming_exact failed state.rest error passed.suffix inner still
      · intro other stuck failure
        cases failure
        exact resuming_records failed state.rest error

theorem block_ends (brace : Span) (body : Body) (context : Context) (state : State) (framed : Framed state.rest)
    (owes : 1 ≤ owedBraces state.rest) :
    ∃ value after, repeatRounds (blockRound g brace) body context state = .ok value after := by
  induction size : state.rest.length using Nat.strongRecOn generalizing body state with
  | _ size ih =>
      have shortens := block_round_shortens closed brace
      rw [repeat_rounds_unfold shortens]
      by_cases closing : state.peek.kind = .punct .rBrace
      · rw [block_round_closes g brace body context state closing]
        exact ⟨_, _, rfl⟩
      · obtain ⟨next, after, step, balance, -⟩ :=
          block_round_inside closed brace body context state framed owes closing
        have passed := round_closes_block closed brace body context state
        have shorter := shortens body context state next after step
        rw [step] at passed ⊢
        have still := passed.owed framed.fit
        exact ih after.rest.length (by omega) next after (framed.suffix passed.suffix) (by omega) rfl

theorem block_ends_balanced (brace : Span) (body : Body) (context : Context) (state : State)
    (framed : Framed state.rest) (owes : 1 ≤ owedBraces state.rest)
    (outside : ∀ read attempt, Reaches (blockRound g brace) context body state read attempt →
      attempt.peek.kind ≠ .punct .rBrace → LeavesNoBraceOpen g context attempt)
    (value : Body × Span) (after : State)
    (success : repeatRounds (blockRound g brace) body context state = .ok value after) :
    owedBraces state.rest = owedBraces after.rest + 1 := by
  induction size : state.rest.length using Nat.strongRecOn generalizing body state with
  | _ size ih =>
      have shortens := block_round_shortens closed brace
      rw [repeat_rounds_unfold shortens] at success
      by_cases closing : state.peek.kind = .punct .rBrace
      · rw [block_round_closes g brace body context state closing] at success
        cases success
        exact owed_advance state closing
      · obtain ⟨next, between, step, balance, -⟩ :=
          block_round_inside closed brace body context state framed owes closing
        have passed := round_closes_block closed brace body context state
        have shorter := shortens body context state next between step
        have here := outside body state (.here body state) closing
        rw [step] at passed success
        have balanced : owedBraces between.rest = owedBraces state.rest := balance.trans here
        rw [← balanced]
        exact ih between.rest.length (by omega) next between (framed.suffix passed.suffix) (by omega)
          (fun read attempt onward => outside read attempt (.again step onward)) success rfl

theorem attempt_seen (brace : Span) (body read : Body) (context : Context) (state attempt : State)
    (framed : Framed state.rest) (owes : 1 ≤ owedBraces state.rest)
    (reached : Reaches (blockRound g brace) context body state read attempt)
    (notClosing : attempt.peek.kind ≠ .punct .rBrace) (value : Body × Span) (after : State)
    (success : repeatRounds (blockRound g brace) body context state = .ok value after) :
    owedBraces state.rest ≤ owedBraces attempt.rest ∧
      owedBraces (g.statement context attempt).state.rest ≤ owedBraces after.rest + 1 ∧
      ∀ error failed, g.statement context attempt = .error error failed → error ∈ after.recovered := by
  have shortens := block_round_shortens closed brace
  have rounds := round_closes_block closed brace
  have before := reaches_passes rounds reached
  have kept := before.owed framed.fit
  have inner : Framed attempt.rest := framed.suffix before.suffix
  obtain ⟨next, between, step, balance, recorded⟩ :=
    block_round_inside closed brace read context attempt inner (by omega) notClosing
  have passed := rounds read context attempt
  rw [step] at passed
  rw [repeat_rounds_reaches shortens reached, repeat_rounds_unfold shortens, step] at success
  have rest := closes_repeat_rounds rounds next context between
  have finished : (repeatRounds (blockRound g brace) next context between).state = after := by
    dsimp only at success
    rw [success]
    rfl
  rw [finished] at rest
  refine ⟨kept, ?_, ?_⟩
  · rw [← balance]
    exact rest.owed (brackets_fit_suffix _ _ passed.suffix inner.fit)
  · intro error failed failure
    exact rest.recorded.subset (recorded error failed failure)

omit closed in
theorem program_round_run (body : Body) (context : Context) (state : State) :
    programRound g body context state =
      if state.peek.kind = .endOfFile then .ok (.done body.reverse) state
      else
        match g.statement context state with
        | .ok statement after => .ok (.again (statement :: body)) after
        | .error error after => .error error after := by
  unfold programRound
  rw [bind_run]
  by_cases ended : state.peek.kind = .endOfFile
  · have last : state.atEnd = true := beq_iff_eq.mpr ended
    simp only [atEnd, last, if_pos ended, if_true]
    rfl
  · have inside : state.atEnd = false := beq_eq_false_iff_ne.mpr ended
    simp only [atEnd, inside, if_neg ended, Bool.false_eq_true, if_false]
    rw [bind_run]
    cases g.statement context state with
    | ok statement after => rfl
    | error error after => rfl

theorem program_round_shortens : RoundShortens (programRound g) := by
  intro body context state next after step
  rw [program_round_run] at step
  by_cases ended : state.peek.kind = .endOfFile
  · rw [if_pos ended] at step
    cases step
  · rw [if_neg ended] at step
    cases outcome : g.statement context state with
    | error error failed =>
        rw [outcome] at step
        cases step
    | ok statement read =>
        rw [outcome] at step
        cases step
        exact closed.statement.shortens context state statement after outcome

-- A program that owes a brace to its context cannot be read to its end.
theorem program_fails (body : Body) (context : Context) (state : State) (framed : Framed state.rest)
    (owes : 1 ≤ owedBraces state.rest) :
    ∃ error after, repeatRounds (programRound g) body context state = .error error after := by
  induction size : state.rest.length using Nat.strongRecOn generalizing body state with
  | _ size ih =>
      have passed := closed.statement.closes context state
      rw [repeat_rounds_unfold (program_round_shortens closed), program_round_run,
        if_neg (framed.present owes)]
      cases outcome : g.statement context state with
      | error error after => exact ⟨error, after, rfl⟩
      | ok statement after =>
          rw [outcome] at passed
          have shorter := closed.statement.shortens context state statement after outcome
          have still := passed.owed framed.fit
          exact ih after.rest.length (by omega) (statement :: body) after (framed.suffix passed.suffix)
            (Nat.le_trans owes still) rfl

end

def Grammar.inTopFunction : Grammar :=
  Grammar.ofLevels (maxNesting - 2)

theorem full_closed : Grammar.full.Closed :=
  of_levels_closed maxNesting

theorem in_top_function_closed : Grammar.inTopFunction.Closed :=
  of_levels_closed (maxNesting - 2)

theorem formal_params_empty (g : Grammar) (context : Context) (lParen rParen : Token) (tokens : List Token)
    (lastEnd : Nat) (lParenKind : lParen.kind = .punct .lParen) (rParenKind : rParen.kind = .punct .rParen) :
    formalParams g context ⟨lParen :: rParen :: tokens, lastEnd, []⟩ = .ok [] ⟨tokens, rParen.span.stop, []⟩ := by
  have entered : expectPunct .lParen context ⟨lParen :: rParen :: tokens, lastEnd, []⟩ =
      .ok lParen ⟨rParen :: tokens, lParen.span.stop, []⟩ :=
    expect_present context lParen _ lastEnd [] _ _ lParenKind (by simp)
  have params : commaList .rParen (bindingOrRest g) context ⟨rParen :: tokens, lParen.span.stop, []⟩ =
      .ok [] ⟨rParen :: tokens, lParen.span.stop, []⟩ := by
    have round : commaRound .rParen (bindingOrRest g) [] context ⟨rParen :: tokens, lParen.span.stop, []⟩ =
        .ok (.done []) ⟨rParen :: tokens, lParen.span.stop, []⟩ := by
      unfold commaRound checkPunct
      rw [bind_run, check_run, peek_cons, beq_iff_eq.mpr rParenKind]
      rfl
    show repeatFrom _ (rParen :: tokens) [] context _ = _
    rw [repeatFrom, bind_run_ok round]
    rfl
  have left : expectPunct .rParen context ⟨rParen :: tokens, lParen.span.stop, []⟩ =
      .ok rParen ⟨tokens, rParen.span.stop, []⟩ :=
    expect_present context rParen _ _ [] _ _ rParenKind (by simp)
  unfold formalParams
  rw [bind_run_ok entered, bind_run_ok params, bind_run_ok left]
  rfl

theorem function_from_run (g : Grammar) (context : Context) (word name lParen rParen : Token) (label : String)
    (tokens : List Token) (lastEnd : Nat) (wordKind : word.kind = .keyword .functionWord)
    (nameKind : name.kind = .identifier label) (lParenKind : lParen.kind = .punct .lParen)
    (rParenKind : rParen.kind = .punct .rParen) :
    functionFrom g false true context ⟨word :: name :: lParen :: rParen :: tokens, lastEnd, []⟩ =
      match g.block .top ⟨tokens, rParen.span.stop, []⟩ with
      | .ok (body, _) after => .ok ⟨some label, [], body, false, false⟩ after
      | .error error after => .error error after := by
  have keyword : expectKeyword .functionWord context ⟨word :: name :: lParen :: rParen :: tokens, lastEnd, []⟩ =
      .ok word ⟨name :: lParen :: rParen :: tokens, word.span.stop, []⟩ :=
    expect_present context word _ lastEnd [] _ _ wordKind (by simp)
  have noStar : acceptPunct .star context ⟨name :: lParen :: rParen :: tokens, word.span.stop, []⟩ =
      .ok false ⟨name :: lParen :: rParen :: tokens, word.span.stop, []⟩ :=
    accept_other context name _ _ [] _ (by simp [nameKind])
  have named : declaredName true .functionName context ⟨name :: lParen :: rParen :: tokens, word.span.stop, []⟩ =
      .ok (some label) ⟨lParen :: rParen :: tokens, name.span.stop, []⟩ := by
    have read : identifier context ⟨name :: lParen :: rParen :: tokens, word.span.stop, []⟩ =
        .ok label ⟨lParen :: rParen :: tokens, name.span.stop, []⟩ := by
      unfold identifier
      rw [bind_run_ok (peek_run context name _ _ []), nameKind]
      dsimp only
      rw [bind_run_ok (advance_run context name _ _ [] (by simp [nameKind]))]
      rfl
    unfold declaredName
    rw [bind_run_ok (peek_run context name _ _ []), nameKind]
    dsimp only
    rw [bind_run_ok read]
    rfl
  have tail : functionTail g false false context ⟨lParen :: rParen :: tokens, name.span.stop, []⟩ =
      match g.block .top ⟨tokens, rParen.span.stop, []⟩ with
      | .ok (body, _) after => .ok ([], body) after
      | .error error after => .error error after := by
    unfold functionTail inFunction Parser.within Context.top
    rw [bind_run_ok (formal_params_empty g _ lParen rParen tokens _ lParenKind rParenKind), bind_run]
    dsimp only
    cases g.block ⟨false, false, false⟩ ⟨tokens, rParen.span.stop, []⟩ with
    | ok value after => rfl
    | error error after => rfl
  unfold functionFrom
  rw [bind_run_ok keyword, bind_run_ok noStar, bind_run_ok named, bind_run, tail]
  cases g.block .top ⟨tokens, rParen.span.stop, []⟩ with
  | ok value after => rfl
  | error error after => rfl

theorem function_statement_run (word name lParen rParen : Token) (label : String) (tokens : List Token) (lastEnd : Nat)
    (wordKind : word.kind = .keyword .functionWord) (nameKind : name.kind = .identifier label)
    (lParenKind : lParen.kind = .punct .lParen) (rParenKind : rParen.kind = .punct .rParen) :
    Grammar.full.statement .top ⟨word :: name :: lParen :: rParen :: tokens, lastEnd, []⟩ =
      match blockBody Grammar.inTopFunction .top ⟨tokens, rParen.span.stop, []⟩ with
      | .ok (body, _) after =>
          .ok ⟨.function ⟨some label, [], body, false, false⟩, ⟨word.span.start, max after.lastEnd word.span.start⟩⟩ after
      | .error error after => .error error after := by
  have level : Grammar.full.statement = statementBody (Grammar.ofLevels (maxNesting - 1)) := rfl
  have inner : (Grammar.ofLevels (maxNesting - 1)).block = blockBody Grammar.inTopFunction := rfl
  have notBlock : word.kind ≠ .punct .lBrace := by simp [wordKind]
  rw [level]
  unfold statementBody
  rw [bind_run_ok (peek_run _ word _ _ []), if_neg notBlock, wordKind]
  dsimp only [plainStatement]
  rw [bind_run, bind_run, function_from_run _ _ word name lParen rParen label tokens lastEnd wordKind nameKind lParenKind
    rParenKind, inner]
  cases blockBody Grammar.inTopFunction .top ⟨tokens, rParen.span.stop, []⟩ with
  | ok value after => rfl
  | error error after => rfl

-- The tokens around the body of a function without parameters that makes up a whole file.
structure FunctionFrame where
  label : String
  word : Token
  name : Token
  lParen : Token
  rParen : Token
  brace : Token
  close : Token
  ended : Token
  wordKind : word.kind = .keyword .functionWord
  nameKind : name.kind = .identifier label
  lParenKind : lParen.kind = .punct .lParen
  rParenKind : rParen.kind = .punct .rParen
  braceKind : brace.kind = .punct .lBrace
  closeKind : close.kind = .punct .rBrace
  endedKind : ended.kind = .endOfFile

namespace FunctionFrame

def around (frame : FunctionFrame) (body : List Token) : List Token :=
  frame.word :: frame.name :: frame.lParen :: frame.rParen :: frame.brace :: (body ++ [frame.close, frame.ended])

def entered (frame : FunctionFrame) (body : List Token) : State :=
  ⟨body ++ [frame.close, frame.ended], frame.brace.span.stop, []⟩

-- The states in which the block of the body attempts to read a statement.
def Attempts (frame : FunctionFrame) (body : List Token) (state : State) : Prop :=
  ∃ read, Reaches (blockRound Grammar.inTopFunction frame.brace.span) .top [] (frame.entered body) read state ∧
    state.peek.kind ≠ .punct .rBrace

theorem body_framed (frame : FunctionFrame) (body : List Token) (nested : wellNested [] body = true)
    (unended : ∀ token ∈ body, token.kind ≠ .endOfFile) : Framed (frame.entered body).rest := by
  constructor
  · refine brackets_fit_append [] body _ nested ?_
    simp [bracketsFit, closer?, frame.closeKind, frame.endedKind]
  · show endsLast (body ++ [frame.close, frame.ended])
    clear nested
    induction body with
    | nil => simp [endsLast, frame.closeKind]
    | cons token rest ih =>
        exact ⟨fun last => absurd last (unended token (List.mem_cons_self ..)),
          ih fun other inside => unended other (List.mem_cons_of_mem token inside)⟩

theorem owed_last (frame : FunctionFrame) : owedBraces [frame.close, frame.ended] = 1 := by
  simp [owedBraces, frame.closeKind, frame.endedKind]

theorem body_owes (frame : FunctionFrame) (body : List Token) (nested : wellNested [] body = true) :
    owedBraces (frame.entered body).rest = 1 := by
  have owed := owed_append [] body [frame.close, frame.ended] nested
  rw [frame.owed_last] at owed
  exact owed

-- Only behind its last brace the body owes none.
theorem body_over (frame : FunctionFrame) (awaited : List Punct) (body rest : List Token)
    (nested : wellNested awaited body = true) (suffix : rest <:+ body ++ [frame.close, frame.ended])
    (owes : owedBraces rest = 0) : rest <:+ [frame.ended] := by
  induction body generalizing awaited with
  | nil =>
      rcases List.suffix_cons_iff.mp suffix with whole | within
      · rw [whole] at owes
        exact absurd owes (by rw [frame.owed_last]; decide)
      · exact within
  | cons token tail ih =>
      rcases List.suffix_cons_iff.mp suffix with whole | within
      · have owed := owed_append awaited (token :: tail) [frame.close, frame.ended] nested
        have nothing : owedBraces (token :: tail ++ [frame.close, frame.ended]) = 0 := by
          rw [← owes, whole]
          rfl
        rw [frame.owed_last] at owed
        omega
      · obtain ⟨inner, nestedTail⟩ := well_nested_suffix awaited (token :: tail) tail nested (List.suffix_cons token tail)
        exact ih inner nestedTail within

theorem body_starts (frame : FunctionFrame) (body : List Token) :
    blockBody Grammar.inTopFunction .top
        ⟨frame.brace :: (body ++ [frame.close, frame.ended]), frame.rParen.span.stop, []⟩ =
      repeatRounds (blockRound Grammar.inTopFunction frame.brace.span) [] .top (frame.entered body) :=
  bind_run_ok (expect_present .top frame.brace _ _ [] _ _ frame.braceKind (by simp))

theorem parse_around (frame : FunctionFrame) (statements : Body) (span : Span) (tokens : List Token)
    (after : State)
    (success : repeatRounds (blockRound Grammar.inTopFunction frame.brace.span) [] .top (frame.entered tokens) =
      .ok (statements, span) after) :
    programBody Grammar.full .top (.ofTokens (frame.around tokens)) =
      repeatRounds (programRound Grammar.full)
        [⟨.function ⟨some frame.label, [], statements, false, false⟩,
          ⟨frame.word.span.start, max after.lastEnd frame.word.span.start⟩⟩] .top after := by
  have inside : (State.ofTokens (frame.around tokens)).peek.kind ≠ .endOfFile := by
    show frame.word.kind ≠ .endOfFile
    simp [frame.wordKind]
  have statement := function_statement_run frame.word frame.name frame.lParen frame.rParen frame.label
    (frame.brace :: (tokens ++ [frame.close, frame.ended])) frame.word.span.stop frame.wordKind frame.nameKind
    frame.lParenKind frame.rParenKind
  rw [frame.body_starts tokens, success] at statement
  have first : Grammar.full.statement .top (.ofTokens (frame.around tokens)) = _ := statement
  unfold programBody
  rw [repeat_rounds_unfold (program_round_shortens full_closed), program_round_run, if_neg inside, first]

theorem recovers (frame : FunctionFrame) (body : List Token) (nested : wellNested [] body = true)
    (unended : ∀ token ∈ body, token.kind ≠ .endOfFile)
    (outside : ∀ state, frame.Attempts body state → LeavesNoBraceOpen Grammar.inTopFunction .top state) :
    ∃ function span recovered, parse (frame.around body) = .ok ⟨[⟨.function function, span⟩], recovered⟩ ∧
      function.name = some frame.label ∧
      ∀ state error failed, frame.Attempts body state →
        Grammar.inTopFunction.statement .top state = .error error failed → error ∈ recovered := by
  have closed := in_top_function_closed
  have framed := frame.body_framed body nested unended
  have owes := frame.body_owes body nested
  obtain ⟨⟨statements, span⟩, after, success⟩ :=
    block_ends closed frame.brace.span [] .top (frame.entered body) framed (Nat.le_of_eq owes.symm)
  have balanced := block_ends_balanced closed frame.brace.span [] .top (frame.entered body) framed
    (Nat.le_of_eq owes.symm) (fun read attempt reached notClosing => outside attempt ⟨read, reached, notClosing⟩)
    (statements, span) after success
  have passed := closes_repeat_rounds (round_closes_block closed frame.brace.span) [] .top (frame.entered body)
  rw [success] at passed
  have remaining : after.rest <:+ [frame.ended] := frame.body_over [] body after.rest nested passed.suffix (by omega)
  have ended : after.peek.kind = .endOfFile := by
    unfold State.peek State.peekAt
    rcases List.suffix_cons_iff.mp remaining with last | nothing
    · rw [last]
      exact frame.endedKind
    · rw [List.suffix_nil.mp nothing]
      rfl
  refine ⟨⟨some frame.label, [], statements, false, false⟩,
    ⟨frame.word.span.start, max after.lastEnd frame.word.span.start⟩, after.recovered, ?_, rfl, ?_⟩
  · unfold parse
    rw [frame.parse_around statements span body after success,
      repeat_rounds_unfold (program_round_shortens full_closed), program_round_run, if_pos ended]
    rfl
  · intro state error failed attempt failure
    obtain ⟨read, reached, notClosing⟩ := attempt
    exact (attempt_seen closed frame.brace.span [] read .top (frame.entered body) state framed
      (Nat.le_of_eq owes.symm) reached notClosing (statements, span) after success).2.2 error failed failure

theorem aborts (frame : FunctionFrame) (body : List Token) (nested : wellNested [] body = true)
    (unended : ∀ token ∈ body, token.kind ≠ .endOfFile) (state : State) (attempt : frame.Attempts body state)
    (leaves : ¬ LeavesNoBraceOpen Grammar.inTopFunction .top state) :
    ∃ error, parse (frame.around body) = .error error := by
  have closed := in_top_function_closed
  have framed := frame.body_framed body nested unended
  have owes := frame.body_owes body nested
  obtain ⟨read, reached, notClosing⟩ := attempt
  obtain ⟨⟨statements, span⟩, after, success⟩ :=
    block_ends closed frame.brace.span [] .top (frame.entered body) framed (Nat.le_of_eq owes.symm)
  have rounds := round_closes_block closed frame.brace.span
  have before := reaches_passes rounds reached
  have read := closed.statement.closes .top state
  have more := read.owed (brackets_fit_suffix _ _ before.suffix framed.fit)
  obtain ⟨kept, behind, -⟩ := attempt_seen closed frame.brace.span [] _ .top (frame.entered body) state framed
    (Nat.le_of_eq owes.symm) reached notClosing (statements, span) after success
  have strictly : owedBraces state.rest ≠ owedBraces (Grammar.inTopFunction.statement .top state).state.rest :=
    fun same => leaves same.symm
  have passed := closes_repeat_rounds rounds [] .top (frame.entered body)
  rw [success] at passed
  obtain ⟨error, stuck, failure⟩ := program_fails full_closed [_] .top after
    (framed.suffix passed.suffix) (by omega)
  refine ⟨error, ?_⟩
  unfold parse
  rw [frame.parse_around statements span body after success, failure]

theorem plain_owes (frame : FunctionFrame) (body rest : List Token)
    (plain : ∀ token ∈ body, token.kind ≠ .punct .lBrace ∧ token.kind ≠ .punct .rBrace)
    (suffix : rest <:+ body ++ [frame.close, frame.ended]) : owedBraces rest ≤ 1 := by
  induction body generalizing rest with
  | nil =>
      rcases List.suffix_cons_iff.mp suffix with whole | within
      · exact whole ▸ Nat.le_of_eq frame.owed_last
      · rcases List.suffix_cons_iff.mp within with last | nothing
        · simp [last, owedBraces, frame.endedKind]
        · simp [List.suffix_nil.mp nothing, owedBraces]
  | cons token tail ih =>
      have later := fun rest => ih rest fun other inside => plain other (List.mem_cons_of_mem token inside)
      rcases List.suffix_cons_iff.mp suffix with whole | within
      · obtain ⟨notOpening, notClosing⟩ := plain token (List.mem_cons_self ..)
        rw [whole, owed_plain token _ notOpening notClosing]
        exact later _ List.suffix_rfl
      · exact later rest within

theorem plain_leaves (frame : FunctionFrame) (body : List Token) (nested : wellNested [] body = true)
    (unended : ∀ token ∈ body, token.kind ≠ .endOfFile)
    (plain : ∀ token ∈ body, token.kind ≠ .punct .lBrace ∧ token.kind ≠ .punct .rBrace) (state : State)
    (attempt : frame.Attempts body state) : LeavesNoBraceOpen Grammar.inTopFunction .top state := by
  have closed := in_top_function_closed
  have framed := frame.body_framed body nested unended
  obtain ⟨read, reached, -⟩ := attempt
  have before := reaches_passes (round_closes_block closed frame.brace.span) reached
  have after := closed.statement.closes .top state
  have first := before.owed framed.fit
  have second := after.owed (brackets_fit_suffix _ _ before.suffix framed.fit)
  have bound := frame.plain_owes body _ plain (after.suffix.trans before.suffix)
  rw [frame.body_owes body nested] at first
  unfold LeavesNoBraceOpen
  omega

end FunctionFrame

/-- Otherwise a closing brace inside the body is taken for the end of the function, and the true one ends the parse. -/
theorem function_body_recovers_iff (frame : FunctionFrame) (body : List Token) (nested : wellNested [] body = true)
    (unended : ∀ token ∈ body, token.kind ≠ .endOfFile) :
    ((∃ function span recovered, parse (frame.around body) = .ok ⟨[⟨.function function, span⟩], recovered⟩ ∧
        function.name = some frame.label ∧
        ∀ state error failed, frame.Attempts body state →
          Grammar.inTopFunction.statement .top state = .error error failed → error ∈ recovered) ↔
      ∀ state, frame.Attempts body state → LeavesNoBraceOpen Grammar.inTopFunction .top state) ∧
    ((∃ state, frame.Attempts body state ∧ ¬ LeavesNoBraceOpen Grammar.inTopFunction .top state) →
      ∃ error, parse (frame.around body) = .error error) := by
  refine ⟨⟨?_, frame.recovers body nested unended⟩, ?_⟩
  · rintro ⟨function, span, recovered, success, -, -⟩ state attempt
    by_cases outside : LeavesNoBraceOpen Grammar.inTopFunction .top state
    · exact outside
    · obtain ⟨error, failure⟩ := frame.aborts body nested unended state attempt outside
      rw [failure] at success
      cases success
  · rintro ⟨state, attempt, leaves⟩
    exact frame.aborts body nested unended state attempt leaves

-- `function f() { x = { a b } }` without its body.
def sampleFrame : FunctionFrame where
  label := "f"
  word := ⟨.keyword .functionWord, ⟨0, 8⟩, false⟩
  name := ⟨.identifier "f", ⟨9, 10⟩, false⟩
  lParen := ⟨.punct .lParen, ⟨10, 11⟩, false⟩
  rParen := ⟨.punct .rParen, ⟨11, 12⟩, false⟩
  brace := ⟨.punct .lBrace, ⟨13, 14⟩, false⟩
  close := ⟨.punct .rBrace, ⟨27, 28⟩, false⟩
  ended := ⟨.endOfFile, ⟨28, 28⟩, false⟩
  wordKind := rfl
  nameKind := rfl
  lParenKind := rfl
  rParenKind := rfl
  braceKind := rfl
  closeKind := rfl
  endedKind := rfl

-- `x = { a b }`, where the comma between the properties is missing.
def brokenObject : List Token :=
  [⟨.identifier "x", ⟨15, 16⟩, false⟩, ⟨.punct .eq, ⟨17, 18⟩, false⟩, ⟨.punct .lBrace, ⟨19, 20⟩, false⟩,
    ⟨.identifier "a", ⟨21, 22⟩, false⟩, ⟨.identifier "b", ⟨23, 24⟩, false⟩, ⟨.punct .rBrace, ⟨25, 26⟩, false⟩]

-- `a b; c`, where a semicolon is missing.
def missingSemicolon : List Token :=
  [⟨.identifier "a", ⟨15, 16⟩, false⟩, ⟨.identifier "b", ⟨17, 18⟩, false⟩, ⟨.punct .semi, ⟨18, 19⟩, false⟩,
    ⟨.identifier "c", ⟨20, 21⟩, false⟩]

-- The error of the one body ends the parse, that of the other one is recorded.
theorem broken_object_recovers_iff :
    (wellNested [] brokenObject = true ∧ (∀ token ∈ brokenObject, token.kind ≠ .endOfFile) ∧
      ((∃ function span recovered,
          parse (sampleFrame.around brokenObject) = .ok ⟨[⟨.function function, span⟩], recovered⟩ ∧
          function.name = some "f" ∧
          ∀ state error failed, sampleFrame.Attempts brokenObject state →
            Grammar.inTopFunction.statement .top state = .error error failed → error ∈ recovered) ↔
        ∀ state, sampleFrame.Attempts brokenObject state → LeavesNoBraceOpen Grammar.inTopFunction .top state)) ∧
    wellNested [] missingSemicolon = true ∧ (∀ token ∈ missingSemicolon, token.kind ≠ .endOfFile) ∧
      (∀ state, sampleFrame.Attempts missingSemicolon state → LeavesNoBraceOpen Grammar.inTopFunction .top state) ∧
      ∃ function span,
        parse (sampleFrame.around missingSemicolon) =
          .ok ⟨[⟨.function function, span⟩], [⟨.unexpected (.mark .semi) (.identifier "b"), ⟨17, 18⟩⟩]⟩ ∧
        function.name = some "f" ∧
        ∀ state error failed, sampleFrame.Attempts missingSemicolon state →
          Grammar.inTopFunction.statement .top state = .error error failed →
          error = ⟨.unexpected (.mark .semi) (.identifier "b"), ⟨17, 18⟩⟩ := by
  have leaves := sampleFrame.plain_leaves missingSemicolon (by decide) (by decide) (by decide)
  obtain ⟨function, span, recovered, success, named, recorded⟩ :=
    (function_body_recovers_iff sampleFrame missingSemicolon (by decide) (by decide)).1.mpr leaves
  have read : ∃ program, parse (sampleFrame.around missingSemicolon) = .ok program ∧
      program.recovered = [⟨.unexpected (.mark .semi) (.identifier "b"), ⟨17, 18⟩⟩] := ⟨_, rfl, rfl⟩
  obtain ⟨program, same, single⟩ := read
  obtain rfl := Except.ok.inj (success.symm.trans same)
  dsimp only at single
  subst single
  exact ⟨⟨by decide, by decide, (function_body_recovers_iff sampleFrame brokenObject (by decide) (by decide)).1⟩, by decide,
    by decide, leaves, function, span, success, named, fun state error failed attempt failure =>
      List.mem_singleton.mp (recorded state error failed attempt failure)⟩

theorem broken_object_ends_function_body :
    wellNested [] brokenObject = true ∧ (∀ token ∈ brokenObject, token.kind ≠ .endOfFile) ∧
      ¬ ∃ function span recovered,
        parse (sampleFrame.around brokenObject) = .ok ⟨[⟨.function function, span⟩], recovered⟩ := by
  refine ⟨by decide, by decide, ?_⟩
  rintro ⟨function, span, recovered, success⟩
  have failure : parse (sampleFrame.around brokenObject) =
      .error ⟨.unexpected .expression (.punct .rBrace), ⟨27, 28⟩⟩ := rfl
  rw [failure] at success
  cases success

end ScriptSuite.Script
