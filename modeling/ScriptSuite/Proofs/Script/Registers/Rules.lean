import ScriptSuite.Proofs.Script.Registers.Runs

set_option autoImplicit false

namespace ScriptSuite.Script

def Lexes (seen : Token → Prop) (marked : Span → Prop) : Except SyntaxError (List Token) → Prop
  | .ok tokens => ∀ token ∈ tokens, seen token
  | .error error => marked error.span

theorem lexes_anything (lexed : Except SyntaxError (List Token)) : Lexes (fun _ => True) (fun _ => True) lexed := by
  cases lexed with
  | ok tokens => exact fun _ _ => trivial
  | error error => trivial

structure Sight where
  seen : Token → Prop
  marked : Span → Prop
  spans : ∀ token, seen token → marked token.span
  ends : ∀ token, seen token → seen ⟨.endOfFile, ⟨token.span.stop, token.span.stop⟩, false⟩
  empty : seen ⟨.endOfFile, ⟨0, 0⟩, false⟩
  lexes : ∀ token parts source offset, seen token → token.kind = .template parts →
    .substitution source offset ∈ parts → Lexes seen marked (lexFragment source offset)

def Sight.everything : Sight where
  seen _ := True
  marked _ := True
  spans _ _ := trivial
  ends _ _ := trivial
  empty := trivial
  lexes _ _ _ _ _ _ _ := lexes_anything _

structure Sight.Sees (sight : Sight) (state : State) : Prop where
  coming : ∀ token ∈ state.rest, sight.seen token
  ending : sight.seen ⟨.endOfFile, ⟨state.lastEnd, state.lastEnd⟩, false⟩
  recorded : ∀ error ∈ state.recovered, sight.marked error.span

def Sight.Tells {α : Type} (sight : Sight) (good : α → Prop) : Outcome α → Prop
  | .ok value after => good value ∧ sight.Sees after
  | .error error after => sight.marked error.span ∧ sight.Sees after

-- From registers that leave the levels, the parser has a run, which ends with them.
def Gives {α : Type} (sight : Sight) (levels : Nat) (parser : Parser α) (good : α → Prop) : Prop :=
  ∀ registers state, maxNesting - registers.depth = levels → sight.Sees state →
    ∃ outcome, Runs parser registers state outcome registers ∧ sight.Tells good outcome

def Follows {α : Type} (sight : Sight) (levels : Nat) (parser : Parser α) : Prop :=
  Gives sight levels parser fun _ => True

def WrittenParts (sight : Sight) (parts : List TemplatePart) : Prop :=
  ∀ source offset, .substitution source offset ∈ parts → Lexes sight.seen sight.marked (lexFragment source offset)

section

variable {α β : Type} {sight : Sight} {levels : Nat} {good : α → Prop} {better : β → Prop}

theorem Sight.Tells.mono {outcome : Outcome α} {other : α → Prop} (tells : sight.Tells good outcome)
    (weaker : ∀ value, good value → other value) : sight.Tells other outcome := by
  cases outcome with
  | ok value after => exact ⟨weaker value tells.1, tells.2⟩
  | error error after => exact tells

theorem Sight.Sees.peekAt {state : State} (sees : sight.Sees state) (distance : Nat) :
    sight.seen (state.peekAt distance) := by
  unfold State.peekAt
  cases found : state.rest[distance]? with
  | none => exact sees.ending
  | some token => exact sees.coming token (List.mem_of_getElem? found)

theorem Sight.Sees.advance {state : State} (sees : sight.Sees state) : sight.Sees state.advance := by
  cases state with
  | mk tokens lastEnd recovered =>
      cases tokens with
      | nil => exact sees
      | cons token rest =>
          unfold State.advance
          dsimp only
          split
          · exact sees
          · exact ⟨fun later inside => sees.coming later (.tail _ inside), sight.ends token (sees.coming token (.head _)),
              sees.recorded⟩

theorem Sight.Sees.record {state : State} (sees : sight.Sees state) {errors : List SyntaxError}
    (marked : ∀ error ∈ errors, sight.marked error.span) :
    sight.Sees { state with recovered := state.recovered ++ errors } :=
  ⟨sees.coming, sees.ending, fun error inside => (List.mem_append.mp inside).elim (sees.recorded error) (marked error)⟩

theorem skip_to_boundary_seen (depth lastEnd : Nat) (tokens : List Token) (coming : ∀ token ∈ tokens, sight.seen token)
    (ending : sight.seen ⟨.endOfFile, ⟨lastEnd, lastEnd⟩, false⟩) :
    (∀ token ∈ (skipToBoundary depth lastEnd tokens).1, sight.seen token) ∧
      sight.seen ⟨.endOfFile, ⟨(skipToBoundary depth lastEnd tokens).2, (skipToBoundary depth lastEnd tokens).2⟩, false⟩ := by
  induction tokens generalizing depth lastEnd with
  | nil => exact ⟨coming, ending⟩
  | cons token rest ih =>
      have later : ∀ next ∈ rest, sight.seen next := fun next inside => coming next (.tail _ inside)
      have behind := sight.ends token (coming token (.head _))
      have onward := fun deeper => ih deeper token.span.stop later behind
      unfold skipToBoundary
      split
      · exact ⟨coming, ending⟩
      · split
        · exact onward _
        · split
          · exact ⟨coming, ending⟩
          · split
            · exact onward _
            · split
              · exact ⟨later, behind⟩
              · split
                · exact ⟨coming, ending⟩
                · exact onward _

theorem sees_of_tokens {tokens : List Token} (seen : ∀ token ∈ tokens, sight.seen token) :
    sight.Sees (.ofTokens tokens) := by
  refine ⟨seen, ?_, fun _ inside => absurd inside List.not_mem_nil⟩
  cases tokens with
  | nil => exact sight.empty
  | cons token rest => exact sight.ends token (seen token (.head _))

theorem Gives.follows {parser : Parser α} (gives : Gives sight levels parser good) : Follows sight levels parser :=
  fun registers state level sees =>
    let ⟨outcome, runs, tells⟩ := gives registers state level sees
    ⟨outcome, runs, tells.mono fun _ _ => trivial⟩

theorem Gives.pure {value : α} (holds : good value) : Gives sight levels (Pure.pure value) good :=
  fun registers state _ sees => ⟨_, .pure value registers state, holds, sees⟩

theorem Gives.bind {first : Parser α} {second : α → Parser β} (one : Gives sight levels first good)
    (two : ∀ value, good value → Gives sight levels (second value) better) :
    Gives sight levels (first >>= second) better := by
  intro registers state level sees
  obtain ⟨outcome, run, tells⟩ := one registers state level sees
  cases outcome with
  | error error failed => exact ⟨_, .error run, tells⟩
  | ok value between =>
      obtain ⟨final, onward, told⟩ := two value tells.1 registers between level tells.2
      exact ⟨final, .ok run onward, told⟩

theorem gives_fail {error : SyntaxError} (marked : sight.marked error.span) :
    Gives sight levels (Parser.fail error) good :=
  fun registers state _ sees => ⟨_, .fail error registers state, marked, sees⟩

theorem gives_peek_at (distance : Nat) : Gives sight levels (peekAt distance) sight.seen :=
  fun registers state _ sees => ⟨_, .peekAt distance registers state, sees.peekAt distance, sees⟩

theorem gives_peek : Gives sight levels peek sight.seen :=
  gives_peek_at 0

theorem gives_advance : Gives sight levels advance sight.seen :=
  fun registers state _ sees => ⟨_, .advance registers state, sees.peekAt 0, sees.advance⟩

theorem gives_unexpected (wanted : Expectation) : Gives sight levels (unexpected wanted) good :=
  .bind gives_peek fun token seen => gives_fail (sight.spans token seen)

theorem gives_attempt {parser : Parser α} (follows : Follows sight levels parser) :
    Gives sight levels (Parser.attempt parser) fun
      | .ok _ => True
      | .error error => sight.marked error.span := by
  intro registers state level sees
  obtain ⟨outcome, run, tells⟩ := follows registers state level sees
  cases outcome with
  | ok value after => exact ⟨_, .attempted run, trivial, tells.2⟩
  | error error failed => exact ⟨_, .missed run, tells⟩

theorem Gives.allowingIn {parser : Parser α} (gives : Gives sight levels parser good) :
    Gives sight levels (allowingIn parser) good := fun registers state level sees =>
  let ⟨outcome, run, tells⟩ := gives { registers with noIn := false } state level sees
  ⟨outcome, run.allowingIn, tells⟩

theorem Gives.forbiddingIn {parser : Parser α} (gives : Gives sight levels parser good) :
    Gives sight levels (forbiddingIn parser) good := fun registers state level sees =>
  let ⟨outcome, run, tells⟩ := gives { registers with noIn := true } state level sees
  ⟨outcome, run.forbiddingIn, tells⟩

theorem Gives.inFunction {parser : Parser α} {isAsync isGenerator : Bool} (gives : Gives sight levels parser good) :
    Gives sight levels (inFunction isAsync isGenerator parser) good := fun registers state level sees =>
  let ⟨outcome, run, tells⟩ := gives ⟨registers.depth, false, isAsync, isGenerator⟩ state level sees
  ⟨outcome, run.inFunction isAsync isGenerator, tells⟩

theorem Gives.nested {parser production : Parser α} (entry : Entry levels parser production)
    (gives : Gives sight levels production good) : Gives sight (levels + 1) parser good := by
  intro registers state level sees
  obtain ⟨outcome, run, tells⟩ := gives { registers with depth := registers.depth + 1 } state (by dsimp only; omega) sees
  exact ⟨outcome, .nested entry level run, tells⟩

theorem gives_too_deep : Gives sight 0 (tooDeep : Parser α) good :=
  fun registers state level sees =>
    ⟨_, .tooDeep registers state (by omega), sight.spans _ (sees.peekAt 0), sees⟩

theorem Gives.onFragment {parser : Parser α} {tokens : List Token} (gives : Gives sight levels parser good)
    (seen : ∀ token ∈ tokens, sight.seen token) : Gives sight levels (onFragment parser tokens) good := by
  intro registers state level sees
  obtain ⟨inner, run, tells⟩ := gives { registers with noIn := false } (.ofTokens tokens) level (sees_of_tokens seen)
  refine ⟨_, run.onFragment state, ?_⟩
  cases inner with
  | error error failed => exact ⟨tells.1, sees⟩
  | ok value final =>
      unfold Outcome.outside
      dsimp only
      split
      · exact ⟨tells.1, sees.record tells.2.recorded⟩
      · exact ⟨sight.spans _ (tells.2.peekAt 0), sees⟩

namespace Follows

theorem pure (value : α) : Follows sight levels (Pure.pure value) :=
  Gives.pure trivial

theorem bind {first : Parser α} {second : α → Parser β} (one : Follows sight levels first)
    (two : ∀ value, Follows sight levels (second value)) : Follows sight levels (first >>= second) :=
  Gives.bind one fun value _ => two value

theorem given {first : Parser α} {second : α → Parser β} (one : Gives sight levels first good)
    (two : ∀ value, good value → Follows sight levels (second value)) : Follows sight levels (first >>= second) :=
  Gives.bind one two

theorem ite {condition : Prop} [Decidable condition] {yes no : Parser α} (one : Follows sight levels yes)
    (two : Follows sight levels no) : Follows sight levels (if condition then yes else no) := by
  split
  · exact one
  · exact two

theorem check {condition : Prop} [Decidable condition] {fault : Parser PUnit} {rest : PUnit → Parser α}
    (one : Follows sight levels fault) (two : ∀ value, Follows sight levels (rest value)) :
    Follows sight levels (if condition then fault >>= rest else rest ⟨⟩) :=
  .ite (.bind one two) (two _)

theorem allowingIn {parser : Parser α} (follows : Follows sight levels parser) :
    Follows sight levels (allowingIn parser) :=
  Gives.allowingIn follows

theorem forbiddingIn {parser : Parser α} (follows : Follows sight levels parser) :
    Follows sight levels (forbiddingIn parser) :=
  Gives.forbiddingIn follows

theorem inFunction {parser : Parser α} {isAsync isGenerator : Bool} (follows : Follows sight levels parser) :
    Follows sight levels (inFunction isAsync isGenerator parser) :=
  Gives.inFunction follows

theorem nested {parser production : Parser α} (entry : Entry levels parser production)
    (follows : Follows sight levels production) : Follows sight (levels + 1) parser :=
  Gives.nested entry follows

end Follows

theorem follows_fail {error : SyntaxError} (marked : sight.marked error.span) :
    Follows sight levels (Parser.fail error : Parser α) :=
  gives_fail marked

theorem follows_unexpected (wanted : Expectation) : Follows sight levels (unexpected wanted : Parser α) :=
  gives_unexpected wanted

theorem follows_too_deep : Follows sight 0 (tooDeep : Parser α) :=
  gives_too_deep

theorem follows_context : Follows sight levels Parser.context :=
  fun registers state _ sees => ⟨_, .context registers state, trivial, sees⟩

theorem follows_peek_at (distance : Nat) : Follows sight levels (peekAt distance) :=
  (gives_peek_at distance).follows

theorem follows_peek : Follows sight levels peek :=
  gives_peek.follows

theorem follows_advance : Follows sight levels advance :=
  gives_advance.follows

theorem follows_at_end : Follows sight levels atEnd :=
  fun registers state _ sees => ⟨_, .atEnd registers state, trivial, sees⟩

theorem follows_upcoming : Follows sight levels upcoming :=
  fun registers state _ sees => ⟨_, .upcoming registers state, trivial, sees⟩

theorem follows_is_arrow_ahead : Follows sight levels isArrowAhead :=
  fun registers state _ sees => ⟨_, .arrowAhead registers state, trivial, sees⟩

theorem follows_span_from (start : Nat) : Follows sight levels (spanFrom start) :=
  fun registers state _ sees => ⟨_, .spanFrom start registers state, trivial, sees⟩

theorem follows_record_error {error : SyntaxError} (marked : sight.marked error.span) :
    Follows sight levels (recordError error) :=
  fun registers state _ sees => ⟨_, .recordError error registers state, trivial, sees.record (by simpa using marked)⟩

theorem follows_synchronize : Follows sight levels synchronize :=
  fun registers state _ sees =>
    let ⟨coming, ending⟩ := skip_to_boundary_seen 0 state.lastEnd state.rest sees.coming sees.ending
    ⟨_, .synchronize registers state, trivial, coming, ending, sees.recorded⟩

theorem follows_spanned_from (start : Nat) (node : α) : Follows sight levels (spannedFrom start node) :=
  .bind (follows_span_from start) fun _ => .pure _

theorem follows_start_offset : Follows sight levels startOffset :=
  .bind follows_peek fun _ => .pure _

theorem follows_check (kind : TokenKind) : Follows sight levels (check kind) :=
  .bind follows_peek fun _ => .pure _

theorem follows_accept (kind : TokenKind) : Follows sight levels (accept kind) :=
  .bind (follows_check kind) fun _ => .ite (.bind follows_advance fun _ => .pure _) (.pure _)

theorem gives_expect (kind : TokenKind) (wanted : Expectation) : Gives sight levels (expect kind wanted) sight.seen :=
  .bind (follows_check kind) fun found _ => by
    split
    · exact gives_advance
    · exact gives_unexpected wanted

theorem follows_expect (kind : TokenKind) (wanted : Expectation) : Follows sight levels (expect kind wanted) :=
  (gives_expect kind wanted).follows

theorem follows_check_punct (mark : Punct) : Follows sight levels (checkPunct mark) :=
  follows_check _

theorem follows_check_keyword (word : Keyword) : Follows sight levels (checkKeyword word) :=
  follows_check _

theorem follows_check_word (word : String) : Follows sight levels (checkWord word) :=
  follows_check _

theorem follows_accept_punct (mark : Punct) : Follows sight levels (acceptPunct mark) :=
  follows_accept _

theorem follows_accept_keyword (word : Keyword) : Follows sight levels (acceptKeyword word) :=
  follows_accept _

theorem follows_accept_word (word : String) : Follows sight levels (acceptWord word) :=
  follows_accept _

theorem follows_expect_punct (mark : Punct) : Follows sight levels (expectPunct mark) :=
  follows_expect _ _

theorem follows_expect_keyword (word : Keyword) : Follows sight levels (expectKeyword word) :=
  follows_expect _ _

theorem follows_expect_word (word : String) : Follows sight levels (expectWord word) :=
  follows_expect _ _

theorem follows_identifier : Follows sight levels identifier :=
  .bind follows_peek fun _ => by
    split
    · exact .bind follows_advance fun _ => .pure _
    · exact follows_unexpected _

theorem follows_identifier_name : Follows sight levels identifierName :=
  .bind follows_peek fun _ => by
    split
    · exact .bind follows_advance fun _ => .pure _
    · exact .bind follows_advance fun _ => .pure _
    · exact .bind follows_advance fun _ => .pure _
    · exact follows_unexpected _

theorem follows_string_literal : Follows sight levels stringLiteral :=
  .bind follows_peek fun _ => by
    split
    · exact .bind follows_advance fun _ => .pure _
    · exact follows_unexpected _

theorem follows_consume_semicolon : Follows sight levels consumeSemicolon :=
  .bind (follows_accept_punct _) fun _ => .ite (.pure _) (.bind follows_peek fun _ => .ite (.pure _) (follows_unexpected _))

section

variable {σ : Type} {round : σ → Parser (Round σ α)} (rounds : ∀ start, Follows sight levels (round start))
include rounds

theorem follows_repeat_from (fuel : List Token) (start : σ) : Follows sight levels (repeatFrom round fuel start) := by
  induction fuel generalizing start with
  | nil =>
      refine .bind (rounds start) fun result => ?_
      cases result with
      | again next => exact follows_unexpected _
      | done value => exact .pure value
  | cons _ fuel ih =>
      refine .bind (rounds start) fun result => ?_
      cases result with
      | again next => exact ih next
      | done value => exact .pure value

theorem follows_repeat_rounds (start : σ) : Follows sight levels (repeatRounds round start) :=
  .bind follows_upcoming fun fuel => follows_repeat_from rounds fuel start

end

section

variable {item : Parser α} (follows : Follows sight levels item)
include follows

theorem follows_comma_round (close : Punct) (items : List α) : Follows sight levels (commaRound close item items) :=
  .bind (follows_check_punct _) fun _ => .ite (.pure _) (.bind follows fun _ =>
    .bind (follows_accept_punct _) fun _ => .ite (.pure _) (.pure _))

theorem follows_comma_list (close : Punct) : Follows sight levels (commaList close item) :=
  follows_repeat_rounds (follows_comma_round follows close) []

theorem follows_holed_round (close : Punct) (items : List (Option α)) :
    Follows sight levels (holedRound close item items) :=
  .bind (follows_check_punct _) fun _ => .ite (.pure _) (.bind (follows_accept_punct _) fun _ => .ite (.pure _)
    (.bind follows fun _ => .bind (follows_accept_punct _) fun _ => .ite (.pure _) (.pure _)))

theorem follows_holed_list (close : Punct) : Follows sight levels (holedList close item) :=
  follows_repeat_rounds (follows_holed_round follows close) []

theorem follows_names_round (items : List α) : Follows sight levels (namesRound item items) :=
  .bind (follows_accept_punct _) fun _ => .ite (.pure _) (.bind follows fun _ =>
    .bind (follows_check_punct _) fun _ => .ite (.pure _) (.bind (follows_expect_punct _) fun _ => .pure _))

theorem follows_names_list : Follows sight levels (namesList item) :=
  follows_repeat_rounds (follows_names_round follows) []

end

end

end ScriptSuite.Script
