import ScriptSuite.Proofs.Script.Recovery
import ScriptSuite.Script.Parser

/-!
Parsers with their context in registers: the depth, whether `in` is an operator, and the function around. A construct that
changes a register puts back what was there, whether what it runs in between succeeds or fails; a failed statement that a
block skips leaves its registers to the rest of the block.
-/
set_option autoImplicit false

namespace ScriptSuite.Script

structure Registers where
  depth : Nat
  noIn : Bool
  inAsync : Bool
  inGenerator : Bool
deriving DecidableEq, Repr

def Registers.context (registers : Registers) : Context :=
  ⟨registers.noIn, registers.inAsync, registers.inGenerator⟩

def Registers.grammar (registers : Registers) : Grammar :=
  .ofLevels (maxNesting - registers.depth)

inductive Entry (levels : Nat) : {α : Type} → Parser α → Parser α → Prop where
  | statement : Entry levels (Grammar.ofLevels (levels + 1)).statement (statementBody (.ofLevels levels))
  | block : Entry levels (Grammar.ofLevels (levels + 1)).block (blockBody (.ofLevels levels))
  | bindingTarget : Entry levels (Grammar.ofLevels (levels + 1)).bindingTarget (bindingTargetBody (.ofLevels levels))
  | assignment : Entry levels (Grammar.ofLevels (levels + 1)).assignment (assignmentBody (.ofLevels levels))
  | binary (precedence : Nat) :
      Entry levels ((Grammar.ofLevels (levels + 1)).binary precedence) (binaryFrom (.ofLevels levels) precedence)
  | unary : Entry levels (Grammar.ofLevels (levels + 1)).unary (unaryBody (.ofLevels levels))
  | newExpression : Entry levels (Grammar.ofLevels (levels + 1)).newExpression (newExpressionBody (.ofLevels levels))

theorem Entry.same {levels : Nat} {α : Type} {parser production : Parser α} (entry : Entry levels parser production) :
    parser = production := by
  cases entry <;> rfl

/-- `Runs parser before state outcome after`: run with the registers `before`, the parser comes to the outcome and leaves
the registers `after`. The depth is how many levels are used up of the grammar that the parser is over. -/
inductive Runs : {α : Type} → Parser α → Registers → State → Outcome α → Registers → Prop where
  | pure {α : Type} (value : α) (registers : Registers) (state : State) :
      Runs (Pure.pure value) registers state (.ok value state) registers
  | ok {α β : Type} {first : Parser α} {second : α → Parser β} {before middle after : Registers} {state between : State}
      {value : α} {outcome : Outcome β} (one : Runs first before state (.ok value between) middle)
      (two : Runs (second value) middle between outcome after) : Runs (first >>= second) before state outcome after
  | error {α β : Type} {first : Parser α} {second : α → Parser β} {before after : Registers} {state failed : State}
      {error : SyntaxError} (one : Runs first before state (.error error failed) after) :
      Runs (first >>= second) before state (.error error failed) after
  | fail {α : Type} (error : SyntaxError) (registers : Registers) (state : State) :
      Runs (Parser.fail error : Parser α) registers state (.error error state) registers
  | context (registers : Registers) (state : State) :
      Runs Parser.context registers state (.ok registers.context state) registers
  | peekAt (distance : Nat) (registers : Registers) (state : State) :
      Runs (peekAt distance) registers state (.ok (state.peekAt distance) state) registers
  | atEnd (registers : Registers) (state : State) : Runs atEnd registers state (.ok state.atEnd state) registers
  | upcoming (registers : Registers) (state : State) : Runs upcoming registers state (.ok state.rest state) registers
  | arrowAhead (registers : Registers) (state : State) :
      Runs isArrowAhead registers state (.ok (arrowAhead state.rest) state) registers
  | advance (registers : Registers) (state : State) :
      Runs advance registers state (.ok state.peek state.advance) registers
  | spanFrom (start : Nat) (registers : Registers) (state : State) :
      Runs (spanFrom start) registers state (.ok ⟨start, max state.lastEnd start⟩ state) registers
  | recordError (error : SyntaxError) (registers : Registers) (state : State) :
      Runs (recordError error) registers state (.ok () { state with recovered := state.recovered ++ [error] }) registers
  | synchronize (registers : Registers) (state : State) :
      Runs synchronize registers state (.ok () { state with
        rest := (skipToBoundary 0 state.lastEnd state.rest).1
        lastEnd := (skipToBoundary 0 state.lastEnd state.rest).2 }) registers
  | attempted {α : Type} {parser : Parser α} {before after : Registers} {state between : State} {value : α}
      (run : Runs parser before state (.ok value between) after) :
      Runs (Parser.attempt parser) before state (.ok (.ok value) between) after
  | missed {α : Type} {parser : Parser α} {before after : Registers} {state failed : State} {error : SyntaxError}
      (run : Runs parser before state (.error error failed) after) :
      Runs (Parser.attempt parser) before state (.ok (.error error) failed) after
  | allowingIn {α : Type} {parser : Parser α} {before after : Registers} {state : State} {outcome : Outcome α}
      (run : Runs parser { before with noIn := false } state outcome after) :
      Runs (allowingIn parser) before state outcome { after with noIn := before.noIn }
  | forbiddingIn {α : Type} {parser : Parser α} {before after : Registers} {state : State} {outcome : Outcome α}
      (run : Runs parser { before with noIn := true } state outcome after) :
      Runs (forbiddingIn parser) before state outcome { after with noIn := before.noIn }
  | inFunction {α : Type} {parser : Parser α} {before after : Registers} {state : State} {outcome : Outcome α}
      (isAsync isGenerator : Bool)
      (run : Runs parser ⟨before.depth, false, isAsync, isGenerator⟩ state outcome after) :
      Runs (inFunction isAsync isGenerator parser) before state outcome
        ⟨after.depth, before.noIn, before.inAsync, before.inGenerator⟩
  | nested {α : Type} {levels : Nat} {parser production : Parser α} {before after : Registers} {state : State}
      {outcome : Outcome α} (entry : Entry levels parser production) (left : maxNesting - before.depth = levels + 1)
      (run : Runs production { before with depth := before.depth + 1 } state outcome after) :
      Runs parser before state outcome { after with depth := after.depth - 1 }
  | tooDeep {α : Type} (registers : Registers) (state : State) (deepest : maxNesting ≤ registers.depth) :
      Runs (tooDeep : Parser α) registers state (.error ⟨.nestingTooDeep, state.peek.span⟩ state) registers
  | onFragment {α : Type} {parser : Parser α} {before after : Registers} {tokens : List Token} {inner : Outcome α}
      (state : State) (run : Runs parser { before with noIn := false } (.ofTokens tokens) inner after) :
      Runs (onFragment parser tokens) before state (inner.outside state) before

section

variable {α : Type} {parser : Parser α} {before after : Registers} {state : State} {outcome : Outcome α}

/-- Errors leave the registers as they were found, as successes do. -/
theorem Runs.restores (runs : Runs parser before state outcome after) : after = before := by
  induction runs with
  | ok one two first second => exact second.trans first
  | error one first => exact first
  | attempted run ih => exact ih
  | missed run ih => exact ih
  | allowingIn run ih => rw [ih]
  | forbiddingIn run ih => rw [ih]
  | inFunction isAsync isGenerator run ih => rw [ih]
  | nested entry left run ih =>
      rw [ih]
      rfl
  | _ => rfl

/-- The outcome is that of the parser in the context which the registers hold. -/
theorem Runs.sound (runs : Runs parser before state outcome after) : parser before.context state = outcome := by
  induction runs with
  | ok one two first second =>
      rw [bind_run, first]
      rw [one.restores] at second
      exact second
  | error one first => rw [bind_run, first]
  | attempted run ih =>
      unfold Parser.attempt
      rw [ih]
  | missed run ih =>
      unfold Parser.attempt
      rw [ih]
  | allowingIn run ih => exact ih
  | forbiddingIn run ih => exact ih
  | inFunction isAsync isGenerator run ih => exact ih
  | nested entry left run ih =>
      rw [entry.same]
      exact ih
  | onFragment state run ih =>
      rw [on_fragment_run]
      exact congrArg (Outcome.outside state) ih
  | _ => rfl

def State.behind (earlier : List SyntaxError) (state : State) : State :=
  { state with recovered := earlier ++ state.recovered }

def Outcome.behind (earlier : List SyntaxError) : Outcome α → Outcome α
  | .ok value after => .ok value (after.behind earlier)
  | .error failure after => .error failure (after.behind earlier)

theorem advance_behind (earlier : List SyntaxError) (state : State) :
    (state.behind earlier).advance = state.advance.behind earlier := by
  cases state with
  | mk tokens lastEnd recovered =>
      cases tokens with
      | nil => rfl
      | cons token rest =>
          unfold State.advance State.behind
          dsimp only
          split <;> rfl

theorem Runs.behind (earlier : List SyntaxError) (runs : Runs parser before state outcome after) :
    Runs parser before (state.behind earlier) (outcome.behind earlier) after := by
  induction runs with
  | ok one two first second => exact .ok first second
  | error one first => exact .error first
  | advance registers state =>
      rw [Outcome.behind, ← advance_behind]
      exact .advance registers (state.behind earlier)
  | recordError error registers state =>
      have same : ({ state with recovered := state.recovered ++ [error] } : State).behind earlier =
          { state.behind earlier with recovered := (state.behind earlier).recovered ++ [error] } := by
        simp [State.behind]
      rw [Outcome.behind, same]
      exact .recordError error registers _
  | attempted run ih => exact .attempted ih
  | missed run ih => exact .missed ih
  | allowingIn run ih => exact .allowingIn ih
  | forbiddingIn run ih => exact .forbiddingIn ih
  | inFunction isAsync isGenerator run ih => exact .inFunction isAsync isGenerator ih
  | nested entry left run ih => exact .nested entry left ih
  | @onFragment _ _ _ _ _ inner state run ih =>
      have same : (inner.outside state).behind earlier = inner.outside (state.behind earlier) := by
        cases inner with
        | error error failed => rfl
        | ok value final =>
            unfold Outcome.outside
            dsimp only
            split
            · simp [Outcome.behind, State.behind]
            · rfl
      rw [same]
      exact .onFragment _ run
  | pure value registers state => exact .pure value registers _
  | fail error registers state => exact .fail error registers _
  | context registers state => exact .context registers _
  | peekAt distance registers state => exact .peekAt distance registers _
  | atEnd registers state => exact .atEnd registers _
  | upcoming registers state => exact .upcoming registers _
  | arrowAhead registers state => exact .arrowAhead registers _
  | spanFrom start registers state => exact .spanFrom start registers _
  | synchronize registers state => exact .synchronize registers _
  | tooDeep registers state deepest => exact .tooDeep registers _ deepest

end

end ScriptSuite.Script
