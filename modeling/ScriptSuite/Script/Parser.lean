import ScriptSuite.Script.Diagnostic
import ScriptSuite.Script.Parser.Statement

/-!
Whole scripts. Errors at the top level, and errors that leave a block unclosed, end the parse; errors inside
blocks are skipped and recorded.
-/
set_option autoImplicit false

namespace ScriptSuite.Script

def Grammar.ofLevels : Nat → Grammar
  | 0 => Grammar.exhausted
  | levels + 1 =>
      let g := Grammar.ofLevels levels
      { statement := statementBody g
        block := blockBody g
        bindingTarget := bindingTargetBody g
        assignment := assignmentBody g
        binary := binaryFrom g
        unary := unaryBody g
        newExpression := newExpressionBody g }

def Grammar.full : Grammar :=
  Grammar.ofLevels maxNesting

def programRound (g : Grammar) (body : Body) : Parser (Round Body Body) := do
  if ← atEnd then return .done body.reverse
  return .again ((← g.statement) :: body)

def programBody (g : Grammar) : Parser Body :=
  repeatRounds (programRound g) []

def State.ofTokens (tokens : List Token) : State :=
  ⟨tokens, (tokens.head?.map (·.span.stop)).getD 0, []⟩

def Context.top : Context :=
  ⟨false, false, false⟩

def parse (tokens : List Token) : Except SyntaxError Program :=
  match programBody Grammar.full Context.top (State.ofTokens tokens) with
  | .ok body state => .ok ⟨body, state.recovered⟩
  | .error error _ => .error error

def parseFragment (source : String) (base : Nat) : Except SyntaxError Program := do
  parse (← lexFragment source base)

def parseSource (source : String) : Except ParseError Program :=
  (parseFragment source 0).mapError fun error => error.locate source

end ScriptSuite.Script
