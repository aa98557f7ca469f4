import ScriptSuite.Proofs.Script.Beginning
import ScriptSuite.Proofs.Script.Semicolon.Alike

/-!
Which semicolons end an expression or a declaration of variables. A tick behind the semicolon shows it: it is a token
that no statement begins with or goes on with, so that the tokens are only read if the tick is, and only the end of such
a statement reads it.
-/
set_option autoImplicit false

namespace ScriptSuite.Script

-- Nowhere in a text does it stand, where every token has a length.
def tick : Token :=
  ⟨.punct .at, ⟨0, 0⟩, false⟩

def Statement.closable : Statement → Bool
  | .expr _ | .var _ => true
  | _ => false

-- Before the tick that stands before the tokens `behind`, no other statement ends.
def readingTick (behind : List Token) (parser : Parser (Spanned Statement)) : Parser (Spanned Statement) := do
  let statement ← parser
  if (← upcoming) = tick :: behind then
    if statement.node.closable then
      let _ ← advance
      return statement
    else unexpected (.mark .semi)
  else return statement

-- The grammar whose statements read the tick, and do all else as they do without it.
def Grammar.ticking (behind : List Token) : Nat → Grammar
  | 0 => Grammar.exhausted
  | levels + 1 =>
      let g := Grammar.ticking behind levels
      { statement := readingTick behind (statementBody g)
        block := blockBody g
        bindingTarget := bindingTargetBody g
        assignment := assignmentBody g
        binary := binaryFrom g
        unary := unaryBody g
        newExpression := newExpressionBody g }

-- Behind `front`, the semicolon ends a statement that is an expression or declares variables: with the tick behind it,
-- the script is read to its end without an error. The statement stands in the tree: `plain_end_shown`.
def EndsPlainly (front : List Token) (semi : Token) (behind : List Token) : Prop :=
  ∃ body after, programBody (Grammar.ticking behind maxNesting) .top (.ofTokens (front ++ semi :: tick :: behind)) =
    .ok body after ∧ after.recovered = []

-- A semicolon before a name, in two streams of tokens: in one with the tick behind it, in the other without the tick.
-- There the semicolon is kept, or it is left out and the name stands on a new line.
structure Joint where
  semi : Token
  next : Token
  back : List Token
  kept : Bool
  isSemi : semi.kind = .punct .semi
  isName : ∃ name, next.kind = .identifier name

namespace Joint

variable (joint : Joint)

def sign : List Token :=
  tick :: joint.next :: joint.back

def onward : List Token :=
  if joint.kept then joint.next :: joint.back else joint.next.onNewLine :: joint.back

def tail : List Token :=
  if joint.kept then joint.semi :: joint.onward else joint.onward

inductive Before : List Token → List Token → Prop where
  | here {other : List Token} (ends : other = joint.tail) : Before (joint.semi :: joint.sign) other
  | further (token : Token) {rest other : List Token}
      (plain : token.kind = .identifier "let" → rest ≠ joint.semi :: joint.sign) (behind : Before rest other) :
      Before (token :: rest) (token :: other)

-- What is left to the two runs: both stand before the semicolon, or none of them comes to it any more.
inductive Tracks : List Token → List Token → Prop where
  | before {rest other : List Token} (before : joint.Before rest other) : Tracks rest other
  | level {rest : List Token} (free : ¬joint.sign <:+ rest) : Tracks rest rest

end Joint

inductive Sees : Token → Token → Prop where
  | same (kind : TokenKind) (one other : Span) (newline : Bool) : Sees ⟨kind, one, newline⟩ ⟨kind, other, newline⟩
  | apart (one other : Span) (newline : Bool) (name : String) :
      Sees ⟨.punct .semi, one, newline⟩ ⟨.identifier name, other, true⟩

theorem sees_refl (token : Token) : Sees token token :=
  .same token.kind token.span token.span token.newlineBefore

section

variable {joint : Joint}

theorem behind_free : ¬joint.sign <:+ joint.next :: joint.back := by
  intro suffix
  have longer := suffix.length_le
  rw [Joint.sign, List.length_cons] at longer
  omega

theorem free_tail {token : Token} {rest : List Token} (free : ¬joint.sign <:+ token :: rest) : ¬joint.sign <:+ rest :=
  fun suffix => free (suffix.trans (List.suffix_cons token rest))

theorem before_joint (front : List Token) (plain : ∀ last ∈ front.getLast?, last.kind ≠ .identifier "let") :
    joint.Before (front ++ joint.semi :: joint.sign) (front ++ joint.tail) := by
  induction front with
  | nil => exact .here rfl
  | cons token front ih =>
      cases front with
      | nil => exact .further token (fun isLet => absurd isLet (plain token rfl)) (.here rfl)
      | cons second front =>
          refine .further token (fun _ same => ?_) (ih (by rwa [List.getLast?_cons_cons] at plain))
          have length := congrArg List.length same
          simp at length
          omega

theorem tail_kept (kept : joint.kept = true) : joint.tail = joint.semi :: joint.onward := by
  rw [Joint.tail, if_pos kept]

theorem tail_dropped (dropped : joint.kept = false) : joint.tail = joint.next.onNewLine :: joint.back := by
  rw [Joint.tail, Joint.onward, dropped, if_neg Bool.false_ne_true, if_neg Bool.false_ne_true]

theorem onward_dropped (dropped : joint.kept = false) : joint.onward = joint.tail := by
  rw [Joint.tail, dropped, if_neg Bool.false_ne_true]

theorem semi_sees (state other : State) (semi : state.peek = joint.semi) (name : other.peek = joint.next.onNewLine) :
    Sees state.peek other.peek := by
  obtain ⟨word, isName⟩ := joint.isName
  have isSemi := joint.isSemi
  rw [semi, name, Token.onNewLine]
  generalize joint.semi = one at isSemi
  obtain ⟨kind, span, newline⟩ := one
  cases isSemi
  rw [isName]
  exact .apart ..

theorem tracks_sees {state other : State} (tracks : joint.Tracks state.rest other.rest) : Sees state.peek other.peek := by
  obtain ⟨rest, lastEnd, recovered⟩ := state
  obtain ⟨rest', lastEnd', recovered'⟩ := other
  cases tracks with
  | before before =>
      cases before with
      | further token plain behind => exact sees_refl token
      | here ends =>
          subst ends
          cases kept : joint.kept with
          | true =>
              rw [tail_kept kept]
              exact sees_refl joint.semi
          | false => exact semi_sees _ _ rfl (by rw [tail_dropped kept, peek_cons])
  | level free =>
      cases rest with
      | cons token rest => exact sees_refl token
      | nil => exact .same ..

-- Where the runs see different things, they stand before the semicolon.
theorem tracks_apart {state other : State} (tracks : joint.Tracks state.rest other.rest)
    (apart : state.peek.kind ≠ other.peek.kind) :
    state.rest = joint.semi :: joint.sign ∧ joint.kept = false ∧ other.rest = joint.onward := by
  obtain ⟨rest, lastEnd, recovered⟩ := state
  obtain ⟨rest', lastEnd', recovered'⟩ := other
  cases tracks with
  | before before =>
      cases before with
      | further token plain behind => exact absurd rfl apart
      | here ends =>
          subst ends
          cases kept : joint.kept with
          | true =>
              rw [tail_kept kept] at apart
              exact absurd rfl apart
          | false => exact ⟨rfl, rfl, (onward_dropped kept).symm⟩
  | level free => cases rest <;> exact absurd rfl apart

theorem advance_token (token : Token) (rest : List Token) (lastEnd : Nat) (recovered : List SyntaxError)
    (present : token.kind ≠ .endOfFile) :
    State.advance ⟨token :: rest, lastEnd, recovered⟩ = ⟨rest, token.span.stop, recovered⟩ :=
  advance_rest _ token rest rfl present

theorem tracks_advance {state other : State} (tracks : joint.Tracks state.rest other.rest)
    (same : state.peek.kind = other.peek.kind) :
    joint.Tracks state.advance.rest other.advance.rest ∨
      state.peek.kind = .punct .semi ∧ state.advance.rest = joint.sign ∧ other.advance.rest = joint.onward := by
  obtain ⟨rest, lastEnd, recovered⟩ := state
  obtain ⟨rest', lastEnd', recovered'⟩ := other
  have stays : ∀ token rest lastEnd recovered, token.kind = .endOfFile →
      State.advance ⟨token :: rest, lastEnd, recovered⟩ = ⟨token :: rest, lastEnd, recovered⟩ :=
    fun _ _ _ _ ended => advance_stays _ ended
  cases tracks with
  | before before =>
      cases before with
      | further token plain behind =>
          refine .inl ?_
          by_cases ended : token.kind = .endOfFile
          · rw [stays _ _ _ _ ended, stays _ _ _ _ ended]
            exact .before (.further token plain behind)
          · rw [advance_token _ _ _ _ ended, advance_token _ _ _ _ ended]
            exact .before behind
      | here ends =>
          subst ends
          have present : joint.semi.kind ≠ .endOfFile := by simp [joint.isSemi]
          cases kept : joint.kept with
          | true =>
              rw [tail_kept kept, advance_token _ _ _ _ present, advance_token _ _ _ _ present]
              exact .inr ⟨joint.isSemi, rfl, rfl⟩
          | false =>
              obtain ⟨name, isName⟩ := joint.isName
              rw [tail_dropped kept, peek_cons, peek_cons, joint.isSemi, Token.onNewLine, isName] at same
              cases same
  | level free =>
      refine .inl ?_
      cases rest with
      | nil => exact .level free
      | cons token rest =>
          by_cases ended : token.kind = .endOfFile
          · rw [stays _ _ _ _ ended, stays _ _ _ _ ended]
            exact .level free
          · rw [advance_token _ _ _ _ ended, advance_token _ _ _ _ ended]
            exact .level (free_tail free)

end

end ScriptSuite.Script
