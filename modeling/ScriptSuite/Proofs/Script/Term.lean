import ScriptSuite.Script.Parser

set_option autoImplicit false

namespace ScriptSuite.Script

inductive MemberName where
  | identifier (name : String)
  | keyword (word : Keyword)
  | privateName (name : String)
deriving DecidableEq, Repr

namespace MemberName

def kind : MemberName → TokenKind
  | .identifier name => .identifier name
  | .keyword word => .keyword word
  | .privateName name => .privateName name

def text : MemberName → String
  | .identifier name => name
  | .keyword word => word.spelling
  | .privateName name => "#" ++ name

end MemberName

mutual

inductive Term where
  | name (text : String)
  | literal (value : Literal)
  | this
  | paren (inner : Term)
  | array (items : Elements)
  | member (object : Term) (name : MemberName) (chained : Bool)
  | index (object property : Term) (chained : Bool)
  | call (callee : Term) (args : Elements) (chained : Bool)
  | unary (op : UnaryOp) (operand : Term)
  | update (op : UpdateOp) (before : Bool) (target : Term)
  | binary (left : Term) (op : BinaryOp) (right : Term)
  | conditional (test yes no : Term)
  | assign (target : Term) (op : AssignOp) (value : Term)
  | sequence (first : Term) (others : Elements)

inductive Elements where
  | nil
  | hole (rest : Elements)
  | item (spread : Bool) (value : Term) (rest : Elements)

end

def UnaryOp.kind : UnaryOp → TokenKind
  | .neg => .punct .minus
  | .plus => .punct .plus
  | .not => .punct .bang
  | .bitNot => .punct .tilde
  | .typeOf => .keyword .typeOfWord
  | .void => .keyword .voidWord
  | .delete => .keyword .deleteWord

def UpdateOp.kind : UpdateOp → TokenKind
  | .increment => .punct .plusPlus
  | .decrement => .punct .minusMinus

def BinaryOp.kind : BinaryOp → TokenKind
  | .add => .punct .plus
  | .sub => .punct .minus
  | .mul => .punct .star
  | .div => .punct .slash
  | .mod => .punct .percent
  | .pow => .punct .starStar
  | .eq => .punct .eqEq
  | .notEq => .punct .notEq
  | .strictEq => .punct .eqEqEq
  | .strictNotEq => .punct .notEqEq
  | .lt => .punct .lt
  | .gt => .punct .gt
  | .ltEq => .punct .ltEq
  | .gtEq => .punct .gtEq
  | .shl => .punct .shl
  | .shr => .punct .shr
  | .uShr => .punct .uShr
  | .bitAnd => .punct .amp
  | .bitOr => .punct .pipe
  | .bitXor => .punct .caret
  | .and => .punct .ampAmp
  | .or => .punct .pipePipe
  | .nullish => .punct .questionQuestion
  | .isIn => .keyword .inWord
  | .instanceOf => .keyword .instanceOfWord

def AssignOp.kind : AssignOp → TokenKind
  | .assign => .punct .eq
  | .add => .punct .plusEq
  | .sub => .punct .minusEq
  | .mul => .punct .starEq
  | .div => .punct .slashEq
  | .mod => .punct .percentEq
  | .pow => .punct .starStarEq
  | .shl => .punct .shlEq
  | .shr => .punct .shrEq
  | .uShr => .punct .uShrEq
  | .bitAnd => .punct .ampEq
  | .bitOr => .punct .pipeEq
  | .bitXor => .punct .caretEq
  | .and => .punct .ampAmpEq
  | .or => .punct .pipePipeEq
  | .nullish => .punct .questionQuestionEq

def Literal.kind : Literal → TokenKind
  | .string value => .string value
  | .number value => .number value
  | .bigint literal => .bigint literal
  | .bool true => .keyword .trueWord
  | .bool false => .keyword .falseWord
  | .null => .keyword .nullWord
  | .regex pattern flags => .regex pattern flags

def BinaryOp.precedence (op : BinaryOp) : Nat :=
  ((binaryOp? false op.kind).map (·.2)).getD 0

theorem unary_op_of_kind (op : UnaryOp) : unaryOp? op.kind = some op := by
  cases op <;> rfl

theorem update_op_of_kind (op : UpdateOp) : updateOp? op.kind = some op := by
  cases op <;> rfl

theorem binary_op_of_kind (op : BinaryOp) : binaryOp? false op.kind = some (op, op.precedence) := by
  cases op <;> rfl

theorem assign_op_of_kind (op : AssignOp) : assignOp? op.kind = some op := by
  cases op <;> rfl

-- The more tightly a term holds together, the higher its rank.
def callRank : Nat := 17

def updateRank : Nat := 16

def unaryRank : Nat := 15

def binaryRank (precedence : Nat) : Nat := precedence + 2

def assignmentRank : Nat := 2

def sequenceRank : Nat := 1

def BinaryOp.leftRank (op : BinaryOp) : Nat :=
  if op = .pow then unaryRank else binaryRank op.precedence

def BinaryOp.rightRank (op : BinaryOp) : Nat :=
  binaryRank (rightPrecedence op op.precedence)

def Elements.isNil : Elements → Bool
  | .nil => true
  | _ => false

def Elements.hasHole : Elements → Bool
  | .nil => false
  | .hole _ => true
  | .item _ _ rest => rest.hasHole

def Elements.hasSpread : Elements → Bool
  | .nil => false
  | .hole rest => rest.hasSpread
  | .item spread _ rest => spread || rest.hasSpread

def linkKinds (chained : Bool) : List TokenKind :=
  if chained then [.punct .questionDot] else []

def spreadKinds (spread : Bool) : List TokenKind :=
  if spread then [.punct .ellipsis] else []

namespace Term

def rank : Term → Nat
  | .sequence .. => sequenceRank
  | .conditional .. | .assign .. => assignmentRank
  | .binary _ op _ => binaryRank op.precedence
  | .unary .. => unaryRank
  | .update _ before _ => if before then unaryRank else updateRank
  | _ => callRank

end Term

mutual

-- No part of the term stands where it would need parentheses. Words that are reserved are no names.
def Term.Fits : Term → Prop
  | .name text => text ≠ "async" ∧ text ≠ "await"
  | .literal _ => True
  | .this => True
  | .paren inner => inner.Fits
  | .array items => items.Fit
  | .member object _ _ => object.Fits ∧ callRank ≤ object.rank
  | .index object property _ => object.Fits ∧ callRank ≤ object.rank ∧ property.Fits
  | .call callee args _ => callee.Fits ∧ callRank ≤ callee.rank ∧ args.Fit ∧ args.hasHole = false
  | .unary _ operand => operand.Fits ∧ unaryRank ≤ operand.rank
  | .update _ before target => target.Fits ∧ (if before then unaryRank else callRank) ≤ target.rank
  | .binary left op right => left.Fits ∧ op.leftRank ≤ left.rank ∧ right.Fits ∧ op.rightRank ≤ right.rank
  | .conditional test yes no =>
      test.Fits ∧ binaryRank 1 ≤ test.rank ∧ yes.Fits ∧ assignmentRank ≤ yes.rank ∧
        no.Fits ∧ assignmentRank ≤ no.rank
  | .assign target _ value => target.Fits ∧ binaryRank 1 ≤ target.rank ∧ value.Fits ∧ assignmentRank ≤ value.rank
  | .sequence first others =>
      first.Fits ∧ assignmentRank ≤ first.rank ∧ others.Fit ∧ others.hasHole = false ∧ others.hasSpread = false ∧
        others.isNil = false

def Elements.Fit : Elements → Prop
  | .nil => True
  | .hole rest => rest.Fit
  | .item _ value rest => value.Fits ∧ assignmentRank ≤ value.rank ∧ rest.Fit

end

mutual

def Term.render : Term → List TokenKind
  | .name text => [.identifier text]
  | .literal value => [value.kind]
  | .this => [.keyword .thisWord]
  | .paren inner => .punct .lParen :: (inner.render ++ [.punct .rParen])
  | .array items => .punct .lBracket :: (items.render ++ [.punct .rBracket])
  | .member object name chained => object.render ++ [.punct (if chained then .questionDot else .dot), name.kind]
  | .index object property chained =>
      object.render ++ linkKinds chained ++ .punct .lBracket :: (property.render ++ [.punct .rBracket])
  | .call callee args chained =>
      callee.render ++ linkKinds chained ++ .punct .lParen :: (args.render ++ [.punct .rParen])
  | .unary op operand => op.kind :: operand.render
  | .update op true target => op.kind :: target.render
  | .update op false target => target.render ++ [op.kind]
  | .binary left op right => left.render ++ op.kind :: right.render
  | .conditional test yes no => test.render ++ .punct .question :: (yes.render ++ .punct .colon :: no.render)
  | .assign target op value => target.render ++ op.kind :: value.render
  | .sequence first others => first.render ++ .punct .comma :: others.render

def Elements.render : Elements → List TokenKind
  | .nil => []
  | .hole rest => .punct .comma :: rest.render
  | .item spread value rest =>
      spreadKinds spread ++ value.render ++ if rest.isNil then [] else .punct .comma :: rest.render

end

-- An operand of a higher rank than the operators is a level of its own, an item of a list is one in any case, and the
-- items of a sequence are read where the whole sequence is.
def operandLevels (rank depth : Nat) : Nat :=
  if unaryRank ≤ rank then depth + 1 else depth

def itemLevels (rank depth : Nat) : Nat :=
  operandLevels rank depth + 1

def wholeLevels (rank depth : Nat) : Nat :=
  if rank = sequenceRank then depth else itemLevels rank depth

mutual

def Term.depth : Term → Nat
  | .name _ => 0
  | .literal _ => 0
  | .this => 0
  | .paren inner => wholeLevels inner.rank inner.depth
  | .array items => items.depth
  | .member object _ _ => object.depth
  | .index object property _ => max object.depth (wholeLevels property.rank property.depth)
  | .call callee args _ => max callee.depth args.depth
  | .unary _ operand => operand.depth + 1
  | .update _ true target => target.depth + 1
  | .update _ false target => target.depth
  | .binary left _ right => max (operandLevels left.rank left.depth) (itemLevels right.rank right.depth)
  | .conditional test yes no =>
      max (operandLevels test.rank test.depth) (max (itemLevels yes.rank yes.depth) (itemLevels no.rank no.depth))
  | .assign target _ value => max (operandLevels target.rank target.depth) (itemLevels value.rank value.depth)
  | .sequence first others => max (itemLevels first.rank first.depth) others.depth

def Elements.depth : Elements → Nat
  | .nil => 0
  | .hole rest => rest.depth
  | .item _ value rest => max (itemLevels value.rank value.depth) rest.depth

end

mutual

def Term.height : Term → Nat
  | .name _ => 0
  | .literal _ => 0
  | .this => 0
  | .paren inner => inner.height + 1
  | .array items => items.height + 1
  | .member object _ _ => object.height + 1
  | .index object property _ => max object.height property.height + 1
  | .call callee args _ => max callee.height args.height + 1
  | .unary _ operand => operand.height + 1
  | .update _ _ target => target.height + 1
  | .binary left _ right => max left.height right.height + 1
  | .conditional test yes no => max test.height (max yes.height no.height) + 1
  | .assign target _ value => max target.height value.height + 1
  | .sequence first others => max first.height others.height + 1

def Elements.height : Elements → Nat
  | .nil => 0
  | .hole rest => rest.height
  | .item _ value rest => max value.height rest.height

end

def Term.levels (term : Term) : Nat :=
  wholeLevels term.rank term.depth

mutual

-- The node is the term, whatever the positions of its parts.
inductive Denotes : Term → Expr → Prop where
  | name (text : String) : Denotes (.name text) (.ident text)
  | literal (value : Literal) : Denotes (.literal value) (.literal value)
  | this : Denotes .this .this
  | paren {inner : Term} {value : Spanned Expr} (inside : Denotes inner value.node) :
      Denotes (.paren inner) (.paren value)
  | array {items : Elements} {values : List (Option (Spanned Expr))} (inside : DenoteAll items values) :
      Denotes (.array items) (.array values)
  | member {object : Term} {value : Spanned Expr} (name : MemberName) (chained : Bool)
      (left : Denotes object value.node) : Denotes (.member object name chained) (.member value (.ident name.text) chained)
  | index {object property : Term} {value key : Spanned Expr} (chained : Bool) (left : Denotes object value.node)
      (inside : Denotes property key.node) :
      Denotes (.index object property chained) (.member value (.computed key) chained)
  | call {callee : Term} {args : Elements} {value : Spanned Expr} {values : List (Spanned Expr)} (chained : Bool)
      (left : Denotes callee value.node) (inside : DenoteAll args (values.map some)) :
      Denotes (.call callee args chained) (.call value values chained)
  | unary {operand : Term} {value : Spanned Expr} (op : UnaryOp) (right : Denotes operand value.node) :
      Denotes (.unary op operand) (.unary op value)
  | update {target : Term} {value : Spanned Expr} (op : UpdateOp) (before : Bool) (inside : Denotes target value.node) :
      Denotes (.update op before target) (.update op before value)
  | binary {left right : Term} {one two : Spanned Expr} (op : BinaryOp) (first : Denotes left one.node)
      (second : Denotes right two.node) : Denotes (.binary left op right) (.binary one op two)
  | conditional {test yes no : Term} {one two three : Spanned Expr} (first : Denotes test one.node)
      (second : Denotes yes two.node) (third : Denotes no three.node) :
      Denotes (.conditional test yes no) (.conditional one two three)
  | assign {target value : Term} {one two : Spanned Expr} (op : AssignOp) (first : Denotes target one.node)
      (second : Denotes value two.node) : Denotes (.assign target op value) (.assign one op two)
  | sequence {first : Term} {others : Elements} {values : List (Spanned Expr)}
      (inside : DenoteAll (.item false first others) (values.map some)) :
      Denotes (.sequence first others) (.sequence values)

inductive DenoteAll : Elements → List (Option (Spanned Expr)) → Prop where
  | nil : DenoteAll .nil []
  | hole {rest : Elements} {values : List (Option (Spanned Expr))} (behind : DenoteAll rest values) :
      DenoteAll (.hole rest) (none :: values)
  | item {value : Term} {rest : Elements} {one : Spanned Expr} {values : List (Option (Spanned Expr))}
      (here : Denotes value one.node) (behind : DenoteAll rest values) :
      DenoteAll (.item false value rest) (some one :: values)
  | spread {value : Term} {rest : Elements} {one : Spanned Expr} {values : List (Option (Spanned Expr))} (span : Span)
      (here : Denotes value one.node) (behind : DenoteAll rest values) :
      DenoteAll (.item true value rest) (some ⟨.spread one, span⟩ :: values)

end

end ScriptSuite.Script
