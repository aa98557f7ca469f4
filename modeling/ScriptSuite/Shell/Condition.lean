import ScriptSuite.FileSystem.Access
import ScriptSuite.Shell.Printing
import ScriptSuite.Text.Blank

set_option autoImplicit false

namespace ScriptSuite.Shell

open FileSystem Text

def isLink (disk : Disk) (path : Path) : Bool :=
  match disk.reach false path with
  | .ok (.arrived place) =>
      match disk.at? place with
      | some (.link _) => true
      | _ => false
  | _ => false

def isExecutable (disk : Disk) (path : Path) : Bool :=
  match disk.node path with
  | .ok (.file _ mode) => mode &&& 0o111 != 0
  | .ok (.directory _) => true
  | _ => false

def hasContent (disk : Disk) (path : Path) : Bool :=
  match disk.node path with
  | .ok (.file content _) => !content.isEmpty
  | .ok (.directory _) => true
  | _ => false

inductive ConditionError where
  | unexpectedOperator (word : String)
  | missingArgument (operator : String)
  | missingParenthesis
  | notANumber (text : String)
  | missingBracket
deriving DecidableEq, Repr

def ConditionError.message : ConditionError → String
  | .unexpectedOperator word => word ++ ": unexpected operator"
  | .missingArgument operator => operator ++ ": argument expected"
  | .missingParenthesis => "closing paren expected"
  | .notANumber text => "Illegal number: " ++ text
  | .missingBracket => "missing ]"

def unaryOperators : List String :=
  ["-b", "-c", "-d", "-e", "-f", "-g", "-h", "-k", "-n", "-p", "-r", "-s", "-t", "-u", "-w", "-x", "-z", "-G", "-L",
    "-O", "-S"]

def binaryOperators : List String :=
  ["=", "!=", "<", ">", "-eq", "-ne", "-ge", "-gt", "-le", "-lt", "-nt", "-ot", "-ef"]

def unaryCondition (disk : Disk) (operator argument : String) : Bool :=
  match operator with
  | "-n" => argument != ""
  | "-z" => argument == ""
  | "-f" => disk.isFile ⟨argument⟩
  | "-d" => disk.isDirectory ⟨argument⟩
  | "-e" | "-r" | "-w" | "-O" | "-G" => disk.isPresent ⟨argument⟩
  | "-x" => isExecutable disk ⟨argument⟩
  | "-s" => hasContent disk ⟨argument⟩
  | "-L" | "-h" => isLink disk ⟨argument⟩
  | _ => false

def operandNumber (text : String) : Except ConditionError Int :=
  let trimmed := trim text.toList
  let digits := match trimmed with
    | '-' :: rest | '+' :: rest => rest
    | rest => rest
  if digits.isEmpty || !digits.all isAsciiDigit then .error (.notANumber text)
  else .ok (Printing.integerOf (String.ofList trimmed))

def compareNumbers (holds : Int → Int → Bool) (left right : String) : Except ConditionError Bool := do
  let a ← operandNumber left
  let b ← operandNumber right
  return holds a b

def binaryCondition (disk : Disk) (left operator right : String) : Except ConditionError Bool :=
  match operator with
  | "=" => .ok (left == right)
  | "!=" => .ok (left != right)
  | "<" => .ok (left < right)
  | ">" => .ok (right < left)
  | "-eq" => compareNumbers (· == ·) left right
  | "-ne" => compareNumbers (· != ·) left right
  | "-lt" => compareNumbers (fun a b => a < b) left right
  | "-le" => compareNumbers (fun a b => a ≤ b) left right
  | "-gt" => compareNumbers (fun a b => b < a) left right
  | "-ge" => compareNumbers (fun a b => b ≤ a) left right
  | "-ef" => .ok ((disk.locate ⟨left⟩).toOption == (disk.locate ⟨right⟩).toOption && disk.isPresent ⟨left⟩)
  | _ => .ok false

def leavesOperand : List String → Bool
  | [] => true
  | [_] => false
  | second :: _ => binaryOperators.contains second

mutual

def alternatives (disk : Disk) : Nat → List String → Except ConditionError (Bool × List String)
  | 0, words => .ok (false, words)
  | fuel + 1, words => do
      let (first, rest) ← conjuncts disk fuel words
      match rest with
      | "-o" :: more =>
          let (second, rest) ← alternatives disk fuel more
          return (first || second, rest)
      | _ => return (first, rest)

def conjuncts (disk : Disk) : Nat → List String → Except ConditionError (Bool × List String)
  | 0, words => .ok (false, words)
  | fuel + 1, words => do
      let (first, rest) ← negations disk fuel words
      match rest with
      | "-a" :: more =>
          let (second, rest) ← conjuncts disk fuel more
          return (first && second, rest)
      | _ => return (first, rest)

def negations (disk : Disk) : Nat → List String → Except ConditionError (Bool × List String)
  | 0, words => .ok (false, words)
  | fuel + 1, words => do
      match words with
      | "!" :: rest =>
          let (value, rest) ← negations disk fuel rest
          return (!value, rest)
      | _ => primary disk fuel words

def primary (disk : Disk) : Nat → List String → Except ConditionError (Bool × List String)
  | 0, words => .ok (false, words)
  | fuel + 1, words => do
      match words with
      | [] => return (false, [])
      | "(" :: ")" :: rest => return (false, rest)
      | "(" :: next :: rest =>
          let (value, rest) ← alternatives disk fuel (next :: rest)
          match rest with
          | ")" :: rest => return (value, rest)
          | _ => throw .missingParenthesis
      | word :: rest =>
          if unaryOperators.contains word && !leavesOperand rest then
            return (unaryCondition disk word (rest.head?.getD ""), rest.drop 1)
          match rest with
          | [operator] =>
              if binaryOperators.contains operator then throw (.missingArgument operator)
              return (word != "", rest)
          | operator :: right :: behind =>
              if binaryOperators.contains operator then
                return (← binaryCondition disk word operator right, behind)
              return (word != "", rest)
          | [] => return (word != "", [])

end

def wholeCondition (disk : Disk) (words : List String) : Except ConditionError Bool := do
  let (value, rest) ← alternatives disk (4 * words.length + 4) words
  if rest.isEmpty then return value
  throw (.unexpectedOperator ((words[words.length - rest.length - 1]?).getD ""))

def conditionOf (disk : Disk) : List String → Except ConditionError Bool
  | [left, operator, right] =>
      if binaryOperators.contains operator then binaryCondition disk left operator right
      else wholeCondition disk [left, operator, right]
  | words => wholeCondition disk words

def condition (disk : Disk) (bracketed : Bool) (arguments : List String) : Except ConditionError Bool :=
  if !bracketed then conditionOf disk arguments
  else if arguments.getLast? == some "]" then conditionOf disk arguments.dropLast
  else .error .missingBracket

end ScriptSuite.Shell
