import ScriptSuite.Shell.Quoting

set_option autoImplicit false

namespace ScriptSuite.Shell.Arithmetic

open Text

inductive ArithmeticError where
  | malformed
  | unfinished
  | divisionByZero
deriving DecidableEq, Repr

def ArithmeticError.message : ArithmeticError → String
  | .malformed => "expecting primary"
  | .unfinished => "expecting EOF"
  | .divisionByZero => "division by zero"

abbrev Reader := StateT (List Char) (Except ArithmeticError)

def isSpace (c : Char) : Bool :=
  c == ' ' || c == '\t' || c == '\n'

def skipBlanks : Reader Unit := do
  set ((← get).dropWhile isSpace)

def levels : List (List String) :=
  [["||"], ["&&"], ["|"], ["^"], ["&"], ["==", "!="], ["<=", ">=", "<", ">"], ["<<", ">>"], ["+", "-"], ["*", "/", "%"]]

def truth (value : Bool) : Int64 :=
  if value then 1 else 0

def apply (operator : String) (a b : Int64) : Except ArithmeticError Int64 :=
  match operator with
  | "||" => .ok (truth (a != 0 || b != 0))
  | "&&" => .ok (truth (a != 0 && b != 0))
  | "|" => .ok (a ||| b)
  | "^" => .ok (a ^^^ b)
  | "&" => .ok (a &&& b)
  | "==" => .ok (truth (a == b))
  | "!=" => .ok (truth (a != b))
  | "<=" => .ok (truth (a ≤ b))
  | ">=" => .ok (truth (b ≤ a))
  | "<" => .ok (truth (a < b))
  | ">" => .ok (truth (b < a))
  | "<<" => .ok (a <<< b)
  | ">>" => .ok (a >>> b)
  | "+" => .ok (a + b)
  | "-" => .ok (a - b)
  | "*" => .ok (a * b)
  | "/" => if b = 0 then .error .divisionByZero else .ok (a / b)
  | "%" => if b = 0 then .error .divisionByZero else .ok (a % b)
  | _ => .error .malformed

def operator? (candidates : List String) : Reader (Option String) := do
  skipBlanks
  let text ← get
  let doubled := text.take 2 == ['|', '|'] || text.take 2 == ['&', '&'] || text.take 2 == ['<', '<']
    || text.take 2 == ['>', '>']
  match candidates.find? fun operator => operator.toList.isPrefixOf text with
  | some operator =>
      if doubled && operator.length == 1 then return none
      set (text.drop operator.length)
      return some operator
  | none => return none

def word (radix : Nat) (digits : List Char) : Int64 :=
  Int64.ofNat (min (natOfDigits radix digits) Int64.maxValue.toNatClampNeg)

def numeral (text : List Char) : Int64 × List Char :=
  let split (radix : Nat) (isDigit : Char → Bool) (digits : List Char) :=
    (word radix (digits.takeWhile isDigit), digits.dropWhile isDigit)
  match text with
  | '0' :: x :: rest =>
      if x == 'x' || x == 'X' then split 16 isHexDigit rest
      else split 8 (fun c => '0' ≤ c && c ≤ '7') (x :: rest)
  | _ => split 10 isAsciiDigit text

def ofVariable (text : String) : Int64 :=
  match text.toList.dropWhile isSpace with
  | '-' :: rest => -(numeral rest).1
  | '+' :: rest => (numeral rest).1
  | rest => (numeral rest).1

def closing (c : Char) : Reader Unit := do
  skipBlanks
  match ← get with
  | d :: rest => if c == d then set rest else throw .malformed
  | [] => throw .malformed

mutual

def operand (value : String → Int64) : Nat → Reader Int64
  | 0 => throw .malformed
  | fuel + 1 => do
      skipBlanks
      match ← get with
      | '(' :: rest =>
          set rest
          let result ← conditional value fuel
          closing ')'
          return result
      | '-' :: rest =>
          set rest
          return -(← operand value fuel)
      | '+' :: rest =>
          set rest
          operand value fuel
      | '!' :: rest =>
          set rest
          return truth ((← operand value fuel) == 0)
      | '~' :: rest =>
          set rest
          return ~~~(← operand value fuel)
      | c :: rest =>
          if isAsciiDigit c then
            let (number, rest) := numeral (c :: rest)
            set rest
            return number
          else if isNameStart c then
            set (rest.dropWhile isNamePart)
            return value (String.ofList (c :: rest.takeWhile isNamePart))
          else throw .malformed
      | [] => throw .malformed

def binary (value : String → Int64) (operators : List (List String)) : Nat → Reader Int64
  | 0 => throw .malformed
  | fuel + 1 => do
      match operators with
      | [] => operand value fuel
      | level :: tighter =>
          let first ← binary value tighter fuel
          binaryRest value level tighter fuel first

def binaryRest (value : String → Int64) (level : List String) (tighter : List (List String)) :
    Nat → Int64 → Reader Int64
  | 0, _ => throw .malformed
  | fuel + 1, first => do
      match ← operator? level with
      | none => return first
      | some operator =>
          let second ← binary value tighter fuel
          let result ← apply operator first second
          binaryRest value level tighter fuel result

def conditional (value : String → Int64) : Nat → Reader Int64
  | 0 => throw .malformed
  | fuel + 1 => do
      let condition ← binary value levels fuel
      skipBlanks
      match ← get with
      | '?' :: rest =>
          set rest
          let yes ← conditional value fuel
          closing ':'
          let no ← conditional value fuel
          return if condition != 0 then yes else no
      | _ => return condition

end

def evaluate (value : String → Int64) (text : List Char) : Except ArithmeticError Int64 :=
  if text.all isSpace then .ok 0
  else
    match (conditional value (14 * (text.length + 2))).run text with
    | .ok (result, rest) => if rest.all isSpace then .ok result else .error .unfinished
    | .error error => .error error

end ScriptSuite.Shell.Arithmetic
