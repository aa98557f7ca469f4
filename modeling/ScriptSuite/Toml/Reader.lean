import ScriptSuite.Text.Letter
import ScriptSuite.Toml.Value

set_option autoImplicit false

namespace ScriptSuite.Toml

open Text

abbrev Reader := StateT (List Char) Option

namespace Reader

def peek? : Reader (Option Char) := do
  return (← get).head?

def next : Reader Char := do
  match ← get with
  | c :: rest =>
      set rest
      return c
  | [] => failure

def takeWhile (accepts : Char → Bool) : Reader (List Char) := do
  let text ← get
  set (text.dropWhile accepts)
  return text.takeWhile accepts

def accept (text : List Char) : Reader Bool := do
  let rest ← get
  if text.isPrefixOf rest then
    set (rest.drop text.length)
    return true
  else return false

def expect (text : List Char) : Reader Unit := do
  if !(← accept text) then failure

def remaining : Reader Nat := do
  return (← get).length

def require (condition : Bool) : Reader Unit := do
  if !condition then failure

end Reader

open Reader

def isTab (c : Char) : Bool :=
  c == ' ' || c == '\t'

def isPrintable (c : Char) : Bool :=
  c == '\t' || (0x20 ≤ c.toNat && c.toNat ≠ 0x7F)

def skipTabs : Reader Unit := do
  let _ ← takeWhile isTab

def acceptNewline : Reader Bool := do
  if ← accept ['\n'] then return true
  accept ['\r', '\n']

def skipComment : Reader Unit := do
  if (← peek?) == some '#' then
    let _ ← takeWhile isPrintable

def endLine : Reader Unit := do
  skipTabs
  skipComment
  if (← get).isEmpty then return ()
  require (← acceptNewline)

def skipGapFrom : Nat → Reader Unit
  | 0 => return ()
  | fuel + 1 => do
      match ← peek? with
      | some '#' =>
          skipComment
          require (← acceptNewline)
          skipGapFrom fuel
      | some c =>
          if isTab c then
            skipTabs
            skipGapFrom fuel
          else if c == '\n' || c == '\r' then
            require (← acceptNewline)
            skipGapFrom fuel
          else return ()
      | none => return ()

def skipGap : Reader Unit := do
  skipGapFrom (← remaining)

def hexScalar (digits : Nat) : Reader Char := do
  let text := (← get).take digits
  require (text.length == digits && text.all isHexDigit)
  set ((← get).drop digits)
  let code := natOfDigits 16 text
  if valid : code.isValidChar then return Char.ofNatAux code valid else failure

def escape : Reader Char := do
  match ← next with
  | 'b' => return '\x08'
  | 't' => return '\t'
  | 'n' => return '\n'
  | 'f' => return '\x0c'
  | 'r' => return '\r'
  | '"' => return '"'
  | '\\' => return '\\'
  | 'u' => hexScalar 4
  | 'U' => hexScalar 8
  | _ => failure

def basicBody : Nat → Reader (List Char)
  | 0 => failure
  | fuel + 1 => do
      match ← next with
      | '"' => return []
      | '\\' =>
          let c ← escape
          return c :: (← basicBody fuel)
      | c =>
          require (isPrintable c)
          return c :: (← basicBody fuel)

def literalBody : Reader (List Char) := do
  let text ← takeWhile fun c => isPrintable c && c != '\''
  expect ['\'']
  return text

def lineJoin (text : List Char) : Option (List Char) :=
  match text.dropWhile isTab with
  | '\n' :: rest => some (rest.dropWhile fun c => isTab c || c == '\n' || c == '\r')
  | '\r' :: '\n' :: rest => some (rest.dropWhile fun c => isTab c || c == '\n' || c == '\r')
  | _ => none

def quoteRun (quote : Char) (text : List Char) : Nat :=
  (text.takeWhile (· == quote)).length

def multilineBody (quote : Char) (escapes : Bool) : Nat → Reader (List Char)
  | 0 => failure
  | fuel + 1 => do
      let text ← get
      let quotes := quoteRun quote text
      if 3 ≤ quotes then
        let kept := min quotes 5 - 3
        set (text.drop (kept + 3))
        return List.replicate kept quote
      match text with
      | [] => failure
      | '\r' :: '\n' :: rest | '\n' :: rest =>
          set rest
          return '\n' :: (← multilineBody quote escapes fuel)
      | c :: rest =>
          set rest
          if escapes && c == '\\' then
            match lineJoin rest with
            | some after =>
                set after
                multilineBody quote escapes fuel
            | none =>
                let value ← escape
                return value :: (← multilineBody quote escapes fuel)
          else
            require (isPrintable c)
            return c :: (← multilineBody quote escapes fuel)

def string : Reader String := do
  let size ← remaining
  if ← accept ['"', '"', '"'] then
    let _ ← acceptNewline
    return String.ofList (← multilineBody '"' true size)
  if ← accept ['"'] then return String.ofList (← basicBody size)
  if ← accept ['\'', '\'', '\''] then
    let _ ← acceptNewline
    return String.ofList (← multilineBody '\'' false size)
  expect ['\'']
  return String.ofList (← literalBody)

def isBareKeyChar (c : Char) : Bool :=
  isAsciiLetter c || isAsciiDigit c || c == '_' || c == '-'

def simpleKey : Reader String := do
  if ← accept ['"'] then return String.ofList (← basicBody (← remaining))
  if ← accept ['\''] then return String.ofList (← literalBody)
  let name ← takeWhile isBareKeyChar
  require (!name.isEmpty)
  return String.ofList name

def dottedKeyFrom : Nat → Reader (List String)
  | 0 => failure
  | fuel + 1 => do
      skipTabs
      let name ← simpleKey
      skipTabs
      if ← accept ['.'] then return name :: (← dottedKeyFrom fuel)
      return [name]

def dottedKey : Reader (List String) := do
  dottedKeyFrom (← remaining)

def digitsOf (isDigit : Char → Bool) : Nat → Reader (List Char)
  | 0 => failure
  | fuel + 1 => do
      let c ← next
      require (isDigit c)
      match ← get with
      | '_' :: rest =>
          set rest
          return c :: (← digitsOf isDigit fuel)
      | d :: _ => if isDigit d then return c :: (← digitsOf isDigit fuel) else return [c]
      | [] => return [c]

def digitRun (isDigit : Char → Bool) : Reader (List Char) := do
  digitsOf isDigit (← remaining)

def inInt64 (value : Int) : Bool :=
  -9223372036854775808 ≤ value && value ≤ 9223372036854775807

def integerOf (value : Int) : Reader Value := do
  require (inInt64 value)
  return .integer value

def radixInteger (radix : Nat) : Reader Value := do
  let digits ← digitRun (isDigitOf radix)
  integerOf (natOfDigits radix digits)

def sign : Reader Int := do
  if ← accept ['-'] then return -1
  let _ ← accept ['+']
  return 1

def wholeDigits : Reader (List Char) := do
  if ← accept ['0'] then return ['0']
  digitRun isAsciiDigit

def exponent : Reader Bool := do
  if (← accept ['e']) || (← accept ['E']) then
    let _ ← sign
    let _ ← digitRun isAsciiDigit
    return true
  else return false

def decimal : Reader Value := do
  let factor ← sign
  if (← accept ['i', 'n', 'f']) || (← accept ['n', 'a', 'n']) then return .float
  let whole ← wholeDigits
  if ← accept ['.'] then
    let _ ← digitRun isAsciiDigit
    let _ ← exponent
    return .float
  if ← exponent then return .float
  integerOf (factor * natOfDigits 10 whole)

def fixedDigits (count : Nat) : Reader Nat := do
  let text := (← get).take count
  require (text.length == count && text.all isAsciiDigit)
  set ((← get).drop count)
  return natOfDigits 10 text

def daysInMonth (year month : Nat) : Nat :=
  if month = 2 then
    if year % 4 = 0 && (year % 100 ≠ 0 || year % 400 = 0) then 29 else 28
  else if month ∈ [4, 6, 9, 11] then 30
  else 31

def date : Reader Unit := do
  let year ← fixedDigits 4
  expect ['-']
  let month ← fixedDigits 2
  expect ['-']
  let day ← fixedDigits 2
  require (1 ≤ month && month ≤ 12 && 1 ≤ day && day ≤ daysInMonth year month)

def time : Reader Unit := do
  let hour ← fixedDigits 2
  expect [':']
  let minute ← fixedDigits 2
  expect [':']
  let second ← fixedDigits 2
  require (hour ≤ 23 && minute ≤ 59 && second ≤ 60)
  if ← accept ['.'] then
    let digits ← takeWhile isAsciiDigit
    require (!digits.isEmpty)

def timeOffset : Reader Unit := do
  if (← accept ['Z']) || (← accept ['z']) then return ()
  if (← accept ['+']) || (← accept ['-']) then
    let hour ← fixedDigits 2
    expect [':']
    let minute ← fixedDigits 2
    require (hour ≤ 23 && minute ≤ 59)

def startsDigitsThen (count : Nat) (mark : Char) (text : List Char) : Bool :=
  (text.takeWhile isAsciiDigit).length == count && (text.drop count).head? == some mark

def timeFollows (text : List Char) : Bool :=
  match text with
  | c :: rest => c == 'T' || c == 't' || (c == ' ' && startsDigitsThen 2 ':' rest)
  | [] => false

def dateTime : Reader Value := do
  if startsDigitsThen 4 '-' (← get) then
    date
    if timeFollows (← get) then
      let _ ← next
      time
      timeOffset
  else time
  return .dateTime

def numeric : Reader Value := do
  let text ← get
  if startsDigitsThen 4 '-' text || startsDigitsThen 2 ':' text then dateTime
  else if ← accept ['0', 'x'] then radixInteger 16
  else if ← accept ['0', 'o'] then radixInteger 8
  else if ← accept ['0', 'b'] then radixInteger 2
  else decimal

end ScriptSuite.Toml
