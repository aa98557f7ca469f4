import ScriptSuite.Text.Letter
import ScriptSuite.Text.Utf8

set_option autoImplicit false

namespace ScriptSuite.Shell.Printing

open Text

def bytesOf (text : List Char) : List UInt8 :=
  Utf8.encode (String.ofList text)

def isOctal (c : Char) : Bool :=
  '0' ≤ c && c ≤ '7'

def letterEscape? : Char → Option UInt8
  | 'a' => some 7
  | 'b' => some 8
  | 'f' => some 12
  | 'n' => some 10
  | 'r' => some 13
  | 't' => some 9
  | 'v' => some 11
  | 'e' => some 27
  | '\\' => some 92
  | _ => none

structure Printed where
  bytes : List UInt8
  ended : Bool
  refused : List String
deriving DecidableEq, Repr

def Printed.before (bytes : List UInt8) (printed : Printed) : Printed :=
  { printed with bytes := bytes ++ printed.bytes }

def Printed.append (first second : Printed) : Printed :=
  ⟨first.bytes ++ second.bytes, second.ended, first.refused ++ second.refused⟩

def escapedArgument : Nat → List Char → Printed
  | 0, _ => ⟨[], false, []⟩
  | _ + 1, [] => ⟨[], false, []⟩
  | _ + 1, '\\' :: 'c' :: _ => ⟨[], true, []⟩
  | fuel + 1, '\\' :: '0' :: rest =>
      let digits := (rest.take 3).takeWhile isOctal
      (escapedArgument fuel (rest.drop digits.length)).before [(natOfDigits 8 digits).toUInt8]
  | fuel + 1, '\\' :: c :: rest =>
      let digits := ((c :: rest).take 3).takeWhile isOctal
      if !digits.isEmpty then
        (escapedArgument fuel ((c :: rest).drop digits.length)).before [(natOfDigits 8 digits).toUInt8]
      else
        match letterEscape? c with
        | some byte => (escapedArgument fuel rest).before [byte]
        | none => (escapedArgument fuel (c :: rest)).before [92]
  | fuel + 1, c :: rest => (escapedArgument fuel rest).before (bytesOf [c])

def echo (words : List String) : List UInt8 :=
  let (newline, words) := match words with
    | "-n" :: rest => (false, rest)
    | words => (true, words)
  let text := (String.intercalate " " words).toList
  let printed := escapedArgument (text.length + 1) text
  printed.bytes ++ (if newline && !printed.ended then [10] else [])

structure Conversion where
  flags : List Char
  width : Nat
  precision : Option Nat
  letter : Char
deriving DecidableEq, Repr

def isFlag (c : Char) : Bool :=
  c == '-' || c == '+' || c == ' ' || c == '0' || c == '#'

def conversion? (text : List Char) : Option (Conversion × List Char) :=
  let flags := text.takeWhile isFlag
  let rest := text.dropWhile isFlag
  let width := natOfDigits 10 (rest.takeWhile isAsciiDigit)
  let rest := rest.dropWhile isAsciiDigit
  let (precision, rest) := match rest with
    | '.' :: rest => (some (natOfDigits 10 (rest.takeWhile isAsciiDigit)), rest.dropWhile isAsciiDigit)
    | rest => (none, rest)
  match rest with
  | letter :: rest => some (⟨flags, width, precision, letter⟩, rest)
  | [] => none

def padded (conversion : Conversion) (bytes : List UInt8) : List UInt8 :=
  let missing := conversion.width - bytes.length
  if conversion.flags.contains '-' then bytes ++ List.replicate missing 32
  else if conversion.flags.contains '0' && conversion.letter != 's' then List.replicate missing 48 ++ bytes
  else List.replicate missing 32 ++ bytes

def integerOf (text : String) : Int :=
  match text.toList with
  | '-' :: digits => -(natOfDigits 10 (digits.takeWhile isAsciiDigit) : Nat)
  | '+' :: digits => natOfDigits 10 (digits.takeWhile isAsciiDigit)
  | '0' :: 'x' :: digits => natOfDigits 16 (digits.takeWhile isHexDigit)
  | digits => natOfDigits 10 (digits.takeWhile isAsciiDigit)

def isNumber (text : String) : Bool :=
  match text.toList with
  | '-' :: digits | '+' :: digits => !digits.isEmpty && digits.all isAsciiDigit
  | '0' :: 'x' :: digits => !digits.isEmpty && digits.all isHexDigit
  | digits => digits.all isAsciiDigit

def digitsIn (base : Nat) (value : Int) : List Char :=
  (if value < 0 then ['-'] else []) ++ Nat.toDigits base value.natAbs

def upperHex (text : List Char) : List Char :=
  text.map Char.toUpper

def converted (conversion : Conversion) (argument : String) : Printed :=
  let cut (bytes : List UInt8) := match conversion.precision with
    | some n => bytes.take n
    | none => bytes
  let number (digits : List Char) : Printed :=
    ⟨padded conversion (bytesOf digits), false, if isNumber argument then [] else [argument]⟩
  match conversion.letter with
  | 's' => ⟨padded conversion (cut (bytesOf argument.toList)), false, []⟩
  | 'b' =>
      let printed := escapedArgument (argument.length + 1) argument.toList
      ⟨padded conversion (cut printed.bytes), printed.ended, []⟩
  | 'c' => ⟨padded conversion (bytesOf (argument.toList.take 1)), false, []⟩
  | 'd' | 'i' | 'u' => number (digitsIn 10 (integerOf argument))
  | 'o' => number (digitsIn 8 (integerOf argument))
  | 'x' => number (digitsIn 16 (integerOf argument))
  | 'X' => number (upperHex (digitsIn 16 (integerOf argument)))
  | _ => ⟨[], false, []⟩

def formatOnce : Nat → List Char → List String → Printed × List String
  | 0, _, arguments => (⟨[], false, []⟩, arguments)
  | _ + 1, [], arguments => (⟨[], false, []⟩, arguments)
  | fuel + 1, '%' :: '%' :: rest, arguments =>
      let (printed, left) := formatOnce fuel rest arguments
      (printed.before [37], left)
  | fuel + 1, '%' :: rest, arguments =>
      match conversion? rest with
      | none => (⟨[37], false, []⟩, arguments)
      | some (conversion, rest) =>
          let own := converted conversion (arguments.head?.getD "")
          if own.ended then (own, [])
          else
            let (printed, left) := formatOnce fuel rest (arguments.drop 1)
            (own.append printed, left)
  | fuel + 1, '\\' :: c :: rest, arguments =>
      let digits := ((c :: rest).take 3).takeWhile isOctal
      if !digits.isEmpty then
        let (printed, left) := formatOnce fuel ((c :: rest).drop digits.length) arguments
        (printed.before [(natOfDigits 8 digits).toUInt8], left)
      else
        match if c == '"' then some 34 else letterEscape? c with
        | some byte =>
            let (printed, left) := formatOnce fuel rest arguments
            (printed.before [byte], left)
        | none =>
            let (printed, left) := formatOnce fuel (c :: rest) arguments
            (printed.before [92], left)
  | fuel + 1, c :: rest, arguments =>
      let (printed, left) := formatOnce fuel rest arguments
      (printed.before (bytesOf [c]), left)

def formatAll (format : List Char) : Nat → List String → Printed
  | 0, _ => ⟨[], false, []⟩
  | fuel + 1, arguments =>
      let (printed, left) := formatOnce (format.length + 1) format arguments
      if printed.ended || left.isEmpty || left.length == arguments.length then printed
      else printed.append (formatAll format fuel left)

def printf (format : String) (arguments : List String) : Printed :=
  formatAll format.toList (arguments.length + 1) arguments

end ScriptSuite.Shell.Printing
