import ScriptSuite.Shell.Arithmetic
import ScriptSuite.Shell.Machine
import ScriptSuite.Shell.Pattern

set_option autoImplicit false

namespace ScriptSuite.Shell

open FileSystem Text

inductive Piece where
  | plain (c : Char)
  | quoted (c : Char)
  | substituted (c : Char)
  | present
  | boundary
deriving DecidableEq, Repr

def piecesOf (inQuotes : Bool) (text : List Char) : List Piece :=
  text.map fun c => if inQuotes then .quoted c else .substituted c

def parameterPieces (inQuotes : Bool) (arguments : List String) : List Piece :=
  (arguments.map fun argument =>
    (if inQuotes then [Piece.present] else []) ++ piecesOf inQuotes argument.toList).intersperse [.boundary] |>.flatten

def joiner (machine : Machine) : String :=
  match (machine.value? "IFS").getD " " |>.toList with
  | c :: _ => c.toString
  | [] => ""

def parameter? (machine : Machine) (name : List Char) : Option String :=
  match name with
  | ['#'] => some (toString machine.arguments.length)
  | ['?'] => some (toString machine.status)
  | ['$'] => some "4242"
  | ['!'] => none
  | ['-'] => some ""
  | ['0'] => some machine.name
  | ['@'] => some (String.intercalate " " machine.arguments)
  | ['*'] => some (String.intercalate (joiner machine) machine.arguments)
  | c :: rest =>
      if (c :: rest).all isAsciiDigit then machine.arguments[natOfDigits 10 (c :: rest) - 1]?
      else machine.value? (String.ofList name)
  | [] => none

def isSpecialParameter (c : Char) : Bool :=
  c == '@' || c == '*' || c == '#' || c == '?' || c == '$' || c == '!' || c == '-' || isAsciiDigit c

def parameterName (text : List Char) : List Char × List Char :=
  match text with
  | c :: rest =>
      if isNameStart c then (text.takeWhile isNamePart, text.dropWhile isNamePart)
      else if isAsciiDigit c then (text.takeWhile isAsciiDigit, text.dropWhile isAsciiDigit)
      else if isSpecialParameter c then ([c], rest)
      else ([], text)
  | [] => ([], [])

def markedOf (pieces : List Piece) : List Marked :=
  pieces.filterMap fun piece =>
    match piece with
    | .plain c | .substituted c => some (c, true)
    | .quoted c => some (c, false)
    | _ => none

def textOf (pieces : List Piece) : List Char :=
  pieces.filterMap fun piece =>
    match piece with
    | .plain c | .substituted c | .quoted c => some c
    | .boundary => some ' '
    | .present => none

def withoutFinalNewlines (text : List Char) : List Char :=
  (text.reverse.dropWhile (· == '\n')).reverse

abbrev Substitution := List Char → Execution (List Char)

def requireValue (name : List Char) (value : Option String) : Execution Unit := do
  if (← get).needsValues && value.isNone && name != ['!'] then
    complain (String.ofList name ++ ": parameter not set")
    throw (.exited 2)

def arithmeticValue (machine : Machine) (name : String) : Int64 :=
  Arithmetic.ofVariable ((machine.value? name).getD "")

mutual

def braced (substitute : Substitution) (inQuotes : Bool) : Nat → List Char → Execution (List Piece)
  | 0, _ => return []
  | fuel + 1, text => do
      let machine ← get
      match text with
      | '#' :: c :: rest =>
          let value := (parameter? machine (c :: rest)).getD ""
          return piecesOf inQuotes (toString value.utf8ByteSize).toList
      | _ =>
          let (name, rest) := parameterName text
          let value := parameter? machine name
          let known : List Piece := match name with
            | ['@'] => parameterPieces inQuotes machine.arguments
            | _ => piecesOf inQuotes (value.getD "").toList
          let isEmptyToo := rest.head? == some ':'
          let isMissing := value.isNone || (isEmptyToo && value == some "")
          match if isEmptyToo then rest.drop 1 else rest with
          | [] =>
              requireValue name value
              return known
          | '-' :: word => if isMissing then piecesFrom substitute inQuotes fuel word else return known
          | '+' :: word => if isMissing then return [] else piecesFrom substitute inQuotes fuel word
          | '=' :: word =>
              if isMissing then
                let pieces ← piecesFrom substitute inQuotes fuel word
                setVariable (String.ofList name) (String.ofList (textOf pieces))
                return pieces
              else return known
          | '?' :: word =>
              if isMissing then
                let text := textOf (← piecesFrom substitute inQuotes fuel word)
                let shown := if text.isEmpty then "parameter not set" else String.ofList text
                complain (String.ofList name ++ ": " ++ shown)
                throw (.exited 2)
              else return known
          | '%' :: '%' :: word =>
              let pattern := markedOf (← piecesFrom substitute false fuel word)
              return piecesOf inQuotes (dropBack pattern true (value.getD "").toList)
          | '%' :: word =>
              let pattern := markedOf (← piecesFrom substitute false fuel word)
              return piecesOf inQuotes (dropBack pattern false (value.getD "").toList)
          | '#' :: '#' :: word =>
              let pattern := markedOf (← piecesFrom substitute false fuel word)
              return piecesOf inQuotes (dropFront pattern true (value.getD "").toList)
          | '#' :: word =>
              let pattern := markedOf (← piecesFrom substitute false fuel word)
              return piecesOf inQuotes (dropFront pattern false (value.getD "").toList)
          | _ =>
              complain "Bad substitution"
              throw (.exited 2)

def dollar (substitute : Substitution) (inQuotes : Bool) : Nat → List Char → Execution (List Piece × List Char)
  | 0, text => return ([], text)
  | fuel + 1, text => do
      match text with
      | '(' :: '(' :: rest =>
          let (part, rest) := enclosed '(' ')' 2 (rest.length + 1) rest
          let inside := (part.reverse.drop 2).reverse
          let expression := textOf (← piecesFrom substitute true fuel inside)
          match Arithmetic.evaluate (arithmeticValue (← get)) expression with
          | .ok value => return (piecesOf inQuotes (toString value.toInt).toList, rest)
          | .error error =>
              complain ("arithmetic expression: " ++ error.message ++ ": \"" ++ String.ofList expression ++ "\"")
              throw (.exited 2)
      | '(' :: rest =>
          let (part, rest) := enclosed '(' ')' 1 (rest.length + 1) rest
          let output ← substitute ((part.reverse.drop 1).reverse)
          return (piecesOf inQuotes (withoutFinalNewlines output), rest)
      | '\x7b' :: rest =>
          let (part, rest) := enclosed '\x7b' '\x7d' 1 (rest.length + 1) rest
          return (← braced substitute inQuotes fuel ((part.reverse.drop 1).reverse), rest)
      | c :: rest =>
          let machine ← get
          if c == '@' then return (parameterPieces inQuotes machine.arguments, rest)
          let (name, behind) := if isNameStart c then parameterName text else ([c], rest)
          if isNameStart c || isSpecialParameter c then
            let value := parameter? machine name
            requireValue name value
            return (piecesOf inQuotes (value.getD "").toList, behind)
          else return ([if inQuotes then .quoted '$' else .plain '$'], text)
      | [] => return ([if inQuotes then .quoted '$' else .plain '$'], [])

def piecesFrom (substitute : Substitution) (inQuotes : Bool) : Nat → List Char → Execution (List Piece)
  | 0, _ => return []
  | _ + 1, [] => return []
  | fuel + 1, '$' :: rest => do
      let (pieces, rest) ← dollar substitute inQuotes fuel rest
      return pieces ++ (← piecesFrom substitute inQuotes fuel rest)
  | fuel + 1, '\x60' :: rest => do
      let (script, rest) := backquoted rest
      let output ← substitute script
      return piecesOf inQuotes (withoutFinalNewlines output) ++ (← piecesFrom substitute inQuotes fuel rest)
  | fuel + 1, '\\' :: c :: rest => do
      if c == '\n' then piecesFrom substitute inQuotes fuel rest
      else if inQuotes && !(c == '$' || c == '\x60' || c == '"' || c == '\\') then
        return .quoted '\\' :: .quoted c :: (← piecesFrom substitute inQuotes fuel rest)
      else return .quoted c :: (← piecesFrom substitute inQuotes fuel rest)
  | fuel + 1, c :: rest => do
      if c == '\'' && !inQuotes then
        let (text, rest) := singleQuoted rest
        return .present :: text.map .quoted ++ (← piecesFrom substitute inQuotes fuel rest)
      else if c == '"' && !inQuotes then
        let (text, rest) := doubleQuoted (rest.length + 1) rest
        let inside ← piecesFrom substitute true fuel text
        -- Without positional parameters their quoted list is no field at all.
        let own := if text == ['$', '@'] && inside.isEmpty then [] else Piece.present :: inside
        return own ++ (← piecesFrom substitute inQuotes fuel rest)
      else return (if inQuotes then Piece.quoted c else .plain c) :: (← piecesFrom substitute inQuotes fuel rest)

end

def pieces (substitute : Substitution) (inQuotes : Bool) (word : Word) : Execution (List Piece) :=
  piecesFrom substitute inQuotes (2 * word.length + 4) word

def expandText (substitute : Substitution) (word : Word) : Execution String := do
  return String.ofList (textOf (← pieces substitute false word))

def fieldsFrom (separators : List Char) : Option (List Marked) → List Piece → List (List Marked)
  | current, [] => current.toList
  | current, .plain c :: rest => fieldsFrom separators (some (current.getD [] ++ [(c, true)])) rest
  | current, .quoted c :: rest => fieldsFrom separators (some (current.getD [] ++ [(c, false)])) rest
  | current, .present :: rest => fieldsFrom separators (some (current.getD [])) rest
  | current, .boundary :: rest => current.toList ++ fieldsFrom separators none rest
  | current, .substituted c :: rest =>
      if !separators.contains c then fieldsFrom separators (some (current.getD [] ++ [(c, true)])) rest
      else if c == ' ' || c == '\t' || c == '\n' then current.toList ++ fieldsFrom separators none rest
      else current.getD [] :: fieldsFrom separators none rest

def patternSegments : List Marked → List (List Marked)
  | [] => [[]]
  | mark :: rest =>
      if mark.1 == '/' then [] :: patternSegments rest
      else
        match patternSegments rest with
        | first :: others => (mark :: first) :: others
        | [] => [[mark]]

def pathsMatching (disk : Disk) (found : List String) : List (List Marked) → List String
  | [] => found
  | segment :: rest =>
      let next := found.flatMap fun stem =>
        if !hasWildcard segment then [stem ++ String.ofList (segment.map (·.1))]
        else
          match disk.entryNames ⟨if stem == "" then "." else stem⟩ with
          | .error _ => []
          | .ok names =>
              ((names.filter fun name =>
                (segment.head?.any (·.1 == '.') || name.toList.head? != some '.') && matchesPattern segment name.toList)
                |>.mergeSort fun a b => a ≤ b).map (stem ++ ·)
      if rest.isEmpty then next else pathsMatching disk (next.map (· ++ "/")) rest

def expandField (disk : Disk) (field : List Marked) : List String :=
  let itself := String.ofList (field.map (·.1))
  if !hasWildcard field then [itself]
  else
    match (pathsMatching disk [""] (patternSegments field)).filter fun path => disk.isPresent ⟨path⟩ with
    | [] => [itself]
    | paths => paths

def expandFields (substitute : Substitution) (word : Word) : Execution (List String) := do
  let found ← pieces substitute false word
  let machine ← get
  let separators := ((machine.value? "IFS").getD " \t\n").toList
  return (fieldsFrom separators none found).flatMap (expandField machine.disk)

def expandAll (substitute : Substitution) : List Word → Execution (List String)
  | [] => return []
  | word :: rest => do
      let fields ← expandFields substitute word
      return fields ++ (← expandAll substitute rest)

end ScriptSuite.Shell
