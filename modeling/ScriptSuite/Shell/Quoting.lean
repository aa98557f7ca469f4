import ScriptSuite.Shell.Syntax
import ScriptSuite.Text.Letter

set_option autoImplicit false

namespace ScriptSuite.Shell

open Text

def isNameStart (c : Char) : Bool :=
  isAsciiLetter c || c == '_'

def isNamePart (c : Char) : Bool :=
  isNameStart c || isAsciiDigit c

def isName (text : List Char) : Bool :=
  match text with
  | [] => false
  | c :: rest => isNameStart c && rest.all isNamePart

def singleQuoted (text : List Char) : List Char × List Char :=
  (text.takeWhile (· != '\''), (text.dropWhile (· != '\'')).drop 1)

def backquoted : List Char → List Char × List Char
  | [] => ([], [])
  | '\x60' :: rest => ([], rest)
  | '\\' :: c :: rest =>
      let (inside, rest) := backquoted rest
      (if c == '\x60' || c == '\\' || c == '$' then c :: inside else '\\' :: c :: inside, rest)
  | c :: rest =>
      let (inside, rest) := backquoted rest
      (c :: inside, rest)

mutual

def doubleQuoted : Nat → List Char → List Char × List Char
  | 0, text => (text, [])
  | _ + 1, [] => ([], [])
  | _ + 1, '"' :: rest => ([], rest)
  | fuel + 1, '\\' :: c :: rest =>
      let (inside, rest) := doubleQuoted fuel rest
      ('\\' :: c :: inside, rest)
  | fuel + 1, '$' :: '(' :: rest =>
      let (part, rest) := enclosed '(' ')' 1 fuel rest
      let (inside, rest) := doubleQuoted fuel rest
      ('$' :: '(' :: part ++ inside, rest)
  | fuel + 1, '$' :: '\x7b' :: rest =>
      let (part, rest) := enclosed '\x7b' '\x7d' 1 fuel rest
      let (inside, rest) := doubleQuoted fuel rest
      ('$' :: '\x7b' :: part ++ inside, rest)
  | fuel + 1, c :: rest =>
      let (inside, rest) := doubleQuoted fuel rest
      (c :: inside, rest)

def enclosed (opener closer : Char) (depth : Nat) : Nat → List Char → List Char × List Char
  | 0, text => (text, [])
  | _ + 1, [] => ([], [])
  | fuel + 1, '\\' :: c :: rest =>
      let (inside, rest) := enclosed opener closer depth fuel rest
      ('\\' :: c :: inside, rest)
  | fuel + 1, '\'' :: rest =>
      let (part, rest) := singleQuoted rest
      let (inside, rest) := enclosed opener closer depth fuel rest
      ('\'' :: part ++ '\'' :: inside, rest)
  | fuel + 1, '"' :: rest =>
      let (part, rest) := doubleQuoted fuel rest
      let (inside, rest) := enclosed opener closer depth fuel rest
      ('"' :: part ++ '"' :: inside, rest)
  | fuel + 1, c :: rest =>
      if c == closer && depth ≤ 1 then ([c], rest)
      else
        let deeper := if c == opener then depth + 1 else if c == closer then depth - 1 else depth
        let (inside, rest) := enclosed opener closer deeper fuel rest
        (c :: inside, rest)

end

def endsWord (c : Char) : Bool :=
  c == ' ' || c == '\t' || c == '\n' || c == ';' || c == '&' || c == '|' || c == '<' || c == '>' || c == '('
    || c == ')'

def wordFrom : Nat → List Char → Word × List Char
  | 0, text => ([], text)
  | _ + 1, [] => ([], [])
  | fuel + 1, '\\' :: '\n' :: rest => wordFrom fuel rest
  | fuel + 1, '\\' :: c :: rest =>
      let (word, rest) := wordFrom fuel rest
      ('\\' :: c :: word, rest)
  | fuel + 1, '\'' :: rest =>
      let (part, rest) := singleQuoted rest
      let (word, rest) := wordFrom fuel rest
      ('\'' :: part ++ '\'' :: word, rest)
  | fuel + 1, '"' :: rest =>
      let (part, rest) := doubleQuoted fuel rest
      let (word, rest) := wordFrom fuel rest
      ('"' :: part ++ '"' :: word, rest)
  | fuel + 1, '\x60' :: rest =>
      let taken := rest.length - (backquoted rest).2.length
      let (word, behind) := wordFrom fuel (backquoted rest).2
      ('\x60' :: rest.take taken ++ word, behind)
  | fuel + 1, '$' :: '(' :: rest =>
      let (part, rest) := enclosed '(' ')' 1 fuel rest
      let (word, rest) := wordFrom fuel rest
      ('$' :: '(' :: part ++ word, rest)
  | fuel + 1, '$' :: '\x7b' :: rest =>
      let (part, rest) := enclosed '\x7b' '\x7d' 1 fuel rest
      let (word, rest) := wordFrom fuel rest
      ('$' :: '\x7b' :: part ++ word, rest)
  | fuel + 1, c :: rest =>
      if endsWord c then ([], c :: rest)
      else
        let (word, rest) := wordFrom fuel rest
        (c :: word, rest)

def isQuoted (word : Word) : Bool :=
  word.any fun c => c == '\'' || c == '"' || c == '\\'

def unquoted (word : Word) : List Char :=
  word.filter fun c => !(c == '\'' || c == '"' || c == '\\')

end ScriptSuite.Shell
