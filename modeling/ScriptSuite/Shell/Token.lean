import ScriptSuite.Shell.Quoting

set_option autoImplicit false

namespace ScriptSuite.Shell

open Text

inductive Token where
  | word (text : Word)
  | operator (text : String)
  | redirect (descriptor : Option Nat) (kind : String)
  | document (descriptor : Option Nat) (text : List Char) (expands : Bool)
  | newline
  | unclosed
deriving DecidableEq, Repr

structure PlacedToken where
  token : Token
  line : Nat
deriving DecidableEq, Repr

def operators : List String :=
  ["&&", "||", ";;", ";", "&", "|", "(", ")"]

def redirects : List String :=
  ["<<-", "<<", "<&", ">>", ">&", ">|", "<", ">"]

def operatorAt? (candidates : List String) (text : List Char) : Option (String × List Char) :=
  (candidates.find? fun operator => operator.toList.isPrefixOf text).map fun operator =>
    (operator, text.drop operator.length)

def documentFrom (stripTabs : Bool) (stop : List Char) : Nat → List Char → List Char × List Char
  | 0, text => ([], text)
  | _ + 1, [] => ([], [])
  | fuel + 1, text =>
      let line := text.takeWhile (· != '\n')
      let rest := (text.dropWhile (· != '\n')).drop 1
      let line := if stripTabs then line.dropWhile (· == '\t') else line
      if line = stop then ([], rest)
      else
        let (document, rest) := documentFrom stripTabs stop fuel rest
        (line ++ '\n' :: document, rest)

def descriptorOf? (word : Word) (rest : List Char) : Option Nat :=
  match rest with
  | c :: _ =>
      if (c == '<' || c == '>') && !word.isEmpty && word.all isAsciiDigit then some (natOfDigits 10 word) else none
  | [] => none

def countNewlines (text : List Char) : Nat :=
  text.count '\n'

def redirectFrom (fuel : Nat) (descriptor : Option Nat) (text : List Char) : Option (Token × List Char) :=
  match operatorAt? redirects text with
  | none => none
  | some (kind, rest) =>
      if kind = "<<" || kind = "<<-" then
        let (stop, rest) := wordFrom fuel (rest.dropWhile fun c => c == ' ' || c == '\t')
        let line := rest.takeWhile (· != '\n')
        let (document, behind) :=
          documentFrom (kind = "<<-") (unquoted stop) fuel ((rest.dropWhile (· != '\n')).drop 1)
        some (.document descriptor document (!isQuoted stop), line ++ '\n' :: behind)
      else some (.redirect descriptor kind, rest)

def tokensFrom : Nat → Nat → List Char → List PlacedToken
  | 0, _, _ => []
  | _ + 1, _, [] => []
  | fuel + 1, line, c :: rest =>
      if c == ' ' || c == '\t' then tokensFrom fuel line rest
      else if c == '\n' then ⟨.newline, line⟩ :: tokensFrom fuel (line + 1) rest
      else if c == '#' then tokensFrom fuel line (rest.dropWhile (· != '\n'))
      else if c == '\\' && rest.head? == some '\n' then tokensFrom fuel (line + 1) (rest.drop 1)
      else
        match redirectFrom fuel none (c :: rest) with
        | some (token, rest) => ⟨token, line⟩ :: tokensFrom fuel line rest
        | none =>
            match operatorAt? operators (c :: rest) with
            | some (operator, rest) => ⟨.operator operator, line⟩ :: tokensFrom fuel line rest
            | none =>
                let (word, behind) := wordFrom (fuel + 1) (c :: rest)
                -- A quote that is missing at the end makes the word longer than its text.
                if rest.length + 1 < word.length then [⟨.unclosed, line⟩]
                else
                  match descriptorOf? word behind with
                  | some descriptor =>
                      match redirectFrom fuel (some descriptor) behind with
                      | some (token, behind) => ⟨token, line⟩ :: tokensFrom fuel line behind
                      | none => ⟨.word word, line⟩ :: tokensFrom fuel line behind
                  | none => ⟨.word word, line⟩ :: tokensFrom fuel (line + countNewlines word) behind

def tokensOf (script : List Char) : List PlacedToken :=
  tokensFrom (script.length + 1) 1 script

end ScriptSuite.Shell
