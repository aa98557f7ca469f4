import ScriptSuite.Shell.Token

set_option autoImplicit false

namespace ScriptSuite.Shell

structure Fault where
  line : Nat
  text : String
deriving DecidableEq, Repr

abbrev Parser := StateT (List PlacedToken) (Except Fault)

namespace Parser

def reserved : List String :=
  ["if", "then", "elif", "else", "fi", "while", "until", "for", "do", "done", "case", "esac", "in", "\x7b", "\x7d", "!"]

def isReserved (word : Word) : Bool :=
  reserved.contains (String.ofList word)

def describe : Option PlacedToken → String
  | none => "end of file"
  | some ⟨.newline, _⟩ => "newline"
  | some ⟨.word text, _⟩ => if isReserved text then "\"" ++ String.ofList text ++ "\"" else "word"
  | some ⟨.operator text, _⟩ => "\"" ++ text ++ "\""
  | some _ => "redirection"

def peek? : Parser (Option PlacedToken) := do
  return (← get).head?

def skip : Parser Unit := do
  set ((← get).drop 1)

def unexpected {α : Type} (expecting : Option String) : Parser α := do
  let found ← peek?
  let line := (found.map (·.line)).getD 0
  let wanted := match expecting with
    | some text => " (expecting \"" ++ text ++ "\")"
    | none => ""
  match found with
  | some ⟨.unclosed, _⟩ => throw ⟨0, "Syntax error: Unterminated quoted string"⟩
  | _ => throw ⟨line, "Syntax error: " ++ describe found ++ " unexpected" ++ wanted⟩

def isWord (text : String) : Option PlacedToken → Bool
  | some ⟨.word word, _⟩ => word == text.toList
  | _ => false

def isOperator (text : String) : Option PlacedToken → Bool
  | some ⟨.operator operator, _⟩ => operator == text
  | _ => false

def acceptWord (text : String) : Parser Bool := do
  if isWord text (← peek?) then
    skip
    return true
  else return false

def acceptOperator (text : String) : Parser Bool := do
  if isOperator text (← peek?) then
    skip
    return true
  else return false

def expectWord (text : String) : Parser Unit := do
  if !(← acceptWord text) then unexpected (some text)

def expectOperator (text : String) : Parser Unit := do
  if !(← acceptOperator text) then unexpected (some text)

def skipNewlines : Parser Unit := do
  set ((← get).dropWhile fun placed => placed.token == .newline)

def closesList : Option PlacedToken → Bool
  | none => true
  | some ⟨.word word, _⟩ =>
      ["then", "elif", "else", "fi", "do", "done", "esac", "\x7d"].contains (String.ofList word)
  | some ⟨.operator operator, _⟩ => operator == ")" || operator == ";;"
  | _ => false

def redirectOf (descriptor : Option Nat) (kind : String) (target : Word) : Redirect :=
  match kind with
  | "<" => ⟨descriptor.getD 0, .read, target⟩
  | "<&" => ⟨descriptor.getD 0, .duplicate, target⟩
  | ">&" => ⟨descriptor.getD 1, .duplicate, target⟩
  | ">>" => ⟨descriptor.getD 1, .append, target⟩
  | _ => ⟨descriptor.getD 1, .write, target⟩

def redirect? : Parser (Option Redirect) := do
  match ← peek? with
  | some ⟨.redirect descriptor kind, _⟩ =>
      skip
      match ← peek? with
      | some ⟨.word target, _⟩ =>
          skip
          return some (redirectOf descriptor kind target)
      | _ => unexpected none
  | some ⟨.document descriptor text expands, _⟩ =>
      skip
      return some ⟨descriptor.getD 0, .document expands, text⟩
  | _ => return none

def redirectsFrom : Nat → Parser (List Redirect)
  | 0 => return []
  | fuel + 1 => do
      match ← redirect? with
      | some redirect => return redirect :: (← redirectsFrom fuel)
      | none => return []

def assignment? (word : Word) : Option (String × Word) :=
  let name := word.takeWhile (· != '=')
  if isName name && name.length < word.length then some (String.ofList name, word.drop (name.length + 1)) else none

def simpleFrom (line : Nat) : Nat → List (String × Word) → List Word → List Redirect → Parser Command
  | 0, assignments, words, redirects => return .simple line assignments words redirects
  | fuel + 1, assignments, words, redirects => do
      match ← peek? with
      | some ⟨.word word, _⟩ =>
          skip
          match words, assignment? word with
          | [], some assignment => simpleFrom line fuel (assignments ++ [assignment]) [] redirects
          | _, _ => simpleFrom line fuel assignments (words ++ [word]) redirects
      | _ =>
          match ← redirect? with
          | some redirect => simpleFrom line fuel assignments words (redirects ++ [redirect])
          | none => return .simple line assignments words redirects

def wordsFrom : Nat → Parser (List Word)
  | 0 => return []
  | fuel + 1 => do
      match ← peek? with
      | some ⟨.word word, _⟩ =>
          skip
          return word :: (← wordsFrom fuel)
      | _ => return []

def patternsFrom : Nat → Parser (List Word)
  | 0 => unexpected none
  | fuel + 1 => do
      match ← peek? with
      | some ⟨.word word, _⟩ =>
          skip
          if ← acceptOperator "|" then return word :: (← patternsFrom fuel)
          expectOperator ")"
          return [word]
      | _ => unexpected none

mutual

def listFrom : Nat → Parser Command
  | 0 => unexpected none
  | fuel + 1 => do
      skipNewlines
      if closesList (← peek?) then return .nothing
      let (first, separated) ← terminated fuel
      if separated then return .sequence first (← listFrom fuel)
      match ← peek? with
      | some ⟨.newline, _⟩ => return .sequence first (← listFrom fuel)
      | _ => return first

def terminated (fuel : Nat) : Parser (Command × Bool) := do
  let first ← chain fuel
  if ← acceptOperator "&" then return (.background first, true)
  return (first, ← acceptOperator ";")

def nonemptyList (fuel : Nat) : Parser Command := do
  skipNewlines
  if closesList (← peek?) then unexpected none
  listFrom fuel

def chain : Nat → Parser Command
  | 0 => unexpected none
  | fuel + 1 => do
      let first ← pipeline fuel
      chainRest fuel first

def chainRest : Nat → Command → Parser Command
  | 0, _ => unexpected none
  | fuel + 1, first => do
      if ← acceptOperator "&&" then
        skipNewlines
        let second ← pipeline fuel
        chainRest fuel (.conjunction first second)
      else if ← acceptOperator "||" then
        skipNewlines
        let second ← pipeline fuel
        chainRest fuel (.disjunction first second)
      else return first

def pipeline : Nat → Parser Command
  | 0 => unexpected none
  | fuel + 1 => do
      if ← acceptWord "!" then return .negation (← pipeline fuel)
      let first ← command fuel
      if ← acceptOperator "|" then
        skipNewlines
        return .pipeline first (← pipeline fuel)
      else return first

def branches : Nat → Parser Command
  | 0 => unexpected none
  | fuel + 1 => do
      let condition ← nonemptyList fuel
      expectWord "then"
      let yes ← nonemptyList fuel
      if ← acceptWord "elif" then return .conditional condition yes (← branches fuel)
      let no ← if ← acceptWord "else" then nonemptyList fuel else pure .nothing
      expectWord "fi"
      return .conditional condition yes no

def loopBody : Nat → Parser Command
  | 0 => unexpected none
  | fuel + 1 => do
      skipNewlines
      expectWord "do"
      let body ← nonemptyList fuel
      expectWord "done"
      return body

def choices : Nat → Parser (List (List Word × Command))
  | 0 => unexpected none
  | fuel + 1 => do
      skipNewlines
      if ← acceptWord "esac" then return []
      let _ ← acceptOperator "("
      let patterns ← patternsFrom (← get).length
      let body ← listFrom fuel
      if ← acceptOperator ";;" then return (patterns, body) :: (← choices fuel)
      expectWord "esac"
      return [(patterns, body)]

def compound : Nat → String → Parser (Option Command)
  | 0, _ => return none
  | fuel + 1, keyword => do
      match keyword with
      | "if" => return some (← branches fuel)
      | "while" | "until" =>
          let condition ← nonemptyList fuel
          return some (.repetition (keyword = "while") condition (← loopBody fuel))
      | "for" =>
          match ← peek? with
          | some ⟨.word name, _⟩ =>
              skip
              skipNewlines
              let words ← if ← acceptWord "in" then pure (some (← wordsFrom (← get).length)) else pure none
              let _ ← acceptOperator ";"
              return some (.iteration (String.ofList name) words (← loopBody fuel))
          | _ => unexpected none
      | "case" =>
          match ← peek? with
          | some ⟨.word word, _⟩ =>
              skip
              skipNewlines
              expectWord "in"
              return some (.choice word (← choices fuel))
          | _ => unexpected none
      | "\x7b" =>
          let body ← nonemptyList fuel
          expectWord "\x7d"
          return some (.group body [])
      | _ => return none

def command : Nat → Parser Command
  | 0 => unexpected none
  | fuel + 1 => do
      match ← peek? with
      | some ⟨.operator "(", _⟩ =>
          skip
          let body ← nonemptyList fuel
          expectOperator ")"
          return .subshell body (← redirectsFrom fuel)
      | some ⟨.word word, line⟩ =>
          if isReserved word then
            skip
            match ← compound fuel (String.ofList word) with
            | some command => return .group command (← redirectsFrom fuel)
            | none =>
                set (⟨.word word, line⟩ :: (← get))
                unexpected none
          else
            skip
            if isName word && isOperator "(" (← peek?) then
              skip
              expectOperator ")"
              skipNewlines
              return .function (String.ofList word) (← command fuel)
            set (⟨.word word, line⟩ :: (← get))
            simpleFrom line (fuel + 1) [] [] []
      | some ⟨.redirect _ _, line⟩ | some ⟨.document _ _ _, line⟩ => simpleFrom line (fuel + 1) [] [] []
      | _ => unexpected none

end

def lineFrom : Nat → Parser Command
  | 0 => unexpected none
  | fuel + 1 => do
      let (first, separated) ← terminated fuel
      if separated then
        match ← peek? with
        | none | some ⟨.newline, _⟩ => return first
        | _ => return .sequence first (← lineFrom fuel)
      match ← peek? with
      | none | some ⟨.newline, _⟩ => return first
      | _ => unexpected none

end Parser

structure Script where
  lines : List Command
  fault : Option Fault

def scriptFrom : Nat → List PlacedToken → Script
  | 0, _ => ⟨[], none⟩
  | fuel + 1, tokens =>
      match tokens.dropWhile fun placed => placed.token == .newline with
      | [] => ⟨[], none⟩
      | placed :: rest =>
          match (Parser.lineFrom (6 * (rest.length + 4))).run (placed :: rest) with
          | .error fault => ⟨[], some fault⟩
          | .ok (command, rest) =>
              let script := scriptFrom fuel rest
              ⟨command :: script.lines, script.fault⟩

def Fault.placed (text : List Char) (fault : Fault) : Fault :=
  if fault.line = 0 then { fault with line := 1 + countNewlines text } else fault

def parseScript (text : List Char) : Script :=
  let tokens := tokensOf text
  let script := scriptFrom (tokens.length + 1) tokens
  { script with fault := script.fault.map (·.placed text) }

end ScriptSuite.Shell
