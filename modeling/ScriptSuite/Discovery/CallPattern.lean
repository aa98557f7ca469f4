import ScriptSuite.Text.Letter
import ScriptSuite.Text.Blank

set_option autoImplicit false

namespace ScriptSuite.Discovery

open Text

structure CallPattern where
  path : List String
  argumentIndex : Nat
deriving DecidableEq, Repr

inductive PatternReason where
  | emptySegment
  | notAnIdentifier (segment : String)
deriving DecidableEq, Repr

def PatternReason.text : PatternReason → String
  | .emptySegment => "empty path segment"
  | .notAnIdentifier segment => "'" ++ segment ++ "' is not an identifier"

structure PatternError where
  pattern : String
  reason : PatternReason
deriving DecidableEq, Repr

def PatternError.message (error : PatternError) : String :=
  "invalid call pattern '" ++ error.pattern ++ "': " ++ error.reason.text

-- Whether a path segment is a name. Joiners, which scripts allow inside names, are not accepted.
def isIdentifier (segment : List Char) : Bool :=
  match segment with
  | [] => false
  | c :: rest =>
      (c == '$' || c == '_' || isAlphabetic c) && rest.all fun c => c == '$' || c == '_' || isAlphanumeric c

def splitPoints : List Char → List (List Char)
  | [] => [[]]
  | c :: rest =>
      if c = '.' then [] :: splitPoints rest
      else
        match splitPoints rest with
        | first :: others => (c :: first) :: others
        | [] => [[c]]

namespace CallPattern

def parse (dotted : String) (argumentIndex : Nat) : Except PatternError CallPattern :=
  let segments := (splitPoints dotted.toList).map trim
  if segments.any List.isEmpty then .error ⟨dotted, .emptySegment⟩
  else
    match segments.find? (!isIdentifier ·) with
    | some bad => .error ⟨dotted, .notAnIdentifier (String.ofList bad)⟩
    | none => .ok ⟨segments.map String.ofList, argumentIndex⟩

def standard : CallPattern :=
  ⟨["casper", "test", "begin"], 0⟩

def text (pattern : CallPattern) : String :=
  String.intercalate "." pattern.path

end CallPattern

end ScriptSuite.Discovery
