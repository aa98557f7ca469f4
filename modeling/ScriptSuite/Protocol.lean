set_option autoImplicit false

namespace ScriptSuite

structure Protocol where
  testMarker : String := "# "
  failurePrefix : String := "FAIL"
  fatalMarker : String := "CasperError"
deriving DecidableEq, Repr

namespace Protocol

def occursIn (needle : List Char) : List Char → Bool
  | [] => needle.isEmpty
  | c :: rest => needle.isPrefixOf (c :: rest) || occursIn needle rest

def afterPrefix? (start text : List Char) : Option (List Char) :=
  if start.isPrefixOf text then some (text.drop start.length) else none

def dropReturn (line : String) : String :=
  match line.toList.reverse with
  | '\r' :: rest => String.ofList rest.reverse
  | _ => line

def isFatal (protocol : Protocol) (line : String) : Bool :=
  occursIn protocol.fatalMarker.toList line.toList

def isFailure (protocol : Protocol) (line : String) : Bool :=
  protocol.failurePrefix.toList.isPrefixOf line.toList

def markedName? (protocol : Protocol) (line : String) : Option String :=
  match afterPrefix? protocol.testMarker.toList line.toList with
  | some (c :: name) => some (String.ofList (c :: name))
  | _ => none

end Protocol

end ScriptSuite
