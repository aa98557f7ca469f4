import ScriptSuite.FileSystem.Naming

set_option autoImplicit false

namespace ScriptSuite.CommandLine

open FileSystem

def sixDigits (n : Nat) : String :=
  let digits := Nat.toDigits 10 n
  String.ofList (List.replicate (6 - digits.length) '0' ++ digits)

def numbered : Naming := fun stem entries =>
  let candidates := (List.range (entries.length + 1)).map fun n => stem ++ sixDigits n
  (candidates.find? fun name => (entries.lookup name).isNone).getD stem

end ScriptSuite.CommandLine
