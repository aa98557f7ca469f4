set_option autoImplicit false

namespace ScriptSuite.FileSystem

inductive Node where
  | file (content : List UInt8) (mode : Nat)
  | directory (entries : List (String × Node))
  | link (target : String)
deriving Inhabited

abbrev Entries := List (String × Node)

abbrev Place := List String

def setEntry (name : String) (node : Node) : Entries → Entries
  | [] => [(name, node)]
  | (other, old) :: rest => if other = name then (name, node) :: rest else (other, old) :: setEntry name node rest

def removeEntry (name : String) (entries : Entries) : Entries :=
  entries.filter fun entry => entry.1 ≠ name

namespace Entries

def at? (entries : Entries) : Place → Option Node
  | [] => some (.directory entries)
  | [name] => entries.lookup name
  | name :: rest =>
      match entries.lookup name with
      | some (.directory inner) => at? inner rest
      | _ => none

def put (entries : Entries) (node : Node) : Place → Entries
  | [] => entries
  | [name] => setEntry name node entries
  | name :: rest =>
      match entries.lookup name with
      | some (.directory inner) => setEntry name (.directory (put inner node rest)) entries
      | _ => entries

def remove (entries : Entries) : Place → Entries
  | [] => entries
  | [name] => removeEntry name entries
  | name :: rest =>
      match entries.lookup name with
      | some (.directory inner) => setEntry name (.directory (remove inner rest)) entries
      | _ => entries

end Entries

mutual

def Node.count : Node → Nat
  | .file _ _ => 1
  | .directory entries => countEntries entries + 1
  | .link _ => 1

def countEntries : List (String × Node) → Nat
  | [] => 0
  | (_, node) :: rest => node.count + countEntries rest

end

end ScriptSuite.FileSystem
