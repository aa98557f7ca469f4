import ScriptSuite.Shell.Utility

set_option autoImplicit false

namespace ScriptSuite.Shell

open FileSystem Text

def programDirectories : List String :=
  ["/usr/local/sbin", "/usr/local/bin", "/usr/sbin", "/usr/bin", "/sbin", "/bin"]

inductive Program where
  | shell
  | utility (name : String)
  | script (path : String)
deriving DecidableEq, Repr

def systemProgram? (name : String) : Option Program :=
  if name == "sh" || name == "dash" then some .shell
  else if (utility? true name []).isSome then some (.utility name)
  else none

def interpreter? (content : List UInt8) : Option (Option Program) :=
  match content with
  | 35 :: 33 :: rest =>
      let line := (Utf8.decodeLossy (rest.takeWhile (· != 10))).toList
      let words := (String.ofList line).splitOn " " |>.filter (· != "")
      match words with
      | ["/usr/bin/env", name] => some (systemProgram? name)
      | path :: _ =>
          some (if programDirectories.contains (directoryName path) then systemProgram? (baseName path) else none)
      | [] => some none
  | _ => none

def programAt (disk : Disk) (path : String) : Except IoError Program := do
  match if programDirectories.contains (directoryName path) then systemProgram? (baseName path) else none with
  | some program => return program
  | none =>
      match ← disk.node ⟨path⟩ with
      | .file content mode =>
          if mode &&& 0o111 == 0 then throw .permissionDenied
          match interpreter? content with
          | some (some .shell) => return .script path
          | some _ => throw .notFound
          | none => throw .execFormat
      | _ => throw .permissionDenied

def findProgram (disk : Disk) (name : String) : Except IoError Program :=
  if name.toList.contains '/' then programAt disk name
  else
    match systemProgram? name with
    | some program => .ok program
    | none => .error .notFound

structure Invocation where
  text : Option String
  file : Option String
  name : String
  arguments : List String
  exitsOnFailure : Bool
deriving DecidableEq, Repr

def invocationFrom (name : String) (exitsOnFailure : Bool) (readsText : Bool) :
    List String → Except String Invocation
  | [] => if readsText then .error "-c requires an argument" else .ok ⟨none, none, name, [], exitsOnFailure⟩
  | argument :: rest =>
      match argument.toList with
      | ['-', '-'] | ['-'] => operands readsText exitsOnFailure rest
      | '-' :: letters =>
          match letters.find? fun letter => !("cefmnsuvxabC".toList.contains letter) with
          | some letter => .error ("Illegal option -" ++ letter.toString)
          | none =>
              invocationFrom name (exitsOnFailure || letters.contains 'e') (readsText || letters.contains 'c') rest
      | _ => operands readsText exitsOnFailure (argument :: rest)
where
  operands (readsText exitsOnFailure : Bool) : List String → Except String Invocation
    | [] => if readsText then .error "-c requires an argument" else .ok ⟨none, none, name, [], exitsOnFailure⟩
    | first :: rest =>
        if readsText then .ok ⟨some first, none, rest.head?.getD name, rest.drop 1, exitsOnFailure⟩
        else .ok ⟨none, some first, first, rest, exitsOnFailure⟩

end ScriptSuite.Shell
