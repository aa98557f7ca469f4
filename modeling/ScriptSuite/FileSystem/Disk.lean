import ScriptSuite.FileSystem.IoError
import ScriptSuite.FileSystem.Node
import ScriptSuite.Path

/-!
A disk: a tree and a working directory. Paths are walked segment by segment; links are followed at most forty times.
-/
set_option autoImplicit false

namespace ScriptSuite.FileSystem

structure Disk where
  entries : Entries
  workingDirectory : Place
deriving Inhabited

inductive Walk where
  | arrived (place : Place)
  | missing (directory : Place) (name : String) (slashed : Bool)
  | redirected (directory : Place) (target : String) (rest : List String)
deriving DecidableEq, Repr

def maxLinks : Nat := 40

namespace Disk

def at? (disk : Disk) (place : Place) : Option Node :=
  disk.entries.at? place

def put (disk : Disk) (place : Place) (node : Node) : Disk :=
  { disk with entries := disk.entries.put node place }

def remove (disk : Disk) (place : Place) : Disk :=
  { disk with entries := disk.entries.remove place }

def origin (disk : Disk) (path : Path) : Place :=
  if path.isAbsolute then [] else disk.workingDirectory

def walk (disk : Disk) (followLast : Bool) (place : Place) : List String → Except IoError Walk
  | [] => .ok (.arrived place)
  | segment :: rest =>
      match disk.at? place with
      | some (.directory entries) =>
          if Path.isSilent segment then walk disk followLast place rest
          else if segment = ".." then walk disk followLast place.dropLast rest
          else
            match entries.lookup segment with
            | none =>
                if rest.all (· == "") then .ok (.missing place segment (!rest.isEmpty)) else .error .notFound
            | some (.link target) =>
                if rest.isEmpty && !followLast then .ok (.arrived (place ++ [segment]))
                else .ok (.redirected place target rest)
            | some _ => walk disk followLast (place ++ [segment]) rest
      | some _ => .error .notADirectory
      | none => .error .notFound

def follow (disk : Disk) (followLast : Bool) : Nat → Place → List String → Except IoError Walk
  | 0, _, _ => .error .tooManyLinks
  | budget + 1, place, segments =>
      match disk.walk followLast place segments with
      | .ok (.redirected directory target rest) =>
          let target : Path := ⟨target⟩
          follow disk followLast budget (if target.isAbsolute then [] else directory) (target.segments ++ rest)
      | other => other

def reach (disk : Disk) (followLast : Bool) (path : Path) : Except IoError Walk :=
  if path.text = "" then .error .notFound
  else disk.follow followLast (maxLinks + 1) (disk.origin path) path.segments

def locate (disk : Disk) (path : Path) : Except IoError Place :=
  match disk.reach true path with
  | .ok (.arrived place) => .ok place
  | .ok _ => .error .notFound
  | .error error => .error error

def node (disk : Disk) (path : Path) : Except IoError Node := do
  let place ← disk.locate path
  match disk.at? place with
  | some node => .ok node
  | none => .error .notFound

def pathOf (place : Place) : Path :=
  ⟨"/" ++ String.intercalate "/" place⟩

def canonicalize (disk : Disk) (path : Path) : Except IoError Path :=
  (disk.locate path).map pathOf

def currentPath (disk : Disk) : Path :=
  pathOf disk.workingDirectory

end Disk

end ScriptSuite.FileSystem
