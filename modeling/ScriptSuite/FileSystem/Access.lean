import ScriptSuite.FileSystem.Disk
import ScriptSuite.FileSystem.Naming
import ScriptSuite.Text.Utf8

set_option autoImplicit false

namespace ScriptSuite.FileSystem.Disk

open Text

def isFile (disk : Disk) (path : Path) : Bool :=
  match disk.node path with
  | .ok (.file _ _) => true
  | _ => false

def isDirectory (disk : Disk) (path : Path) : Bool :=
  match disk.node path with
  | .ok (.directory _) => true
  | _ => false

def isPresent (disk : Disk) (path : Path) : Bool :=
  (disk.node path).isOk

def readBytes (disk : Disk) (path : Path) : Except IoError (List UInt8) := do
  match ← disk.node path with
  | .file content _ => .ok content
  | .directory _ => .error .isADirectory
  | .link _ => .error .tooManyLinks

def readText (disk : Disk) (path : Path) : Except IoError String := do
  match Utf8.decode? (← disk.readBytes path) with
  | some text => .ok text
  | none => .error .notText

def entryNames (disk : Disk) (path : Path) : Except IoError (List String) := do
  match ← disk.node path with
  | .directory entries => .ok (entries.map (·.1))
  | _ => .error .notADirectory

def createDirectory (disk : Disk) (path : Path) : Except IoError Disk := do
  match ← disk.reach false path with
  | .missing directory name _ => .ok (disk.put (directory ++ [name]) (.directory []))
  | _ => .error .alreadyExists

def createEach (disk : Disk) : List Path → Except IoError Disk
  | [] => .ok disk
  | path :: rest =>
      match disk.createDirectory path with
      | .ok disk => createEach disk rest
      | .error error => if disk.isDirectory path then createEach disk rest else .error error

def missingAncestors (disk : Disk) : Nat → Path → List Path → List Path
  | 0, path, found => path :: found
  | fuel + 1, path, found =>
      match disk.createDirectory path with
      | .error .notFound =>
          match path.parent? with
          | some parent => if parent.text = "" then path :: found else missingAncestors disk fuel parent (path :: found)
          | none => path :: found
      | _ => path :: found

def createDirectories (disk : Disk) (path : Path) : Except IoError Disk :=
  if path.text = "" then .ok disk
  else disk.createEach (disk.missingAncestors path.text.length path [])

-- What `createEach` leaves behind, also where it fails: what it has made until then stays.
def afterEach (disk : Disk) : List Path → Disk
  | [] => disk
  | path :: rest =>
      match disk.createDirectory path with
      | .ok disk => afterEach disk rest
      | .error _ => if disk.isDirectory path then afterEach disk rest else disk

def afterDirectories (disk : Disk) (path : Path) : Disk :=
  if path.text = "" then disk else disk.afterEach (disk.missingAncestors path.text.length path [])

def writeFile (disk : Disk) (path : Path) (content : List UInt8) (mode : Nat) : Except IoError Disk := do
  match ← disk.reach true path with
  | .missing directory name false => .ok (disk.put (directory ++ [name]) (.file content mode))
  | .missing _ _ true => .error .isADirectory
  | .arrived place =>
      match disk.at? place with
      | some (.file _ oldMode) => .ok (disk.put place (.file content oldMode))
      | some _ => .error .isADirectory
      | none => .error .notFound
  | .redirected _ _ _ => .error .tooManyLinks

def createLink (disk : Disk) (path : Path) (target : String) : Except IoError Disk := do
  match ← disk.reach false path with
  | .missing directory name false => .ok (disk.put (directory ++ [name]) (.link target))
  | _ => .error .alreadyExists

def copyFile (disk : Disk) (source target : Path) : Except IoError Disk := do
  match ← disk.node source with
  | .file content mode =>
      let disk ← disk.writeFile target content mode
      let place ← disk.locate target
      .ok (disk.put place (.file content mode))
  | _ => .error .notARegularFile

def removeTree (disk : Disk) (path : Path) : Disk :=
  match disk.locate path with
  | .ok place => disk.remove place
  | .error _ => disk

def createTemporary (disk : Disk) (naming : Naming) (parent : Path) (stem : String) : Except IoError (Disk × Path) := do
  let parent := if parent.isAbsolute then parent else disk.currentPath.join parent
  let place ← disk.locate parent
  match disk.at? place with
  | some (.directory entries) =>
      let name := naming stem entries
      .ok (disk.put (place ++ [name]) (.directory []), parent.join ⟨name⟩)
  | some _ => .error .notADirectory
  | none => .error .notFound

end ScriptSuite.FileSystem.Disk
