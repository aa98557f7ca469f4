import ScriptSuite.FileSystem.Access

set_option autoImplicit false

namespace ScriptSuite.Staging

open FileSystem

inductive StagingError where
  | prepare (root : Path) (error : IoError)
  | copy (file : Path) (error : IoError)
  | layout (file : Path)
deriving DecidableEq, Repr

def StagingError.message : StagingError → String
  | .prepare root error => "cannot create staging directory under " ++ root.text ++ ": " ++ error.message
  | .copy file error => "cannot stage " ++ file.text ++ ": " ++ error.message
  | .layout file => "cannot lay out " ++ file.text ++ " relative to the test file"

structure Workspace where
  root : Path
  entry : Path
deriving DecidableEq, Repr

def commonPrefix : List Path.Component → List Path.Component → List Path.Component
  | a :: as, b :: bs => if a = b then a :: commonPrefix as bs else []
  | _, _ => []

def baseOf (entryDirectory : Path) (files : List Path) : List Path.Component :=
  (files.filterMap Path.parent?).foldl (fun base directory => commonPrefix base directory.components)
    entryDirectory.components

def copyInto (disk : Disk) (root : Path) (base : List Path.Component) (file : Path) :
    Except StagingError (Disk × Path) := do
  match Path.below? base file.components with
  | none => .error (.layout file)
  | some relative =>
      let target := root.join (Path.ofComponents relative)
      let disk ← (disk.createDirectories (target.parent?.getD target)).mapError (.copy file)
      let disk ← (disk.copyFile file target).mapError (.copy file)
      .ok (disk, target)

def copyAll (disk : Disk) (root : Path) (base : List Path.Component) (files : List Path) :
    Except StagingError Disk :=
  files.foldlM (fun disk file => (copyInto disk root base file).map (·.1)) disk

def fill (disk : Disk) (root entry : Path) (files : List Path) : Except StagingError (Disk × Workspace) := do
  let file ← (disk.canonicalize entry).mapError (.copy entry)
  match file.parent? with
  | none => .error (.layout file)
  | some directory =>
      let base := baseOf directory files
      if base.isEmpty then .error (.layout file)
      let (disk, staged) ← copyInto disk root base file
      let disk ← copyAll disk root base files
      .ok (disk, ⟨root, staged⟩)

def dispose (disk : Disk) (workspace : Workspace) : Disk :=
  disk.removeTree workspace.root

-- Makes a workspace below the staging root. Where that fails, what was made of it is removed again, but not the
-- staging root, nor what could be made of that.
def stage (naming : Naming) (disk : Disk) (stagingRoot entry : Path) (files : List Path) :
    Disk × Except StagingError Workspace :=
  match disk.createDirectories stagingRoot with
  | .error error => (disk.afterDirectories stagingRoot, .error (.prepare stagingRoot error))
  | .ok disk =>
      match disk.createTemporary naming stagingRoot "casper-" with
      | .error error => (disk, .error (.prepare stagingRoot error))
      | .ok (made, root) =>
          match fill made root entry files with
          | .error error => (made.removeTree root, .error error)
          | .ok (filled, workspace) => (filled, .ok workspace)

end ScriptSuite.Staging
