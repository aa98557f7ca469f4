import ScriptSuite.FileSystem.Access

set_option autoImplicit false

namespace ScriptSuite.Discovery

open FileSystem

def hasExtension (extensions : List String) (path : Path) : Bool :=
  match path.extension? with
  | some found => extensions.any fun wanted => String.ofList (wanted.toList.dropWhile (· == '.')) == found
  | none => false

def isSkipped (name : String) : Bool :=
  ['.'].isPrefixOf name.toList || name == "node_modules"

def sortPaths (paths : List Path) : List Path :=
  paths.mergeSort fun a b => a.compare b != .gt

def entryFiles (disk : Disk) (extensions : List String) (below : Path → List Path) (directory : Path) (name : String) :
    List Path :=
  let path := directory.join ⟨name⟩
  if disk.isDirectory path then
    if isSkipped name then [] else below path
  else if hasExtension extensions path then [path]
  else []

-- The files below a directory; each directory on the way is sorted for itself. The fuel bounds the depth.
def filesBelow (disk : Disk) (extensions : List String) : Nat → Path → List Path
  | 0, _ => []
  | fuel + 1, directory =>
      match disk.entryNames directory with
      | .error _ => []
      | .ok names => sortPaths (names.flatMap (entryFiles disk extensions (filesBelow disk extensions fuel) directory))

def maxDepth (disk : Disk) : Nat :=
  (countEntries disk.entries + 1) * (maxLinks + 2)

def collect (disk : Disk) (extensions : List String) (path : Path) : List Path :=
  if disk.isFile path then
    if hasExtension extensions path then [path] else []
  else filesBelow disk extensions (maxDepth disk) path

end ScriptSuite.Discovery
