import ScriptSuite.CommandLine.Execute
import ScriptSuite.CommandLine.Numbering
import ScriptSuite.Shell.Run

/-!
The program. It reads the tree below the working directory, and the configuration files above it, into a disk, carries
out the command line there, and writes back what has changed.
-/
set_option autoImplicit false

namespace ScriptSuite

open FileSystem

partial def readEntries (directory : String) : IO Entries := do
  let mut entries := []
  for entry in ← (← IO.FS.realPath directory).readDir do
    let name := entry.fileName
    let path := directory ++ "/" ++ name
    match (← entry.path.symlinkMetadata).type with
    | .dir => entries := (name, .directory (← readEntries path)) :: entries
    | .symlink => entries := (name, .link (← IO.FS.realPath path).toString) :: entries
    | _ => entries := (name, .file (← IO.FS.readBinFile path).data.toList 0o755) :: entries
  return entries.reverse

partial def readDisk : IO Disk := do
  let here := (← IO.currentDir).toString
  let place := (Path.mk here).segments.filter fun segment => !Path.isSilent segment
  let mut disk : Disk := ⟨[], place⟩
  for path in (Path.mk here).ancestors.reverse do
    if path.text != "/" then
      disk := (disk.createDirectories path).toOption.getD disk
    let file := path.join Config.fileName
    try
      let content ← IO.FS.readBinFile file.text
      disk := (disk.writeFile file content.data.toList 0o644).toOption.getD disk
    catch _ => pure ()
  return disk.put place (.directory (← readEntries here))

partial def writeEntries (directory : String) (old new : Entries) : IO Unit := do
  for (name, node) in new do
    let path := directory ++ "/" ++ name
    match node, old.lookup name with
    | .directory inner, before =>
        IO.FS.createDirAll path
        writeEntries path (match before with | some (.directory entries) => entries | _ => []) inner
    | .file content _, some (.file before _) =>
        if content != before then IO.FS.writeBinFile path ⟨content.toArray⟩
    | .file content _, _ => IO.FS.writeBinFile path ⟨content.toArray⟩
    | .link _, _ => pure ()

def secondsText (milliseconds : Nat) : String :=
  let hundredths := (milliseconds + 5) / 10
  let places := toString (hundredths % 100)
  toString (hundredths / 100) ++ "." ++ (if places.length = 1 then "0" ++ places else places)

def entriesAt (disk : Disk) (place : Place) : Entries :=
  match disk.at? place with
  | some (.directory entries) => entries
  | _ => []

end ScriptSuite

open ScriptSuite in
def main (arguments : List String) : IO UInt32 := do
  let start ← IO.monoMsNow
  let disk ← readDisk
  let program := (← IO.appPath).parent.map (·.toString)
  let outcome := CommandLine.perform ⟨disk, ⟨program.getD "."⟩, Shell.launcher, fun _ => CommandLine.numbered⟩ arguments
  writeEntries disk.currentPath.text (entriesAt disk disk.workingDirectory)
    (entriesAt outcome.disk outcome.disk.workingDirectory)
  let shown := outcome.shown (secondsText ((← IO.monoMsNow) - start))
  IO.print shown.output
  IO.eprint shown.errors
  return outcome.exitCode.toUInt32
