import ScriptSuite.Shell.Condition
import ScriptSuite.Shell.Machine

set_option autoImplicit false

namespace ScriptSuite.Shell

open FileSystem Text

def baseName (path : String) : String :=
  match (path.toList.reverse.dropWhile (· == '/')) with
  | [] => if path == "" then "" else "/"
  | trimmed => String.ofList (trimmed.takeWhile (· != '/')).reverse

def directoryName (path : String) : String :=
  let trimmed := path.toList.reverse.dropWhile (· == '/')
  match trimmed.dropWhile (· != '/') with
  | [] => if trimmed.isEmpty && path != "" then "/" else "."
  | before =>
      match before.dropWhile (· == '/') with
      | [] => "/"
      | kept => String.ofList kept.reverse

def withoutEnding (ending text : String) : String :=
  if ending.toList.isSuffixOf text.toList && ending != text then
    String.ofList (text.toList.take (text.length - ending.length))
  else text

def reasonOf : IoError → String
  | .notFound => "No such file or directory"
  | .notADirectory => "Not a directory"
  | .isADirectory => "Is a directory"
  | .alreadyExists => "File exists"
  | .notEmpty => "Directory not empty"
  | .tooManyLinks => "Too many levels of symbolic links"
  | _ => "Permission denied"

def fileComplaint (failing path : String) (error : IoError) : String :=
  failing ++ " '" ++ path ++ "': " ++ reasonOf error

def milliseconds? (text : String) : Option Nat :=
  let (whole, rest) := text.toList.span isAsciiDigit
  let (places, unit) := match rest with
    | '.' :: rest => rest.span isAsciiDigit
    | rest => ([], rest)
  let thousandths := natOfDigits 10 whole * 1000 + natOfDigits 10 ((places ++ ['0', '0', '0']).take 3)
  if whole.isEmpty && places.isEmpty then none
  else match unit with
    | [] | ['s'] => some thousandths
    | ['m'] => some (thousandths * 60)
    | ['h'] => some (thousandths * 3600)
    | ['d'] => some (thousandths * 86400)
    | _ => none

def catFile (path : String) : Execution Nat := do
  let machine ← get
  if path == "-" then
    let _ ← emit 1 machine.input
    modify fun machine => { machine with input := [] }
    return 0
  match machine.disk.readBytes ⟨path⟩ with
  | .ok content =>
      let _ ← emit 1 content
      return 0
  | .error error =>
      report ("cat: " ++ path ++ ": " ++ reasonOf error)
      return 1

def isOption (argument : String) : Bool :=
  match argument.toList with
  | '-' :: _ :: _ => true
  | _ => false

def hasLetter (letter : Char) (arguments : List String) : Bool :=
  arguments.any fun argument => isOption argument && argument.toList.contains letter

def onEach (program : String → Execution Nat) : List String → Execution Nat
  | [] => return 0
  | argument :: rest => do
      let status ← program argument
      let others ← onEach program rest
      return if others = 0 then status else others

inductive Listing where
  | visible | almostAll | all
deriving DecidableEq, Repr

def Listing.of (arguments : List String) : Listing :=
  if hasLetter 'a' arguments then .all else if hasLetter 'A' arguments then .almostAll else .visible

def Listing.names (listing : Listing) (names : List String) : List String :=
  let sorted := names.mergeSort fun a b => a ≤ b
  match listing with
  | .visible => sorted.filter fun name => name.toList.head? != some '.'
  | .almostAll => sorted
  | .all => "." :: ".." :: sorted

def listPath (listing : Listing) (titled : Bool) (path : String) : Execution Nat := do
  let disk := (← get).disk
  match disk.entryNames ⟨path⟩ with
  | .ok names =>
      let lines := (if titled then [path ++ ":"] else []) ++ listing.names names
      say (String.join (lines.map (· ++ "\n")))
  | .error _ =>
      if disk.isPresent ⟨path⟩ then say (path ++ "\n")
      else
        report ("ls: cannot access '" ++ path ++ "': No such file or directory")
        return 2

def change (failing path : String) (result : Except IoError Disk) : Execution Nat := do
  match result with
  | .ok disk =>
      modify fun machine => { machine with disk }
      return 0
  | .error error =>
      report (fileComplaint failing path error)
      return 1

def removePath (recursive force : Bool) (path : String) : Execution Nat := do
  let disk := (← get).disk
  match disk.reach false ⟨path⟩ with
  | .ok (.arrived place) =>
      match disk.at? place with
      | some (.directory _) =>
          change "rm: cannot remove" path (if recursive then .ok (disk.remove place) else .error .isADirectory)
      | _ => change "rm: cannot remove" path (.ok (disk.remove place))
  | _ => if force then return 0 else change "rm: cannot remove" path (.error .notFound)

def removeDirectory (path : String) : Execution Nat := do
  let disk := (← get).disk
  change "rmdir: failed to remove" path do
    let place ← disk.locate ⟨path⟩
    match ← disk.entryNames ⟨path⟩ with
    | [] => return disk.remove place
    | _ => throw .notEmpty

def changedMode (old : Nat) (text : String) : Nat :=
  if text.toList.all isAsciiDigit then natOfDigits 8 text.toList
  else if text.toList.contains '-' then old - (old &&& 0o111)
  else old ||| 0o111

def changeMode (mode path : String) : Execution Nat := do
  let disk := (← get).disk
  change "chmod: cannot access" path do
    let place ← disk.locate ⟨path⟩
    match disk.at? place with
    | some (.file content old) => return disk.put place (.file content (changedMode old mode))
    | _ => return disk

def destination (disk : Disk) (source target : String) : Path :=
  if disk.isDirectory ⟨target⟩ then (⟨target⟩ : Path).join ⟨baseName source⟩ else ⟨target⟩

def copyTo (move : Bool) (source target : String) : Execution Nat := do
  let disk := (← get).disk
  let copied := disk.copyFile ⟨source⟩ (destination disk source target)
  change (if move then "mv: cannot stat" else "cp: cannot stat") source do
    let place ← disk.locate ⟨source⟩
    let changed ← copied
    return if move then changed.remove place else changed

def touchFile (path : String) : Execution Nat := do
  let disk := (← get).disk
  if disk.isPresent ⟨path⟩ then return 0
  change "touch: cannot touch" path (disk.writeFile ⟨path⟩ [] 0o644)

def linesOf (bytes : List UInt8) : List (List UInt8) :=
  let pieces := Engine.splitLines bytes
  if pieces.getLast? == some [] then pieces.dropLast else pieces

def unlines (lines : List (List UInt8)) : List UInt8 :=
  lines.flatMap (· ++ [10])

def gatheredFiles (complaint : String → IoError → String) : List String → Execution (Nat × List UInt8)
  | [] => return (0, [])
  | path :: rest => do
      match (← get).disk.readBytes ⟨path⟩ with
      | .ok content =>
          let (status, others) ← gatheredFiles complaint rest
          return (status, content ++ others)
      | .error error =>
          report (complaint path error)
          let (_, others) ← gatheredFiles complaint rest
          return (1, others)

def gathered (complaint : String → IoError → String) (paths : List String) : Execution (Nat × List UInt8) := do
  if paths.isEmpty then
    let machine ← get
    set { machine with input := [] }
    return (0, machine.input)
  else gatheredFiles complaint paths

def readingComplaint (program path : String) (error : IoError) : String :=
  program ++ ": cannot open '" ++ path ++ "' for reading: " ++ reasonOf error

def lineCount : List String → Nat × List String
  | "-n" :: count :: rest => (natOfDigits 10 (count.toList.filter isAsciiDigit), rest)
  | argument :: rest =>
      if isOption argument then (natOfDigits 10 (argument.toList.filter isAsciiDigit), rest)
      else (10, argument :: rest)
  | [] => (10, [])

def sequenceLines (first last : Int) : List UInt8 :=
  (List.range (last + 1 - first).toNat).flatMap fun (i : Nat) => bytesOf (toString (first + i) ++ "\n")

def utility? (child : Bool) (name : String) (arguments : List String) : Option (Execution Nat) :=
  let operands := arguments.filter (!isOption ·)
  match name with
  | "true" | ":" => some (return 0)
  | "false" => some (return 1)
  | "echo" => some do
      if ← emit 1 (Printing.echo arguments) then return 0
      complain "echo: echo: I/O error"
      return 1
  | "printf" => some do
      match if arguments.head? == some "--" then arguments.drop 1 else arguments with
      | format :: rest =>
          let printed := Printing.printf format rest
          for text in printed.refused do complain ("printf: " ++ text ++ ": expected numeric value")
          if ← emit 1 printed.bytes then return if printed.refused.isEmpty then 0 else 1
          complain "printf: printf: I/O error"
          return 1
      | [] =>
          complain "printf: usage: printf format [arg ...]"
          return 2
  | "test" | "[" => some do
      match condition (← get).disk (name == "[") arguments with
      | .ok value => return if value then 0 else 1
      | .error error =>
          complain (name ++ ": " ++ error.message)
          return 2
  | "pwd" => some do say ((← get).disk.currentPath.text ++ "\n")
  | "cat" => some (if operands.isEmpty then catFile "-" else onEach catFile operands)
  | "ls" => some do
      let listing := Listing.of arguments
      if operands.isEmpty then listPath listing false "."
      else onEach (listPath listing (1 < operands.length)) operands
  | "dirname" => some (say (String.join (operands.map fun path => directoryName path ++ "\n")))
  | "basename" => some (match arguments with
      | [path, ending] => say (withoutEnding ending (baseName path) ++ "\n")
      | _ => say (String.join (operands.map fun path => baseName path ++ "\n")))
  | "sleep" => some do
      let refused := arguments.filter fun argument => (milliseconds? argument).isNone
      for argument in refused do report ("sleep: invalid time interval '" ++ argument ++ "'")
      if arguments.isEmpty then report "sleep: missing operand"
      if arguments.isEmpty || !refused.isEmpty then
        report "Try 'sleep --help' for more information."
        return 1
      pause ((arguments.filterMap milliseconds?).foldl (fun sum time => sum + time) 0) child
      return 0
  | "mkdir" => some (onEach (fun path => do
      let disk := (← get).disk
      change "mkdir: cannot create directory" path
        (if hasLetter 'p' arguments then disk.createDirectories ⟨path⟩ else disk.createDirectory ⟨path⟩))
      operands)
  | "rm" => some (onEach (removePath (hasLetter 'r' arguments || hasLetter 'R' arguments) (hasLetter 'f' arguments))
      operands)
  | "rmdir" => some (onEach removeDirectory operands)
  | "chmod" => some (match arguments with
      | mode :: paths => onEach (changeMode mode) paths
      | [] => return 1)
  | "touch" => some (onEach touchFile operands)
  | "cp" => some (match operands with
      | [source, target] => copyTo false source target
      | _ => return 1)
  | "mv" => some (match operands with
      | [source, target] => copyTo true source target
      | _ => return 1)
  | "head" => some do
      let (count, paths) := lineCount arguments
      let (status, content) ← gathered (readingComplaint name) paths
      let _ ← emit 1 (unlines ((linesOf content).take count))
      return status
  | "tail" => some do
      let (count, paths) := lineCount arguments
      let (status, content) ← gathered (readingComplaint name) paths
      let lines := linesOf content
      let _ ← emit 1 (unlines (lines.drop (lines.length - count)))
      return status
  | "sort" => some do
      let (status, content) ←
        gathered (fun path error => "sort: cannot read: " ++ path ++ ": " ++ reasonOf error) operands
      if status != 0 then return 2
      let _ ← emit 1 (unlines ((linesOf content).mergeSort fun a b => !List.lex b a fun x y => x < y))
      return 0
  | "wc" => some do
      let (status, content) ← gathered (fun path error => "wc: " ++ path ++ ": " ++ reasonOf error) operands
      if status != 0 then return status
      let words := (Utf8.decodeLossy content).toList
      let count := if hasLetter 'l' arguments then content.count 10
        else if hasLetter 'c' arguments then content.length
        else words.length
      say (toString count ++ (operands.head?.map (" " ++ ·)).getD "" ++ "\n")
  | "seq" => some do
      let bounds := arguments.map Printing.integerOf
      match bounds with
      | [last] =>
          let _ ← emit 1 (sequenceLines 1 last)
          return 0
      | [first, last] =>
          let _ ← emit 1 (sequenceLines first last)
          return 0
      | _ => return 1
  | _ => none

end ScriptSuite.Shell
