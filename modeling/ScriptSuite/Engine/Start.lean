import ScriptSuite.Engine.Command
import ScriptSuite.Engine.Trace

set_option autoImplicit false

namespace ScriptSuite.Engine

open FileSystem

inductive StartError where
  | notFound (program : Path)
  | permissionDenied (program : Path)
  | failed (program : Path) (error : IoError)
deriving DecidableEq, Repr

namespace StartError

def message : StartError → String
  | .notFound program => "engine binary not found: " ++ program.text
  | .permissionDenied program => "permission denied when starting " ++ program.text
  | .failed program error => "failed to start " ++ program.text ++ ": " ++ error.message

def ofIo (program : Path) : IoError → StartError
  | .notFound => .notFound program
  | .permissionDenied => .permissionDenied program
  | error => .failed program error

end StartError

abbrev Launcher := Disk → Command → Except IoError Trace

def start (launcher : Launcher) (disk : Disk) (command : Command) : Except StartError Trace :=
  (launcher disk command).mapError (StartError.ofIo command.program)

end ScriptSuite.Engine
