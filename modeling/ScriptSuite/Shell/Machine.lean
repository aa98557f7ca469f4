import ScriptSuite.Engine.Trace
import ScriptSuite.FileSystem.Access
import ScriptSuite.Shell.Syntax

set_option autoImplicit false

namespace ScriptSuite.Shell

open Engine FileSystem Text

inductive Sink where
  | output | errors
  | capture
  | file (place : Place)
  | nowhere
  | closed
deriving DecidableEq, Repr

structure Machine where
  disk : Disk
  name : String
  arguments : List String
  bindings : List (String × String)
  functions : List (String × Command)
  traps : List (String × String)
  sinks : List (Nat × Sink)
  input : List UInt8
  captured : List UInt8
  events : List Event
  clock : Nat
  jobsEnd : Nat
  status : Nat
  substituted : Nat
  line : Nat
  exitsOnFailure : Bool
  tested : Bool
  -- Whether parameters without a value are refused, and whether commands are written before they run.
  needsValues : Bool
  traced : Bool
  loops : Nat
  -- The local names of the running function with the values they hide; absent outside functions.
  locals : Option (List (String × Option String))
deriving Inhabited

inductive Interrupt where
  | exited (status : Nat)
  | killed
  | broken (levels : Nat)
  | continued (levels : Nat)
  | returned (status : Nat)
  | endless
deriving DecidableEq, Repr

abbrev Execution := ExceptT Interrupt (StateM Machine)

namespace Machine

def start (disk : Disk) (name : String) (arguments : List String) : Machine where
  disk := disk
  name := name
  arguments := arguments
  bindings := [("IFS", " \t\n"), ("PATH", "/usr/local/sbin:/usr/local/bin:/usr/sbin:/usr/bin:/sbin:/bin"),
    ("PWD", disk.currentPath.text)]
  functions := []
  traps := []
  sinks := [(1, .output), (2, .errors)]
  input := []
  captured := []
  events := []
  clock := 0
  jobsEnd := 0
  status := 0
  substituted := 0
  line := 1
  exitsOnFailure := false
  tested := false
  needsValues := false
  traced := false
  loops := 0
  locals := none

def sink (machine : Machine) (descriptor : Nat) : Sink :=
  (machine.sinks.lookup descriptor).getD .closed

def value? (machine : Machine) (name : String) : Option String :=
  machine.bindings.lookup name

def holds (machine : Machine) (sink : Sink) : Bool :=
  machine.sinks.any (·.2 == sink)

end Machine

def bind {κ α : Type} [BEq κ] (name : κ) (value : α) (bindings : List (κ × α)) : List (κ × α) :=
  (name, value) :: bindings.filter fun binding => binding.1 != name

def setVariable (name value : String) : Execution Unit :=
  modify fun machine => { machine with bindings := bind name value machine.bindings }

def unsetVariable (name : String) : Execution Unit :=
  modify fun machine => { machine with bindings := machine.bindings.filter (·.1 != name) }

def act (action : Action) : Execution Unit :=
  modify fun machine => { machine with events := ⟨machine.clock, action⟩ :: machine.events }

def emit (descriptor : Nat) (bytes : List UInt8) : Execution Bool := do
  let machine ← get
  match machine.sink descriptor with
  | .output => act (.output bytes)
  | .errors => act (.errors bytes)
  | .capture => set { machine with captured := machine.captured ++ bytes }
  | .file place =>
      match machine.disk.at? place with
      | some (.file content mode) =>
          set { machine with disk := machine.disk.put place (.file (content ++ bytes) mode) }
      | _ => return false
  | .nowhere => return true
  | .closed => return bytes.isEmpty
  return true

def bytesOf (text : String) : List UInt8 :=
  Utf8.encode text

def say (text : String) : Execution Nat := do
  return if ← emit 1 (bytesOf text) then 0 else 1

def complain (text : String) : Execution Unit := do
  let machine ← get
  let _ ← emit 2 (bytesOf (machine.name ++ ": " ++ toString machine.line ++ ": " ++ text ++ "\n"))

def report (text : String) : Execution Unit := do
  let _ ← emit 2 (bytesOf (text ++ "\n"))

def waitUntil (time : Nat) (child : Bool) : Execution Unit := do
  let machine ← get
  if child then act (.child time (machine.holds .output) (machine.holds .errors))
  act (.wait time machine.disk)
  modify fun machine => { machine with clock := time }

def pause (duration : Nat) (child : Bool) : Execution Unit := do
  waitUntil ((← get).clock + duration) child

def concurrently (commands : Execution Unit) : Execution Unit := do
  let before ← get
  modify fun machine => { machine with input := [] }
  commands
  modify fun machine => { machine with
    clock := before.clock, jobsEnd := max machine.jobsEnd machine.clock, input := before.input, status := 0 }

def capturing (commands : Execution Unit) : Execution (List UInt8) := do
  let before ← get
  set { before with sinks := (1, .capture) :: before.sinks, captured := [] }
  commands
  let after ← get
  set { after with sinks := before.sinks, captured := before.captured }
  return after.captured

def isolated (commands : Execution Unit) : Execution Unit := do
  let before ← get
  let restore : Execution Unit := modify fun machine => { machine with
    bindings := before.bindings, functions := before.functions, arguments := before.arguments
    traps := before.traps, sinks := before.sinks, exitsOnFailure := before.exitsOnFailure
    needsValues := before.needsValues, traced := before.traced, loops := before.loops, locals := before.locals
    disk := { machine.disk with workingDirectory := before.disk.workingDirectory } }
  tryCatch
    (do
      commands
      restore)
    fun interrupt => do
      restore
      match interrupt with
      | .exited status => modify fun machine => { machine with status }
      | .killed | .endless => throw interrupt
      | _ => return ()

end ScriptSuite.Shell
