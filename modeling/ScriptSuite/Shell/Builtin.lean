import ScriptSuite.Shell.Redirection

set_option autoImplicit false

namespace ScriptSuite.Shell

open FileSystem Text

def ownProcess : String := "4242"

def signalName (text : String) : String :=
  let upper := text.toUpper
  let bare := if "SIG".toList.isPrefixOf upper.toList then String.ofList (upper.toList.drop 3) else upper
  match bare with
  | "0" => "EXIT"
  | "1" => "HUP"
  | "2" => "INT"
  | "3" => "QUIT"
  | "6" => "ABRT"
  | "9" => "KILL"
  | "13" => "PIPE"
  | "14" => "ALRM"
  | "15" => "TERM"
  | "17" => "CHLD"
  | "18" => "CONT"
  | name => name

def numberFor (command : String) (arguments : List String) (fallback : Nat) : Execution Nat := do
  match arguments with
  | text :: _ =>
      if text != "" && text.toList.all isAsciiDigit then return natOfDigits 10 text.toList
      complain (command ++ ": Illegal number: " ++ text)
      throw (.exited 2)
  | [] => return fallback

def statusFor (command : String) (arguments : List String) : Execution Nat := do
  return (← numberFor command arguments (← get).status) % 256

def leaveLoops (interrupt : Nat → Interrupt) (count : Nat) : Execution Nat := do
  let loops := (← get).loops
  if loops = 0 then return 0
  throw (interrupt (min count loops))

def kill (evaluate : List Char → Execution Unit) (arguments : List String) : Execution Nat := do
  let (signal, processes) := match arguments with
    | "-s" :: name :: rest => (signalName name, rest)
    | first :: rest =>
        if isOption first then (signalName (String.ofList (first.toList.drop 1)), rest) else ("TERM", arguments)
    | [] => ("TERM", [])
  if !processes.contains ownProcess then
    complain "kill: No such process\n"
    return 1
  else if signal == "EXIT" || signal == "CHLD" || signal == "CONT" then return 0
  else
    match (← get).traps.lookup signal with
    | some action =>
        if signal == "KILL" then throw .killed
        evaluate action.toList
        return 0
    | none => throw .killed

def setTraps (arguments : List String) : Execution Nat := do
  match arguments with
  | action :: signals =>
      modify fun machine => { machine with
        traps := signals.foldl (fun traps signal =>
          if action == "-" then traps.filter (·.1 != signalName signal) else bind (signalName signal) action traps)
          machine.traps }
      return 0
  | [] => return 0

def switchOptions (letters : List Char) (on : Bool) : Execution Unit :=
  modify fun machine => { machine with
    exitsOnFailure := if letters.contains 'e' then on else machine.exitsOnFailure
    needsValues := if letters.contains 'u' then on else machine.needsValues
    traced := if letters.contains 'x' then on else machine.traced }

def setOptions : List String → Execution Nat
  | [] => return 0
  | "--" :: rest => do
      modify fun machine => { machine with arguments := rest }
      return 0
  | argument :: rest => do
      match argument.toList with
      | '-' :: letters =>
          switchOptions letters true
          setOptions rest
      | '+' :: letters =>
          switchOptions letters false
          setOptions rest
      | _ =>
          modify fun machine => { machine with arguments := argument :: rest }
          return 0

def shift (count : Nat) : Execution Nat := do
  let machine ← get
  if machine.arguments.length < count then
    complain "shift: can't shift that many"
    throw (.exited 2)
  set { machine with arguments := machine.arguments.drop count }
  return 0

def declaration (text : String) : String × Option String :=
  let name := String.ofList (text.toList.takeWhile (· != '='))
  match text.toList.dropWhile (· != '=') with
  | _ :: value => (name, some (String.ofList value))
  | [] => (name, none)

def declare : List String → Execution Nat
  | [] => return 0
  | text :: rest => do
      match declaration text with
      | (name, some value) => setVariable name value
      | (_, none) => pure ()
      declare rest

def declareLocal : List String → Execution Nat
  | [] => return 0
  | text :: rest => do
      let machine ← get
      match machine.locals with
      | none =>
          complain "local: not in a function"
          throw (.exited 2)
      | some hidden =>
          let (name, value) := declaration text
          if !hidden.any (·.1 == name) then
            set { machine with locals := some ((name, machine.value? name) :: hidden) }
          match value with
          | some value => setVariable name value
          | none => pure ()
          declareLocal rest

def restoreHidden : List (String × Option String) → Execution Unit
  | [] => return ()
  | (name, value) :: rest => do
      match value with
      | some value => setVariable name value
      | none => unsetVariable name
      restoreHidden rest

def unset (names : List String) : Execution Nat := do
  modify fun machine => { machine with
    bindings := machine.bindings.filter fun binding => !names.contains binding.1
    functions := machine.functions.filter fun binding => !names.contains binding.1 }
  return 0

def changeDirectory (target : String) : Execution Nat := do
  let machine ← get
  match machine.disk.locate ⟨target⟩ with
  | .ok place =>
      if machine.disk.isDirectory ⟨target⟩ then
        set { machine with disk := { machine.disk with workingDirectory := place } }
        setVariable "PWD" (Disk.pathOf place).text
        return 0
      complain ("cd: can't cd to " ++ target)
      return 2
  | .error _ =>
      complain ("cd: can't cd to " ++ target)
      return 2

def splitBlanks : Nat → List Char → List (List Char)
  | 0, _ => []
  | 1, text => [(text.dropWhile fun c => c == ' ' || c == '\t').reverse.dropWhile (fun c => c == ' ' || c == '\t')
      |>.reverse]
  | count + 1, text =>
      let text := text.dropWhile fun c => c == ' ' || c == '\t'
      text.takeWhile (fun c => c != ' ' && c != '\t')
        :: splitBlanks count (text.dropWhile fun c => c != ' ' && c != '\t')

def assignAll : List (String × List Char) → Execution Unit
  | [] => return ()
  | (name, value) :: rest => do
      setVariable name (String.ofList value)
      assignAll rest

def withoutBackslashes : List Char → List Char
  | '\\' :: c :: rest => c :: withoutBackslashes rest
  | c :: rest => c :: withoutBackslashes rest
  | [] => []

def readLine (arguments : List String) : Execution Nat := do
  let names := arguments.filter (!isOption ·)
  let machine ← get
  let line := machine.input.takeWhile (· != 10)
  let written := (Utf8.decodeLossy line).toList
  let text := if hasLetter 'r' arguments then written else withoutBackslashes written
  set { machine with input := machine.input.drop (line.length + 1) }
  let separators := (machine.value? "IFS").getD " \t\n"
  let parts := if separators == "" then [text] else splitBlanks names.length text
  assignAll (names.zip (parts ++ List.replicate names.length []))
  return if line.length < machine.input.length then 0 else 1

def builtin? (evaluate : List Char → Execution Unit) (name : String) (arguments : List String) :
    Option (Execution Nat) :=
  match name with
  | "exit" => some do throw (.exited (← statusFor name arguments))
  | "return" => some do throw (.returned (← statusFor name arguments))
  | "break" => some do leaveLoops .broken (← numberFor name arguments 1)
  | "continue" => some do leaveLoops .continued (← numberFor name arguments 1)
  | "shift" => some do shift (← numberFor name arguments 1)
  | "set" => some (setOptions arguments)
  | "unset" => some (unset arguments)
  | "export" | "readonly" => some (declare arguments)
  | "local" => some (declareLocal arguments)
  | "cd" => some (changeDirectory (arguments.head?.getD "/"))
  | "read" => some (readLine arguments)
  | "trap" => some (setTraps arguments)
  | "kill" => some (kill evaluate arguments)
  | "umask" | "hash" | "alias" | "ulimit" => some (return 0)
  | "wait" => some do
      let machine ← get
      if machine.clock < machine.jobsEnd then waitUntil machine.jobsEnd false
      return 0
  | "eval" => some do
      modify fun machine => { machine with status := 0 }
      evaluate (String.intercalate " " arguments).toList
      return (← get).status
  | "." => some do
      match (← get).disk.readBytes ⟨arguments.head?.getD ""⟩ with
      | .ok content =>
          evaluate (Utf8.decodeLossy content).toList
          return (← get).status
      | .error _ =>
          complain (".: cannot open " ++ arguments.head?.getD "" ++ ": No such file")
          throw (.exited 2)
  | _ => none

end ScriptSuite.Shell
