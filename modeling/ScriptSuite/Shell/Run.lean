import ScriptSuite.Engine.Start
import ScriptSuite.Shell.Builtin
import ScriptSuite.Shell.Invocation
import ScriptSuite.Shell.Parse

set_option autoImplicit false

namespace ScriptSuite.Shell

open Engine FileSystem Text

def setStatus (status : Nat) : Execution Unit :=
  modify fun machine => { machine with status }

def tested (commands : Execution Unit) : Execution Bool := do
  let before := (← get).tested
  modify fun machine => { machine with tested := true }
  tryCatch commands fun interrupt => do
    modify fun machine => { machine with tested := before }
    throw interrupt
  modify fun machine => { machine with tested := before }
  return (← get).status == 0

def loopBody (body : Execution Unit) : Execution Bool := do
  let before := (← get).loops
  let restore : Execution Unit := modify fun machine => { machine with loops := before }
  modify fun machine => { machine with loops := before + 1 }
  tryCatch
    (do
      body
      restore
      return true)
    fun interrupt => do
      restore
      match interrupt with
      | .broken levels => if levels ≤ 1 then return false else throw (.broken (levels - 1))
      | .continued levels => if levels ≤ 1 then return true else throw (.continued (levels - 1))
      | _ => throw interrupt

def repeatWhile (condition body : Execution Bool) : Nat → Execution Unit
  | 0 => throw .endless
  | fuel + 1 => do
      if ← condition then
        if ← body then repeatWhile condition body fuel

def forEach (name : String) (body : Execution Bool) : List String → Execution Unit
  | [] => return ()
  | value :: rest => do
      setVariable name value
      if ← body then forEach name body rest

def call (arguments : List String) (body : Execution Unit) : Execution Unit := do
  let before ← get
  let restore : Execution Unit := do
    restoreHidden ((← get).locals.getD [])
    modify fun machine => { machine with
      arguments := before.arguments, loops := before.loops, locals := before.locals }
  modify fun machine => { machine with arguments, loops := 0, locals := some [] }
  tryCatch
    (do
      body
      restore)
    fun interrupt => do
      restore
      match interrupt with
      | .returned status => setStatus status
      | _ => throw interrupt

def runLines (run : Command → Execution Unit) (fault : Option Fault) : List Command → Execution Unit
  | command :: rest => do
      run command
      runLines run fault rest
  | [] => do
      match fault with
      | some fault =>
          modify fun machine => { machine with line := fault.line }
          complain fault.text
          throw (.exited 2)
      | none => return ()

def runText (run : Command → Execution Unit) (text : List Char) : Execution Unit :=
  let script := parseScript text
  runLines run script.fault script.lines

def withExitTrap (evaluate : List Char → Execution Unit) (commands : Execution Unit) : Execution Unit := do
  let finish (status : Nat) : Execution Unit := do
    setStatus status
    match (← get).traps.lookup "EXIT" with
    | some action =>
        modify fun machine => { machine with traps := machine.traps.filter (·.1 != "EXIT") }
        evaluate action.toList
        setStatus status
    | none => return ()
  tryCatch
    (do
      commands
      finish (← get).status)
    fun interrupt =>
      match interrupt with
      | .exited status | .returned status => finish status
      | .killed | .endless => throw interrupt
      | _ => do finish (← get).status

def inSubshell (evaluate : List Char → Execution Unit) (commands : Execution Unit) : Execution Unit :=
  isolated do
    modify fun machine => { machine with traps := machine.traps.filter (·.2 == "") }
    withExitTrap evaluate commands

def runInvocation (run : Command → Execution Unit) (name : String) (arguments : List String) : Execution Unit := do
  modify fun machine => { machine with
    name, arguments := [], functions := [], traps := [], line := 0, exitsOnFailure := false, tested := false
    needsValues := false, traced := false, loops := 0, locals := none }
  match invocationFrom name false false arguments with
  | .error text =>
      complain text
      setStatus 2
  | .ok invocation =>
      let start (text : List Char) : Execution Unit := do
        modify fun machine => { machine with
          name := invocation.name, arguments := invocation.arguments, line := 1, status := 0
          exitsOnFailure := invocation.exitsOnFailure }
        withExitTrap (runText run) (runText run text)
      match invocation.text, invocation.file with
      | some text, _ => start text.toList
      | none, some file =>
          match (← get).disk.readBytes ⟨file⟩ with
          | .ok content => start (Utf8.decodeLossy content).toList
          | .error _ =>
              complain ("cannot open " ++ file ++ ": No such file")
              setStatus 2
      | none, none => start (Utf8.decodeLossy (← get).input).toList

def runProgram (run : Command → Execution Unit) (child : Bool) (name : String) (arguments : List String) :
    Execution Unit := do
  let blamed := if child then name else "exec: " ++ name
  match findProgram (← get).disk name with
  | .ok .shell => isolated (runInvocation run name arguments)
  | .ok (.utility utility) =>
      match utility? child utility arguments with
      | some program => setStatus (← program)
      | none => setStatus 127
  | .ok (.script path) => isolated (runInvocation run name (path :: arguments))
  | .error .permissionDenied =>
      complain (blamed ++ ": Permission denied")
      setStatus 126
  | .error _ =>
      complain (blamed ++ ": not found")
      setStatus 127

def whereabouts? (machine : Machine) (name : String) : Option String :=
  if (builtin? (fun _ => return ()) name []).isSome || (machine.functions.lookup name).isSome
      || ["echo", "printf", "test", "[", "true", "false", "pwd", ":", "exec", "command", "type"].contains name then
    some name
  else
    match findProgram machine.disk name with
    | .ok (.script path) => some path
    | .ok _ => some (if name.toList.contains '/' then name else "/usr/bin/" ++ name)
    | .error _ => none

def describeNames (verbose : Bool) : List String → Execution Nat
  | [] => return 0
  | name :: rest => do
      let machine ← get
      let status ← match whereabouts? machine name with
        | some place =>
            let text :=
              if !verbose then place
              else if place != name then name ++ " is " ++ place
              else if (machine.functions.lookup name).isSome then name ++ " is a shell function"
              else name ++ " is a shell builtin"
            let _ ← say (text ++ "\n")
            pure 0
        | none =>
            let _ ← if verbose then say (name ++ ": not found\n") else pure 0
            pure 127
      let others ← describeNames verbose rest
      return if status = 0 then others else status

def withAssignments (assignments : List (String × String)) (commands : Execution Unit) : Execution Unit := do
  if assignments.isEmpty then commands
  else
    let before := (← get).bindings
    assignAll (assignments.map fun assignment => (assignment.1, assignment.2.toList))
    commands
    modify fun machine => { machine with bindings := before }

def expandAssignments (substitute : Substitution) : List (String × Word) → Execution (List (String × String))
  | [] => return []
  | (name, word) :: rest => do
      let value ← expandText substitute word
      return (name, value) :: (← expandAssignments substitute rest)

def dispatch (run : Command → Execution Unit) (name : String) (arguments : List String) : Execution Unit := do
  match builtin? (runText run) name arguments with
  | some command => setStatus (← command)
  | none =>
      match (← get).functions.lookup name with
      | some body => call arguments (run body)
      | none =>
          if name == "type" then setStatus (← describeNames true arguments)
          else if name == "command" then
            match arguments with
            | "-v" :: names => setStatus (← describeNames false names)
            | name :: arguments => runProgram run true name arguments
            | [] => setStatus 0
          else runProgram run true name arguments

def trace (assignments : List (String × String)) (fields : List String) : Execution Unit := do
  if (← get).traced then
    let words := assignments.map (fun binding => binding.1 ++ "=" ++ binding.2) ++ fields
    report ("+ " ++ String.intercalate " " words)

def matchesAny (substitute : Substitution) (text : String) : List Word → Execution Bool
  | [] => return false
  | pattern :: rest => do
      let marked := markedOf (← pieces substitute false pattern)
      if matchesPattern marked text.toList then return true else matchesAny substitute text rest

def chooseBranch (substitute : Substitution) (text : String) :
    List (List Word × Command) → Execution (Option Command)
  | [] => return none
  | (patterns, body) :: rest => do
      if ← matchesAny substitute text patterns then return some body else chooseBranch substitute text rest

def maxRepetitions : Nat := 100000

def run : Nat → Command → Execution Unit
  | 0, _ => throw .endless
  | fuel + 1, command => do
      let run := run fuel
      let subshell := inSubshell (runText run)
      -- Output of a script that runs in a shell of its own.
      let substitute : Substitution := fun text => do
        let before := (← get).status
        let output ← capturing (subshell (runText run text))
        modify fun machine => { machine with substituted := machine.status, status := before }
        return (Utf8.decodeLossy output).toList
      match command with
      | .nothing => return ()
      | .sequence first second =>
          run first
          run second
      | .conjunction first second => if ← tested (run first) then run second
      | .disjunction first second => if !(← tested (run first)) then run second
      | .negation command => setStatus (if ← tested (run command) then 1 else 0)
      | .pipeline first second =>
          let passed ← capturing (subshell (run first))
          let before := (← get).input
          modify fun machine => { machine with input := passed }
          subshell (run second)
          modify fun machine => { machine with input := before }
      | .background command => concurrently (subshell (run command))
      | .conditional condition yes no =>
          if ← tested (run condition) then
            setStatus 0
            run yes
          else
            setStatus 0
            run no
      | .repetition whileSucceeds condition body =>
          let goesOn : Execution Bool := do return (← tested (run condition)) == whileSucceeds
          repeatWhile goesOn (loopBody (run body)) maxRepetitions
          setStatus 0
      | .iteration name words body =>
          let values ← match words with
            | some words => expandAll substitute words
            | none => do pure (← get).arguments
          forEach name (loopBody (run body)) values
      | .choice word branches =>
          let text ← expandText substitute word
          match ← chooseBranch substitute text branches with
          | some body => run body
          | none => setStatus 0
      | .group body redirections => redirected substitute redirections (run body)
      | .subshell body redirections => redirected substitute redirections (subshell (run body))
      | .function name body =>
          modify fun machine => { machine with functions := bind name body machine.functions }
          setStatus 0
      | .simple line assignments words redirections =>
          modify fun machine => { machine with line }
          let fields ← expandAll substitute words
          match fields with
          | [] =>
              modify fun machine => { machine with substituted := 0 }
              redirected substitute redirections do
                let values ← expandAssignments substitute assignments
                trace values []
                assignAll (values.map fun value => (value.1, value.2.toList))
                setStatus (← get).substituted
          | "exec" :: fields =>
              trace [] ("exec" :: fields)
              match fields with
              | name :: arguments =>
                  redirectForGood substitute redirections
                  runProgram run false name arguments
                  throw (.exited (← get).status)
              | [] => redirectForGood substitute redirections
          | name :: arguments =>
              let values ← expandAssignments substitute assignments
              trace values fields
              redirected substitute redirections (withAssignments values (dispatch run name arguments))
          let machine ← get
          if machine.exitsOnFailure && !machine.tested && machine.status != 0 then throw (.exited machine.status)

def maxDepth : Nat := 2000

def endlessPause : Nat := 1000000000

def traceOf (disk : Disk) (name : String) (commands : Execution Unit) : Trace :=
  let (result, machine) := (ExceptT.run commands).run (Machine.start disk name [])
  let events := machine.events.reverse.mergeSort fun a b => a.time ≤ b.time
  let left (code : Option Int) : Trace := ⟨events, machine.clock, code, machine.disk⟩
  match result with
  | .error (.exited status) | .error (.returned status) => left (some status)
  | .error .killed => left none
  | .error .endless =>
      let wake := machine.clock + endlessPause
      ⟨events ++ [⟨machine.clock, .wait wake machine.disk⟩], wake, none, machine.disk⟩
  | _ => left (some machine.status)

-- Starts programs of the system and shell scripts. A relative program is looked for from the working directory of the
-- command, which has to exist.
def launcher : Launcher := fun disk command => do
  let place ← disk.locate command.workingDirectory
  match disk.at? place with
  | some (.directory _) =>
      let inside := { disk with workingDirectory := place }
      if command.program.text = "" then throw .notFound
      let program ← findProgram inside command.program.text
      let commands : Execution Unit :=
        match program with
        | .shell => runInvocation (run maxDepth) command.program.text command.arguments
        | .script path => runInvocation (run maxDepth) path (path :: command.arguments)
        | .utility name =>
            match utility? false name command.arguments with
            | some utility => do setStatus (← utility)
            | none => setStatus 127
      let trace := traceOf inside command.program.text commands
      return { trace with disk := { trace.disk with workingDirectory := disk.workingDirectory } }
  | _ => throw .notADirectory

end ScriptSuite.Shell
