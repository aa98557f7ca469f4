import ScriptSuite.Shell.Expansion
import ScriptSuite.Shell.Utility

set_option autoImplicit false

namespace ScriptSuite.Shell

open Engine FileSystem Text

def openSink (path : String) (keep : Bool) : Execution (Option Sink) := do
  if path == "/dev/null" then return some .nowhere
  let machine ← get
  let old := if keep then (machine.disk.readBytes ⟨path⟩).toOption.getD [] else []
  match machine.disk.writeFile ⟨path⟩ old 0o644 with
  | .ok disk =>
      set { machine with disk }
      return (disk.locate ⟨path⟩).toOption.map Sink.file
  | .error error =>
      let reason := match error with
        | .notFound => "Directory nonexistent"
        | .isADirectory => "Is a directory"
        | .notADirectory => "Not a directory"
        | _ => "Permission denied"
      complain ("cannot create " ++ path ++ ": " ++ reason)
      return none

def redirect (substitute : Substitution) (redirection : Redirect) : Execution Bool := do
  let setSink (sink : Sink) : Execution Bool := do
    modify fun machine => { machine with sinks := bind redirection.descriptor sink machine.sinks }
    return true
  match redirection.kind with
  | .document expands =>
      let text ← if expands then do
          pure (textOf (← pieces substitute true redirection.target))
        else pure redirection.target
      modify fun machine => { machine with input := bytesOf (String.ofList text) }
      return true
  | .read =>
      let path ← expandText substitute redirection.target
      match (← get).disk.readBytes ⟨path⟩ with
      | .ok content =>
          modify fun machine => { machine with input := content }
          return true
      | .error _ =>
          if path == "/dev/null" then return true
          complain ("cannot open " ++ path ++ ": No such file")
          return false
  | .duplicate =>
      let target ← expandText substitute redirection.target
      if target == "-" then setSink .closed
      else
        match (← get).sink (natOfDigits 10 target.toList) with
        | .closed =>
            if redirection.descriptor = 0 then return true
            complain (target ++ ": Bad file descriptor")
            return false
        | sink => setSink sink
  | .write => do
      match ← openSink (← expandText substitute redirection.target) false with
      | some sink => setSink sink
      | none => return false
  | .append => do
      match ← openSink (← expandText substitute redirection.target) true with
      | some sink => setSink sink
      | none => return false

def redirectAll (substitute : Substitution) : List Redirect → Execution Bool
  | [] => return true
  | first :: rest => do
      if ← redirect substitute first then redirectAll substitute rest else return false

def redirected (substitute : Substitution) (redirections : List Redirect) (commands : Execution Unit) :
    Execution Unit := do
  if redirections.isEmpty then commands
  else
    let before ← get
    let readsElsewhere := redirections.any fun redirection =>
      match redirection.kind with
      | .read | .document _ => true
      | _ => false
    let restore : Execution Unit := modify fun machine => { machine with
      sinks := before.sinks, input := if readsElsewhere then before.input else machine.input }
    if ← redirectAll substitute redirections then
      tryCatch
        (do
          commands
          restore)
        fun interrupt => do
          restore
          throw interrupt
    else
      restore
      modify fun machine => { machine with status := 2 }

def redirectForGood (substitute : Substitution) (redirections : List Redirect) : Execution Unit := do
  let before ← get
  if ← redirectAll substitute redirections then
    if before.holds .output && !(← get).holds .output then act .closeOutput
    modify fun machine => { machine with status := 0 }
  else throw (.exited 2)

end ScriptSuite.Shell
