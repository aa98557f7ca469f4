import ScriptSuite.CommandLine.Reading

set_option autoImplicit false

namespace ScriptSuite.CommandLine

inductive CommandName where
  | discover | run | help
deriving DecidableEq, Repr

def CommandName.ofText? : String → Option CommandName
  | "discover" => some .discover
  | "run" => some .run
  | "help" => some .help
  | _ => none

def helpAnswer : List String → UsageError
  | [] => .helpWanted
  | [name] => if (CommandName.ofText? name).isSome then .helpWanted else .unknownCommand
  | _ => .unknownCommand

def readTrailing (scope : Scope) : Reading → List String → Except UsageError Reading
  | reading, [] => .ok reading
  | reading, text :: rest =>
      match reading.trailing (fun text => (CommandName.ofText? text).isSome) scope text with
      | .ok reading => readTrailing scope reading rest
      | .error error => .error error

def readArguments (scope : Scope) : Reading → List String → Except UsageError Reading
  | reading, [] => .ok reading
  | reading, text :: rest =>
      if text = "--" then readTrailing scope reading rest
      else
        match reading.argument scope text with
        | .ok reading => readArguments scope reading rest
        | .error error => .error error

def readToCommand : Reading → List String → Except UsageError (Reading × Option (CommandName × List String))
  | reading, [] => .ok (reading, none)
  | reading, text :: rest =>
      match CommandName.ofText? text, reading.isWaiting with
      | some name, false => .ok (reading, some (name, rest))
      | _, _ =>
          if text = "--" then (readTrailing .top reading rest).map fun reading => (reading, none)
          else
            match reading.argument .top text with
            | .ok reading => readToCommand reading rest
            | .error error => .error error

def readAll (scope : Scope) (arguments : List String) : Except UsageError Reading := do
  (← readArguments scope {} arguments).settle

def pathsOf (texts : List String) : List Path :=
  if texts.isEmpty then [⟨"."⟩] else texts.map Path.mk

def parse (arguments : List String) : Except UsageError Usage := do
  let (before, found) ← readToCommand {} arguments
  match found with
  | none =>
      let settled ← before.settle
      .error (if settled.config.isSome then .missingCommand else .nothingGiven)
  | some (.help, rest) => .error (helpAnswer rest)
  | some (.discover, rest) =>
      let own ← readAll .discover rest
      let settled ← before.settle
      .ok ⟨(own.config.or settled.config).map Path.mk,
        .discover (pathsOf own.paths) (own.flags.contains .json)⟩
  | some (.run, rest) =>
      let own ← readAll .run rest
      let settled ← before.settle
      .ok ⟨(own.config.or settled.config).map Path.mk,
        .run ⟨pathsOf own.paths, own.flags.contains .verbose, own.filter, own.engineArguments⟩⟩

end ScriptSuite.CommandLine
