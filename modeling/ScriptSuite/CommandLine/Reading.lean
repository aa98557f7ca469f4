import ScriptSuite.CommandLine.Usage

set_option autoImplicit false

namespace ScriptSuite.CommandLine

inductive Scope where
  | top | discover | run
deriving DecidableEq, Repr

inductive Flag where
  | json | verbose
deriving DecidableEq, Repr

inductive ValueOption where
  | config | filter
deriving DecidableEq, Repr

inductive Switch where
  | flag (flag : Flag)
  | option (option : ValueOption)
  | help
  | version
deriving DecidableEq, Repr

inductive Pending where
  | nothing
  | option (option : ValueOption) (value : Option String)
  | paths (texts : List String)
  | engineArguments (texts : List String)
deriving DecidableEq, Repr

structure Reading where
  pending : Pending := .nothing
  config : Option String := none
  filter : Option String := none
  flags : List Flag := []
  paths : List String := []
  engineArguments : List String := []
deriving DecidableEq, Repr

def longSwitch? (scope : Scope) (name : List Char) : Option Switch :=
  match scope, String.ofList name with
  | _, "config" => some (.option .config)
  | _, "help" => some .help
  | .top, "version" => some .version
  | .discover, "json" => some (.flag .json)
  | .run, "verbose" => some (.flag .verbose)
  | _, _ => none

def shortSwitch? (scope : Scope) (name : Char) : Option Switch :=
  match scope, name with
  | _, 'h' => some .help
  | .top, 'V' => some .version
  | .run, 'v' => some (.flag .verbose)
  | .run, 'k' => some (.option .filter)
  | _, _ => none

namespace Reading

def setOption (reading : Reading) (option : ValueOption) (value : Option String) : Except UsageError Reading :=
  match option, value with
  | _, none => .error .badValue
  | .config, some value =>
      if reading.config.isSome then .error .repeated
      else if value = "" then .error .badValue
      else .ok { reading with config := some value }
  | .filter, some value =>
      if reading.filter.isSome then .error .repeated else .ok { reading with filter := some value }

def settle (reading : Reading) : Except UsageError Reading :=
  let rest := { reading with pending := .nothing }
  match reading.pending with
  | .nothing => .ok rest
  | .option option value => rest.setOption option value
  | .paths texts =>
      if texts.any (· == "") then .error .badValue else .ok { rest with paths := rest.paths ++ texts }
  | .engineArguments texts => .ok { rest with engineArguments := rest.engineArguments ++ texts }

def setFlag (reading : Reading) (flag : Flag) : Except UsageError Reading := do
  let reading ← reading.settle
  if reading.flags.contains flag then .error .repeated
  else .ok { reading with flags := flag :: reading.flags }

def openOption (reading : Reading) (option : ValueOption) (attached : Option String) : Except UsageError Reading := do
  let reading ← reading.settle
  match attached with
  | some value => reading.setOption option (some value)
  | none => .ok { reading with pending := .option option none }

def interrupt (reading : Reading) (wanted : UsageError) : Except UsageError Reading := do
  let _ ← reading.settle
  .error wanted

def isWaiting (reading : Reading) : Bool :=
  match reading.pending with
  | .option _ none => true
  | _ => false

def addPath (reading : Reading) (text : String) : Except UsageError Reading :=
  match reading.pending with
  | .paths texts => .ok { reading with pending := .paths (texts ++ [text]) }
  | _ => do
      let reading ← reading.settle
      .ok { reading with pending := .paths [text] }

def addEngineArgument (reading : Reading) (text : String) : Except UsageError Reading :=
  match reading.pending with
  | .engineArguments texts => .ok { reading with pending := .engineArguments (texts ++ [text]) }
  | _ => do
      let reading ← reading.settle
      .ok { reading with pending := .engineArguments [text] }

def long (reading : Reading) (scope : Scope) (text : List Char) : Except UsageError Reading :=
  let attached := match text.dropWhile (· != '=') with
    | _ :: value => some (String.ofList value)
    | [] => none
  match longSwitch? scope (text.takeWhile (· != '=')), attached with
  | none, _ => .error .unknownArgument
  | some (.option option), _ => reading.openOption option attached
  | some _, some _ => .error .needlessValue
  | some (.flag flag), none => reading.setFlag flag
  | some .help, none => reading.interrupt .helpWanted
  | some .version, none => reading.interrupt .versionWanted

def short (scope : Scope) : Reading → List Char → Except UsageError Reading
  | reading, [] => .ok reading
  | reading, c :: rest =>
      match shortSwitch? scope c with
      | none => .error .unknownArgument
      | some (.flag flag) =>
          match reading.setFlag flag with
          | .ok reading => short scope reading rest
          | .error error => .error error
      | some (.option option) =>
          reading.openOption option
            (match rest with
              | [] => none
              | '=' :: value => some (String.ofList value)
              | value => some (String.ofList value))
      | some .help => reading.interrupt .helpWanted
      | some .version => reading.interrupt .versionWanted

def positional (reading : Reading) (scope : Scope) (text : String) : Except UsageError Reading :=
  match scope with
  | .top => .error .unknownCommand
  | _ => reading.addPath text

def argument (reading : Reading) (scope : Scope) (text : String) : Except UsageError Reading :=
  match text.toList with
  | '-' :: '-' :: name => reading.long scope name
  | '-' :: c :: letters => short scope reading (c :: letters)
  | _ =>
      match reading.pending with
      | .option option none => .ok { reading with pending := .option option (some text) }
      | _ => reading.positional scope text

def trailing (isCommand : String → Bool) (reading : Reading) (scope : Scope) (text : String) :
    Except UsageError Reading :=
  match scope with
  | .top => .error (if isCommand text then .unknownArgument else .unknownCommand)
  | .discover => reading.addPath text
  | .run => reading.addEngineArgument text

end Reading

end ScriptSuite.CommandLine
