import ScriptSuite.Path

set_option autoImplicit false

namespace ScriptSuite.CommandLine

inductive UsageError where
  | nothingGiven
  | missingCommand
  | unknownCommand
  | unknownArgument
  | repeated
  | badValue
  | needlessValue
  | helpWanted
  | versionWanted
deriving DecidableEq, Repr

structure RunRequest where
  paths : List Path
  verbose : Bool
  filter : Option String
  engineArguments : List String
deriving DecidableEq, Repr

inductive Command where
  | discover (paths : List Path) (json : Bool)
  | run (request : RunRequest)
deriving DecidableEq, Repr

structure Usage where
  config : Option Path
  command : Command
deriving DecidableEq, Repr

end ScriptSuite.CommandLine
