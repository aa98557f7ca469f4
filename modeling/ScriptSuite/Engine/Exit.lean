set_option autoImplicit false

namespace ScriptSuite.Engine

inductive StopReason where
  | cancelled | timedOut
deriving DecidableEq, Repr

def StopReason.message : StopReason → String
  | .cancelled => "run cancelled"
  | .timedOut => "engine timed out"

structure Exit where
  -- Absent when a signal ended the engine.
  code : Option Int
  stderr : String
  stopped : Option StopReason
deriving DecidableEq, Repr

def Exit.success (exit : Exit) : Bool :=
  exit.stopped.isNone && exit.code = some 0

end ScriptSuite.Engine
