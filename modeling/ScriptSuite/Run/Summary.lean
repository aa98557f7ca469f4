import ScriptSuite.Path

set_option autoImplicit false

namespace ScriptSuite.Run

inductive GroupOutcome where
  | completed (passed failed : Nat)
  | skipped (message : String)
  | failed (message : String)
  | cancelled
  | timedOut
deriving DecidableEq, Repr

namespace GroupOutcome

def passedCount : GroupOutcome → Nat
  | .completed count _ => count
  | _ => 0

def failedCount : GroupOutcome → Nat
  | .completed _ count => count
  | _ => 0

def isFailure : GroupOutcome → Bool
  | .completed _ count => 0 < count
  | .cancelled => false
  | _ => true

end GroupOutcome

structure GroupReport where
  source : Path
  outcome : GroupOutcome
deriving DecidableEq, Repr

structure Summary where
  groups : List GroupReport
deriving DecidableEq, Repr

namespace Summary

def empty : Summary :=
  ⟨[]⟩

def push (summary : Summary) (group : GroupReport) : Summary :=
  ⟨summary.groups ++ [group]⟩

def passed (summary : Summary) : Nat :=
  summary.groups.foldr (fun group count => group.outcome.passedCount + count) 0

def failed (summary : Summary) : Nat :=
  summary.groups.foldr (fun group count => group.outcome.failedCount + count) 0

def hasFailures (summary : Summary) : Bool :=
  summary.groups.any (·.outcome.isFailure)

def wasCancelled (summary : Summary) : Bool :=
  summary.groups.any fun group => group.outcome = .cancelled

end Summary

end ScriptSuite.Run
