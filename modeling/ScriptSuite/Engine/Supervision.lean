import ScriptSuite.Engine.Exit
import ScriptSuite.Engine.Trace

/-!
Supervision of a running engine. Its lines are handed on as they come. An engine that is cancelled or takes too long
may go on for a while, and is killed if it does not end by itself.
-/
set_option autoImplicit false

namespace ScriptSuite.Engine

open FileSystem Text

structure Limits where
  timeout : Option Nat
  grace : Nat
deriving DecidableEq, Repr

inductive Ending where
  | exited (code : Option Int)
  | killed
deriving DecidableEq, Repr

structure Supervision where
  outputOpen : Bool
  stopped : Option StopReason
  killAt : Option Nat
  delivered : List String
  ending : Option Ending
deriving DecidableEq, Repr

inductive Notice where
  | happening (happening : Happening)
  | cancellation
  | deadline
  | killDue
deriving DecidableEq, Repr

namespace Supervision

def initial : Supervision :=
  ⟨true, none, none, [], none⟩

def stop (state : Supervision) (limits : Limits) (now : Nat) (reason : StopReason) : Supervision :=
  { state with stopped := some reason, killAt := some (now + limits.grace) }

-- The state after one notice, if the supervisor can take it then. The end of the engine is noticed once its output
-- is closed; only the first reason to stop counts; only a stopped engine is killed.
def after? (limits : Limits) (now : Nat) (state : Supervision) (notice : Notice) : Option Supervision :=
  if state.ending.isSome then none
  else
    match notice with
    | .happening (.line text) =>
        if state.outputOpen then some { state with delivered := state.delivered ++ [text] } else none
    | .happening .outputClosed => if state.outputOpen then some { state with outputOpen := false } else none
    | .happening (.exited code) => if state.outputOpen then none else some { state with ending := some (.exited code) }
    | .cancellation => if state.stopped.isNone then some (state.stop limits now .cancelled) else none
    | .deadline =>
        if state.stopped.isNone && limits.timeout.isSome then some (state.stop limits now .timedOut) else none
    | .killDue => if state.killAt.isSome then some { state with ending := some .killed } else none

def take (limits : Limits) (now : Nat) (state : Supervision) (notice : Notice) : Supervision :=
  (state.after? limits now notice).getD state

def passTime (limits : Limits) (now : Nat) (state : Supervision) : Supervision :=
  let state :=
    match limits.timeout with
    | some deadline => if deadline ≤ now then state.take limits deadline .deadline else state
    | none => state
  match state.killAt with
  | some time => if time ≤ now then state.take limits time .killDue else state
  | none => state

def heed (limits : Limits) (now : Nat) (cancelled : Bool) (state : Supervision) : Supervision :=
  if cancelled then state.take limits now .cancellation else state

def run {σ : Type} (limits : Limits) (onLine : σ → String → σ) (isCancelled : σ → Bool) :
    σ → Supervision → List (Nat × Happening) → σ × Supervision
  | consumer, state, [] => (consumer, state)
  | consumer, state, (now, happening) :: rest =>
      let state := state.passTime limits now
      if state.ending.isSome then (consumer, state)
      else
        let state := state.take limits now (.happening happening)
        let consumer :=
          match happening with
          | .line text => onLine consumer text
          | _ => consumer
        run limits onLine isCancelled consumer (state.heed limits now (isCancelled consumer)) rest

end Supervision

structure Aftermath where
  exit : Exit
  disk : Disk

-- The end of the engine as the final state tells it. What it wrote to standard error is waited for no longer than
-- the grace time, and is lost if a child still holds it then.
def aftermath (limits : Limits) (trace : Trace) (state : Supervision) : Aftermath :=
  let errors (now : Nat) (limit : Option Nat) : String :=
    if trace.holdsErrors now (now + limits.grace) then "" else Utf8.decodeLossy (trace.errorsBefore limit)
  match state.ending, state.killAt with
  | some .killed, some kill => ⟨⟨trace.codeAt kill, errors kill (some kill), state.stopped⟩, trace.diskAt kill⟩
  | _, _ => ⟨⟨trace.code, errors trace.finished none, state.stopped⟩, trace.disk⟩

def supervise {σ : Type} (limits : Limits) (onLine : σ → String → σ) (isCancelled : σ → Bool) (consumer : σ)
    (trace : Trace) : σ × Aftermath :=
  let state := Supervision.initial.heed limits 0 (isCancelled consumer)
  let (consumer, state) := Supervision.run limits onLine isCancelled consumer state trace.happenings
  (consumer, aftermath limits trace state)

end ScriptSuite.Engine
