set_option autoImplicit false

namespace ScriptSuite.Run

structure Cancellations where
  flags : List Bool
  tokens : List Nat
deriving DecidableEq, Repr

inductive CancellationStep where
  | fresh
  | clone (token : Nat)
  | cancel (token : Nat)
deriving DecidableEq, Repr

namespace Cancellations

def empty : Cancellations :=
  ⟨[], []⟩

def flagOf (all : Cancellations) (token : Nat) : Nat :=
  (all.tokens[token]?).getD all.flags.length

def isCancelled (all : Cancellations) (token : Nat) : Bool :=
  (all.flags[all.flagOf token]?).getD false

def apply (all : Cancellations) : CancellationStep → Cancellations
  | .fresh => ⟨all.flags ++ [false], all.tokens ++ [all.flags.length]⟩
  | .clone token => { all with tokens := all.tokens ++ [all.flagOf token] }
  | .cancel token => { all with flags := all.flags.set (all.flagOf token) true }

def observed (all : Cancellations) : List Bool :=
  (List.range all.tokens.length).map all.isCancelled

def observations (all : Cancellations) : List CancellationStep → List (List Bool)
  | [] => []
  | step :: rest =>
      let next := all.apply step
      next.observed :: next.observations rest

end Cancellations

end ScriptSuite.Run
