set_option autoImplicit false

namespace ScriptSuite.Script

structure Span where
  start : Nat
  stop : Nat
deriving DecidableEq, Repr, Inhabited

namespace Span

def merge (a b : Span) : Span :=
  ⟨min a.start b.start, max a.stop b.stop⟩

def shift (distance : Nat) (span : Span) : Span :=
  ⟨span.start + distance, span.stop + distance⟩

def runningMerge : List Span → List Span
  | [] => []
  | first :: rest => go first rest
where
  go (covered : Span) : List Span → List Span
    | [] => [covered]
    | next :: rest => covered :: go (covered.merge next) rest

end Span

structure Spanned (α : Type) where
  node : α
  span : Span
deriving DecidableEq, Repr

def byteLength (text : List Char) : Nat :=
  text.foldr (fun c length => c.utf8Size + length) 0

@[simp] theorem byteLength_nil : byteLength [] = 0 := rfl

@[simp] theorem byteLength_cons (c : Char) (text : List Char) :
    byteLength (c :: text) = c.utf8Size + byteLength text := by
  rfl

@[simp] theorem byteLength_append (a b : List Char) : byteLength (a ++ b) = byteLength a + byteLength b := by
  induction a with
  | nil => simp
  | cons c a ih => simp [ih, Nat.add_assoc]

end ScriptSuite.Script
