import ScriptSuite.Path

/-!
Depth-first search along requires. Every file is listed once, when it is first met; a file that is required while its
own requires are being followed closes a circle.
-/
set_option autoImplicit false

namespace ScriptSuite.Dependency

structure RequiredFile where
  path : Path
  extension : String
deriving DecidableEq, Repr

structure Circle where
  chain : List Path
deriving DecidableEq, Repr

-- Follows the requires of the last file of `chain`, of which `found` are already listed. The fuel bounds the length
-- of the chain.
def search (requires : Path → List RequiredFile) :
    Nat → List Path → List RequiredFile → List RequiredFile → Except Circle (List RequiredFile)
  | 0, _, _, found => .ok found
  | fuel + 1, chain, required, found =>
      required.foldlM (fun found dependency =>
        if chain.contains dependency.path then .error ⟨chain ++ [dependency.path]⟩
        else if found.any (·.path = dependency.path) then .ok found
        else
          search requires fuel (chain ++ [dependency.path]) (requires dependency.path) (found ++ [dependency]))
        found

end ScriptSuite.Dependency
