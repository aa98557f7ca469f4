import ScriptSuite.FileSystem.Node

set_option autoImplicit false

namespace ScriptSuite.FileSystem

-- What a new directory is called, given how the name has to begin and what stands beside it.
abbrev Naming := String → Entries → String

-- What is relied on: names begin as they have to, are single components of a path, and are not taken.
structure Naming.Lawful (naming : Naming) : Prop where
  begins : ∀ (stem : String) (entries : Entries), stem.toList <+: (naming stem entries).toList
  single : ∀ (stem : String) (entries : Entries), '/' ∉ stem.toList → '/' ∉ (naming stem entries).toList
  free : ∀ (stem : String) (entries : Entries), entries.lookup (naming stem entries) = none

end ScriptSuite.FileSystem
