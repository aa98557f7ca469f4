import ScriptSuite.Path
import ScriptSuite.Discovery.Declaration

set_option autoImplicit false

namespace ScriptSuite.Discovery

open Script

structure TestCase where
  displayName : String
  sourceFile : Path
  position : Position
deriving DecidableEq, Repr

namespace TestCase

def id (testCase : TestCase) : String :=
  testCase.sourceFile.text ++ "::" ++ testCase.displayName

end TestCase

def declarationsIn (source : String) (pattern : CallPattern) : Except ParseError (List Declaration) :=
  (parseSource source).map (declarations source pattern)

def discoverSource (path : Path) (source : String) (pattern : CallPattern) : Except ParseError (List TestCase) :=
  (declarationsIn source pattern).map fun found =>
    found.map fun declaration => ⟨declaration.name, path, declaration.position⟩

end ScriptSuite.Discovery
