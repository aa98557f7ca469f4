import ScriptSuite.Discovery.TestCase
import ScriptSuite.FileSystem.Access

set_option autoImplicit false

namespace ScriptSuite.Discovery

open FileSystem Script

inductive DiscoveryError where
  | unreadable (path : Path) (error : IoError)
  | unparsable (path : Path) (error : ParseError) (text : String)

namespace DiscoveryError

def path : DiscoveryError → Path
  | .unreadable path _ => path
  | .unparsable path _ _ => path

def message : DiscoveryError → String
  | .unreadable path error => "failed to read " ++ path.text ++ ": " ++ error.message
  | .unparsable path error _ => path.text ++ ":" ++ error.message

end DiscoveryError

def discoverFile (disk : Disk) (pattern : CallPattern) (path : Path) : Except DiscoveryError (List TestCase) := do
  let text ← (disk.readText path).mapError (.unreadable path)
  (discoverSource path text pattern).mapError fun error => .unparsable path error text

structure Findings where
  cases : List TestCase
  errors : List DiscoveryError

def Findings.add (findings : Findings) : Except DiscoveryError (List TestCase) → Findings
  | .ok cases => { findings with cases := findings.cases ++ cases }
  | .error error => { findings with errors := findings.errors ++ [error] }

def discover (disk : Disk) (pattern : CallPattern) (sources : List Path) : Findings :=
  sources.foldl (fun findings path => findings.add (discoverFile disk pattern path)) ⟨[], []⟩

end ScriptSuite.Discovery
