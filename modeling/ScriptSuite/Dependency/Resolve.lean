import ScriptSuite.Config.Settings
import ScriptSuite.Dependency.Search
import ScriptSuite.FileSystem.Access
import ScriptSuite.Script.Parser

set_option autoImplicit false

namespace ScriptSuite.Dependency

open Config FileSystem Script

inductive ResolveError where
  | unreadable (path : Path) (error : IoError)
  | unparsable (path : Path) (error : ParseError)
  | circular (chain : List Path)

namespace ResolveError

def message : ResolveError → String
  | .unreadable path error => "failed to read " ++ path.text ++ ": " ++ error.message
  | .unparsable path error => path.text ++ ":" ++ error.message
  | .circular chain => "circular require: " ++ String.intercalate " -> " (chain.map (·.text))

end ResolveError

def requiredText? (function : String) : Expr → Option String
  | .call ⟨.ident name, _⟩ [⟨.literal (.string text), _⟩] _ => if name = function then some text else none
  | _ => none

def requiredTexts (function : String) (program : Program) : List String :=
  program.body.flatMap fun statement =>
    match statement.node with
    | .var decl => decl.declarators.filterMap fun declarator =>
        declarator.init.bind fun value => requiredText? function value.node
    | _ => []

def probe (disk : Disk) (extensions : List String) (directory : Path) (text : String) : Option RequiredFile :=
  extensions.findSome? fun extension =>
    let candidate := directory.join ⟨text ++ extension⟩
    if disk.isFile candidate then
      match disk.canonicalize candidate with
      | .ok path => some ⟨path, extension⟩
      | .error _ => none
    else none

def requiredFiles (disk : Disk) (settings : ResolverSettings) (file : Path) (program : Program) : List RequiredFile :=
  (requiredTexts settings.requireFunction program).filterMap
    (probe disk settings.candidateExtensions (file.parent?.getD ⟨"."⟩))

def requiresOf (disk : Disk) (settings : ResolverSettings) (file : Path) : List RequiredFile :=
  if file.extension? = some "json" then []
  else
    match disk.readText file with
    | .error _ => []
    | .ok text =>
        match parseSource text with
        | .error _ => []
        | .ok program => requiredFiles disk settings file program

def resolve (disk : Disk) (settings : ResolverSettings) (entry : Path) : Except ResolveError (List RequiredFile) := do
  let file ← (disk.canonicalize entry).mapError (.unreadable entry)
  let text ← (disk.readText file).mapError (.unreadable file)
  let program ← (parseSource text).mapError (.unparsable file)
  let required := requiredFiles disk settings file program
  (search (requiresOf disk settings) (countEntries disk.entries + 1) [file] required []).mapError
    fun circle => .circular circle.chain

end ScriptSuite.Dependency
