import ScriptSuite.Config.Settings

set_option autoImplicit false

namespace ScriptSuite.Engine

open Config

structure Command where
  program : Path
  arguments : List String
  workingDirectory : Path
deriving DecidableEq, Repr

namespace Command

def isSelector (argument : String) : Bool :=
  "--engine=".toList.isPrefixOf argument.toList

def flagName? (argument : String) : Option String :=
  (Protocol.afterPrefix? ['-', '-'] argument.toList).map fun flag => String.ofList (flag.takeWhile (· != '='))

def isNative (nativeFlags : List String) (argument : String) : Bool :=
  match flagName? argument with
  | some name => nativeFlags.contains name
  | none => false

def build (settings : EngineSettings) (installDirectory staged : Path) (callerArguments : List String) : Command :=
  let kept := callerArguments.filter (!isSelector ·)
  ⟨installDirectory.join settings.binary,
    kept.filter (isNative settings.nativeFlags ·)
      ++ [settings.bootstrapScript.text, "--" ++ settings.bootstrapFlag ++ "=" ++ settings.harnessRoot.text, "--cli"]
      ++ kept.filter (!isNative settings.nativeFlags ·)
      ++ ["test", staged.text]
      ++ settings.defaultArguments,
    installDirectory⟩

end Command

end ScriptSuite.Engine
