import ScriptSuite.Config.Decode
import ScriptSuite.FileSystem.Access
import ScriptSuite.Toml.Document

set_option autoImplicit false

namespace ScriptSuite.Config

open FileSystem

inductive ConfigError where
  | unreadable (path : Path) (error : IoError)
  | malformed (path : Path)
  | invalid (fault : Settings.Fault)
deriving DecidableEq, Repr

def ConfigError.message : ConfigError → String
  | .unreadable path error => "failed to read config file " ++ path.text ++ ": " ++ error.message
  | .malformed path => "invalid config file " ++ path.text
  | .invalid fault => fault.message

def fileName : Path := ⟨"casper-adapter.toml"⟩

def Settings.checked (settings : Settings) : Except ConfigError Settings :=
  match settings.fault? with
  | some fault => .error (.invalid fault)
  | none => .ok settings

def Settings.ofText? (text : String) : Option Settings :=
  (Toml.parse? text).bind Settings.ofToml?

def load (disk : Disk) (path : Path) : Except ConfigError Settings := do
  match disk.readText path with
  | .error error => .error (.unreadable path error)
  | .ok text =>
      match Settings.ofText? text with
      | none => .error (.malformed path)
      | some settings =>
          match path.parent? with
          | some base => (settings.anchoredAt base).checked
          | none => settings.checked

def find? (disk : Disk) (start : Path) : Option Path :=
  (start.ancestors.map (·.join fileName)).find? disk.isFile

def resolve (disk : Disk) (explicit : Option Path) (start : Path) :
    Except ConfigError (Settings × Option Path) :=
  match explicit.or (find? disk start) with
  | some path => (load disk path).map fun settings => (settings, some path)
  | none => .ok ({}, none)

end ScriptSuite.Config
