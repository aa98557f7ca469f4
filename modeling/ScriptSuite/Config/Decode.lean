import ScriptSuite.Config.Settings
import ScriptSuite.Toml.Value

set_option autoImplicit false

namespace ScriptSuite.Config

open Toml

abbrev Fields := List (String × Value)

def fields? (keys : List String) : Value → Option Fields
  | .table entries => if entries.all fun entry => keys.contains entry.1 then some entries else none
  | .array items => some (keys.zip items)
  | _ => none

def field? {α : Type} (fields : Fields) (key : String) (decode : Value → Option α) (fallback : α) : Option α :=
  match fields.lookup key with
  | some value => decode value
  | none => some fallback

def text? : Value → Option String
  | .string text => some text
  | _ => none

def path? (value : Value) : Option Path :=
  (text? value).map Path.mk

def count? : Value → Option Nat
  | .integer value => if 0 ≤ value then some value.toNat else none
  | _ => none

def texts? : Value → Option (List String)
  | .array items => items.mapM text?
  | _ => none

def EngineSettings.ofToml? (value : Value) : Option EngineSettings := do
  let base : EngineSettings := {}
  let fields ← fields? ["binary", "bootstrap_script", "bootstrap_flag", "harness_root", "install_dir",
    "native_flags", "default_args", "timeout_secs", "kill_grace_ms"] value
  return {
    binary := ← field? fields "binary" path? base.binary
    bootstrapScript := ← field? fields "bootstrap_script" path? base.bootstrapScript
    bootstrapFlag := ← field? fields "bootstrap_flag" text? base.bootstrapFlag
    harnessRoot := ← field? fields "harness_root" path? base.harnessRoot
    installDirectory := ← field? fields "install_dir" (fun value => (path? value).map some) none
    nativeFlags := ← field? fields "native_flags" texts? base.nativeFlags
    defaultArguments := ← field? fields "default_args" texts? base.defaultArguments
    timeoutSeconds := ← field? fields "timeout_secs" (fun value => (count? value).map some) none
    killGrace := ← field? fields "kill_grace_ms" count? base.killGrace }

def DiscoverySettings.ofToml? (value : Value) : Option DiscoverySettings := do
  let base : DiscoverySettings := {}
  let fields ← fields? ["call_path", "argument_index", "extensions"] value
  return {
    callPath := ← field? fields "call_path" text? base.callPath
    argumentIndex := ← field? fields "argument_index" count? base.argumentIndex
    extensions := ← field? fields "extensions" texts? base.extensions }

def ResolverSettings.ofToml? (value : Value) : Option ResolverSettings := do
  let base : ResolverSettings := {}
  let fields ← fields? ["require_function", "candidate_extensions"] value
  return {
    requireFunction := ← field? fields "require_function" text? base.requireFunction
    candidateExtensions := ← field? fields "candidate_extensions" texts? base.candidateExtensions }

def protocolOfToml? (value : Value) : Option Protocol := do
  let base : Protocol := {}
  let fields ← fields? ["test_marker", "failure_prefix", "fatal_marker"] value
  return {
    testMarker := ← field? fields "test_marker" text? base.testMarker
    failurePrefix := ← field? fields "failure_prefix" text? base.failurePrefix
    fatalMarker := ← field? fields "fatal_marker" text? base.fatalMarker }

def StagingSettings.ofToml? (value : Value) : Option StagingSettings := do
  let fields ← fields? ["root"] value
  return { root := ← field? fields "root" (fun value => (path? value).map some) none }

def Settings.ofToml? (value : Value) : Option Settings := do
  let fields ← fields? ["engine", "discovery", "resolver", "protocol", "staging"] value
  return {
    engine := ← field? fields "engine" EngineSettings.ofToml? {}
    discovery := ← field? fields "discovery" DiscoverySettings.ofToml? {}
    resolver := ← field? fields "resolver" ResolverSettings.ofToml? {}
    protocol := ← field? fields "protocol" protocolOfToml? {}
    staging := ← field? fields "staging" StagingSettings.ofToml? {} }

end ScriptSuite.Config
