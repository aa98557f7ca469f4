import ScriptSuite.Path
import ScriptSuite.Protocol
import ScriptSuite.Discovery.CallPattern

set_option autoImplicit false

namespace ScriptSuite.Config

open Discovery

def standardNativeFlags : List String :=
  ["cookies-file", "config", "debug", "disk-cache", "ignore-ssl-errors", "load-images", "load-plugins",
    "local-storage-path", "local-storage-quota", "local-to-remote-url-access", "max-disk-cache-size",
    "output-encoding", "proxy", "proxy-auth", "proxy-type", "remote-debugger-port", "remote-debugger-autorun",
    "script-encoding", "ssl-protocol", "ssl-certificates-path", "web-security", "webdriver", "webdriver-logfile",
    "webdriver-loglevel", "webdriver-selenium-grid-hub", "wd", "w"]

structure EngineSettings where
  -- The engine itself, seen from the install directory.
  binary : Path := ⟨"PhantomJs/phantomjs"⟩
  bootstrapScript : Path := ⟨"CasperJs/bin/bootstrap.js"⟩
  bootstrapFlag : String := "casper-path"
  harnessRoot : Path := ⟨"CasperJs"⟩
  installDirectory : Option Path := none
  nativeFlags : List String := standardNativeFlags
  defaultArguments : List String := ["--ignore-ssl-errors=true"]
  timeoutSeconds : Option Nat := none
  -- How long a stopped engine may go on writing before it is killed, in milliseconds.
  killGrace : Nat := 2000
deriving DecidableEq, Repr

structure DiscoverySettings where
  callPath : String := "casper.test.begin"
  argumentIndex : Nat := 0
  extensions : List String := ["js"]
deriving DecidableEq, Repr

structure ResolverSettings where
  requireFunction : String := "require"
  candidateExtensions : List String := ["", ".js", ".ts", ".coffee", ".json"]
deriving DecidableEq, Repr

structure StagingSettings where
  root : Option Path := none
deriving DecidableEq, Repr

structure Settings where
  engine : EngineSettings := {}
  discovery : DiscoverySettings := {}
  resolver : ResolverSettings := {}
  protocol : Protocol := {}
  staging : StagingSettings := {}
deriving DecidableEq, Repr

def EngineSettings.timeout (settings : EngineSettings) : Option Nat :=
  settings.timeoutSeconds.map (· * 1000)

def DiscoverySettings.callPattern (settings : DiscoverySettings) : Except PatternError CallPattern :=
  CallPattern.parse settings.callPath settings.argumentIndex

namespace Settings

def installDirectory (settings : Settings) (programDirectory : Path) : Path :=
  settings.engine.installDirectory.getD programDirectory

def stagingRoot (settings : Settings) (programDirectory : Path) : Path :=
  settings.staging.root.getD ((settings.installDirectory programDirectory).join ⟨"tmp"⟩)

def anchoredAt (settings : Settings) (base : Path) : Settings :=
  { settings with
    engine := { settings.engine with
      installDirectory := settings.engine.installDirectory.map base.join }
    staging := { settings.staging with root := settings.staging.root.map base.join } }

inductive Fault where
  | pattern (error : PatternError)
  | noCandidates
  | emptyText (key : String)
deriving DecidableEq, Repr

def Fault.message : Fault → String
  | .pattern error => error.message
  | .noCandidates => "invalid configuration: resolver.candidate_extensions must list at least one extension"
  | .emptyText key => "invalid configuration: " ++ key ++ " must not be empty"

-- Texts that must not be empty, with their keys, in the order in which they are checked.
def markers (settings : Settings) : List (String × String) :=
  [("protocol.test_marker", settings.protocol.testMarker),
    ("protocol.failure_prefix", settings.protocol.failurePrefix),
    ("protocol.fatal_marker", settings.protocol.fatalMarker),
    ("engine.bootstrap_flag", settings.engine.bootstrapFlag)]

def fault? (settings : Settings) : Option Fault :=
  match settings.discovery.callPattern with
  | .error error => some (.pattern error)
  | .ok _ =>
      if settings.resolver.requireFunction = "" then some (.emptyText "resolver.require_function")
      else if settings.resolver.candidateExtensions.isEmpty then some .noCandidates
      else (settings.markers.find? fun marker => marker.2 = "").map fun marker => .emptyText marker.1

end Settings

end ScriptSuite.Config
