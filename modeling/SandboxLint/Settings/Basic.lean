/-!
The settings of a run and their defaults, section by section.
-/

namespace SandboxLint

/-- What counts as an entry point, as plain data and as a violation. -/
structure AnalysisSettings where
  baseType : String := "UdonSharpBehaviour"
  markerImport : String := "UdonSharp"
  serializableAttributes : List String := ["Serializable"]
  networkCallableAttribute : String := "NetworkCallable"
  fieldChangeCallbackAttribute : String := "FieldChangeCallback"
  maxNetworkCallableParameters : Nat := 8
  externalNamespaces : List String :=
    ["UnityEngine", "VRC.SDKBase", "VRC.Udon", "TMPro", "UdonSharp"]
  disabledRules : List Int := []
  maxWorkers : Nat := 0
  deriving DecidableEq, Repr, Inhabited

/-- Which files are found; without excluded directories of its own the default ones are pruned. -/
structure DiscoverySettings where
  extensions : List String := [".cs"]
  excludedDirs : Option (List String) := none
  deriving DecidableEq, Repr, Inhabited

structure OutputSettings where
  codePrefix : String := "UDON"
  toolName : String := "udonsharp-lint"
  deriving DecidableEq, Repr, Inhabited

inductive LogLevel where
  | debug
  | info
  | warning
  | error
  | critical
  deriving DecidableEq, Repr, Inhabited

namespace LogLevel

def label : LogLevel → String
  | .debug => "DEBUG"
  | .info => "INFO"
  | .warning => "WARNING"
  | .error => "ERROR"
  | .critical => "CRITICAL"

/-- The weight of a level; events below a threshold's weight are dropped. -/
def weight : LogLevel → Nat
  | .debug => 10
  | .info => 20
  | .warning => 30
  | .error => 40
  | .critical => 50

def all : List LogLevel := [.debug, .info, .warning, .error, .critical]

def ofLabel? (label : String) : Option LogLevel :=
  all.find? (·.label == label)

end LogLevel

inductive LogFormat where
  | json
  | console
  deriving DecidableEq, Repr, Inhabited

namespace LogFormat

def label : LogFormat → String
  | .json => "json"
  | .console => "console"

def all : List LogFormat := [.json, .console]

def ofLabel? (label : String) : Option LogFormat :=
  all.find? (·.label == label)

end LogFormat

/-- One log output: to a stream or to the file of an absolute path, with the level of all
outputs unless it has its own. -/
structure LogOutputSettings where
  format : LogFormat := .console
  destination : String := "stderr"
  level : Option LogLevel := none
  deriving DecidableEq, Repr, Inhabited

structure LoggingSettings where
  level : LogLevel := .warning
  outputs : List LogOutputSettings := [{}]
  deriving DecidableEq, Repr, Inhabited

/-- All settings of a run. -/
structure Settings where
  logging : LoggingSettings := {}
  analysis : AnalysisSettings := {}
  discovery : DiscoverySettings := {}
  output : OutputSettings := {}
  deriving DecidableEq, Repr, Inhabited

end SandboxLint
