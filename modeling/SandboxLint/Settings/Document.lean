import SandboxLint.Settings.Basic
import SandboxLint.Settings.Check
import SandboxLint.Settings.Home

/-!
Settings as documents: how each section is read from a value, and written as one.
Parts are read in the order of their declaration; keys that a section does not know
are passed over.
-/

namespace SandboxLint

namespace LogOutputSettings

/-- A destination: a stream by name, or the absolute path of a file. -/
def destinationOf (home : Home) : Check String := fun value =>
  match Check.text value with
  | .valid written =>
      if written == "stderr" || written == "stdout" then .valid written
      else
        match home.expand? (Path.parse written) with
        | some path =>
            if path.isAbsolute then .valid path.toText
            else .refuse (.rejected ("File destination must be absolute path: " ++ written)) value
        | none => .noHome
  | other => other

def parts (home : Home) (pairs : Mapping) : Checked LogOutputSettings :=
  let default : LogOutputSettings := {}
  LogOutputSettings.mk
    <$> Check.part pairs "format" default.format
      (Check.oneOf (LogFormat.all.map (·.label)) LogFormat.ofLabel?)
    <*> Check.part pairs "destination" default.destination (destinationOf home)
    <*> Check.part pairs "level" default.level
      (Check.nullable (Check.oneOf (LogLevel.all.map (·.label)) LogLevel.ofLabel?))

def check (home : Home) : Check LogOutputSettings :=
  Check.sectionOf "LogOutputConfig" (parts home)

def toValue (s : LogOutputSettings) : Value :=
  .mapping [("format", .text s.format.label), ("destination", .text s.destination),
    ("level", match s.level with | some level => .text level.label | none => .null)]

end LogOutputSettings

namespace LoggingSettings

def parts (home : Home) (pairs : Mapping) : Checked LoggingSettings :=
  let default : LoggingSettings := {}
  LoggingSettings.mk
    <$> Check.part pairs "level" default.level
      (Check.oneOf (LogLevel.all.map (·.label)) LogLevel.ofLabel?)
    <*> Check.part pairs "outputs" default.outputs (Check.listOf (LogOutputSettings.check home))

def check (home : Home) : Check LoggingSettings :=
  Check.sectionOf "LoggingConfig" (parts home)

def toValue (s : LoggingSettings) : Value :=
  .mapping [("level", .text s.level.label), ("outputs", .list (s.outputs.map (·.toValue)))]

end LoggingSettings

namespace AnalysisSettings

/-- Attribute names, each without the ending `Attribute`. -/
def attributeNames : Check (List String) := fun value =>
  (Check.listOf Check.text value).map fun names =>
    names.map fun name => String.ofList (Text.dropEnding "Attribute".toList name.toList)

def parts (pairs : Mapping) : Checked AnalysisSettings :=
  let default : AnalysisSettings := {}
  AnalysisSettings.mk
    <$> Check.part pairs "base_type" default.baseType Check.text
    <*> Check.part pairs "marker_import" default.markerImport Check.text
    <*> Check.part pairs "serializable_attributes" default.serializableAttributes attributeNames
    <*> Check.part pairs "network_callable_attribute" default.networkCallableAttribute Check.text
    <*> Check.part pairs "field_change_callback_attribute" default.fieldChangeCallbackAttribute
      Check.text
    <*> Check.part pairs "max_network_callable_parameters" default.maxNetworkCallableParameters
      Check.natural
    <*> Check.part pairs "external_namespaces" default.externalNamespaces (Check.listOf Check.text)
    <*> Check.part pairs "disabled_rules" default.disabledRules (Check.listOf Check.integer)
    <*> Check.part pairs "max_workers" default.maxWorkers Check.natural

def check : Check AnalysisSettings :=
  Check.sectionOf "AnalysisConfig" parts

def toValue (s : AnalysisSettings) : Value :=
  .mapping
    [("base_type", .text s.baseType),
      ("marker_import", .text s.markerImport),
      ("serializable_attributes", .texts s.serializableAttributes),
      ("network_callable_attribute", .text s.networkCallableAttribute),
      ("field_change_callback_attribute", .text s.fieldChangeCallbackAttribute),
      ("max_network_callable_parameters", .int s.maxNetworkCallableParameters),
      ("external_namespaces", .texts s.externalNamespaces),
      ("disabled_rules", .list (s.disabledRules.map .int)),
      ("max_workers", .int s.maxWorkers)]

end AnalysisSettings

namespace DiscoverySettings

def parts (pairs : Mapping) : Checked DiscoverySettings :=
  let default : DiscoverySettings := {}
  DiscoverySettings.mk
    <$> Check.part pairs "extensions" default.extensions (Check.listOf Check.text)
    <*> Check.part pairs "excluded_dirs" default.excludedDirs
      (Check.nullable (Check.listOf Check.text))

def check : Check DiscoverySettings :=
  Check.sectionOf "DiscoveryConfig" parts

def toValue (s : DiscoverySettings) : Value :=
  .mapping [("extensions", .texts s.extensions),
    ("excluded_dirs", match s.excludedDirs with | some dirs => .texts dirs | none => .null)]

end DiscoverySettings

namespace OutputSettings

def parts (pairs : Mapping) : Checked OutputSettings :=
  let default : OutputSettings := {}
  OutputSettings.mk
    <$> Check.part pairs "code_prefix" default.codePrefix Check.text
    <*> Check.part pairs "tool_name" default.toolName Check.text

def check : Check OutputSettings :=
  Check.sectionOf "OutputConfig" parts

def toValue (s : OutputSettings) : Value :=
  .mapping [("code_prefix", .text s.codePrefix), ("tool_name", .text s.toolName)]

end OutputSettings

namespace Settings

def sectionNames : List String := ["logging", "analysis", "discovery", "output"]

def parts (home : Home) (pairs : Mapping) : Checked Settings :=
  let default : Settings := {}
  Settings.mk
    <$> Check.part pairs "logging" default.logging (LoggingSettings.check home)
    <*> Check.part pairs "analysis" default.analysis AnalysisSettings.check
    <*> Check.part pairs "discovery" default.discovery DiscoverySettings.check
    <*> Check.part pairs "output" default.output OutputSettings.check

def check (home : Home) : Check Settings :=
  Check.sectionOf "UdonLintConfig" (parts home)

/-- The issues of keys that name no section. -/
def unknownKeys (pairs : Mapping) : Checked Unit :=
  match pairs.filter fun (key, _) => !sectionNames.contains key with
  | [] => .valid ()
  | unknown =>
      .invalid (unknown.map fun (key, value) =>
        { location := [key], problem := .unknownKey, input := value })

/-- Reads a document that may hold no other keys than the sections. -/
def checkStrict (home : Home) (pairs : Mapping) : Checked Settings :=
  (fun settings _ => settings) <$> parts home pairs <*> unknownKeys pairs

def toValue (s : Settings) : Value :=
  .mapping [("logging", s.logging.toValue), ("analysis", s.analysis.toValue),
    ("discovery", s.discovery.toValue), ("output", s.output.toValue)]

end Settings
end SandboxLint
