import SandboxLint.Error
import SandboxLint.FileTree
import SandboxLint.Settings.Arguments

/-!
Loading of settings. Five sources are laid over each other: arguments win over direct
values, these over environment variables, those over the project's file or one named
explicitly, and that over the global file. The merged document is read once, and what
was read is written out and read again.
-/

namespace SandboxLint

/-- The name of a project's settings file. -/
def projectFileName : String := ".udonlint.yaml"

/-- Where settings come from. -/
structure SettingsSources where
  disk : Disk
  projectRoot : Option Path := none
  configFile : Option Path := none
  globalFile : Path := { parts := ["global", "config.yaml"] }
  environment : Environment.Variables := []
  direct : Mapping := []

namespace SettingsSources

/-- The direct values that say how variables and arguments are read and are no settings
themselves. -/
def controlKeys : List String :=
  ["_case_sensitive", "_nested_model_default_partial_update", "_env_prefix", "_env_prefix_target",
    "_env_file", "_env_file_encoding", "_env_file_depth", "_env_ignore_empty",
    "_env_nested_delimiter", "_env_nested_max_split", "_env_parse_none_str", "_env_parse_enums",
    "_cli_prog_name", "_cli_parse_args", "_cli_settings_source", "_cli_parse_none_str",
    "_cli_hide_none_type", "_cli_avoid_json", "_cli_enforce_required",
    "_cli_use_class_docs_for_groups", "_cli_exit_on_error", "_cli_prefix",
    "_cli_flag_prefix_char", "_cli_implicit_flags", "_cli_ignore_unknown_args",
    "_cli_kebab_case", "_cli_shortcuts", "_cli_show_env_vars", "_secrets_dir", "_build_sources"]

/-- The section that a direct value is for, whatever the case of its letters, else its own key. -/
def sectionOf (key : String) : String :=
  if Settings.sectionNames.contains (Text.lower key) then Text.lower key else key

/-- The direct values that are settings; the first of those for one section counts. -/
def directSettings (sources : SettingsSources) : Mapping :=
  let settings := sources.direct.filter fun (key, _) => !controlKeys.contains key
  .ofFirstPairs (settings.map fun (key, value) => (sectionOf key, value))

/-- A direct value that is a text, else a default. -/
def directText (sources : SettingsSources) (key default : String) : String :=
  match sources.direct.get? key with
  | some (.text value) => value
  | _ => default

/-- Whether a direct value is given and not void. -/
def directFlag (sources : SettingsSources) (key : String) : Bool :=
  (sources.direct.get? key).any (!·.isVoid)

/-- Whether the names of variables begin in the same way. -/
def hasLeader (sources : SettingsSources) : Bool :=
  match sources.direct.get? "_env_prefix_target" with
  | none | some .null | some (.text "variable") | some (.text "all") => true
  -- other names for settings alone need no leader, and there are none
  | _ => false

def variableOptions (sources : SettingsSources) : Environment.Options :=
  let default : Environment.Options := {}
  { leader :=
      if sources.hasLeader then sources.directText "_env_prefix" default.leader else ""
    separator := sources.directText "_env_nested_delimiter" default.separator
    maxParts :=
      match (sources.direct.get? "_env_nested_max_split").bind Value.toInt? with
      | some parts => if 0 < parts then some parts.toNat else none
      | none => none
    caseSensitive := sources.directFlag "_case_sensitive"
    ignoreEmpty := sources.directFlag "_env_ignore_empty"
    nullText :=
      match sources.direct.get? "_env_parse_none_str" with
      | some (.text value) => some value
      | _ => none }

def argumentOptions (sources : SettingsSources) : Arguments.Options :=
  let default : Arguments.Options := {}
  { mark := ((sources.directText "_cli_flag_prefix_char" "").toList.head?).getD default.mark
    leader :=
      match sources.directText "_cli_prefix" "" with
      | "" => ""
      | leader => leader ++ "."
    hyphenated := sources.directFlag "_cli_kebab_case"
    wholeSections := !sources.directFlag "_cli_avoid_json"
    skipsUnknown := sources.directFlag "_cli_ignore_unknown_args"
    caseSensitive := sources.directFlag "_case_sensitive"
    nullText :=
      sources.directText "_cli_parse_none_str"
        (if sources.directFlag "_cli_avoid_json" then "None" else default.nullText) }

end SettingsSources

/-- Where variables come from. -/
inductive VariableOrigin where
  | environment
  | arguments
  deriving DecidableEq, Repr

def VariableOrigin.label : VariableOrigin → String
  | .environment => "EnvSettingsSource"
  | .arguments => "CliSettingsSource"

/-- Why settings cannot be loaded. -/
inductive LoadError where
  | config (error : ConfigError)
  | malformed (path : String)
  | path (fault : PathFault)
  | unreadable (origin : VariableOrigin) (group : String)
  | badArguments (fault : Arguments.Fault)
  | noArguments (kind : String)
  | exit (code : Nat)
  | noHome
  deriving Repr

namespace LoadError

def unreadableMessage (origin : VariableOrigin) (group : String) : String :=
  "error parsing value for field \"" ++ group ++ "\" from source \"" ++ origin.label ++ "\""

def noArgumentsMessage (kind : String) : String :=
  "cli_parse_args must be a list or tuple of strings, received <class '" ++ kind ++ "'>"

/-- The error that a fault in arguments is. -/
def ofFault (exits : Bool) : Arguments.Fault → LoadError
  | .helpAsked => .exit 0
  | .badItems setting reason => .badArguments (.badItems setting reason)
  -- arguments that cannot be understood end the program
  | fault => if exits then .exit 2 else .badArguments fault

def noHomeMessage : String :=
  "Could not determine home directory."

end LoadError

namespace Settings

/-- The value of a settings file's content. -/
def documentValue (path : Path) : FileContent → Except LoadError Value
  | .document value => .ok value
  | .malformed => .error (.malformed path.toText)
  | .bytes bytes =>
      let text := Text.decodeFile bytes
      if text.toList.all (·.isWhitespace) then .ok .null
      else
        match Value.ofJson? text with
        | some value => .ok value
        | none => .error (.malformed path.toText)

/-- The mapping that the content of a settings file makes; an empty document makes none. -/
def contentMapping (path : Path) (content : FileContent) : Except LoadError Mapping := do
  let value ← documentValue path content
  if value.isVoid then return []
  else
    match value with
    | .mapping pairs => return pairs
    | _ => throw (.config (.unparsable path.toText "top level must be a mapping"))

/-- The mapping in a settings file; none for a file that does not exist or is empty. -/
def readFile (disk : Disk) (path : Path) : Except LoadError Mapping :=
  match disk.lookup path with
  | .error fault => .error (.path fault)
  | .ok none | .ok (some .device) => .ok []
  | .ok (some (.file content)) => contentMapping path content
  | .ok (some _) => .error (.path (.lookup .isDirectory path.toText))

/-- The outcome of a check with its first issue as an error. -/
def orFirstIssue : Checked Settings → Except LoadError Settings
  | .valid settings => .ok settings
  | .invalid (issue :: _) =>
      .error (.config (.invalidValue issue.field issue.input issue.problem.message))
  | .invalid [] => .ok {}
  | .noHome => .error .noHome

/-- The mapping of the project's file, or of the file named in its place. -/
def projectMapping (sources : SettingsSources) : Except LoadError Mapping :=
  match sources.configFile with
  | some file =>
      match sources.disk.lookup file with
      | .error fault => .error (.path fault)
      | .ok (some (.file content)) => contentMapping file content
      | .ok _ => .error (.config (.fileNotFound file.toText))
  | none =>
      let root := sources.projectRoot.getD sources.disk.working
      readFile sources.disk (root.join { parts := [projectFileName] })

def variableMapping (origin : VariableOrigin) (options : Environment.Options)
    (vars : Environment.Variables) : Except LoadError Mapping :=
  (Environment.document options vars).mapError (.unreadable origin)

/-- The arguments among the direct values. -/
def givenArguments (sources : SettingsSources) : Except LoadError (List String) :=
  match (sources.direct.get? "_cli_parse_args").getD .null with
  | .list items =>
      .ok (items.filterMap fun item => match item with | .text text => some text | _ => none)
  | .null | .bool _ => .ok []
  | value => if value.toInt? == some 0 then .ok [] else .error (.noArguments value.kindName)

def argumentMapping (sources : SettingsSources) : Except LoadError Mapping := do
  let options := sources.argumentOptions
  let exits := match sources.direct.get? "_cli_exit_on_error" with
    | none | some .null => true
    | some value => !value.isVoid
  match Arguments.variablesOf options (← givenArguments sources) with
  | .ok vars => variableMapping .arguments (Arguments.variableOptions options) vars
  | .error fault => throw (.ofFault exits fault)

/-- The merged document of all sources. -/
def merged (sources : SettingsSources) : Except LoadError Mapping := do
  let project ← projectMapping sources
  let shared ← readFile sources.disk sources.globalFile
  let arguments ← argumentMapping sources
  let vars ← variableMapping .environment sources.variableOptions sources.environment
  let direct := Mapping.merge sources.directSettings arguments
  return Mapping.merge (Mapping.merge shared project) (Mapping.merge vars direct)

def load (sources : SettingsSources) : Except LoadError Settings := do
  let home := Environment.home sources.environment
  let document ← merged sources
  let settings ← orFirstIssue (checkStrict home document)
  orFirstIssue (check home settings.toValue)

end Settings
end SandboxLint
