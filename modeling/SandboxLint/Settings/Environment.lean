import SandboxLint.Settings.Document
import SandboxLint.Text.Lowercase
import SandboxLint.Value.Json

/-!
Settings from environment variables. `UDONLINT__SECTION` holds a section as a JSON
mapping and `UDONLINT__SECTION__KEY` one key of it, the latter winning over the
former. Names are taken in lower case. List-valued keys are written as JSON, other
keys as plain text. What names begin with, what separates their parts and how texts
are taken can be chosen.
-/

namespace SandboxLint
namespace Environment

abbrev Variables := List (String × String)

/-- How variables are read: what their names begin with, what stands between the parts of a name
and how many parts there may be, whether case matters, whether empty texts count as unset, and
the text that stands for null. -/
structure Options where
  leader : String := "UDONLINT__"
  separator : String := "__"
  maxParts : Option Nat := none
  caseSensitive : Bool := false
  ignoreEmpty : Bool := false
  nullText : Option String := none
  deriving DecidableEq, Repr, Inhabited

namespace Options

variable (options : Options)

/-- A name in the spelling in which names are compared. -/
def spelled (name : String) : String :=
  if options.caseSensitive then name else Text.lower name

def groupName (group : String) : String :=
  options.spelled (options.leader ++ group)

def isNull (text : String) : Bool :=
  options.nullText == some text

/-- The parts of the name of a key. -/
def partsOf (name : List Char) : List String :=
  let cuts := match options.maxParts with
    | some parts => parts - 1
    | none => name.length
  (Text.splitBy options.separator.toList cuts name).map String.ofList

end Options

/-- How the text of a key is taken: as it stands, as JSON, or as JSON if it can be read as such. -/
inductive Encoding where
  | plain
  | json
  | jsonOrPlain
  deriving DecidableEq, Repr

/-- The keys of a section. -/
def keysOf : String → List String
  | "logging" => ["level", "outputs"]
  | "analysis" =>
      ["base_type", "marker_import", "serializable_attributes", "network_callable_attribute",
        "field_change_callback_attribute", "max_network_callable_parameters",
        "external_namespaces", "disabled_rules", "max_workers"]
  | "discovery" => ["extensions", "excluded_dirs"]
  | "output" => ["code_prefix", "tool_name"]
  | _ => []

def encodingOf (group key : String) : Encoding :=
  if [("logging", "outputs"), ("analysis", "serializable_attributes"),
      ("analysis", "external_namespaces"), ("analysis", "disabled_rules"),
      ("discovery", "extensions")].contains (group, key) then .json
  else if (group, key) == ("discovery", "excluded_dirs") then .jsonOrPlain
  else .plain

/-- Changes what stands under nested keys. -/
def place (change : Option Value → Value) : List String → Value → Value
  | [key], .mapping pairs => .mapping (Assoc.alter pairs key change)
  | key :: rest, .mapping pairs =>
      .mapping (Assoc.alter pairs key fun old => place change rest (old.getD (.mapping [])))
  -- something else than a mapping is in the way
  | _, other => other

/-- The value of the text of a key; nothing when it had to be JSON and is not. -/
def decode? (encoding : Encoding) (text : String) : Option Value :=
  if text == "" then some (.text text)
  else
    match encoding with
    | .plain => some (.text text)
    | .json => Value.ofJson? text
    | .jsonOrPlain => some ((Value.ofJson? text).getD (.text text))

/-- What a text that was taken as a value does to the value that is already there. -/
def replacing (options : Options) (value : Value) (old : Option Value) : Value :=
  match value with
  | .text text =>
      if options.isNull text then
        match old with
        | none => .null
        -- the text for null replaces nothing but an empty mapping
        | some (.mapping []) => .null
        | some old => old
      else value
  | _ => value

/-- Adds one variable to what is known of a section, if it is one of the section's keys. -/
def addKey (options : Options) (group : String) (known : Value) (name text : String) :
    Option Value :=
  let leading := options.groupName group ++ options.separator
  if options.separator != "" && Text.startsWith name leading then
    let keys := options.partsOf (name.toList.drop leading.length)
    let encoding := match keys with
      | [key] => encodingOf group key
      | _ => .plain
    (decode? encoding text).map fun value => place (replacing options value) keys known
  else some known

/-- The mapping that the variables of single keys make; nothing when one cannot be read. -/
def explode (options : Options) (group : String) (vars : Variables) : Option Value :=
  vars.foldlM (fun known (name, text) => addKey options group known name text) (.mapping [])

/-- A section's mapping with its keys in the spelling of the section. -/
def respell (group : String) (pairs : Mapping) : Mapping :=
  .ofPairs (pairs.map fun (name, value) =>
    (((keysOf group).find? fun key => key == Text.lower name).getD name, value))

/-- The outcome of reading a section: nothing set, a value, or a text that is no JSON. -/
inductive Outcome where
  | absent
  | found (value : Value)
  | unreadable

/-- A section's value as found. -/
def found (options : Options) (group : String) (value : Value) : Outcome :=
  match value with
  | .null => .absent
  | .mapping pairs =>
      .found (.mapping (if options.caseSensitive then pairs else respell group pairs))
  | other => .found other

/-- Reads a section from variables whose names are spelled for comparison. -/
def readGroup (options : Options) (group : String) (vars : Variables) : Outcome :=
  match List.lookup (options.groupName group) vars with
  | some text =>
      if options.isNull text then .found .null
      else
        match Value.ofJson? text with
        | some (.mapping pairs) =>
            match explode options group vars with
            | some keys => found options group (Value.overlay (.mapping pairs) keys)
            | none => .unreadable
        | some value => found options group value
        | none => .unreadable
  | none =>
      match explode options group vars with
      | some (.mapping []) => .absent
      | some keys => found options group keys
      | none => .unreadable

/-- Variables with names spelled for comparison; the last of those that then coincide counts. -/
def normalized (options : Options) (vars : Variables) : Variables :=
  let set := vars.filter fun (_, text) => !(options.ignoreEmpty && text == "")
  Assoc.ofPairs (set.map fun (name, text) => (options.spelled name, text))

/-- The settings document that variables make, or the section that cannot be read. -/
def document (options : Options) (vars : Variables) : Except String Mapping :=
  let vars := normalized options vars
  Settings.sectionNames.foldlM
    (fun (doc : Mapping) group =>
      match readGroup options group vars with
      | .absent => .ok doc
      | .found value => .ok (doc.put group value)
      | .unreadable => .error group)
    []

/-- The home directories under variables: the user's own can be set by one of them. -/
def home (vars : Variables) : Home :=
  match List.lookup "HOME" vars with
  | some own => { own }
  | none => {}

end Environment
end SandboxLint
