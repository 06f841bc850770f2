import SandboxLint.Text.Split

/-!
Command lines. The words of a command line are options, with or without a value,
and operands; a double dash makes operands of all words behind it. From the words
comes a request, or none when the command line cannot be used.
-/

namespace SandboxLint
namespace Command

/-- An option by its long name, which may have a letter for short. -/
structure OptionForm where
  long : String
  letter : Option Char := none
  takesValue : Bool := false
  deriving DecidableEq, Repr

/-- The options of a command line in order, each with its value, and its operands. -/
structure Words where
  options : List (String × Option String) := []
  operands : List String := []
  deriving DecidableEq, Repr

namespace Words

def withOption (words : Words) (name : String) (value : Option String) : Words :=
  { words with options := (name, value) :: words.options }

def withOperand (words : Words) (operand : String) : Words :=
  { words with operands := operand :: words.operands }

def has (words : Words) (name : String) : Bool :=
  words.options.any (·.1 == name)

/-- The value that an option was given last. -/
def value? (words : Words) (name : String) : Option String :=
  (words.options.reverse.find? (·.1 == name)).bind (·.2)

end Words

/-- The options that the letters behind one dash stand for. -/
def lettered (forms : List OptionForm) (letters : List Char) :
    Option (List (String × Option String)) :=
  letters.mapM fun letter =>
    (forms.find? (·.letter == some letter)).map fun form => (form.long, none)

inductive Reading where
  | options (found : List (String × Option String))
  | wantsValue (name : String)
  | unknown

/-- Reads a word that begins with a dash. -/
def readOption (forms : List OptionForm) (word : String) : Reading :=
  let name := String.ofList (Text.beforeFirst '=' word.toList)
  -- a long name may bring its value behind an equals sign
  let attached :=
    if word.toList.contains '=' then some (String.ofList (Text.afterFirst '=' word.toList))
    else none
  match forms.find? (·.long == name) with
  | some form =>
      match form.takesValue, attached with
      | true, some value => .options [(form.long, some value)]
      | true, none => .wantsValue form.long
      | false, none => .options [(form.long, none)]
      | false, some _ => .unknown
  | none =>
      if Text.startsWith word "--" then .unknown
      else
        -- a word that is no long name and has one dash is a row of letters
        match lettered forms (word.toList.drop 1) with
        | some found => .options found
        | none => .unknown

def isOption (word : String) : Bool :=
  Text.startsWith word "-" && 1 < word.length

/-- Reads the words of a command line. -/
def scan (forms : List OptionForm) (mixed : Bool) : List String → Option Words
  | [] => some {}
  | word :: rest =>
      if word == "--" then some { operands := rest }
      else if isOption word then
        match readOption forms word, rest with
        | .options found, rest =>
            (scan forms mixed rest).map fun words =>
              { words with options := found ++ words.options }
        | .wantsValue name, value :: rest =>
            (scan forms mixed rest).map (·.withOption name (some value))
        | .wantsValue _, [] => none
        | .unknown, _ => none
      -- unless options may stand between operands, the first operand ends them
      else if mixed then (scan forms mixed rest).map (·.withOperand word)
      else some { operands := word :: rest }

structure CheckOptions where
  directory : String
  excludeTests : Bool := false
  asJson : Bool := false
  configFile : Option String := none
  verbose : Bool := false
  deriving DecidableEq, Repr

/-- What a command line asks for; a path that holds the character that ends paths breaks a check,
after the settings file has been looked at. -/
inductive Request where
  | check (options : CheckOptions)
  | brokenPath (configFile : Option String)
  | rules (asJson : Bool)
  | version
  | help
  deriving DecidableEq, Repr

def hasNull (word : String) : Bool :=
  word.toList.any (·.toNat == 0)

def helpForm : OptionForm := { long := "--help" }

def checkForms : List OptionForm :=
  [{ long := "--exclude-test-scripts" }, { long := "--json" },
    { long := "--config", takesValue := true }, { long := "--verbose", letter := some 'v' },
    helpForm]

def checkRequest (args : List String) : Option Request := do
  let words ← scan checkForms true args
  if words.has "--help" then return .help
  else
    let configFile := words.value? "--config"
    if (configFile.toList ++ words.operands.take 1).any hasNull then return .brokenPath configFile
    else
      match words.operands with
      | [directory] =>
          return .check
            { directory
              excludeTests := words.has "--exclude-test-scripts"
              asJson := words.has "--json"
              configFile
              verbose := words.has "--verbose" }
      | _ => none

def rulesRequest (args : List String) : Option Request := do
  let words ← scan [{ long := "--json" }, helpForm] true args
  if words.has "--help" then return .help
  else
    match words.operands with
    | [] => return .rules (words.has "--json")
    | _ => none

def groupForms : List OptionForm :=
  [{ long := "--version" }, helpForm]

def optionRequest (words : Words) : Option Request :=
  words.options.head?.map fun (name, _) => if name == "--version" then .version else .help

/-- The request of words that name a command first. -/
def groupRequest (args : List String) : Option Request := do
  let words ← scan groupForms false args
  match optionRequest words, words.operands with
  | some request, _ => return request
  | none, "check" :: rest => checkRequest rest
  | none, "rules" :: rest => rulesRequest rest
  -- read once more, since behind a double dash there may be options
  | none, operands => optionRequest (← scan groupForms false operands)

/-- The two programs: one that only checks, and one with commands. -/
inductive Program where
  | checker
  | suite
  deriving DecidableEq, Repr

def request (program : Program) (args : List String) : Option Request :=
  match program with
  | .checker => checkRequest args
  | .suite => groupRequest args

end Command
end SandboxLint
