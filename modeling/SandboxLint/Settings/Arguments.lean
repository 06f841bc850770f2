import SandboxLint.Settings.Environment
import SandboxLint.Text.Blank
import SandboxLint.Text.Digit

/-!
Settings from written arguments. Every section is an option whose value is a JSON
mapping, and every key of a section is one, named after both with a point between
them. List-valued keys take items with commas between them, and each use of such an
option adds to the list; of other options the last use counts. What the options say is
a set of variables, which are then read as those of the environment are.
-/

namespace SandboxLint
namespace Arguments

/-- How arguments are read: the character that marks options, what stands before the names of
settings, whether hyphens stand for underscores, whether whole sections are options, whether
what is not understood is passed over, whether case matters, and the text for null. -/
structure Options where
  mark : Char := '-'
  leader : String := ""
  hyphenated : Bool := false
  wholeSections : Bool := true
  skipsUnknown : Bool := false
  caseSensitive : Bool := false
  nullText : String := "null"
  deriving DecidableEq, Repr, Inhabited

/-- What the value of an option is: a section, which is empty when no value follows, the items of
a list, or a text. -/
inductive Shape where
  | group
  | items
  | single
  deriving DecidableEq, Repr

/-- An option as written, the setting it stands for, and what its value is. -/
structure Choice where
  flag : String
  setting : String
  shape : Shape
  deriving DecidableEq, Repr

namespace Options

variable (options : Options)

def choice (name : String) (shape : Shape) : Choice :=
  let setting := options.leader ++ name
  let shown := if options.caseSensitive then setting else Text.lower setting
  let written :=
    if options.hyphenated then
      String.ofList (shown.toList.map fun c => if c == '_' then '-' else c)
    else shown
  { flag := String.ofList [options.mark, options.mark] ++ written, setting, shape }

def choicesOf (group : String) : List Choice :=
  (if options.wholeSections then [options.choice group .group] else []) ++
    (Environment.keysOf group).map fun key =>
      options.choice (group ++ "." ++ key)
        (if Environment.encodingOf group key == .plain then .single else .items)

def choices : List Choice :=
  Settings.sectionNames.flatMap options.choicesOf

/-- The options that ask for help. -/
def helpFlags : List String :=
  [String.ofList [options.mark, 'h'], String.ofList [options.mark, options.mark] ++ "help"]

end Options

inductive Fault where
  | unrecognized (words : List String)
  | missingValue (flag : String)
  | helpAsked
  | badItems (setting reason : String)
  deriving DecidableEq, Repr

namespace Fault

def message : Fault → String
  | .unrecognized words => "error parsing CLI: unrecognized arguments: " ++ " ".intercalate words
  | .missingValue flag => "error parsing CLI: argument " ++ flag ++ ": expected one argument"
  | .helpAsked => ""
  | .badItems setting reason => "Parsing error encountered for " ++ setting ++ ": " ++ reason

end Fault

/-- What an argument is: an option, with the value behind its equals sign, or a value. -/
inductive Word where
  | value (text : String)
  | option (choice : Choice) (attached : Option String)
  | unknown (text : String)
  | help
  deriving DecidableEq, Repr

/-- An argument with the name of its option in small letters. -/
def lowered (options : Options) (text : String) : String :=
  let cs := text.toList
  let name := cs.takeWhile fun c => !Text.isBlank c && c != '='
  if options.caseSensitive || cs.head? != some options.mark || name.length < 2 then text
  else
    Text.lower (String.ofList name) ++
      -- what stands on later lines is lost
      String.ofList ((cs.drop name.length).takeWhile (· != '\n'))

/-- Whether a text is a negative number, which is no option. -/
def isNegative (cs : List Char) : Bool :=
  match cs with
  | '-' :: digits =>
      let whole := digits.takeWhile Text.isDecimal
      match digits.drop whole.length with
      | [] => !whole.isEmpty
      | '.' :: part => !part.isEmpty && part.all Text.isDecimal
      | _ => false
  | _ => false

def wordOf (options : Options) (text : String) : Word :=
  let cs := text.toList
  let name := String.ofList (Text.beforeFirst '=' cs)
  if cs.head? != some options.mark || cs.length == 1 then .value text
  else if options.helpFlags.contains text then .help
  else
    match options.choices.find? (·.flag == text), options.choices.find? (·.flag == name) with
    | some choice, _ => .option choice none
    | none, some choice => .option choice (some (String.ofList (Text.afterFirst '=' cs)))
    | none, none =>
        if [options.mark, 'h'].isPrefixOf cs then .help
        else if isNegative cs || cs.contains ' ' then .value text
        else .unknown text

/-- The words of arguments; behind a double mark there are values only. -/
def wordsOf (options : Options) : List String → List Word
  | [] => []
  | text :: rest =>
      if text == String.ofList [options.mark, options.mark] then rest.map .value
      else wordOf options (lowered options text) :: wordsOf options rest

/-- The options that words give, with their values, and the words that are left over. -/
def gather : List Word → Except Fault (List (Choice × String) × List String)
  | [] => .ok ([], [])
  | .value text :: rest | .unknown text :: rest =>
      (gather rest).map fun (given, left) => (given, text :: left)
  | .help :: _ => .error .helpAsked
  | .option choice (some value) :: rest | .option choice none :: .value value :: rest =>
      (gather rest).map fun (given, left) => ((choice, value) :: given, left)
  | .option choice none :: rest =>
      if choice.shape == .group then
        (gather rest).map fun (given, left) => ((choice, "\x7b\x7d") :: given, left)
      else .error (.missingValue choice.flag)

/-! Items of lists. They are gathered as JSON. -/

/-- Digits with single underscores between them, and what follows; none without a digit. -/
def digits? : List Char → Option (List Char)
  | [] => none
  | c :: rest => if Text.isDecimal c then some (behind rest) else none
where
  behind : List Char → List Char
    | '_' :: c :: rest => if Text.isDecimal c then behind rest else '_' :: c :: rest
    | c :: rest => if Text.isDecimal c then behind rest else c :: rest
    | [] => []

/-- A text without a sign in front. -/
def unsigned : List Char → List Char
  | '+' :: rest | '-' :: rest => rest
  | cs => cs

/-- Whether a text is a number: a decimal with a point or an exponent or without, or a word for one
that is not finite. -/
def isNumeral (text : String) : Bool :=
  let cs := unsigned (Text.trim text.toList)
  if ["inf", "infinity", "nan"].contains (Text.lower (String.ofList cs)) then true
  else
    let whole := digits? cs
    let behind := match whole.getD cs with
      | '.' :: rest =>
          match digits? rest with
          | some rest => some rest
          | none => if whole.isSome then some rest else none
      | rest => if whole.isSome then some rest else none
    match behind with
    | some [] => true
    | some (e :: rest) => (e == 'e' || e == 'E') && digits? (unsigned rest) == some []
    | none => false

/-- The length of an object or an array at the beginning, of whose opening bracket `close` is the
other one; `depth` brackets are open, `previous` is the character before and `taken` the number of
characters read. -/
def closedLength? (close : Char) (depth : Nat) (inText : Bool) (previous : Char) (taken : Nat) :
    List Char → Option Nat
  | [] => none
  | c :: rest =>
      if c == '"' && previous != '\\' then closedLength? close depth (!inText) c (taken + 1) rest
      else if inText then closedLength? close depth inText c (taken + 1) rest
      else if c == '[' || c == '\x7b' then
        closedLength? close (depth + 1) inText c (taken + 1) rest
      else if c == ']' || c == '\x7d' then
        if depth == 1 && c == close then some (taken + 1)
        else closedLength? close (depth - 1) inText c (taken + 1) rest
      else closedLength? close depth inText c (taken + 1) rest

/-- A plain item up to a comma outside of quotes, and whether its quotes are even. -/
def plainItem (inText : Bool) (previous : Option Char) : List Char → List Char × Bool
  | [] => ([], !inText)
  | c :: rest =>
      let inText := if c == '"' && previous != some '\\' then !inText else inText
      if !inText && c == ',' then ([], true)
      else
        let (item, isEven) := plainItem inText (some c) rest
        (c :: item, isEven)

/-- A plain item as JSON. -/
def plainJson (options : Options) (item : String) : String :=
  if isNumeral item then item
  else
    let item := if item == options.nullText then "null" else item
    if ["true", "false", "null"].contains item || Text.startsWith item "\"" then item
    else "\"" ++ item ++ "\""

/-- The items in one value of an option, as JSON; `afterItem` tells whether the last thing read was
an item. The second result is the same for what follows. -/
def itemsFrom (options : Options) : Nat → Bool → List Char → Except String (List String × Bool)
  | 0, afterItem, _ => .ok ([], afterItem)
  | fuel + 1, afterItem, cs =>
      match Text.trim cs with
      | [] => .ok ([], afterItem)
      | ',' :: rest => do
          let (items, last) ← itemsFrom options fuel false rest
          return (if afterItem then items else "\"\"" :: items, last)
      | c :: rest =>
          if c == '[' || c == '\x7b' then
            let close := if c == '[' then ']' else '\x7d'
            match closedLength? close 1 false c 1 rest with
            | some length => do
                let (items, last) ← itemsFrom options fuel true ((c :: rest).drop length)
                return (String.ofList ((c :: rest).take length) :: items, last)
            | none => .error ("Missing end delimiter \"" ++ String.singleton close ++ "\"")
          else
            match plainItem false none (c :: rest) with
            | (_, false) => .error "Mismatched quotes"
            | (item, true) => do
                let (items, last) ← itemsFrom options fuel true ((c :: rest).drop item.length)
                return (plainJson options (String.ofList (Text.trim item)) :: items, last)

/-- What stands between the brackets of a list, or all of it. -/
def unbracketed (cs : List Char) : List Char :=
  match Text.trim cs with
  | '[' :: rest =>
      if rest.getLast? == some ']' then Text.trim rest.dropLast else Text.trim cs
  | cs => cs

/-- The items in all values of an option, as one JSON list. -/
def itemsJson (options : Options) (values : List String) : Except String String := do
  let (items, _) ← values.foldlM
    (fun ((items, afterItem) : List String × Bool) value => do
      let cs := unbracketed value.toList
      let (found, last) ← itemsFrom options (cs.length + 1) afterItem cs
      return (items ++ found ++ (if last then [] else ["\"\""]), last))
    ([], false)
  return "[" ++ ",".intercalate items ++ "]"

/-- The variables that arguments make. -/
def variablesOf (options : Options) (arguments : List String) :
    Except Fault Environment.Variables := do
  let (given, left) ← gather (wordsOf options arguments)
  if !left.isEmpty && !options.skipsUnknown then throw (.unrecognized left)
  let uses := given.map fun (choice, value) => (choice.setting, choice.shape, value)
  (Assoc.groups uses).mapM fun (setting, uses) =>
    match uses.getLast? with
    | some (.items, _) =>
        match itemsJson options (uses.map (·.2)) with
        | .ok json => .ok (setting, json)
        | .error reason => .error (.badItems setting reason)
    | some (_, value) => .ok (setting, value)
    | none => .ok (setting, "")

/-- How the variables that arguments make are read. -/
def variableOptions (options : Options) : Environment.Options :=
  { leader := options.leader
    separator := "."
    caseSensitive := options.caseSensitive
    nullText := some options.nullText }

end Arguments
end SandboxLint
