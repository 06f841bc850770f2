import SandboxLint.Text.Utf8
import SandboxLint.Value.Display

/-!
Values as JSON. Written documents are indented by two spaces and hold ASCII only,
characters beyond it being written as UTF-16 units. Reading takes a whole text. The
infinities and what is no number have words of their own.
-/

namespace SandboxLint
namespace Text

/-- A UTF-16 unit as an escape. -/
def unitEscape (unit : Nat) : String :=
  "\\u" ++ hex 4 unit

/-- A character inside a JSON text. -/
def jsonChar (c : Char) : String :=
  let n := c.toNat
  if c == '"' then "\\\""
  else if c == '\\' then "\\\\"
  else if c == '\n' then "\\n"
  else if c == '\r' then "\\r"
  else if c == '\t' then "\\t"
  else if n == 8 then "\\b"
  else if n == 12 then "\\f"
  else if 0x20 ≤ n && n < 0x7F then String.singleton c
  else if n < 0x10000 then unitEscape n
  else unitEscape (0xD800 + (n - 0x10000) / 0x400) ++ unitEscape (0xDC00 + (n - 0x10000) % 0x400)

def jsonText (text : String) : String :=
  "\"" ++ String.join (text.toList.map jsonChar) ++ "\""

end Text

namespace Value

/-- How a document is laid out: all on one line, or indented at a level. -/
inductive Layout where
  | line
  | indented (level : Nat)
  deriving DecidableEq, Repr

namespace Layout

/-- The layout of what stands inside. -/
def inner : Layout → Layout
  | .line => .line
  | .indented level => .indented (level + 1)

/-- What stands before an item and behind the last one: a line break with two spaces for each
level. -/
def newline : Layout → String
  | .line => ""
  | .indented level => "\n" ++ String.ofList (List.replicate (2 * level) ' ')

/-- What stands between two items. -/
def separator : Layout → String
  | .line => ", "
  | layout => "," ++ layout.newline

end Layout

/-- Items between brackets; empty brackets take one line. -/
def bracketed (start stop : String) (layout : Layout) (items : List String) : String :=
  if items.isEmpty then start ++ stop
  else
    start ++ layout.inner.newline ++ layout.inner.separator.intercalate items ++
      layout.newline ++ stop

mutual

/-- A value as a JSON document in a layout. -/
def jsonIn (layout : Layout) : Value → String
  | .null => "null"
  | .bool value => if value then "true" else "false"
  | .int value => toString value
  | .number value => value.json
  | .text value => Text.jsonText value
  | .list items => bracketed "[" "]" layout (jsonItems layout.inner items)
  | .mapping pairs => bracketed "\x7b" "\x7d" layout (jsonPairs layout.inner pairs)

def jsonItems (layout : Layout) : List Value → List String
  | [] => []
  | item :: items => jsonIn layout item :: jsonItems layout items

def jsonPairs (layout : Layout) : List (String × Value) → List String
  | [] => []
  | pair :: pairs => jsonPair layout pair :: jsonPairs layout pairs

def jsonPair (layout : Layout) : String × Value → String
  | (key, value) => Text.jsonText key ++ ": " ++ jsonIn layout value

end

/-- A value as an indented JSON document. -/
def toJson (value : Value) : String :=
  value.jsonIn (.indented 0)

/-- A value as JSON on one line. -/
def toJsonLine (value : Value) : String :=
  value.jsonIn .line

end Value

/-! Reading. Every reader takes the characters that are left and gives what it read with the
characters behind it; the fuel is the number of characters, which nesting cannot exceed. -/

namespace JsonReader

def isSpace (c : Char) : Bool :=
  c == ' ' || c == '\t' || c == '\n' || c == '\r'

def skipSpace (cs : List Char) : List Char :=
  cs.dropWhile isSpace

def hexDigit? (c : Char) : Option Nat :=
  if '0' ≤ c && c ≤ '9' then some (c.toNat - '0'.toNat)
  else if 'a' ≤ c && c ≤ 'f' then some (c.toNat - 'a'.toNat + 10)
  else if 'A' ≤ c && c ≤ 'F' then some (c.toNat - 'A'.toNat + 10)
  else none

/-- Four hexadecimal digits. -/
def unit? : List Char → Option (Nat × List Char)
  | a :: b :: c :: d :: rest => do
      let a ← hexDigit? a
      let b ← hexDigit? b
      let c ← hexDigit? c
      let d ← hexDigit? d
      return (((a * 16 + b) * 16 + c) * 16 + d, rest)
  | _ => none

/-- The character of an escape with a letter of its own. -/
def simpleEscape? (c : Char) : Option Char :=
  match c with
  | '"' => some '"'
  | '\\' => some '\\'
  | '/' => some '/'
  | 'b' => some (Char.ofNat 8)
  | 'f' => some (Char.ofNat 12)
  | 'n' => some '\n'
  | 'r' => some '\r'
  | 't' => some '\t'
  | _ => none

/-- The character of a UTF-16 escape after its letter; two units may make one character, and half
of such a pair is replaced. -/
def unitChar? (cs : List Char) : Option (Char × List Char) := do
  let (high, rest) ← unit? cs
  if 0xD800 ≤ high && high < 0xDC00 then
    match rest with
    | '\\' :: 'u' :: more =>
        let (low, after) ← unit? more
        if 0xDC00 ≤ low && low < 0xE000 then
          return (Char.ofNat (0x10000 + (high - 0xD800) * 0x400 + (low - 0xDC00)), after)
        else return (Text.replacement, rest)
    | _ => return (Text.replacement, rest)
  else return (Char.ofNat high, rest)

/-- The characters of a text up to its closing quote. -/
def text? : Nat → List Char → Option (List Char × List Char)
  | 0, _ => none
  | _ + 1, [] => none
  | _ + 1, '"' :: rest => some ([], rest)
  | fuel + 1, '\\' :: 'u' :: rest => do
      let (c, rest) ← unitChar? rest
      let (cs, rest) ← text? fuel rest
      return (c :: cs, rest)
  | fuel + 1, '\\' :: e :: rest => do
      let c ← simpleEscape? e
      let (cs, rest) ← text? fuel rest
      return (c :: cs, rest)
  | fuel + 1, c :: rest =>
      if c.toNat < 0x20 then none
      else do
        let (cs, rest) ← text? fuel rest
        return (c :: cs, rest)

def isDigit (c : Char) : Bool :=
  '0' ≤ c && c ≤ '9'

def ofDigits (digits : List Char) : Nat :=
  digits.foldl (fun n c => n * 10 + (c.toNat - '0'.toNat)) 0

/-- The exponent behind a number, with whether there is one. -/
def exponent (cs : List Char) : Option Int × List Char :=
  match cs with
  | e :: rest =>
      if e == 'e' || e == 'E' then
        let (negative, digits) :=
          match rest with
          | '-' :: more => (true, more)
          | '+' :: more => (false, more)
          | _ => (false, rest)
        let taken := digits.takeWhile isDigit
        if taken.isEmpty then (none, cs)
        else
          let size : Int := ofDigits taken
          (some (if negative then -size else size), digits.dropWhile isDigit)
      else (none, cs)
  | [] => (none, [])

/-- The digits behind a point, with whether there are any. -/
def fraction (cs : List Char) : Option (List Char) × List Char :=
  match cs with
  | '.' :: rest =>
      let taken := rest.takeWhile isDigit
      if taken.isEmpty then (none, cs) else (some taken, rest.dropWhile isDigit)
  | _ => (none, cs)

/-- How many digits a whole number may have. -/
def digitLimit : Nat := 4300

/-- A number: whole without point and exponent, else the floating-point number nearest to it. -/
def number? (cs : List Char) : Option (Value × List Char) :=
  let (negative, cs) :=
    match cs with
    | '-' :: rest => (true, rest)
    | _ => (false, cs)
  let whole :=
    match cs with
    | '0' :: _ => ['0']
    | _ => cs.takeWhile isDigit
  if whole.isEmpty then none
  else
    let (part, rest) := fraction (cs.drop whole.length)
    let (power, rest) := exponent rest
    let digits := whole ++ part.getD []
    if part.isSome || power.isSome then
      let power := power.getD 0 - (part.getD []).length
      some (.number (.ofDecimal negative (ofDigits digits) power), rest)
    else if digitLimit < digits.length then none
    else
      let size : Int := ofDigits digits
      some (.int (if negative then -size else size), rest)

/-- The characters behind a keyword at the beginning. -/
def keyword? (word : String) (cs : List Char) : Option (List Char) :=
  if word.toList.isPrefixOf cs then some (cs.drop word.length) else none

/-- The words that stand for values. -/
def wordValues : List (String × Value) :=
  [("null", .null), ("true", .bool true), ("false", .bool false), ("NaN", .number .nan),
    ("Infinity", .number (.infinite false)), ("-Infinity", .number (.infinite true))]

def word? (cs : List Char) : Option (Value × List Char) :=
  wordValues.findSome? fun (word, value) => (keyword? word cs).map (value, ·)

mutual

def value? : Nat → List Char → Option (Value × List Char)
  | 0, _ => none
  | fuel + 1, cs =>
      match skipSpace cs with
      | [] => none
      | '"' :: rest => do
          let (text, rest) ← text? (rest.length + 1) rest
          return (.text (String.ofList text), rest)
      | '[' :: rest =>
          match skipSpace rest with
          | ']' :: rest => some (.list [], rest)
          | rest => do
              let (items, rest) ← items? fuel rest
              return (.list items, rest)
      | '\x7b' :: rest =>
          match skipSpace rest with
          | '\x7d' :: rest => some (.mapping [], rest)
          | rest => do
              let (pairs, rest) ← pairs? fuel rest
              return (.mapping (Assoc.ofPairs pairs), rest)
      | rest => (word? rest).orElse fun _ => number? rest

def items? : Nat → List Char → Option (List Value × List Char)
  | 0, _ => none
  | fuel + 1, cs => do
      let (item, rest) ← value? fuel cs
      match skipSpace rest with
      | ',' :: rest =>
          let (items, rest) ← items? fuel rest
          return (item :: items, rest)
      | ']' :: rest => return ([item], rest)
      | _ => none

def pairs? : Nat → List Char → Option (List (String × Value) × List Char)
  | 0, _ => none
  | fuel + 1, cs =>
      match skipSpace cs with
      | '"' :: rest => do
          let (key, rest) ← text? (rest.length + 1) rest
          match skipSpace rest with
          | ':' :: rest =>
              let (value, rest) ← value? fuel rest
              let pair := (String.ofList key, value)
              match skipSpace rest with
              | ',' :: rest =>
                  let (pairs, rest) ← pairs? fuel rest
                  return (pair :: pairs, rest)
              | '\x7d' :: rest => return ([pair], rest)
              | _ => none
          | _ => none
      | _ => none

end

end JsonReader

/-- The value of a JSON text, nothing when it is malformed. -/
def Value.ofJson? (text : String) : Option Value :=
  let cs := text.toList
  match JsonReader.value? (2 * cs.length + 2) cs with
  | some (value, rest) => if (JsonReader.skipSpace rest).isEmpty then some value else none
  | none => none

end SandboxLint
