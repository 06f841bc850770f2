import SandboxLint.Value.Basic
import SandboxLint.Text.Printable

/-!
Values as shown in messages. A text on its own is shown as it is; inside lists and
mappings it is quoted, with single quotes unless it holds one and no double quote,
and what cannot be printed is escaped.
-/

namespace SandboxLint
namespace Text

/-- The lower-case hexadecimal digits of a number, at least `width` of them. -/
def hex (width n : Nat) : String :=
  let digits := Nat.toDigits 16 n
  String.ofList (List.replicate (width - digits.length) '0' ++ digits)

/-- A character inside quotes. -/
def quotedChar (quote c : Char) : String :=
  if c == '\\' then "\\\\"
  else if c == quote then String.ofList ['\\', c]
  else if c == '\n' then "\\n"
  else if c == '\r' then "\\r"
  else if c == '\t' then "\\t"
  else if isPrintable c then String.singleton c
  else if c.toNat < 0x100 then "\\x" ++ hex 2 c.toNat
  else if c.toNat < 0x10000 then "\\u" ++ hex 4 c.toNat
  else "\\U" ++ hex 8 c.toNat

def quoted (text : String) : String :=
  let cs := text.toList
  let quote := if cs.contains '\'' && !cs.contains '"' then '"' else '\''
  String.singleton quote ++ String.join (cs.map (quotedChar quote)) ++ String.singleton quote

end Text

namespace Value

mutual

/-- A value as shown inside another. -/
def shown : Value → String
  | .null => "None"
  | .bool value => if value then "True" else "False"
  | .int value => toString value
  | .number value => value.display
  | .text value => Text.quoted value
  | .list items => "[" ++ ", ".intercalate (shownAll items) ++ "]"
  | .mapping pairs => "\x7b" ++ ", ".intercalate (shownPairs pairs) ++ "\x7d"

def shownAll : List Value → List String
  | [] => []
  | item :: items => shown item :: shownAll items

def shownPairs : List (String × Value) → List String
  | [] => []
  | pair :: pairs => shownPair pair :: shownPairs pairs

def shownPair : String × Value → String
  | (key, value) => Text.quoted key ++ ": " ++ shown value

end

/-- A value as shown on its own. -/
def display : Value → String
  | .text value => value
  | value => value.shown

end Value
end SandboxLint
