import SandboxLint.Assoc
import SandboxLint.Number.Shortest

/-!
Values of configuration documents: null, truth values, whole numbers, floating-point
numbers, texts, lists and mappings with text keys.
-/

namespace SandboxLint

/-- A configuration value. -/
inductive Value where
  | null
  | bool (value : Bool)
  | int (value : Int)
  | number (value : Binary64)
  | text (value : String)
  | list (items : List Value)
  | mapping (pairs : List (String × Value))
  deriving Repr, Inhabited

abbrev Mapping := Assoc String Value

namespace Value

def texts (items : List String) : Value :=
  .list (items.map .text)

/-- The whole number that a value equals; a truth value equals zero or one. -/
def toInt? : Value → Option Int
  | .bool value => some (if value then 1 else 0)
  | .int value => some value
  | .number value => value.toInt?
  | _ => none

/-- What values of a kind are called in messages. -/
def kindName : Value → String
  | .null => "NoneType"
  | .bool _ => "bool"
  | .int _ => "int"
  | .number _ => "float"
  | .text _ => "str"
  | .list _ => "list"
  | .mapping _ => "dict"

/-- What a value is made of, one by one: the items of a list, the characters of a text, or the keys
of a mapping. -/
def elements? : Value → Option (List Value)
  | .list items => some items
  | .text value => some (value.toList.map fun c => .text (String.singleton c))
  | .mapping pairs => some (pairs.map fun (key, _) => .text key)
  | _ => none

/-- Whether a document with this value counts as empty. -/
def isVoid : Value → Bool
  | .null => true
  | .bool value => !value
  | .int value => value == 0
  | .number value => value.isZero
  | .text value => value == ""
  | .list items => items.isEmpty
  | .mapping pairs => pairs.isEmpty

mutual

/-- A value laid over another: mappings are merged key by key, anything else replaces. -/
def overlay (base : Value) : Value → Value
  | .mapping pairs =>
      match base with
      | .mapping old => .mapping (mergePairs old pairs)
      | _ => .mapping pairs
  | value => value

/-- Lays pairs over a mapping one by one. -/
def mergePairs (base : Mapping) : List (String × Value) → Mapping
  | [] => base
  | pair :: rest => mergePairs (mergePair base pair) rest

/-- Lays one pair over a mapping. -/
def mergePair (base : Mapping) : String × Value → Mapping
  | (key, value) => base.alter key fun old => overlay (old.getD .null) value

end

end Value

namespace Mapping

/-- A mapping laid over another, key by key at every depth. -/
def merge (base override : Mapping) : Mapping :=
  Value.mergePairs base override

end Mapping
end SandboxLint
