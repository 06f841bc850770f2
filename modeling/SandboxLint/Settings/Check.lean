import SandboxLint.Number.Written
import SandboxLint.Value.Display

/-!
Checking of configuration values. A check of a whole document does not stop at the
first problem: it collects the issues of all its parts, in the order of the parts,
each with its location and the value that was refused.
-/

namespace SandboxLint

inductive Problem where
  | notText
  | notInteger
  | fractional
  | unreadableInteger
  | oversizedInteger
  | notFinite
  | notList
  | notSection (name : String)
  | notOneOf (labels : List String)
  | rejected (reason : String)
  | unknownKey
  deriving DecidableEq, Repr

namespace Problem

/-- Labels in quotes, the last joined by a word. -/
def alternatives (labels : List String) : String :=
  let shown := labels.map fun label => "'" ++ label ++ "'"
  match shown.reverse with
  | [] => ""
  | [one] => one
  | last :: others => ", ".intercalate others.reverse ++ " or " ++ last

def tag : Problem → String
  | .notText => "string_type"
  | .notInteger => "int_type"
  | .fractional => "int_from_float"
  | .unreadableInteger => "int_parsing"
  | .oversizedInteger => "int_parsing_size"
  | .notFinite => "finite_number"
  | .notList => "list_type"
  | .notSection _ => "model_type"
  | .notOneOf _ => "literal_error"
  | .rejected _ => "value_error"
  | .unknownKey => "extra_forbidden"

def message : Problem → String
  | .notText => "Input should be a valid string"
  | .notInteger => "Input should be a valid integer"
  | .fractional => "Input should be a valid integer, got a number with a fractional part"
  | .unreadableInteger => "Input should be a valid integer, unable to parse string as an integer"
  | .oversizedInteger => "Unable to parse input string as an integer, exceeded maximum size"
  | .notFinite => "Input should be a finite number"
  | .notList => "Input should be a valid list"
  | .notSection name => "Input should be a valid dictionary or instance of " ++ name
  | .notOneOf labels => "Input should be " ++ alternatives labels
  | .rejected reason => "Value error, " ++ reason
  | .unknownKey => "Extra inputs are not permitted"

end Problem

/-- A problem, where it is, and the value that was refused. -/
structure Issue where
  location : List String
  problem : Problem
  input : Value
  deriving Repr

namespace Issue

/-- The location as one text. -/
def field (issue : Issue) : String :=
  ".".intercalate issue.location

end Issue

/-- The outcome of a check: a value, the issues found, or no outcome at all because the home
directory that a path refers to is unknown. -/
inductive Checked (α : Type) where
  | valid (value : α)
  | invalid (issues : List Issue)
  | noHome
  deriving Repr

namespace Checked

variable {α β : Type}

def map (f : α → β) : Checked α → Checked β
  | .valid value => .valid (f value)
  | .invalid issues => .invalid issues
  | .noHome => .noHome

/-- Both outcomes together: the issues of the first come before those of the second. -/
def both : Checked (α → β) → Checked α → Checked β
  | .noHome, _ => .noHome
  | _, .noHome => .noHome
  | .valid f, .valid value => .valid (f value)
  | .valid _, .invalid issues => .invalid issues
  | .invalid issues, .valid _ => .invalid issues
  | .invalid issues, .invalid more => .invalid (issues ++ more)

instance : Applicative Checked where
  pure := .valid
  map := map
  seq f x := both f (x ())

/-- A check with its issues located inside a part. -/
def inside (part : String) : Checked α → Checked α
  | .invalid issues => .invalid (issues.map fun i => { i with location := part :: i.location })
  | other => other

def refuse (problem : Problem) (input : Value) : Checked α :=
  .invalid [{ location := [], problem, input }]

/-- The outcomes of a list together. -/
def all : List (Checked α) → Checked (List α)
  | [] => .valid []
  | first :: rest => both (map List.cons first) (all rest)

end Checked

abbrev Check (α : Type) := Value → Checked α

namespace Check

variable {α : Type}

def text : Check String
  | .text value => .valid value
  | value => .refuse .notText value

/-- The bound that integers from floating-point numbers stay below, with either sign. -/
def floatBound : Int := 9223372036854775808

/-- The integer that a floating-point number is. -/
def ofNumber (number : Binary64) : Checked Int :=
  match number with
  | .finite .. =>
      match number.toInt? with
      | some n =>
          if -floatBound < n && n < floatBound then .valid n
          else .refuse .oversizedInteger (.number number)
      | none => .refuse .fractional (.number number)
  | _ => .refuse .notFinite (.number number)

/-- An integer: a number without fraction, a truth value as zero or one, or a written integer. -/
def integer : Check Int
  | .int value => .valid value
  | .bool value => .valid (if value then 1 else 0)
  | .number value => ofNumber value
  | .text value =>
      match WrittenInteger.parse value with
      | .ok n => .valid n
      | .error .malformed => .refuse .unreadableInteger (.text value)
      | .error .tooLong => .refuse .oversizedInteger (.text value)
  | value => .refuse .notInteger value

/-- An integer that is not negative. -/
def natural : Check Nat := fun value =>
  match integer value with
  | .valid n =>
      if n < 0 then .refuse (.rejected ("Must be >= 0, got " ++ toString n)) value
      else .valid n.toNat
  | .invalid issues => .invalid issues
  | .noHome => .noHome

/-- A list whose items pass a check; issues are located by the items' numbers. -/
def listOf (item : Check α) : Check (List α)
  | .list items => .all (items.zipIdx.map fun (value, i) => (item value).inside (toString i))
  | value => .refuse .notList value

/-- Null, or what another check takes. -/
def nullable (check : Check α) : Check (Option α)
  | .null => .valid none
  | value => (check value).map some

/-- One of several labels. -/
def oneOf (labels : List String) (ofLabel? : String → Option α) : Check α := fun value =>
  match value with
  | .text label =>
      match ofLabel? label with
      | some a => .valid a
      | none => .refuse (.notOneOf labels) value
  | _ => .refuse (.notOneOf labels) value

/-- The part of a mapping under a key: checked when present, else the default. -/
def part (pairs : Mapping) (key : String) (default : α) (check : Check α) : Checked α :=
  match pairs.get? key with
  | some value => (check value).inside key
  | none => .valid default

/-- A mapping whose parts are checked together. -/
def sectionOf (name : String) (parts : Mapping → Checked α) : Check α
  | .mapping pairs => parts pairs
  | value => .refuse (.notSection name) value

end Check
end SandboxLint
