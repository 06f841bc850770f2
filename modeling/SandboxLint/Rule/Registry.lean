import SandboxLint.Rule.Basic

/-!
The registry of rules: each code once. Some codes are never given: the one of file
failures, those held back, and those given up. Every view of a registry lists its
rules by increasing code.
-/

namespace SandboxLint

/-- A code with at least three characters, zeros filled in behind the sign. -/
def paddedCode (code : Int) : String :=
  let digits := Nat.toDigits 10 code.natAbs
  if code < 0 then String.ofList ('-' :: (List.replicate (2 - digits.length) '0' ++ digits))
  else String.ofList (List.replicate (3 - digits.length) '0' ++ digits)

namespace LintCode

/-- The code of files that could not be processed. -/
def fileFailure : Int := 0

/-- Codes held back. -/
def reserved : List Int := [4, 10]

/-- Codes given up. -/
def retired : List Int := [23, 24]

/-- The published codes and their names. -/
def names : List (Int × String) :=
  [(0, "FILE_FAILURE"), (1, "TRY_CATCH"), (2, "THROW"), (3, "LOCAL_FUNCTION"),
    (5, "CONSTRUCTOR"), (6, "GENERIC_METHOD"), (7, "OBJECT_INITIALIZER"),
    (8, "COLLECTION_INITIALIZER"), (9, "MULTIDIMENSIONAL_ARRAY"), (11, "STATIC_FIELD"),
    (12, "NESTED_TYPE"), (18, "GENERIC_CLASS"), (26, "GOTO_STATEMENT"), (27, "NULL_CONDITIONAL"),
    (28, "NULL_COALESCING"), (29, "ASYNC_AWAIT"), (13, "NETWORK_CALLABLE"),
    (14, "TEXTMESHPRO_API"), (15, "PROPERTY"), (16, "METHOD_OVERLOAD"), (17, "INTERFACE"),
    (19, "UNEXPOSED_API"), (30, "SEND_CUSTOM_EVENT_TARGET"), (20, "CROSS_FILE_FIELD_ACCESS"),
    (21, "STATIC_METHOD_FIELD_ACCESS"), (22, "CROSS_FILE_METHOD_INVOCATION"),
    (25, "SERIALIZABLE_CLASS_USAGE")]

def name? (code : Int) : Option String :=
  List.lookup code names

end LintCode

/-- Rules in the order in which they were registered. -/
structure Registry where
  rules : List Rule := []

inductive RegistryError where
  | taken (code : Int) (holder : String)
  | notAssignable (code : Int)
  deriving DecidableEq, Repr

def RegistryError.message : RegistryError → String
  | .taken code holder =>
      "Rule code " ++ paddedCode code ++ " already registered by '" ++ holder ++ "'"
  | .notAssignable code => "Rule code " ++ paddedCode code ++ " is not assignable"

namespace Registry

variable (registry : Registry)

def get? (code : Int) : Option Rule :=
  registry.rules.find? (·.code == code)

def contains (code : Int) : Bool :=
  registry.rules.any (·.code == code)

def size : Nat :=
  registry.rules.length

/-- Registers a rule under a code that is free and may be given. -/
def register (rule : Rule) : Except RegistryError Registry :=
  match registry.get? rule.code with
  | some holder => .error (.taken rule.code holder.name)
  | none =>
      if LintCode.reserved.contains rule.code || LintCode.retired.contains rule.code ||
          rule.code == LintCode.fileFailure then
        .error (.notAssignable rule.code)
      else .ok { rules := registry.rules ++ [rule] }

def registerAll (rules : List Rule) : Except RegistryError Registry :=
  rules.foldlM (fun registry rule => registry.register rule) registry

def all : List Rule :=
  registry.rules.mergeSort fun a b => decide (a.code ≤ b.code)

/-- The rules of a family whose codes are not disabled, by code. -/
def ofFamily (family : RuleFamily) (disabled : List Int) : List Rule :=
  registry.all.filter fun rule => rule.family == family && !disabled.contains rule.code

def ofCategory (category : RuleCategory) : List Rule :=
  registry.all.filter (·.category == category)

end Registry
end SandboxLint
