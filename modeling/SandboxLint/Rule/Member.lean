import SandboxLint.Rule.Basic
import SandboxLint.Text.Word

/-!
Rules on entry classes: on their direct members, their base lists and their type
parameters.
-/

namespace SandboxLint.Rule

def constructors (input : RuleInput) : List Finding :=
  (input.entryMembers ["constructor_declaration"]).map
    (·, "Constructors are not supported in " ++ input.analysis.baseType)

def genericMethods (input : RuleInput) : List Finding :=
  ((input.entryMembers ["method_declaration"]).filter (·.typeParameterList.isSome)).map
    (·, "Generic methods are not supported in " ++ input.analysis.baseType)

def staticFields (input : RuleInput) : List Finding :=
  ((input.entryMembers ["field_declaration"]).filter fun m =>
    m.hasModifier "static" && !m.hasModifier "const").map
      (·, "Static fields are not supported in " ++ input.analysis.baseType ++ " (const is allowed)")

def nestedTypes (input : RuleInput) : List Finding :=
  (input.entryMembers Kind.memberHolders).map
    (·, "Nested types are not supported in " ++ input.analysis.baseType)

/-- The argument texts of the attributes of a name on a class's fields. -/
def callbackTargets (type : Node) (attributeName : String) : List String :=
  let target := TypeName.ofAttribute attributeName
  (type.typeMembers.filter (·.kind == "field_declaration")).flatMap fun member =>
    (member.attributes.filter (·.name == target)).map (·.arguments)

/-- Properties that no field names in its change callback. -/
def properties (input : RuleInput) : List Finding :=
  let callback := input.analysis.fieldChangeCallbackAttribute
  input.entryTypes.flatMap fun type =>
    let targets := callbackTargets type callback
    (type.typeMembers.filter fun m =>
      m.kind == "property_declaration" && !targets.any (Text.occursBounded m.declaredName)).map
        (·, "Properties are not supported in UdonSharp (except when used with [" ++ callback ++
          "])")

/-- The methods whose name an earlier one has, names seen so far given. -/
def repeatedMethods (seen : List String) : List Node → List Finding
  | [] => []
  | method :: rest =>
      let name := method.declaredName
      let later := repeatedMethods (name :: seen) rest
      if seen.contains name then
        (method, "Method overloads are not supported in UdonSharp: '" ++ name ++ "'") :: later
      else later

def methodOverloads (input : RuleInput) : List Finding :=
  input.entryTypes.flatMap fun type =>
    repeatedMethods [] (type.typeMembers.filter (·.kind == "method_declaration"))

/-- Whether a base is known to inherit the sandboxed base. -/
def baseInherits (input : RuleInput) (base : Node) : Bool :=
  input.corpus.any fun corpus =>
    (RuleInput.resolved ((input.modelIn corpus).typeReference base)).any corpus.space.inheritsBase

/-- Bases that are neither the sandboxed base nor known to inherit it. -/
def interfaces (input : RuleInput) : List Finding :=
  let bases := input.entryTypes.flatMap (·.baseTypes)
  (bases.filter fun base =>
    TypeName.simple base.text != input.analysis.baseType && !baseInherits input base).map
      (·, "Interface implementation is not supported in UdonSharp")

def genericClasses (input : RuleInput) : List Finding :=
  (input.entryTypes.filterMap (·.typeParameterList)).map
    (·, "Generic classes are not supported in UdonSharp")

end SandboxLint.Rule
