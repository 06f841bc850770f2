import SandboxLint.Rule.Api
import SandboxLint.Rule.Language
import SandboxLint.Rule.Locality
import SandboxLint.Rule.Member
import SandboxLint.Rule.Registry

/-!
The catalog: the twenty-six rules that a run evaluates unless it is given others.
-/

namespace SandboxLint

namespace Rule

/-- An error-level rule that the tree alone decides. -/
def structuralRule (code : Int) (category : RuleCategory) (name summary : String)
    (findings : RuleInput → List Finding) : Rule :=
  { code, name, family := .structural, severity := .error, category, summary
    evaluate := fun input => .ok (findings input) }

def language (code : Int) (name summary : String) (findings : RuleInput → List Finding) : Rule :=
  structuralRule code .language name summary findings

def api (code : Int) (name summary : String) (findings : RuleInput → List Finding) : Rule :=
  structuralRule code .api name summary findings

/-- An error-level rule that needs the corpus. -/
def crossFile (code : Int) (family : RuleFamily) (name summary : String)
    (evaluate : RuleInput → Except Failure (List Finding)) : Rule :=
  { code, name, family, severity := .error, category := .semantic, summary, evaluate }

end Rule

namespace Registry

def catalogRules : List Rule :=
  [ .language 1 "try-catch" "try/catch/finally statements" Rule.tryCatch,
    .language 2 "throw" "throw statements and expressions" Rule.throwing,
    .language 3 "local-function" "Local functions" Rule.localFunctions,
    .language 5 "constructor" "Constructors in entry-point classes" Rule.constructors,
    .language 6 "generic-method" "Generic methods in entry-point classes" Rule.genericMethods,
    .language 7 "object-initializer" "Object initializers" Rule.objectInitializers,
    .language 8 "collection-initializer" "Collection initializers on non-array types"
      Rule.collectionInitializers,
    .language 9 "multidimensional-array" "Rectangular arrays such as int[,]"
      Rule.multidimensionalArrays,
    .language 11 "static-field" "Non-const static fields in entry-point classes" Rule.staticFields,
    .language 12 "nested-type" "Types nested in entry-point classes" Rule.nestedTypes,
    .language 18 "generic-class" "Generic entry-point classes" Rule.genericClasses,
    .language 26 "goto" "goto statements and labels" Rule.gotoStatements,
    .language 27 "null-conditional" "?. and ?[] operators" Rule.nullConditional,
    .language 28 "null-coalescing" "?? and ??= operators" Rule.nullCoalescing,
    .language 29 "async-await" "async routines and await expressions" Rule.asyncAwait,
    .api 13 "network-callable" "Signature constraints of network-callable methods"
      Rule.networkCallable,
    { Rule.api 14 "textmeshpro-api" "TextMeshPro members that may not be exposed"
        Rule.textComponentApi with severity := .warning },
    .api 15 "property" "Properties without a field-change callback" Rule.properties,
    .api 16 "method-overload" "Overloaded methods in entry-point classes" Rule.methodOverloads,
    .api 17 "interface" "Interface implementation on entry-point classes" Rule.interfaces,
    .api 19 "unexposed-api" "Reflection, threading, file, network and application APIs"
      Rule.unexposedApis,
    .api 30 "send-custom-event-target" "Event dispatch naming a method the class does not declare"
      Rule.eventTargets,
    .crossFile 20 .semantic "cross-file-field-access"
      "Field access on plain-data types declared or shared elsewhere" Rule.crossFileFieldAccess,
    .crossFile 21 .callGraph "static-method-field-access"
      "Plain-data field access in static helpers called from entry points"
      Rule.staticMethodFieldAccess,
    .crossFile 22 .semantic "cross-file-method-invocation"
      "Instance calls on plain-data types declared or shared elsewhere"
      Rule.crossFileMethodInvocation,
    .crossFile 25 .semantic "serializable-class-usage" "Any field access on a plain-data type"
      Rule.serializableClassUsage ]

def catalog : Registry :=
  { rules := catalogRules }

end Registry
end SandboxLint
