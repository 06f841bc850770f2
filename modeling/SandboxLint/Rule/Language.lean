import SandboxLint.Rule.Basic

/-!
Rules on language features, decided from the tree alone. They look at every place
of an entry file.
-/

namespace SandboxLint.Rule

/-- Every place of some kinds, with one message. -/
def flag (kinds : List String) (message : String) (input : RuleInput) : List Finding :=
  (input.find kinds).map (·, message)

def tryCatch : RuleInput → List Finding :=
  flag ["try_statement"] "Try/Catch/Finally statements are not supported in UdonSharp"

def throwing : RuleInput → List Finding :=
  flag ["throw_statement", "throw_expression"] "Throw statements are not supported in UdonSharp"

def localFunctions : RuleInput → List Finding :=
  flag ["local_function_statement"] "Local functions are not supported in UdonSharp"

/-- What the braces behind a creation hold. -/
inductive InitializerKind where
  | object
  | collection
  deriving DecidableEq, Repr

/-- The kind of initialiser of a creation. -/
def initializerKind (creation : Node) : Option InitializerKind :=
  ((creation.child? "initializer").or (creation.childOfKind? "initializer_expression")).map
    fun braces =>
      match braces.namedChildren.filter (·.kind != "comment") with
      -- empty braces set no field
      | [] => .object
      | first :: _ => if first.kind == "assignment_expression" then .object else .collection

/-- The creations with an initialiser of a kind. -/
def initialized (kind : InitializerKind) (message : String) (input : RuleInput) : List Finding :=
  ((input.find ["object_creation_expression", "implicit_object_creation_expression"]).filter
    fun node => initializerKind node == some kind).map (·, message)

def objectInitializers : RuleInput → List Finding :=
  initialized .object "Object initializers are not supported in UdonSharp"

def collectionInitializers : RuleInput → List Finding :=
  initialized .collection
    "Collection initializers are not supported in UdonSharp (array initializers are allowed)"

/-- Whether an array type has a comma in its first pair of brackets. -/
def isRectangular (array : Node) : Bool :=
  ((array.child? "rank").or (array.childOfKind? "array_rank_specifier")).any fun rank =>
    rank.children.any (·.kind == ",")

def multidimensionalArrays (input : RuleInput) : List Finding :=
  ((input.find ["array_type"]).filter isRectangular).map
    (·, "Multidimensional arrays are not supported in UdonSharp. Use jagged arrays instead")

def gotoStatements (input : RuleInput) : List Finding :=
  flag ["goto_statement"] "Goto statements are not supported in UdonSharp" input ++
    flag ["labeled_statement"] "Labeled statements are not supported in UdonSharp" input

def nullConditional : RuleInput → List Finding :=
  flag ["conditional_access_expression"]
    "Null-conditional operators (?. and ?[]) are not supported in UdonSharp"

/-- The operator of an expression: from its field, else its first child that is a token. -/
def operatorText (node : Node) : String :=
  match node.child? "operator" with
  | some op => op.text
  | none =>
      Node.textOf (node.children.find? fun c => !c.named || c.kind == "assignment_operator")

def nullCoalescing (input : RuleInput) : List Finding :=
  ((input.find ["binary_expression", "assignment_expression"]).filter fun node =>
    operatorText node == "??" || operatorText node == "??=").map
      (·, "Null-coalescing operators (?? and ??=) are not supported in UdonSharp")

/-- Whether a function is marked `async`, as a modifier or a bare keyword. -/
def isAsync (node : Node) : Bool :=
  node.hasModifier "async" || node.children.any fun c => !c.named && c.text == "async"

def asyncAwait (input : RuleInput) : List Finding :=
  let functions := input.find
    ["method_declaration", "local_function_statement", "lambda_expression",
      "anonymous_method_expression"]
  (functions.filter isAsync).map (·, "Async methods are not supported in UdonSharp") ++
    flag ["await_expression"] "Await expressions are not supported in UdonSharp" input

end SandboxLint.Rule
