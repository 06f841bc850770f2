import SandboxLint.Rule.Basic

/-!
Rules on plain-data types across files. A plain-data type may only be touched in the
files that declare it, and only when no other file refers to it. The call-graph
rule looks at static methods of helper files that entry points call.
-/

namespace SandboxLint.Rule

/-- The owner of a member of a kind, when it is a plain-data type. -/
def plainDataOwner (corpus : Corpus) (kind : SymbolKind) (symbol? : Option Symbol) :
    Option Symbol :=
  symbol?.filter fun symbol => symbol.kind == kind && corpus.space.isPlainData symbol.owner

/-- The member accesses below a place that read a field of a plain-data type, with the field. -/
def plainFieldAccesses (corpus : Corpus) (model : Model) (root : Node) : List (Node × Symbol) :=
  (root.descendants ["member_access_expression"]).filterMap fun node =>
    (plainDataOwner corpus .field (RuleInput.resolved (model.memberAccess node))).map (node, ·)

/-- The last part of a file's path. -/
def fileName (path : String) : String :=
  String.ofList (Text.afterLast '/' path.toList)

/-- How a plain-data type is touched wrongly from a file. -/
inductive Breach where
  | elsewhere
  | shared
  deriving DecidableEq, Repr

/-- Whether a type is declared elsewhere than in a file, or there but used by others. -/
def breach (corpus : Corpus) (path : String) (owner : TypeDecl) : Option Breach :=
  if !owner.declaringFiles.contains path then some .elsewhere
  else if corpus.isShared owner then some .shared
  else none

def fieldBreachMessage (owner : TypeDecl) : Breach → String
  | .elsewhere =>
      "UdonSharp does not support field access to custom classes defined in other files. " ++
        "Type '" ++ owner.name ++ "' is defined in '" ++ fileName owner.path ++ "'. " ++
        "Move the class definition to this file as a top-level class."
  | .shared =>
      "UdonSharp does not support field access to custom classes that are shared across multiple files. " ++
        "Type '" ++ owner.name ++ "' is defined in this file but also used in other files. " ++
        "Custom serializable classes must be defined and used only within a single file."

def crossFileFieldAccess (input : RuleInput) : Except Failure (List Finding) := do
  let (corpus, model) ← input.model
  return (plainFieldAccesses corpus model input.root).filterMap fun (node, symbol) =>
    (breach corpus input.unit.path symbol.owner).map fun b =>
      (node, fieldBreachMessage symbol.owner b)

def methodBreachMessage (symbol : Symbol) : Breach → String
  | .elsewhere =>
      "UdonSharp does not support method invocations on custom classes defined in other files. " ++
        "Method '" ++ symbol.name ++ "' on type '" ++ symbol.owner.name ++ "' is defined in '" ++
        fileName symbol.owner.path ++ "'. " ++
        "Use field access or refactor to return values directly from the owning class."
  | .shared =>
      "UdonSharp does not support method invocations on custom classes that are shared across multiple files. " ++
        "Method '" ++ symbol.name ++ "' on type '" ++ symbol.owner.name ++
        "' is defined in this file but the type is also used in " ++
        "other files. Custom serializable classes must be defined and used only within a single file."

def crossFileMethodInvocation (input : RuleInput) : Except Failure (List Finding) := do
  let (corpus, model) ← input.model
  return (input.find ["invocation_expression"]).filterMap fun node => do
    let symbol ← plainDataOwner corpus .method (RuleInput.resolved (model.invocation node))
    if symbol.isStatic then none
    else
      let b ← breach corpus input.unit.path symbol.owner
      some (node, methodBreachMessage symbol b)

def serializableClassUsage (input : RuleInput) : Except Failure (List Finding) := do
  let (corpus, model) ← input.model
  let base := input.analysis.baseType
  return (plainFieldAccesses corpus model input.root).map fun (node, symbol) =>
    (node,
      "UdonSharp does not support [System.Serializable] classes. " ++
        "Type '" ++ symbol.owner.name ++ "' must inherit from " ++ base ++ ". " ++
        "Consider converting '" ++ symbol.owner.name ++ "' to a " ++ base ++ " class.")

def staticAccessMessage (base method : String) (symbol : Symbol) : String :=
  "UdonSharp does not support field access to custom classes in static methods called from UdonSharp. " ++
    "Field '" ++ symbol.name ++ "' of type '" ++ symbol.owner.name ++
    "' is accessed in static method '" ++ method ++ "'. " ++
    "Move the logic to a " ++ base ++ " class where field access is supported."

/-- Plain-data fields read inside static methods of a helper file that an entry point calls. -/
def staticMethodFieldAccess (input : RuleInput) : Except Failure (List Finding) :=
  match input.graph with
  | none => .ok []
  | some graph =>
      if (graph.callersOf input.unit.path).isEmpty then .ok []
      else do
        let (corpus, model) ← input.model
        let methods := (input.find ["method_declaration"]).filter (·.hasModifier "static")
        return methods.flatMap fun method =>
          (plainFieldAccesses corpus model method).map fun (node, symbol) =>
            (node, staticAccessMessage input.analysis.baseType method.declaredName symbol)

end SandboxLint.Rule
