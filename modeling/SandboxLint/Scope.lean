import SandboxLint.Assoc
import SandboxLint.Syntax.Parameter
import SandboxLint.Syntax.Variable

/-!
Lexical bindings of function-like members. The bindings of a member are flat:
the language refuses a simple name with two meanings in overlapping scopes, so
the first binding of each name stands for all of them.
-/

namespace SandboxLint

inductive BindingKind where
  | parameter
  | localVariable
  | foreachVariable
  | catchVariable
  | patternVariable
  | localFunction
  deriving DecidableEq, Repr

def BindingKind.label : BindingKind → String
  | .parameter => "parameter"
  | .localVariable => "local"
  | .foreachVariable => "foreach"
  | .catchVariable => "catch"
  | .patternVariable => "pattern"
  | .localFunction => "local_function"

/-- A local name: its type as written (`var` or empty when inferred), its initialiser, or the
collection a loop draws it from. -/
structure Binding where
  name : String
  kind : BindingKind
  typeText : String
  initializer : Option Node := none
  loopSource : Option Node := none

/-- What tells members of one file apart: byte range and kind. -/
structure MemberKey where
  start : Nat
  stop : Nat
  kind : String
  deriving DecidableEq, Repr

/-- The bindings of one member, by name. -/
abbrev Bindings := Assoc String Binding

abbrev Scopes := Assoc MemberKey Bindings

namespace Scope

def key (node : Node) : MemberKey :=
  ⟨node.start, node.stop, node.kind⟩

/-- The function-like member that a place is or lies in. -/
def enclosingMember (node : Node) : Option Node :=
  if Kind.functionMembers.contains node.kind then some node
  else node.enclosing Kind.functionMembers

/-- The places that bind local names. -/
def bindingSites : List String :=
  ["lambda_expression", "anonymous_method_expression", "local_function_statement",
    "variable_declaration", "foreach_statement", "catch_declaration",
    "declaration_expression", "declaration_pattern"]

/-- Whether a place is the declaration part of the field declaration `member` itself. -/
def isOwnDeclaration (site member : Node) : Bool :=
  site.kind == "variable_declaration" && member.kind == "field_declaration" &&
    Node.isSame site.parent member

/-- The binding of the identifier in a field of a place. -/
def identifierBinding (site : Node) (field : String) (kind : BindingKind)
    (loopSource : Option Node) : List Binding :=
  match site.child? field with
  | some name =>
      if name.kind == "identifier" then
        [{ name := name.text, kind, typeText := Node.textOf (site.child? "type"), loopSource }]
      else []
  | none => []

/-- The parameters with a name, as bindings. -/
def parameterBindings (node : Node) : List Binding :=
  (node.parameters.filter (·.name != "")).map fun p =>
    { name := p.name, kind := .parameter, typeText := p.typeText }

/-- The bindings that one place introduces. -/
def siteBindings (site : Node) : List Binding :=
  if site.kind == "variable_declaration" then
    site.declarators.map fun d =>
      { name := d.name, kind := .localVariable
        typeText := Node.textOf (site.child? "type"), initializer := d.initializer }
  else if site.kind == "foreach_statement" then
    identifierBinding site "left" .foreachVariable (site.child? "right")
  else if site.kind == "catch_declaration" then
    identifierBinding site "name" .catchVariable none
  else if site.kind == "declaration_expression" || site.kind == "declaration_pattern" then
    identifierBinding site "name" .patternVariable none
  else if site.kind == "local_function_statement" then
    parameterBindings site ++
      [{ name := site.declaredName, kind := .localFunction, typeText := "" }]
  else parameterBindings site

/-- All bindings in a member, in source order; its parameters come first. -/
def allBindings (member : Node) : List Binding :=
  let own := if member.kind == "field_declaration" then [] else parameterBindings member
  let sites := (member.descendants bindingSites).filter (!isOwnDeclaration · member)
  own ++ sites.flatMap siteBindings

/-- The bindings of a member by name, the first of each name. -/
def ofMember (member : Node) : Bindings :=
  .ofFirstPairs ((allBindings member).map fun b => (b.name, b))

def collect (root : Node) : Scopes :=
  .ofPairs ((root.descendants Kind.functionMembers).map fun m => (key m, ofMember m))

end Scope
end SandboxLint
