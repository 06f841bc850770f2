import SandboxLint.Syntax.Tree

/-!
Variable declarations: the declared names with their initialisers.
-/

namespace SandboxLint

/-- One declared variable: its name, the place of the name, and its initialiser. -/
structure Declarator where
  name : String
  node : Node
  initializer : Option Node

namespace Declarator

/-- The initialiser among the parts of a declarator: the value of an equals clause, or the
first named part after an equals sign, whichever comes first. -/
def initializerIn (afterEquals : Bool) : List Node → Option Node
  | [] => none
  | part :: rest =>
      if part.kind == "equals_value_clause" then part.namedChildren.head?
      else if part.kind == "=" then initializerIn true rest
      else if afterEquals && part.named then some part
      else initializerIn afterEquals rest

/-- Reads a declarator; nothing when it has no name. -/
def ofNode (node : Node) : Option Declarator :=
  ((node.child? "name").or (node.childOfKind? "identifier")).map fun name =>
    { name := name.text, node := name, initializer := initializerIn false node.children }

end Declarator

namespace Node

/-- The variables of a variable declaration, in order. -/
def declarators (declaration : Node) : List Declarator :=
  (declaration.namedChildren.filter (·.kind == "variable_declarator")).filterMap Declarator.ofNode

def variableDeclaration (node : Node) : Option Node :=
  node.childOfKind? "variable_declaration"

end Node
end SandboxLint
