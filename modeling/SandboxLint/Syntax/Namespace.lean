import SandboxLint.Syntax.Declaration

/-!
Namespaces and using directives. A file has at most one file-scoped namespace;
block namespaces nest inside it and inside each other, and types nest inside
types, so a qualified name is composed from the places around a declaration.
-/

namespace SandboxLint

/-- A using directive: a plain import, a static import, or an alias for the target. -/
structure UsingDirective where
  target : String
  alias? : Option String := none
  isStatic : Bool := false
  deriving DecidableEq, Repr

/-- Joins the parts that are not empty by dots. -/
def dotted (parts : List String) : String :=
  ".".intercalate (parts.filter (· != ""))

namespace Node

def namespaceName (node : Node) : String :=
  match node.child? "name" with
  | some name => name.text
  | none =>
      textOf (node.children.find? fun c => c.kind == "qualified_name" || c.kind == "identifier")

mutual

/-- The answer of one tree to the search for a file-scoped namespace: the name of one declared
here, or one with a name inside a wrapper. -/
def fileNamespaceIn (above : List Tree) : Tree → Option String
  | .node info children =>
      if info.kind == "file_scoped_namespace_declaration" then
        some (namespaceName ⟨.node info children, above⟩)
      else if Kind.wrappers.contains info.kind then
        let found := fileNamespaceInAll (.node info children :: above) children
        if found == "" then none else some found
      else none

/-- The first answer of several trees, empty when none has one. -/
def fileNamespaceInAll (above : List Tree) : List Tree → String
  | [] => ""
  | tree :: trees =>
      match fileNamespaceIn above tree with
      | some name => name
      | none => fileNamespaceInAll above trees

end

/-- The file-scoped namespace of a compilation unit, empty when there is none. -/
def fileNamespace (root : Node) : String :=
  fileNamespaceInAll (root.tree :: root.above) root.tree.children

/-- The namespace around a place: the file's, then the block namespaces from outside in. -/
def namespaceOf (node : Node) (file : String) : String :=
  let blocks := (node.ancestors.filter (·.kind == "namespace_declaration")).map namespaceName
  dotted (file :: blocks.reverse)

/-- The qualified name of a type declaration: its namespace, the types around it, its name. -/
def qualifiedName (node : Node) (file : String) : String :=
  let outer := node.ancestors.filter fun p => Kind.typeDeclarations.contains p.kind
  let names := ((node :: outer).map declaredName).reverse
  let space := node.namespaceOf file
  ".".intercalate (if space == "" then names else space :: names)

/-- The qualified names of the type declarations around a place, innermost first. -/
def enclosingTypeNames (node : Node) (file : String) : List String :=
  (node.ancestors.filter fun p => Kind.typeDeclarations.contains p.kind).map (·.qualifiedName file)

/-- Reads a using directive; nothing when it names no target. -/
def usingDirective? (node : Node) : Option UsingDirective :=
  let children := node.children
  let names := children.filter fun c =>
    c.kind == "qualified_name" || c.kind == "identifier" || c.kind == "generic_name"
  match names.head?, names.getLast? with
  | some first, some last =>
      match node.childOfKind? "name_equals" with
      | some equals => some { target := last.text, alias? := some equals.declaredName }
      | none =>
          if children.any (·.kind == "=") && 2 ≤ names.length then
            some { target := last.text, alias? := some first.text }
          else
            some { target := last.text, isStatic := children.any (·.kind == "static") }
  | _, _ => none

/-- The using directives anywhere below a place, in order. -/
def usingDirectives (root : Node) : List UsingDirective :=
  (root.descendants ["using_directive"]).filterMap usingDirective?

end Node
end SandboxLint
