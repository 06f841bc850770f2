import SandboxLint.Syntax.Tree
import SandboxLint.Syntax.Kind
import SandboxLint.TypeRef

/-!
What a declaration says about itself: its name, modifiers, type parameters,
attributes, base types and members. Grammars put some of these in fields and
others only among the children, so the accessors look at both.
-/

namespace SandboxLint
namespace Node

/-- The declared name: the field `name`, else the first identifier among the children. -/
def declaredName (node : Node) : String :=
  match node.child? "name" with
  | some name => name.text
  | none => textOf (node.childOfKind? "identifier")

/-- The modifier keywords, each once. -/
def modifiers (node : Node) : List String :=
  ((node.children.filter (·.kind == "modifier")).flatMap fun m => Text.words m.text).eraseDups

def hasModifier (node : Node) (word : String) : Bool :=
  node.modifiers.contains word

/-- The list of type parameters, from the field or by kind. -/
def typeParameterList (node : Node) : Option Node :=
  (node.child? "type_parameters").or (node.childOfKind? "type_parameter_list")

mutual

/-- The members that a tree contributes to what is around it: those inside a wrapper, or the
tree itself when it is named. -/
def membersIn (above : List Tree) : Tree → List Node
  | .node info children =>
      if Kind.wrappers.contains info.kind then
        membersInAll (.node info children :: above) children
      else if info.named then [⟨.node info children, above⟩]
      else []

/-- The members that several trees contribute, tree by tree. -/
def membersInAll (above : List Tree) : List Tree → List Node
  | [] => []
  | tree :: trees => membersIn above tree ++ membersInAll above trees

end

/-- The member declarations in a container, looking through wrappers. -/
def flattenMembers (container : Node) : List Node :=
  membersInAll (container.tree :: container.above) container.tree.children

/-- The member declarations in the body of a type declaration. -/
def typeMembers (node : Node) : List Node :=
  match node.child? "body" with
  | some body => body.flattenMembers
  | none => []

/-- The types in a declaration's base list. -/
def baseTypes (node : Node) : List Node :=
  match node.childOfKind? "base_list" with
  | none => []
  | some list =>
      list.namedChildren.filterMap fun child =>
        -- a base with constructor arguments counts as its type
        if child.kind == "primary_constructor_base_type" then
          (child.child? "type").or child.namedChildren.head?
        else if child.kind == "argument_list" then none
        else some child

end Node

/-- An attribute applied to a declaration: its simple name without the ending `Attribute`, its
place, and the text of its arguments. -/
structure AttributeUse where
  name : String
  node : Node
  arguments : String

namespace Node

def attributeUse (node : Node) : AttributeUse :=
  let name := (node.child? "name").or node.namedChildren.head?
  { name := TypeName.ofAttribute (textOf name)
    node
    arguments := textOf (node.childOfKind? "attribute_argument_list") }

/-- The attributes applied directly to a declaration. -/
def attributes (node : Node) : List AttributeUse :=
  (node.children.filter (·.kind == "attribute_list")).flatMap fun list =>
    (list.namedChildren.filter (·.kind == "attribute")).map attributeUse

def hasAttribute (node : Node) (name : String) : Bool :=
  let target := TypeName.ofAttribute name
  node.attributes.any (·.name == target)

end Node
end SandboxLint
