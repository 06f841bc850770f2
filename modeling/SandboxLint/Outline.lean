import SandboxLint.Assoc
import SandboxLint.Syntax.Namespace
import SandboxLint.Syntax.Parameter
import SandboxLint.Syntax.Variable

/-!
Outlines: what one file declares and imports, read from its tree alone. A type
declaration contributes a fragment; fragments of one qualified name, possibly from
several files, make up a type.
-/

namespace SandboxLint

inductive TypeKind where
  | classType
  | structType
  | interfaceType
  | enumType
  | recordType
  deriving DecidableEq, Repr, Inhabited

namespace TypeKind

/-- The kind of type that a declaration of a node kind declares. -/
def ofNodeKind (kind : String) : TypeKind :=
  if kind == "struct_declaration" then .structType
  else if kind == "interface_declaration" then .interfaceType
  else if kind == "enum_declaration" then .enumType
  else if kind == "record_declaration" || kind == "record_struct_declaration" then .recordType
  else .classType

def label : TypeKind → String
  | .classType => "class"
  | .structType => "struct"
  | .interfaceType => "interface"
  | .enumType => "enum"
  | .recordType => "record"

end TypeKind

/-- A declared field or property. Constants are static. -/
structure FieldDecl where
  name : String
  type : Option TypeRef
  path : String
  span : Span
  isStatic : Bool := false
  isConst : Bool := false
  isProperty : Bool := false
  deriving DecidableEq, Repr, Inhabited

/-- A declared method with the counts that decide which calls fit. -/
structure MethodDecl where
  name : String
  returnType : Option TypeRef
  path : String
  span : Span
  isStatic : Bool
  required : Nat
  total : Nat
  hasParamsArray : Bool := false
  deriving DecidableEq, Repr, Inhabited

/-- Whether a count lies between two others, the greater of which may be open. -/
def countFits (required total : Int) (isOpen : Bool) (count : Int) : Bool :=
  required ≤ count && (isOpen || count ≤ total)

/-- Whether a call with `count` arguments fits the method. -/
def MethodDecl.accepts (method : MethodDecl) (count : Int) : Bool :=
  countFits method.required method.total method.hasParamsArray count

/-- One declaration of a type. -/
structure Fragment where
  name : String
  qualifiedName : String
  namespaceName : String
  kind : TypeKind
  path : String
  span : Span
  node : Node
  baseNames : List String
  attributes : List String
  fields : List FieldDecl
  methods : List MethodDecl
  isPartial : Bool
  outerType : Option String
  typeParameterCount : Nat
  deriving Inhabited

/-- What a file declares and imports. Aliases stand in the order of their first directive, each
with its last target. -/
structure Outline where
  path : String
  namespaceName : String
  usings : List String
  staticUsings : List String
  aliases : Assoc String String
  types : List Fragment
  hasMarkerImport : Bool
  deriving Inhabited

/-- A file with its source and tree. -/
structure SourceFile where
  path : String
  source : Source
  tree : Tree

namespace SourceFile

def root (file : SourceFile) : Node :=
  .ofTree file.tree

def span (file : SourceFile) (node : Node) : Span :=
  node.span file.source

end SourceFile

namespace Outline

def fieldDecls (file : SourceFile) (member : Node) : List FieldDecl :=
  match member.variableDeclaration with
  | none => []
  | some declaration =>
      let isConst := member.hasModifier "const"
      declaration.declarators.map fun d =>
        { name := d.name
          type := TypeRef.parse (Node.textOf (declaration.child? "type"))
          path := file.path
          span := file.span d.node
          isStatic := isConst || member.hasModifier "static"
          isConst }

/-- The property that a property declaration declares, when it has a name. -/
def propertyDecl (file : SourceFile) (member : Node) : Option FieldDecl :=
  (member.child? "name").map fun name =>
    { name := name.text
      type := TypeRef.parse (Node.textOf (member.child? "type"))
      path := file.path
      span := file.span name
      isStatic := member.hasModifier "static"
      isProperty := true }

def returnTypeNode (member : Node) : Option Node :=
  (member.child? "returns").or (member.child? "type")

/-- The type of a return type text, none for `void`. -/
def returnType (text : String) : Option TypeRef :=
  if Text.trim text.toList == "void".toList then none else TypeRef.parse text

def methodDecl (file : SourceFile) (member : Node) : MethodDecl :=
  let params := member.parameters
  let regular := params.filter (!·.isParams)
  { name := member.declaredName
    returnType := returnType (Node.textOf (returnTypeNode member))
    path := file.path
    span := file.span ((member.child? "name").getD member)
    isStatic := member.hasModifier "static"
    required := (regular.filter (!·.hasDefault)).length
    total := regular.length
    hasParamsArray := regular.length != params.length }

/-- The members of a type declaration that the outline looks into. -/
def heldMembers (node : Node) : List Node :=
  if Kind.memberHolders.contains node.kind then node.typeMembers else []

/-- The fields and properties that one member declares. -/
def memberFields (file : SourceFile) (member : Node) : List FieldDecl :=
  if member.kind == "field_declaration" then fieldDecls file member
  else if member.kind == "property_declaration" then (propertyDecl file member).toList
  else []

def typeParameterCount (node : Node) : Nat :=
  match node.typeParameterList with
  | none => 0
  | some list => (list.namedChildren.filter (·.kind == "type_parameter")).length

def fragment (file : SourceFile) (fileNamespace : String) (node : Node) : Fragment :=
  let members := heldMembers node
  { name := node.declaredName
    qualifiedName := node.qualifiedName fileNamespace
    namespaceName := node.namespaceOf fileNamespace
    kind := .ofNodeKind node.kind
    path := file.path
    span := file.span ((node.child? "name").getD node)
    node
    baseNames := node.baseTypes.map (·.text)
    attributes := (node.attributes.map (·.name)).eraseDups
    fields := members.flatMap (memberFields file)
    methods := (members.filter (·.kind == "method_declaration")).map (methodDecl file)
    isPartial := node.hasModifier "partial"
    outerType := (node.enclosing Kind.typeDeclarations).map (·.qualifiedName fileNamespace)
    typeParameterCount := typeParameterCount node }

def ofFile (file : SourceFile) (marker : String) : Outline :=
  let space := file.root.fileNamespace
  let directives := file.root.usingDirectives
  -- the marker is looked for among these only
  let plain := (directives.filter fun d => d.alias?.isNone && !d.isStatic).map (·.target)
  { path := file.path
    namespaceName := space
    usings := plain
    staticUsings := (directives.filter fun d => d.alias?.isNone && d.isStatic).map (·.target)
    aliases := .ofPairs (directives.filterMap fun d => d.alias?.map fun a => (a, d.target))
    types := (file.root.descendants Kind.typeDeclarations).map (fragment file space)
    hasMarkerImport := plain.contains marker }

end Outline
end SandboxLint
