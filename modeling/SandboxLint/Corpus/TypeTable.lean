import SandboxLint.Outline

/-!
The types of a corpus. Fragments of one qualified name are merged in the order of
their files' paths and, within a file, of their source; the first fragment gives
the type its place, kind and namespace. A name declared more than once without
every declaration being partial is ambiguous.
-/

namespace SandboxLint

/-- A declared type, all its fragments taken together. -/
structure TypeDecl where
  name : String
  qualifiedName : String
  namespaceName : String
  kind : TypeKind
  path : String
  span : Span
  baseNames : List String
  attributes : List String
  fields : Assoc String FieldDecl
  methods : Assoc String (List MethodDecl)
  declaringFiles : List String
  outerType : Option String := none
  typeParameterCount : Nat := 0
  ambiguous : Bool := false
  deriving DecidableEq, Repr, Inhabited

namespace TypeDecl

def hasAttribute (decl : TypeDecl) (names : List String) : Bool :=
  names.any decl.attributes.contains

/-- The type that fragments make up, the first of which is `first`. -/
def merge (first : Fragment) (fragments : List Fragment) : TypeDecl :=
  { name := first.name
    qualifiedName := first.qualifiedName
    namespaceName := first.namespaceName
    kind := first.kind
    path := first.path
    span := first.span
    baseNames := (fragments.flatMap (·.baseNames)).eraseDups
    attributes := (fragments.flatMap (·.attributes)).eraseDups
    fields := .ofFirstPairs ((fragments.flatMap (·.fields)).map fun f => (f.name, f))
    methods := .groups ((fragments.flatMap (·.methods)).map fun m => (m.name, m))
    declaringFiles := (fragments.map (·.path)).eraseDups
    outerType := first.outerType
    typeParameterCount := first.typeParameterCount
    ambiguous := 1 < fragments.length && !fragments.all (·.isPartial) }

/-- The reference to a type by its simple name and all that stands before it. -/
def ref (decl : TypeDecl) (rank : Nat := 0) : TypeRef :=
  let qualified := decl.qualifiedName.toList
  { name := decl.name
    arrayRank := rank
    qualifier :=
      if qualified.contains '.' then
        String.ofList (qualified.take (qualified.length - (decl.name.length + 1)))
      else "" }

end TypeDecl

/-- The types of a corpus, each qualified name once, in the order first seen. -/
abbrev TypeTable := List TypeDecl

namespace TypeTable

def ofOutlines (outlines : List Outline) : TypeTable :=
  let sorted := outlines.mergeSort fun a b => decide (a.path ≤ b.path)
  let fragments := sorted.flatMap (·.types)
  (Assoc.groups (fragments.map fun f => (f.qualifiedName, f))).filterMap fun (_, group) =>
    group.head?.map fun first => .merge first group

def find? (table : TypeTable) (qualified : String) : Option TypeDecl :=
  List.find? (·.qualifiedName == qualified) table

def named (table : TypeTable) (name : String) : List TypeDecl :=
  table.filter (·.name == name)

def nestedType (table : TypeTable) (decl : TypeDecl) (name : String) : Option TypeDecl :=
  table.find? (decl.qualifiedName ++ "." ++ name)

/-- The qualified names of the types around `outer`, itself first. -/
def outerNamesFrom (table : TypeTable) : Nat → Option String → List String
  | _, none => []
  -- every hop shortens the name, so as many as it has characters are enough
  | 0, some _ => []
  | fuel + 1, some outer =>
      outer :: outerNamesFrom table fuel ((table.find? outer).bind (·.outerType))

/-- The qualified names of the types around a type, innermost first. -/
def outerNames (table : TypeTable) (decl : TypeDecl) : List String :=
  table.outerNamesFrom (decl.qualifiedName.length + 1) decl.outerType

end TypeTable
end SandboxLint
