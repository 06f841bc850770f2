import SandboxLint.Corpus.SymbolSpace

/-!
What the names and expressions of one file mean. A model looks at one file of a
symbol space with the file's lexical scopes; it resolves type references, member
accesses and invocations, and types expressions as far as that can be done. An
answer is missing when it is not unique. Typing follows initialisers and loop
sources to other places of the tree, so it is bounded by a depth and not by the
tree.
-/

namespace SandboxLint

inductive SymbolKind where
  | type
  | field
  | property
  | method
  deriving DecidableEq, Repr

def SymbolKind.label : SymbolKind → String
  | .type => "type"
  | .field => "field"
  | .property => "property"
  | .method => "method"

/-- What a name refers to: where it is declared, in which type, and of which type it is. -/
structure Symbol where
  kind : SymbolKind
  name : String
  path : String
  span : Span
  owner : TypeDecl
  isStatic : Bool := false
  type : Option TypeRef := none
  deriving DecidableEq, Repr

/-- A file of a symbol space together with its scopes. -/
structure Model where
  space : SymbolSpace
  unit : OutlinedFile
  scopes : Scopes

namespace Model

/-- The steps that typing may take, one step of typing or resolution counting one. -/
def depthLimit : Nat := 25

variable (model : Model)

def path : String :=
  model.unit.path

/-- The qualified names of the types around a place, innermost first. -/
def enclosingNames (node : Node) : List String :=
  node.enclosingTypeNames model.unit.outline.namespaceName

def site (node : Node) : Site :=
  { imports := model.unit.outline.imports
    namespaceName := node.namespaceOf model.unit.outline.namespaceName
    enclosing := model.enclosingNames node }

def enclosingType (node : Node) : Option TypeDecl :=
  (model.enclosingNames node).head?.bind model.space.types.find?

/-- The local binding of a name in the member around a place. -/
def binding (node : Node) (name : String) : Option Binding :=
  (Scope.enclosingMember node).bind fun member =>
    (model.scopes.get? (Scope.key member)).bind (·.get? name)

/-- The corpus type of a reference as seen from a place. -/
def lookup (ref? : Option TypeRef) (node : Node) : Except Fault (Option TypeDecl) :=
  match ref? with
  | none => .ok none
  | some ref => if ref.isImplicit then .ok none else model.space.resolveRef (model.site node) ref

/-- The type that a generic or qualified name names. -/
def compoundReference (node : Node) : Except Fault (Option TypeDecl) :=
  if node.kind == "generic_name" || node.kind == "qualified_name" then
    model.lookup (TypeRef.parse node.text) node
  else .ok none

/-- How an identifier stands in its parent, for the question whether it names a type. -/
inductive IdentifierRole where
  | declared
  | part (whole : Node)
  | free

/-- An identifier that declares a name or selects a member names no type; the last part of a
qualified name and any part of a generic name stand for the whole. -/
def identifierRole (node : Node) : IdentifierRole :=
  match node.parent with
  | none => .free
  | some parent =>
      let isName := Node.isSame (parent.child? "name") node
      if Kind.declaringParents.contains parent.kind && isName then .declared
      else if parent.kind == "foreach_statement" && Node.isSame (parent.child? "left") node then
        .declared
      else if parent.kind == "qualified_name" && isName then .part parent
      else if parent.kind == "member_access_expression" && isName then .declared
      else if parent.kind == "generic_name" then .part parent
      else .free

/-- The type that an identifier, generic name or qualified name names. -/
def typeReference (node : Node) : Except Fault (Option TypeDecl) :=
  if node.kind == "identifier" then
    match identifierRole node with
    | .declared => .ok none
    | .part whole => model.compoundReference whole
    | .free =>
        if (model.binding node node.text).isSome then .ok none
        else model.lookup (some { name := node.text }) node
  else model.compoundReference node

/-- The name of a member or function, without type arguments. -/
def memberName (node : Option Node) : String :=
  match node with
  | none => ""
  | some node => if node.kind == "generic_name" then node.declaredName else node.text

def fieldSymbol (owner : TypeDecl) (field : FieldDecl) : Except Fault Symbol := do
  return {
    kind := if field.isProperty then .property else .field
    name := field.name
    path := field.path
    span := field.span
    owner
    isStatic := field.isStatic
    type := ← model.space.canonicalRef field.type owner field.path }

def methodSymbol (owner : TypeDecl) (method : MethodDecl) : Except Fault Symbol := do
  return {
    kind := .method
    name := method.name
    path := method.path
    span := method.span
    owner
    isStatic := method.isStatic
    type := ← model.space.canonicalRef method.returnType owner method.path }

def typeSymbol (decl : TypeDecl) : Symbol :=
  { kind := .type, name := decl.name, path := decl.path, span := decl.span, owner := decl }

/-- The member of a name on a receiver of a type: a field or property anywhere in the chain,
else the only method of the nearest type with one, else a nested type. -/
def memberOf (decl : TypeDecl) (name : String) : Except Fault (Option Symbol) :=
  match model.space.bases.findField decl name with
  | some (owner, field) => some <$> model.fieldSymbol owner field
  | none =>
      match model.space.bases.findMethods decl name with
      | some (owner, [method]) => some <$> model.methodSymbol owner method
      | some _ => .ok none
      | none => .ok ((model.space.types.nestedType decl name).map typeSymbol)

/-- The static methods of a name that one static import brings into scope. -/
def importedFrom (name target : String) : Except Fault (Option (TypeDecl × List MethodDecl)) := do
  match ← model.space.resolveText { imports := model.unit.outline.imports } target with
  | none => return none
  | some decl =>
      match model.space.bases.findMethods decl name with
      | none => return none
      | some (owner, methods) =>
          let statics := methods.filter (·.isStatic)
          return if statics.isEmpty then none else some (owner, statics)

/-- The static methods of a name in scope by static imports, if only one import has any. -/
def staticallyImported (name : String) : Except Fault (Option (TypeDecl × List MethodDecl)) := do
  let found ← model.unit.outline.staticUsings.mapM (model.importedFrom name)
  match found.filterMap fun f => f with
  | [only] => return some only
  | _ => return none

/-- The methods that a plain call of a name can mean: those of the nearest surrounding type that
has any, else statically imported ones. -/
def plainCallees (node : Node) (name : String) :
    Except Fault (Option (TypeDecl × List MethodDecl)) :=
  let surrounding := (model.enclosingNames node).findSome? fun qualified =>
    (model.space.types.find? qualified).bind (model.space.bases.findMethods · name)
  match surrounding with
  | some found => .ok (some found)
  | none => model.staticallyImported name

/-- The only method among the callees that fits a call. -/
def applicable (call : Node) (callees : Option (TypeDecl × List MethodDecl)) :
    Except Fault (Option Symbol) :=
  match callees with
  | none => .ok none
  | some (owner, methods) =>
      match methods.filter (·.accepts call.argumentCount) with
      | [method] => some <$> model.methodSymbol owner method
      | _ => .ok none

/-- The type of the nearest field of a name in the surrounding types. -/
def surroundingField (node : Node) (name : String) : Option (TypeDecl × FieldDecl) :=
  (model.enclosingNames node).findSome? fun qualified =>
    (model.space.types.find? qualified).bind (model.space.bases.findField · name)

/-- The type of a name that no local binding has: that of a field around, or the type itself. -/
def unboundNameType (node : Node) (name : String) : Except Fault (Option TypeRef) :=
  match model.surroundingField node name with
  | some (owner, field) => model.space.canonicalRef field.type owner field.path
  | none => do return (← model.lookup (some { name }) node).map (·.ref)

/-- The type of `base`: the first base of the type around that is no interface. -/
def baseExpressionType (node : Node) : Option TypeRef :=
  (model.enclosingType node).bind fun decl =>
    ((model.space.basesOf decl).find? (·.kind != .interfaceType)).map (·.ref)

/-- The type of a member access, given what it resolves to: the member's type, or the type that
the whole text names when it resolves to nothing. -/
def accessType (node : Node) (symbol? : Option Symbol) : Except Fault (Option TypeRef) :=
  match symbol? with
  | some symbol =>
      match symbol.kind with
      | .field | .property => .ok symbol.type
      | .type => .ok (some symbol.owner.ref)
      | .method => .ok none
  | none => do return (← model.lookup (TypeRef.parse node.text) node).map (·.ref)

/-- The corpus type of a receiver of a type; an array has no members of the corpus. -/
def receiverDecl (receiver : Option Node) (type? : Option TypeRef) :
    Except Fault (Option TypeDecl) :=
  match type?, receiver with
  | some ref, some node => if ref.isArray then .ok none else model.lookup (some ref) node
  | _, _ => .ok none

mutual

def typeWithin : Nat → Option Node → Except Fault (Option TypeRef)
  | 0, _ => .ok none
  | _ + 1, none => .ok none
  | fuel + 1, some node =>
      if node.kind == "parenthesized_expression" then typeWithin fuel node.namedChildren.head?
      else if node.kind == "identifier" then
        match model.binding node node.text with
        | none => model.unboundNameType node node.text
        | some binding =>
            let declared := TypeRef.parse binding.typeText
            if declared.any (!·.isImplicit) then .ok declared
            else
              match binding.initializer, binding.loopSource with
              | some value, _ => typeWithin fuel (some value)
              | none, some source => do return (← typeWithin fuel (some source)).bind (·.element)
              | none, none => .ok none
      else if Kind.thisNodes.contains node.kind then .ok ((model.enclosingType node).map (·.ref))
      else if Kind.baseNodes.contains node.kind then .ok (model.baseExpressionType node)
      else if node.kind == "member_access_expression" then do
        model.accessType node (← memberWithin fuel node)
      else if node.kind == "invocation_expression" then do
        return (← invocationWithin fuel node).bind (·.type)
      else if node.kind == "element_access_expression" then do
        return (← typeWithin fuel (node.child? "expression")).bind (·.element)
      else if node.kind == "object_creation_expression" ||
          node.kind == "array_creation_expression" || node.kind == "cast_expression" then
        .ok (TypeRef.parse (Node.textOf (node.child? "type")))
      else if node.kind == "as_expression" then
        .ok (TypeRef.parse (Node.textOf (node.child? "right")))
      else .ok none
termination_by structural fuel => fuel

def memberWithin : Nat → Node → Except Fault (Option Symbol)
  | 0, _ => .ok none
  | fuel + 1, node =>
      if node.kind != "member_access_expression" then .ok none
      else do
        let name := memberName (node.child? "name")
        let receiver := node.child? "expression"
        match ← model.receiverDecl receiver (← typeWithin fuel receiver) with
        | none => return none
        | some decl => if name == "" then return none else model.memberOf decl name
termination_by structural fuel => fuel

def invocationWithin : Nat → Node → Except Fault (Option Symbol)
  | 0, _ => .ok none
  | fuel + 1, node =>
      if node.kind != "invocation_expression" then .ok none
      else
        match node.child? "function" with
        | none => .ok none
        | some function =>
            if function.kind == "identifier" || function.kind == "generic_name" then do
              let name := memberName (some function)
              if (model.binding node name).isSome then return none
              else model.applicable node (← model.plainCallees node name)
            else if function.kind == "member_access_expression" then do
              let name := memberName (function.child? "name")
              let receiver := function.child? "expression"
              match ← model.receiverDecl receiver (← typeWithin fuel receiver) with
              | none => return none
              | some decl =>
                  if name == "" then return none
                  else model.applicable node (model.space.bases.findMethods decl name)
            else .ok none
termination_by structural fuel => fuel

end

/-- The type of an expression, when it can be told. -/
def typeOf (node : Node) : Except Fault (Option TypeRef) :=
  model.typeWithin depthLimit (some node)

/-- The field, property, method or nested type that a member access names. -/
def memberAccess (node : Node) : Except Fault (Option Symbol) :=
  model.memberWithin depthLimit node

/-- The method that an invocation calls, told apart by the number of arguments. -/
def invocation (node : Node) : Except Fault (Option Symbol) :=
  model.invocationWithin depthLimit node

end Model
end SandboxLint
