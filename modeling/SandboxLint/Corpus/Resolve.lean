import SandboxLint.Corpus.BaseTable

/-!
Resolution of written types. A type text is resolved at a site: the imports of the
file, the namespace around it and the types around it, innermost first. Aliases
of the file are followed first; a nested type of the surrounding types and their
bases wins over types of namespaces; what is not unique is unknown. Two things
can go wrong: aliases that run in a circle, and a base graph that is needed
before it is there.
-/

namespace SandboxLint

/-- Why a resolution cannot give an answer. -/
inductive Fault where
  | aliasCycle
  | basesPending
  deriving DecidableEq, Repr

/-- The imports of a file that matter for resolving names in it. -/
structure Imports where
  usings : List String := []
  aliases : Assoc String String := []
  deriving DecidableEq, Repr, Inhabited

def Outline.imports (outline : Outline) : Imports :=
  { usings := outline.usings, aliases := outline.aliases }

/-- Where a type is written. -/
structure Site where
  imports : Imports
  namespaceName : String := ""
  enclosing : List String := []
  deriving DecidableEq, Repr, Inhabited

namespace Imports

/-- The target of the alias that a reference is, if it is unqualified and an alias. -/
def aliasTarget? (imports : Imports) (ref : TypeRef) : Option String :=
  if ref.qualifier == "" then imports.aliases.get? ref.name else none

/-- Follows aliases until a reference is none. -/
def followAliases (imports : Imports) : Nat → TypeRef → Except Fault (Option TypeRef)
  | fuel, ref =>
      match imports.aliasTarget? ref with
      | none => .ok (some ref)
      | some target =>
          match fuel with
          -- more steps than the file has aliases: they come around in a circle
          | 0 => .error .aliasCycle
          | fuel + 1 =>
              match TypeRef.parse target with
              | none => .ok none
              | some next => followAliases imports fuel next

/-- The qualifier with an alias at its head replaced by the alias's target. -/
def expandQualifier (imports : Imports) (qualifier : String) : String :=
  if qualifier == "" then qualifier
  else
    let head := String.ofList (Text.beforeFirst '.' qualifier.toList)
    let rest := String.ofList (Text.afterFirst '.' qualifier.toList)
    match imports.aliases.get? head with
    | some target => dotted [target, rest]
    | none => qualifier

end Imports

/-- Whether types of a namespace can be named plainly from a namespace with imports. -/
def namespaceVisible (typeNamespace fromNamespace : String) (usings : List String) : Bool :=
  typeNamespace == "" || fromNamespace == typeNamespace ||
    Text.startsWith fromNamespace (typeNamespace ++ ".") || usings.contains typeNamespace

namespace TypeTable

/-- The only candidate, unless it is ambiguous. -/
def unique : List TypeDecl → Option TypeDecl
  | [decl] => if decl.ambiguous then none else some decl
  | _ => none

/-- The candidate of a qualified name: an exact match, or a type whose name ends in it and
starts with a visible namespace. -/
def resolveQualified (site : Site) (candidates : List TypeDecl) (full : String) :
    Option TypeDecl :=
  let exact := candidates.filter (·.qualifiedName == full)
  if exact.isEmpty then
    unique (candidates.filter fun c =>
      Text.endsWith c.qualifiedName ("." ++ full) &&
        namespaceVisible (Text.dropRight c.qualifiedName (full.length + 1))
          site.namespaceName site.imports.usings)
  else unique exact

/-- The first type of a name nested in one of the enclosing types or their bases. -/
def resolveNested (table : TypeTable) (bases : BaseTable) (enclosing : List String)
    (name : String) : Option TypeDecl :=
  enclosing.findSome? fun outer =>
    (table.find? outer).bind fun decl =>
      (bases.chain decl).findSome? fun owner => table.nestedType owner name

/-- The only visible type that is not nested; the site's own namespace wins over imported ones. -/
def resolveVisible (site : Site) (candidates : List TypeDecl) : Option TypeDecl :=
  let visible := candidates.filter fun c =>
    c.outerType.isNone && namespaceVisible c.namespaceName site.namespaceName site.imports.usings
  let own := visible.filter (·.namespaceName == site.namespaceName)
  if 1 < visible.length && site.namespaceName != "" && !own.isEmpty then unique own
  else unique visible

/-- Resolves a reference that is no alias. -/
def resolvePlain (table : TypeTable) (bases? : Option BaseTable) (site : Site) (ref : TypeRef) :
    Except Fault (Option TypeDecl) :=
  let qualifier := site.imports.expandQualifier ref.qualifier
  let candidates := table.named ref.name
  if candidates.isEmpty then .ok none
  else if qualifier != "" then
    .ok (resolveQualified site candidates (qualifier ++ "." ++ ref.name))
  else
    match bases? with
    | none =>
        -- the search through enclosing types would need the base graph
        if site.enclosing.any fun outer => (table.find? outer).isSome then .error .basesPending
        else .ok (resolveVisible site candidates)
    | some bases =>
        match table.resolveNested bases site.enclosing ref.name with
        | some nested => .ok (if nested.ambiguous then none else some nested)
        | none => .ok (resolveVisible site candidates)

/-- Resolves a reference at a site. -/
def resolveRef (table : TypeTable) (bases? : Option BaseTable) (site : Site) (ref : TypeRef) :
    Except Fault (Option TypeDecl) :=
  match site.imports.aliasTarget? ref with
  | none => table.resolvePlain bases? site ref
  | some _ =>
      match site.imports.followAliases site.imports.aliases.length ref with
      | .error fault => .error fault
      | .ok none => .ok none
      -- the target stands at the top of its file, outside all namespaces and types
      | .ok (some target) => table.resolvePlain bases? { imports := site.imports } target

def resolveText (table : TypeTable) (bases? : Option BaseTable) (site : Site) (text : String) :
    Except Fault (Option TypeDecl) :=
  match TypeRef.parse text with
  | none => .ok none
  | some ref => table.resolveRef bases? site ref

/-- The corpus types in the base list of a type other than itself, resolved at the type's
first declaration. -/
def resolveBases (table : TypeTable) (imports : String → Imports) (decl : TypeDecl) :
    Except Fault (List TypeDecl) := do
  let site : Site :=
    { imports := imports decl.path
      namespaceName := decl.namespaceName
      enclosing := table.outerNames decl }
  let resolved ← decl.baseNames.mapM (table.resolveText none site)
  return resolved.filterMap fun found =>
    found.filter fun target => target.qualifiedName != decl.qualifiedName

def baseTable (table : TypeTable) (imports : String → Imports) : Except Fault BaseTable :=
  table.mapM fun decl => do
    return (decl.qualifiedName, ← table.resolveBases imports decl)

end TypeTable
end SandboxLint
