import SandboxLint.Corpus.Resolve
import SandboxLint.Scope
import SandboxLint.Settings.Basic

/-!
The symbol space of a corpus: its files in path order, its types, their base
graph and which of them inherit the sandboxed base. It is made from all files at
once and never changes.
-/

namespace SandboxLint

structure OutlinedFile where
  file : SourceFile
  outline : Outline

namespace OutlinedFile

def path (unit : OutlinedFile) : String :=
  unit.file.path

def ofFile (file : SourceFile) (marker : String) : OutlinedFile :=
  { file, outline := .ofFile file marker }

end OutlinedFile

/-- Everything that names can refer to. -/
structure SymbolSpace where
  analysis : AnalysisSettings
  files : List OutlinedFile
  types : TypeTable
  bases : BaseTable
  inheriting : BaseTable.Memo

namespace SymbolSpace

/-- Files by path: a later file of the same path takes the place of an earlier one. -/
def byPath (files : List OutlinedFile) : List OutlinedFile :=
  let distinct := (Assoc.ofPairs (files.map fun f => (f.path, f))).values
  distinct.mergeSort fun a b => decide (a.path ≤ b.path)

/-- The imports of the file at a path, none for a path without a file. -/
def importsIn (files : List OutlinedFile) (path : String) : Imports :=
  match files.find? (·.path == path) with
  | some unit => unit.outline.imports
  | none => {}

/-- The symbol space of files; it fails with the first base list that cannot be resolved. -/
def build (analysis : AnalysisSettings) (files : List OutlinedFile) :
    Except Fault SymbolSpace := do
  let files := byPath files
  let types := TypeTable.ofOutlines (files.map (·.outline))
  let bases ← types.baseTable (importsIn files)
  return { analysis, files, types, bases, inheriting := bases.inheritance analysis.baseType types }

variable (space : SymbolSpace)

def paths : List String :=
  space.files.map (·.path)

def file? (path : String) : Option OutlinedFile :=
  space.files.find? (·.path == path)

def imports (path : String) : Imports :=
  importsIn space.files path

def basesOf (decl : TypeDecl) : List TypeDecl :=
  space.bases.basesOf decl

def inheritsBase (decl : TypeDecl) : Bool :=
  (space.inheriting.get? decl.qualifiedName).getD false

def isExternal (decl : TypeDecl) : Bool :=
  space.analysis.externalNamespaces.any fun ns =>
    decl.namespaceName == ns || Text.startsWith decl.namespaceName (ns ++ ".")

/-- Whether a type is plain data: marked so, not of a library, and not inheriting the base. -/
def isPlainData (decl : TypeDecl) : Bool :=
  !space.isExternal decl && !space.inheritsBase decl &&
    decl.hasAttribute space.analysis.serializableAttributes

def resolveRef (site : Site) (ref : TypeRef) : Except Fault (Option TypeDecl) :=
  space.types.resolveRef (some space.bases) site ref

def resolveText (site : Site) (text : String) : Except Fault (Option TypeDecl) :=
  space.types.resolveText (some space.bases) site text

/-- A reference written inside `owner` in the file at `path`, requalified so that it can be
resolved from other files; one that is unknown there stays as written. -/
def canonicalRef (ref? : Option TypeRef) (owner : TypeDecl) (path : String) :
    Except Fault (Option TypeRef) :=
  match ref? with
  | none => .ok none
  | some ref => do
      let site : Site :=
        { imports := space.imports path
          namespaceName := owner.namespaceName
          enclosing := owner.qualifiedName :: space.types.outerNames owner }
      match ← space.resolveRef site ref with
      | none => return some ref
      | some target => return some (target.ref ref.arrayRank)

end SymbolSpace
end SandboxLint
