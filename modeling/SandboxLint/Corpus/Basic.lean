import SandboxLint.Corpus.Model

/-!
A corpus: a symbol space together with what each file contributes when it is read
against it, namely its scopes and the types its identifiers refer to. A file whose
indexing fails has neither.
-/

namespace SandboxLint

structure FileIndex where
  path : String
  scopes : Scopes
  referenced : List String

/-- A symbol space with the scopes of its files and, for each type, the files that refer to it. -/
structure Corpus where
  space : SymbolSpace
  scopes : Assoc String Scopes
  referencing : Assoc String (List String)

namespace SymbolSpace

/-- The qualified names of the types that a file's identifiers refer to. -/
def references (space : SymbolSpace) (unit : OutlinedFile) (scopes : Scopes) :
    Except Fault (List String) := do
  let model : Model := { space, unit, scopes }
  let identifiers := (unit.file.root.descendants ["identifier"]).filter fun node =>
    !(space.types.named node.text).isEmpty
  let found ← identifiers.mapM model.typeReference
  return (found.filterMap fun decl => decl.map (·.qualifiedName)).eraseDups

def index (space : SymbolSpace) (unit : OutlinedFile) : Except Fault FileIndex := do
  let scopes := Scope.collect unit.file.root
  return { path := unit.path, scopes, referenced := ← space.references unit scopes }

end SymbolSpace

namespace Corpus

/-- The corpus of a symbol space with the indexes of some of its files. -/
def ofIndexes (space : SymbolSpace) (indexes : List FileIndex) : Corpus :=
  { space
    scopes := indexes.map fun i => (i.path, i.scopes)
    referencing := .groups (indexes.flatMap fun i => i.referenced.map fun q => (q, i.path)) }

/-- The corpus of files; the first file that cannot be read against the symbol space fails it. -/
def build (analysis : AnalysisSettings) (files : List OutlinedFile) : Except Fault Corpus := do
  let space ← SymbolSpace.build analysis files
  return ofIndexes space (← space.files.mapM space.index)

/-- The paths whose results are faults, with the faults. -/
def faultsOf {α : Type} (results : List (String × Except Fault α)) : List (String × Fault) :=
  results.filterMap fun (path, result) =>
    match result with
    | .ok _ => none
    | .error fault => some (path, fault)

def successesOf {α : Type} (results : List (String × Except Fault α)) : List α :=
  results.filterMap fun (_, result) => result.toOption

/-- The corpus of files in which a file that cannot be read against the symbol space stays without
index and is reported with its fault. -/
def buildTolerant (analysis : AnalysisSettings) (files : List OutlinedFile) :
    Except Fault (Corpus × List (String × Fault)) := do
  let space ← SymbolSpace.build analysis files
  let results := space.files.map fun unit => (unit.path, space.index unit)
  return (ofIndexes space (successesOf results), faultsOf results)

variable (corpus : Corpus)

def paths : List String :=
  corpus.space.paths

def type? (qualified : String) : Option TypeDecl :=
  corpus.space.types.find? qualified

def model? (path : String) : Option Model :=
  (corpus.space.file? path).map fun unit =>
    { space := corpus.space, unit, scopes := (corpus.scopes.get? path).getD [] }

/-- The files with an identifier that refers to a type. -/
def referencingFiles (decl : TypeDecl) : List String :=
  (corpus.referencing.get? decl.qualifiedName).getD []

/-- Whether a file that declares no part of a type refers to it. -/
def isShared (decl : TypeDecl) : Bool :=
  (corpus.referencingFiles decl).any (!decl.declaringFiles.contains ·)

end Corpus
end SandboxLint
