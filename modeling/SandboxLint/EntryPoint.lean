import SandboxLint.Corpus.Basic

/-!
Entry points. A file is an entry point when it declares a class that inherits the
sandboxed base and also carries the marker import; either alone is not enough.
-/

namespace SandboxLint

/-- How a file stands with regard to entry points. -/
structure Classification where
  path : String
  hasMarkerImport : Bool
  entryTypes : List String
  deriving DecidableEq, Repr, Inhabited

namespace Classification

def isEntryPoint (c : Classification) : Bool :=
  c.hasMarkerImport && !c.entryTypes.isEmpty

end Classification

namespace SymbolSpace

/-- Whether a fragment is a class declaration of a type that inherits the sandboxed base. -/
def isEntryFragment (space : SymbolSpace) (fragment : Fragment) : Bool :=
  fragment.node.kind == "class_declaration" &&
    (space.types.find? fragment.qualifiedName).any space.inheritsBase

def classify (space : SymbolSpace) (unit : OutlinedFile) : Classification :=
  { path := unit.path
    hasMarkerImport := unit.outline.hasMarkerImport
    entryTypes := (unit.outline.types.filter space.isEntryFragment).map (·.qualifiedName) }

/-- The class declarations of a file's entry types, in source order. -/
def entryNodes (space : SymbolSpace) (unit : OutlinedFile) : List Node :=
  let wanted := (space.classify unit).entryTypes
  (unit.outline.types.filter fun fragment =>
    wanted.contains fragment.qualifiedName && fragment.node.kind == "class_declaration").map
      (·.node)

def classifications (space : SymbolSpace) : List Classification :=
  space.files.map space.classify

def entryFiles (space : SymbolSpace) : List String :=
  (space.classifications.filter (·.isEntryPoint)).map (·.path)

end SymbolSpace
end SandboxLint
