import SandboxLint.Proofs.Corpus.SymbolSpace

/-!
Small corpora written down by hand. Files that come in the order of their paths are
taken as they are, so that the symbol space made of them can be computed.
-/

namespace SandboxLint
namespace SymbolSpace

/-- The symbol space of files in the order in which they come. -/
def buildInOrder (analysis : AnalysisSettings) (files : List OutlinedFile) :
    Except Fault SymbolSpace := do
  let types := TypeTable.ofFragments (files.flatMap (·.outline.types))
  let bases ← types.baseTable (importsIn files)
  return { analysis, files, types, bases, inheriting := bases.inheritance analysis.baseType types }

theorem byPath_of_ordered {files : List OutlinedFile}
    (h : (files.map (·.path)).Pairwise (· < ·)) : byPath files = files := by
  have hnodup : (Assoc.keys (files.map fun f => (f.path, f))).Nodup := by
    simp only [Assoc.keys, List.map_map, Function.comp_def]
    refine List.nodup_iff_pairwise_ne.2 (h.imp ?_)
    rintro a _ hlt rfl
    exact String.lt_irrefl a hlt
  have hvalues : (Assoc.ofPairs (files.map fun f => (f.path, f))).values = files := by
    rw [Assoc.ofPairs_of_nodup hnodup]
    simp [Assoc.values, Function.comp_def]
  rw [byPath, hvalues, mergeSort_of_ordered h]

theorem typesIn_of_ordered {files : List OutlinedFile}
    (hpaths : (files.map (·.path)).Pairwise (· < ·))
    (houtlines : files.map (·.outline.path) = files.map (·.path)) :
    typesIn files = TypeTable.ofFragments (files.flatMap (·.outline.types)) := by
  rw [typesIn, TypeTable.ofOutlines_of_ordered, List.flatMap_map]
  rw [List.map_map]
  exact houtlines ▸ hpaths

theorem build_of_ordered (analysis : AnalysisSettings) {files : List OutlinedFile}
    (hpaths : (files.map (·.path)).Pairwise (· < ·))
    (houtlines : files.map (·.outline.path) = files.map (·.path)) :
    build analysis files = buildInOrder analysis files := by
  have htypes := typesIn_of_ordered hpaths houtlines
  rw [typesIn] at htypes
  rw [build, byPath_of_ordered hpaths, htypes]
  rfl

/-- What can be computed of files in order holds of the space that is built of them. -/
theorem exists_build_of_any {analysis : AnalysisSettings} {files : List OutlinedFile}
    (hpaths : (files.map (·.path)).Pairwise (· < ·))
    (houtlines : files.map (·.outline.path) = files.map (·.path)) {holds : SymbolSpace → Bool}
    (h : (buildInOrder analysis files).toOption.any holds = true) :
    ∃ space, build analysis files = .ok space ∧ holds space = true := by
  rw [← build_of_ordered analysis hpaths houtlines] at h
  cases hbuild : build analysis files with
  | ok space => exact ⟨space, rfl, by simpa [hbuild, Except.toOption] using h⟩
  | error fault => simp [hbuild, Except.toOption] at h

/-- The symbol space of files in the order in which they come, with the default settings and with
no bases where base lists cannot be resolved. -/
def inOrder (files : List OutlinedFile) : SymbolSpace :=
  let types := TypeTable.ofFragments (files.flatMap (·.outline.types))
  let bases := ((types.baseTable (importsIn files)).toOption).getD []
  { analysis := {}, files, types, bases
    inheriting := bases.inheritance ({} : AnalysisSettings).baseType types }

/-- Files in order whose base lists can be resolved make up a space that can be written down. -/
theorem build_inOrder {files : List OutlinedFile}
    (hpaths : (files.map (·.path)).Pairwise (· < ·))
    (houtlines : files.map (·.outline.path) = files.map (·.path))
    (hbases : (((TypeTable.ofFragments (files.flatMap (·.outline.types))).baseTable
      (importsIn files)).toOption).isSome = true) :
    build {} files = .ok (inOrder files) := by
  rw [build_of_ordered {} hpaths houtlines, buildInOrder, inOrder]
  cases hbuild : (TypeTable.ofFragments (files.flatMap (·.outline.types))).baseTable
      (importsIn files) with
  | ok bases => rfl
  | error fault => simp [hbuild, Except.toOption] at hbases

end SymbolSpace

namespace Sketch

/-- A leaf with its text. -/
def word (kind text : String) (field : Option String) : Tree :=
  .node { (default : NodeInfo) with kind, field, text, named := true } []

/-- A token that is its own kind, such as a keyword or a sign. -/
def token (text : String) : Tree :=
  .node { (default : NodeInfo) with kind := text, text } []

/-- A leaf with its text at a position of the source. -/
def wordAt (start : Nat) (kind text : String) (field : Option String) : Tree :=
  .node { (default : NodeInfo) with
    kind, field, text, start, stop := start + text.length, named := true } []

/-- A node over others. -/
def group (kind : String) (field : Option String) (children : List Tree) : Tree :=
  .node { (default : NodeInfo) with kind, field, named := true } children

def classDecl (modifiers : List String) (name : String) (bases : List String)
    (members : List Tree) : Tree :=
  group "class_declaration" none
    (modifiers.map (word "modifier" · none) ++
      [word "identifier" name "name",
        group "base_list" none (bases.map (word "identifier" · none)),
        group "declaration_list" "body" members])

def namespaceDecl (name : String) (parts : List Tree) : Tree :=
  group "namespace_declaration" none
    [word "identifier" name "name", group "declaration_list" "body" parts]

def usingOf (target : String) : Tree :=
  group "using_directive" none [word "identifier" target none]

def file (path : String) (parts : List Tree) : SourceFile :=
  { path, source := .ofText "", tree := group "compilation_unit" none parts }

def textFile (path text : String) (parts : List Tree) : SourceFile :=
  { file path parts with source := .ofText text }

/-- A declaration with an attribute in front of it. -/
def marked (mark : String) : Tree → Tree
  | .node info children =>
      .node info
        (group "attribute_list" none
          [group "attribute" none [word "identifier" mark "name"]] :: children)

def fieldDecl (type name : String) : Tree :=
  group "field_declaration" none
    [group "variable_declaration" none
      [word "identifier" type "type",
        group "variable_declarator" none [word "identifier" name "name"]]]

def methodDecl (modifiers : List String) (name : String) (parts : List Tree) : Tree :=
  group "method_declaration" none
    (modifiers.map (word "modifier" · none) ++
      [word "identifier" name "name", group "block" "body" parts])

def access (field : Option String) (receiver name : String) : Tree :=
  group "member_access_expression" field
    [word "identifier" receiver "expression", word "identifier" name "name"]

def call (function : Tree) : Tree :=
  group "invocation_expression" none [function, group "argument_list" "arguments" []]

/-- Files as a space with the default settings is made of them. -/
def outlined (files : List SourceFile) : List OutlinedFile :=
  files.map (.ofFile · ({} : AnalysisSettings).markerImport)

end Sketch
end SandboxLint
