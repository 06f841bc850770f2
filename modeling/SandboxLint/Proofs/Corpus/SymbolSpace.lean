import SandboxLint.Corpus.SymbolSpace
import SandboxLint.Proofs.Corpus.Resolve
import SandboxLint.Proofs.Corpus.TypeTable

/-!
What a symbol space that was built consists of. Its base graph has one entry for
each of its types, and every base of a type is again a type of the space.
-/

namespace SandboxLint
namespace SymbolSpace

/-- A symbol space made from files: its parts belong together. -/
structure Built (analysis : AnalysisSettings) (files : List OutlinedFile) (space : SymbolSpace) :
    Prop where
  analysis_eq : space.analysis = analysis
  files_eq : space.files = byPath files
  types_eq : space.types = TypeTable.ofOutlines (space.files.map (·.outline))
  bases_eq : space.types.baseTable space.imports = .ok space.bases
  inheriting_eq : space.inheriting = space.bases.inheritance analysis.baseType space.types

theorem built_of_build {analysis : AnalysisSettings} {files : List OutlinedFile}
    {space : SymbolSpace} (h : build analysis files = .ok space) :
    Built analysis files space := by
  obtain ⟨bases, hbases, hspace⟩ := Fallible.bind_eq_ok.1 h
  cases hspace
  exact ⟨rfl, rfl, rfl, hbases, rfl⟩

def typesIn (files : List OutlinedFile) : TypeTable :=
  .ofOutlines (files.map (·.outline))

/-- Files make up a symbol space exactly when their base lists can be resolved. -/
theorem build_isOk_iff {analysis : AnalysisSettings} {files : List OutlinedFile} :
    (∃ space, build analysis files = .ok space) ↔
      ∃ bases, (typesIn (byPath files)).baseTable (importsIn (byPath files)) = .ok bases := by
  constructor
  · rintro ⟨space, h⟩
    obtain ⟨bases, hbases, -⟩ := Fallible.bind_eq_ok.1 h
    exact ⟨bases, hbases⟩
  · rintro ⟨bases, hbases⟩
    exact ⟨_, Fallible.bind_eq_ok.2 ⟨bases, hbases, rfl⟩⟩

variable {analysis : AnalysisSettings} {files : List OutlinedFile} {space : SymbolSpace}

namespace Built

theorem eq_of_qualifiedName_eq (built : Built analysis files space) {a b : TypeDecl}
    (ha : a ∈ space.types) (hb : b ∈ space.types) (h : a.qualifiedName = b.qualifiedName) :
    a = b := by
  rw [built.types_eq] at ha hb
  exact TypeTable.eq_of_qualifiedName_eq ha hb h

theorem nodup_qualifiedNames (built : Built analysis files space) :
    (space.types.map (·.qualifiedName)).Nodup := by
  rw [built.types_eq]
  exact TypeTable.nodup_qualifiedNames _

private theorem key_of_entry {table : TypeTable} {imports : String → Imports} (decl : TypeDecl)
    (entry : String × List TypeDecl)
    (h : (do return (decl.qualifiedName, ← table.resolveBases imports decl) :
      Except Fault (String × List TypeDecl)) = .ok entry) : entry.1 = decl.qualifiedName := by
  obtain ⟨bases, -, hentry⟩ := Fallible.bind_eq_ok.1 h
  cases hentry
  rfl

theorem keys_bases (built : Built analysis files space) :
    Assoc.keys space.bases = space.types.map (·.qualifiedName) :=
  Fallible.map_of_mapM built.bases_eq key_of_entry

/-- The entry of a type in the base graph is what its base list resolves to. -/
theorem get?_bases (built : Built analysis files space) {decl : TypeDecl}
    (hdecl : decl ∈ space.types) :
    ∃ bases, space.bases.get? decl.qualifiedName = some bases ∧
      space.types.resolveBases space.imports decl = .ok bases := by
  obtain ⟨entry, hmem, hentry⟩ := Fallible.exists_of_mem_of_mapM built.bases_eq hdecl
  obtain ⟨bases, hbases, heq⟩ := Fallible.bind_eq_ok.1 hentry
  cases heq
  have hnodup : (Assoc.keys space.bases).Nodup := by
    rw [built.keys_bases]
    exact built.nodup_qualifiedNames
  exact ⟨bases, (Assoc.get?_eq_some_iff_mem hnodup).2 hmem, hbases⟩

theorem resolveBases_eq (built : Built analysis files space) {decl : TypeDecl}
    (hdecl : decl ∈ space.types) :
    space.types.resolveBases space.imports decl = .ok (space.basesOf decl) := by
  obtain ⟨bases, hget, hbases⟩ := built.get?_bases hdecl
  rw [hbases, basesOf, BaseTable.basesOf, hget, Option.getD_some]

/-- A type is a base of another exactly when a base name of the other resolves to it. -/
theorem mem_basesOf_iff (built : Built analysis files space) {decl base : TypeDecl}
    (hdecl : decl ∈ space.types) :
    base ∈ space.basesOf decl ↔
      base.qualifiedName ≠ decl.qualifiedName ∧ ∃ name ∈ decl.baseNames,
        space.types.resolveText none (space.types.baseSite space.imports decl) name =
          .ok (some base) :=
  TypeTable.mem_of_resolveBases (built.resolveBases_eq hdecl)

theorem mem_types_of_mem_basesOf (built : Built analysis files space) {decl base : TypeDecl}
    (hdecl : decl ∈ space.types) (hbase : base ∈ space.basesOf decl) : base ∈ space.types := by
  obtain ⟨-, name, -, hname⟩ := (built.mem_basesOf_iff hdecl).1 hbase
  exact (TypeTable.outcome_of_resolveText hname).1

end Built
end SymbolSpace
end SandboxLint
