import SandboxLint.Proofs.Corpus.BaseFault
import SandboxLint.Proofs.Corpus.Sketch

/-!
With which fault the making of a symbol space ends. Types are taken in the order of the table
and base names in the order of their list, and the first base name that breaks the base graph
tells the fault. A plain name of a nested type is not the only one for which the graph is needed
too early: an alias for nothing takes the qualifier from a name, and what is left is searched
in the types around as well.
-/

namespace SandboxLint

open Fallible

namespace TypeTable

variable {table : TypeTable} {imports : String → Imports} {decl : TypeDecl} {fault : Fault}

/-- The first base name that breaks the making of the base graph does so with a fault: types in
the order of the table, and the base names of each in the order of its list. -/
def BreaksFirst (table : TypeTable) (imports : String → Imports) (fault : Fault) : Prop :=
  FirstFails (fun decl => FirstFails (table.BreaksWith (imports decl.path) decl) decl.baseNames)
    table fault

theorem resolveBases_eq_error_iff
    (houter : ∀ outer, decl.outerType = some outer → (table.find? outer).isSome) :
    table.resolveBases imports decl = .error fault ↔
      FirstFails (table.BreaksWith (imports decl.path) decl) decl.baseNames fault := by
  rw [resolveBases, bind_eq_error, mapM_eq_error]
  simp only [pure, Except.pure, reduceCtorEq, and_false, exists_false, or_false]
  exact firstFails_congr fun name _ fault => resolveText_baseSite_eq_error_iff houter

theorem baseTable_eq_error_iff
    (houter : ∀ decl ∈ table, ∀ outer, decl.outerType = some outer →
      (table.find? outer).isSome) :
    table.baseTable imports = .error fault ↔ table.BreaksFirst imports fault := by
  rw [baseTable, mapM_eq_error]
  refine firstFails_congr fun decl hdecl fault => ?_
  rw [← resolveBases_eq_error_iff (houter decl hdecl), bind_eq_error]
  simp [pure, Except.pure]

theorem exists_breaksFirst_iff :
    (∃ fault, table.BreaksFirst imports fault) ↔ ∃ decl ∈ table, ∃ name ∈ decl.baseNames,
      ∃ fault, table.BreaksWith (imports decl.path) decl name fault := by
  simp only [BreaksFirst, exists_firstFails_iff]

end TypeTable

namespace SymbolSpace

/-- Files fail to make up a symbol space exactly when the base name of some type breaks the base
graph: an alias in a circle, or, in a nested type, the name of some type of the corpus that is
written plainly and is no alias or that has an alias for nothing as its whole qualifier. The
fault is that of the first such base name. -/
theorem build_eq_error_iff (analysis : AnalysisSettings) (sources : List SourceFile) :
    let units := byPath (sources.map (.ofFile · analysis.markerImport))
    ((∃ fault, build analysis (sources.map (.ofFile · analysis.markerImport)) = .error fault) ↔
      ∃ decl ∈ typesIn units, ∃ name ∈ decl.baseNames, ∃ fault,
        (typesIn units).BreaksWith (importsIn units decl.path) decl name fault) ∧
    ∀ fault, build analysis (sources.map (.ofFile · analysis.markerImport)) = .error fault ↔
      (typesIn units).BreaksFirst (importsIn units) fault := by
  intro units
  have hfault : ∀ fault,
      build analysis (sources.map (.ofFile · analysis.markerImport)) = .error fault ↔
        (typesIn units).BreaksFirst (importsIn units) fault := by
    intro fault
    have houtlined := (outlined_ofFile sources analysis.markerImport).byPath
    have hbases : (typesIn units).baseTable (importsIn units) = .error fault ↔
        (typesIn units).BreaksFirst (importsIn units) fault :=
      TypeTable.baseTable_eq_error_iff fun decl hdecl outer houter =>
        houtlined.isSome_find?_outerType hdecl houter
    rw [← hbases, build, bind_eq_error]
    simp [pure, Except.pure, units, typesIn]
  refine ⟨?_, hfault⟩
  simp only [hfault, TypeTable.exists_breaksFirst_iff]

/-- A saw in a shed, with a tool as its base that is written behind an alias for nothing. -/
def shed : SourceFile :=
  Sketch.file "Shed.cs"
    [Sketch.group "using_directive" none
        [Sketch.word "identifier" "Nothing" none, Sketch.word "=" "=" none,
          Sketch.word "identifier" "" none],
      Sketch.classDecl [] "Tool" [] [],
      Sketch.classDecl [] "Shed" [] [Sketch.classDecl [] "Saw" ["Nothing.Tool"] []]]

theorem typesIn_shed : typesIn (byPath (Sketch.outlined [shed])) =
    TypeTable.ofFragments ((Sketch.outlined [shed]).flatMap (·.outline.types)) := by
  rw [byPath_of_ordered (by decide), typesIn_of_ordered (by decide) (by decide)]

/-- The only base name of the shed has a qualifier, and yet the shed makes up no symbol space. -/
theorem build_eq_error_iff_shed :
    (∃ ref, TypeRef.parse "Nothing.Tool" = some ref ∧ ref.qualifier ≠ "") ∧
      (∀ decl ∈ typesIn (byPath (Sketch.outlined [shed])), ∀ name ∈ decl.baseNames,
        name = "Nothing.Tool") ∧
      ∃ fault, build {} (Sketch.outlined [shed]) = .error fault := by
  have hwritten : TypeRef.parse "Nothing.Tool" =
      some { name := "Tool", qualifier := "Nothing" } := by
    decide
  refine ⟨⟨_, hwritten, by decide⟩, ?_, (build_eq_error_iff {} [shed]).1.2 ?_⟩
  · rw [typesIn_shed]
    decide
  · have hsaw : ∃ saw ∈ typesIn (byPath (Sketch.outlined [shed])),
        "Nothing.Tool" ∈ saw.baseNames ∧ saw.outerType.isSome ∧ saw.path = "Shed.cs" := by
      rw [typesIn_shed]
      decide
    obtain ⟨saw, hmem, hname, hnested, hpath⟩ := hsaw
    refine ⟨saw, hmem, _, hname, _, .erased hwritten hnested ?_ ?_⟩
    · rw [hpath, byPath_of_ordered (by decide)]
      exact ⟨by decide, "Nothing", by decide, by decide, .inl rfl⟩
    · change ∃ other ∈ typesIn (byPath (Sketch.outlined [shed])), _
      rw [typesIn_shed]
      decide

end SymbolSpace
end SandboxLint
