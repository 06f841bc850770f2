import SandboxLint.Proofs.Run.EntryHelpers

/-!
The findings behind the diagnostics. A run with the rules of the catalog reports what
these rules find in the files of its corpus, and beside it only files that could not be
processed, which have a code of their own.
-/

namespace SandboxLint
namespace Run

variable {corpus : Corpus} {unit : OutlinedFile} {graph : Option CallGraph} {rule : Rule}
  {finding : Finding} {d : Diagnostic}

/-- A rule of the catalog finds something in a file of a corpus. -/
structure Found (corpus : Corpus) (unit : OutlinedFile) (graph : Option CallGraph) (rule : Rule)
    (finding : Finding) : Prop where
  file : unit ∈ corpus.space.files
  catalogued : rule ∈ Registry.catalogRules
  reports : ∃ found, rule.evaluate (.ofCorpus corpus unit graph) = .ok found ∧ finding ∈ found

theorem Found.of_mem_findingsAt {path : String} (hrule : rule ∈ Registry.catalogRules)
    (h : d ∈ findingsAt corpus graph path rule) : ∃ unit finding,
      Found corpus unit graph rule finding ∧
        d = rule.diagnostic (.ofCorpus corpus unit graph) finding := by
  obtain ⟨unit, found, hfile, hfound, finding, hfinding, hd⟩ := mem_findingsAt.1 h
  exact ⟨unit, finding, ⟨List.mem_of_find?_eq_some hfile, hrule, found, hfound, hfinding⟩, hd⟩

/-- Every diagnostic of a run with the catalog is a finding of one of its rules, unless it has the
code of files that could not be processed. -/
theorem exists_found {skipped : List String}
    (h : d ∈ (resultOf .catalog corpus skipped).diagnostics) (hcode : d.code ≠ 0) :
    ∃ unit graph rule finding, Found corpus unit graph rule finding ∧
      d = rule.diagnostic (.ofCorpus corpus unit graph) finding := by
  have hdelivered := (diagnostics_perm_delivered _ _ _).mem_iff.1 h
  rw [delivered_of_success (Lint.rulesSucceed_catalog corpus)] at hdelivered
  simp only [List.mem_append, entryFindings, helperFindings, List.mem_flatMap] at hdelivered
  obtain hindex | (⟨path, -, rule, hrule, hd⟩ | hscan) | ⟨path, -, rule, hrule, hd⟩ := hdelivered
  · exact absurd (code_of_mem_faultDiagnostics hindex) hcode
  · obtain ⟨unit, finding, hfound⟩ := Found.of_mem_findingsAt (mem_of_mem_entryRules hrule) hd
    exact ⟨unit, none, rule, finding, hfound⟩
  · exact absurd (code_of_mem_faultDiagnostics hscan) hcode
  · obtain ⟨unit, finding, hfound⟩ :=
      Found.of_mem_findingsAt (Registry.mem_of_mem_ofFamily hrule) hd
    exact ⟨unit, _, rule, finding, hfound⟩

/-- What an enabled rule of the catalog finds in an entry file is reported. -/
theorem Found.mem_diagnostics (h : Found corpus unit none rule finding)
    (hentry : unit.path ∈ corpus.space.entryFiles)
    (hfile : corpus.space.file? unit.path = some unit)
    (henabled : rule ∈ entryRules .catalog corpus.space.analysis.disabledRules)
    (skipped : List String) :
    rule.diagnostic (.ofCorpus corpus unit none) finding ∈
      (resultOf .catalog corpus skipped).diagnostics := by
  obtain ⟨found, hfound, hmem⟩ := h.reports
  refine (diagnostics_perm_delivered _ _ _).mem_iff.2 ?_
  rw [delivered_of_success (Lint.rulesSucceed_catalog corpus)]
  refine List.mem_append_right _ (List.mem_append_left _ (List.mem_append_left _ ?_))
  refine List.mem_flatMap.2 ⟨unit.path, hentry, List.mem_flatMap.2 ⟨rule, henabled, ?_⟩⟩
  exact mem_findingsAt.2 ⟨unit, found, hfile, hfound, finding, hmem, rfl⟩

/-- The run over files that could all be parsed is the run over the corpus of their symbol space. -/
theorem check_parsed {analysis : AnalysisSettings} {sources : List SourceFile}
    (hsome : sources ≠ []) {space : SymbolSpace}
    (hbuild : SymbolSpace.build analysis (sources.map (.ofFile · analysis.markerImport)) =
      .ok space) :
    check analysis .catalog (sources.map .parsed) =
      .ok (resultOf .catalog (.ofSpace space) []) := by
  obtain ⟨first, hfirst⟩ := List.exists_mem_of_ne_nil sources hsome
  have hfiles : (sources.map Loaded.parsed).filterMap (·.file?) = sources := by
    rw [List.filterMap_map]
    exact List.filterMap_some
  have hskipped : (sources.map Loaded.parsed).filterMap (·.skipped?) = [] := by
    rw [List.filterMap_map]
    exact List.filterMap_eq_nil_iff.2 fun _ _ => rfl
  rw [← hfiles] at hbuild
  have hcorpus := Corpus.buildTolerant_eq_ok_iff.2 ⟨space, hbuild, rfl, rfl⟩
  refine check_eq_ok_iff.2
    ⟨.inr ⟨first, List.mem_map_of_mem hfirst⟩, .ofSpace space, _, hcorpus, ?_⟩
  rw [hskipped]
  rfl

theorem filter_enabled_of_code (registry : Registry) {code : Int}
    (hrule : registry.rules.filter (·.code == code) = [rule]) (family : RuleFamily)
    (disabled : List Int) :
    (registry.enabled family disabled).filter (·.code == code) =
      [rule].filter fun rule => rule.family == family && !disabled.contains rule.code := by
  rw [Registry.enabled, List.filter_filter]
  simp only [Bool.and_comm (_ == code)]
  rw [← List.filter_filter, hrule]

/-- What is reported under the code of a structural rule is what the rule finds in the entry
files. -/
theorem countP_code_of_structural {code : Int}
    (hrule : Registry.catalogRules.filter (·.code == code) = [rule])
    (hfamily : rule.family = .structural) (hcode : code ≠ 0)
    (henabled : rule.code ∉ corpus.space.analysis.disabledRules) (skipped : List String) :
    (resultOf .catalog corpus skipped).diagnostics.countP (·.code == code) =
      (corpus.space.entryFiles.map fun path => (findingsAt corpus none path rule).length).sum := by
  have henabled : (Registry.catalog.enabled .structural corpus.space.analysis.disabledRules).filter
      (·.code == code) = [rule] := by
    rw [filter_enabled_of_code .catalog hrule]
    simp [hfamily, henabled]
  have hother : ∀ family ≠ .structural,
      (Registry.catalog.enabled family corpus.space.analysis.disabledRules).filter
        (·.code == code) = [] := by
    intro family hne
    rw [filter_enabled_of_code .catalog hrule]
    simp [hfamily, hne.symm]
  have hentry : (entryFindings corpus
      (Registry.catalog.enabled .structural corpus.space.analysis.disabledRules ++
        Registry.catalog.enabled .semantic corpus.space.analysis.disabledRules)).filter
          (·.code == code) =
      corpus.space.entryFiles.flatMap fun path => findingsAt corpus none path rule := by
    rw [entryFindings, List.filter_flatMap]
    refine List.flatMap_congr fun path _ => ?_
    rw [filter_flatMap_of_key (· == code) fun _ _ => code_of_mem_findingsAt, List.filter_append,
      henabled, hother .semantic (by decide), List.append_nil, List.flatMap_singleton]
  -- Helper files and faults carry no diagnostic of this code.
  have hhelper : (helperFindings corpus
      (Registry.catalog.enabled .callGraph corpus.space.analysis.disabledRules)).filter
        (·.code == code) = [] := by
    rw [helperFindings, List.filter_flatMap]
    refine List.flatMap_eq_nil_iff.2 fun path _ => ?_
    rw [filter_flatMap_of_key (· == code) fun _ _ => code_of_mem_findingsAt,
      hother .callGraph (by decide), List.flatMap_nil]
  have hfaults : ∀ faults, (faultDiagnostics faults).filter (·.code == code) = [] := by
    intro faults
    refine List.filter_eq_nil_iff.2 fun d hd => ?_
    simpa [code_of_mem_faultDiagnostics hd] using hcode.symm
  rw [(diagnostics_perm_parts (Lint.rulesSucceed_catalog corpus) skipped).countP_eq,
    List.countP_eq_length_filter, List.filter_append, List.filter_append, List.filter_append,
    hentry, hhelper, indexFailures, scanFailures, hfaults, hfaults]
  simp only [List.append_nil, List.length_flatMap]

end Run
end SandboxLint
