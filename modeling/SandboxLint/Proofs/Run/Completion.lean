import SandboxLint.Program
import SandboxLint.Proofs.Corpus.BaseFault
import SandboxLint.Proofs.Sink

/-!
When a run has a result. Once something could be parsed, only the making of the
symbol space can end a run, and it does so exactly for the base names that break
it. Everything else that goes wrong is tied to one file and becomes an error of
that file in the result.
-/

namespace SandboxLint

theorem Corpus.buildTolerant_eq_ok_iff {analysis : AnalysisSettings} {units : List OutlinedFile}
    {corpus : Corpus} {faults : List (String × Fault)} :
    buildTolerant analysis units = .ok (corpus, faults) ↔
      ∃ space, SymbolSpace.build analysis units = .ok space ∧
        corpus = ofIndexes space
          (successesOf (space.files.map fun unit => (unit.path, space.index unit))) ∧
        faults = faultsOf (space.files.map fun unit => (unit.path, space.index unit)) := by
  rw [buildTolerant, Fallible.bind_eq_ok]
  refine exists_congr fun space => and_congr_right fun _ => ?_
  simp only [pure, Except.pure, Except.ok.injEq, Prod.mk.injEq]
  exact and_congr eq_comm eq_comm

theorem Corpus.mem_faultsOf {α : Type} {results : List (String × Except Fault α)} {path : String}
    {fault : Fault} : (path, fault) ∈ faultsOf results ↔ (path, .error fault) ∈ results := by
  rw [faultsOf, List.mem_filterMap]
  constructor
  · rintro ⟨⟨path', result⟩, hmem, hfault⟩
    cases result with
    | ok value => simp at hfault
    | error fault' =>
        simp only [Option.some.injEq, Prod.mk.injEq] at hfault
        obtain ⟨rfl, rfl⟩ := hfault
        exact hmem
  · exact fun hmem => ⟨_, hmem, rfl⟩

namespace Run

/-- The files that a run takes together, outlined. -/
def units (analysis : AnalysisSettings) (files : List Loaded) : List OutlinedFile :=
  (files.filterMap (·.file?)).map fun file => .ofFile file analysis.markerImport

def types (analysis : AnalysisSettings) (files : List Loaded) : TypeTable :=
  SymbolSpace.typesIn (SymbolSpace.byPath (units analysis files))

def importsAt (analysis : AnalysisSettings) (files : List Loaded) (path : String) : Imports :=
  SymbolSpace.importsIn (SymbolSpace.byPath (units analysis files)) path

theorem nothing_parsed_iff {files : List Loaded} :
    ((files.filterMap (·.file?)).isEmpty && !files.isEmpty) = true ↔
      ¬ (files = [] ∨ ∃ file, Loaded.parsed file ∈ files) := by
  have hparsed : (files.filterMap (·.file?)).isEmpty = true ↔
      ¬ ∃ file, Loaded.parsed file ∈ files := by
    rw [List.isEmpty_iff, List.filterMap_eq_nil_iff]
    constructor
    · rintro h ⟨file, hmem⟩
      cases h _ hmem
    · intro h loaded hmem
      cases loaded with
      | parsed file => exact absurd ⟨file, hmem⟩ h
      | unreadable | unparsable => rfl
  rw [Bool.and_eq_true, hparsed, not_or, and_comm]
  simp

/-- The diagnostics of a run are those of files that could not be read against the symbol space
and what the rules found. -/
theorem check_eq_ok {analysis : AnalysisSettings} {registry : Registry} {files : List Loaded}
    {result : LintResult} (h : check analysis registry files = .ok result) :
    (files = [] ∨ ∃ file, Loaded.parsed file ∈ files) ∧
      ∃ corpus faults, Corpus.buildTolerant analysis (units analysis files) = .ok (corpus, faults) ∧
        ∀ d, d ∈ result.diagnostics ↔ d ∈ faultDiagnostics faults ++
          (evaluate (effectiveRegistry registry) corpus).diagnostics := by
  simp only [check] at h
  split at h
  · cases h
  · next hsome =>
      rw [nothing_parsed_iff, not_not] at hsome
      refine ⟨hsome, ?_⟩
      split at h
      · cases h
      · next corpus faults hcorpus =>
          cases h
          refine ⟨corpus, faults, hcorpus, fun d => ?_⟩
          simp only [Sink.sorted, List.mem_mergeSort, Sink.items_extend, List.nil_append]

/-- A run over files has a result exactly when there is something to look at and no base name
breaks the symbol space. -/
theorem check_isOk_iff {analysis : AnalysisSettings} {registry : Registry}
    {files : List Loaded} :
    (∃ result, check analysis registry files = .ok result) ↔
      (files = [] ∨ ∃ file, Loaded.parsed file ∈ files) ∧
      ∀ decl ∈ types analysis files, ∀ name ∈ decl.baseNames,
        ¬ (types analysis files).Breaks (importsAt analysis files decl.path) decl name := by
  have hspace := SymbolSpace.build_isOk_iff_of_outlined analysis
    (SymbolSpace.outlined_ofFile (files.filterMap (·.file?)) analysis.markerImport)
  constructor
  · rintro ⟨result, h⟩
    obtain ⟨hsome, corpus, faults, hcorpus, -⟩ := check_eq_ok h
    obtain ⟨space, hbuild, -⟩ := Corpus.buildTolerant_eq_ok_iff.1 hcorpus
    exact ⟨hsome, hspace.1 ⟨space, hbuild⟩⟩
  · rintro ⟨hsome, hunbroken⟩
    obtain ⟨space, hbuild⟩ := hspace.2 hunbroken
    have hcorpus := Corpus.buildTolerant_eq_ok_iff.2 ⟨space, hbuild, rfl, rfl⟩
    have hguard : ¬ ((files.filterMap (·.file?)).isEmpty && !files.isEmpty) = true := by
      rw [nothing_parsed_iff, not_not]
      exact hsome
    simp only [check, hguard, hcorpus]
    exact ⟨_, rfl⟩

/-- The rules that run on the file at a path, with the call graph where they are given it: on
entry files the structural and semantic ones, on helper files those of the call graph. -/
inductive Phase (registry : Registry) (corpus : Corpus) :
    Option CallGraph → List Rule → String → Prop
  | entry {path : String} (entry : path ∈ corpus.space.entryFiles) :
      Phase registry corpus none
        (registry.ofFamily .structural corpus.space.analysis.disabledRules ++
          registry.ofFamily .semantic corpus.space.analysis.disabledRules) path
  | helper {path : String}
      (helper : path ∈
        (CallGraph.buildTolerant corpus corpus.space.entryFiles).1.helperFiles) :
      Phase registry corpus (some (CallGraph.buildTolerant corpus corpus.space.entryFiles).1)
        (registry.ofFamily .callGraph corpus.space.analysis.disabledRules) path

/-- A failure that comes up while one file of a corpus is processed: while it is read against the
symbol space, while its calls are followed, or while the rules of its phase run. -/
inductive Fails (registry : Registry) (corpus : Corpus) : String → Failure → Prop
  | index {unit : OutlinedFile} {fault : Fault} (file : unit ∈ corpus.space.files)
      (failed : corpus.space.index unit = .error fault) :
      Fails registry corpus unit.path (.fault fault)
  | scan {path : String} {fault : Fault} (entry : path ∈ corpus.space.entryFiles)
      (failed : CallGraph.scan corpus path = .error fault) :
      Fails registry corpus path (.fault fault)
  | rule {path : String} {graph : Option CallGraph} {before rest : List Rule} {rule : Rule}
      {unit : OutlinedFile} {failure : Failure}
      (phase : Phase registry corpus graph (before ++ rule :: rest) path)
      (file : corpus.space.file? path = some unit)
      (passed : ∀ earlier ∈ before, ∃ found,
        earlier.run (.ofCorpus corpus unit graph) = .ok found)
      (failed : rule.run (.ofCorpus corpus unit graph) = .error failure) :
      Fails registry corpus path failure

/-- The first rule that fails is reported, whatever the rules before it found. -/
theorem mem_runRules_of_error {input : RuleInput} {before rest : List Rule} {rule : Rule}
    {failure : Failure} (passed : ∀ earlier ∈ before, ∃ found, earlier.run input = .ok found)
    (failed : rule.run input = .error failure) :
    failureDiagnostic input.unit.path failure ∈ runRules input (before ++ rule :: rest) := by
  induction before with
  | nil => simp [runRules, failed]
  | cons first before ih =>
      obtain ⟨found, hfound⟩ := passed first List.mem_cons_self
      have hrest := ih fun r hr => passed r (List.mem_cons_of_mem _ hr)
      simp only [List.cons_append, runRules, hfound, List.mem_append]
      exact .inr hrest

theorem mem_runOn {corpus : Corpus} {graph : Option CallGraph} {rules : List Rule}
    {paths : List String} {path : String} {unit : OutlinedFile} {d : Diagnostic}
    (hpath : path ∈ paths) (hfile : corpus.space.file? path = some unit)
    (h : d ∈ runRules (.ofCorpus corpus unit graph) rules) :
    d ∈ runOn corpus graph rules paths := by
  rw [runOn, List.mem_flatMap]
  exact ⟨path, hpath, by simpa only [hfile] using h⟩

theorem helperFiles_of_no_entries {corpus : Corpus} (h : corpus.space.entryFiles = []) :
    (CallGraph.buildTolerant corpus corpus.space.entryFiles).1.helperFiles = [] := by
  simp [CallGraph.buildTolerant, h, Text.sorted, CallGraph.helperFiles, Text.sortedSet, Assoc.keys]

/-- What the rules of a phase find in a file is among the findings. -/
theorem Phase.mem_evaluate {registry : Registry} {corpus : Corpus} {graph : Option CallGraph}
    {rules : List Rule} {path : String} {unit : OutlinedFile} {d : Diagnostic}
    (phase : Phase registry corpus graph rules path)
    (hfile : corpus.space.file? path = some unit)
    (h : d ∈ runRules (.ofCorpus corpus unit graph) rules) :
    d ∈ (evaluate registry corpus).diagnostics := by
  have hentries : corpus.space.entryFiles.isEmpty = false := by
    rw [List.isEmpty_eq_false_iff]
    intro hnone
    cases phase with
    | entry hmem => simp [hnone] at hmem
    | helper hmem => simp [helperFiles_of_no_entries hnone] at hmem
  simp only [evaluate, hentries, Bool.false_eq_true, if_false, List.mem_append]
  cases phase with
  | entry hmem => exact .inl (.inl (mem_runOn hmem hfile h))
  | helper hmem => exact .inr (mem_runOn hmem hfile h)

theorem mem_evaluate_of_scan {registry : Registry} {corpus : Corpus} {path : String}
    {fault : Fault} (hentry : path ∈ corpus.space.entryFiles)
    (h : CallGraph.scan corpus path = .error fault) :
    failureDiagnostic path (.fault fault) ∈ (evaluate registry corpus).diagnostics := by
  have hentries : corpus.space.entryFiles.isEmpty = false :=
    List.isEmpty_eq_false_iff.2 (List.ne_nil_of_mem hentry)
  simp only [evaluate, hentries, Bool.false_eq_true, if_false, List.mem_append]
  refine .inl (.inr (List.mem_map.2 ⟨(path, fault), Corpus.mem_faultsOf.2 ?_, rfl⟩))
  exact List.mem_map.2 ⟨path, List.mem_mergeSort.2 hentry, by rw [h]⟩

/-- What fails for one file is an error of that file in the result. -/
theorem mem_diagnostics_of_fails {analysis : AnalysisSettings} {registry : Registry}
    {files : List Loaded} {result : LintResult}
    (h : check analysis registry files = .ok result) :
    ∃ corpus faults, Corpus.buildTolerant analysis (units analysis files) = .ok (corpus, faults) ∧
      ∀ path failure, Fails (effectiveRegistry registry) corpus path failure →
        failureDiagnostic path failure ∈ result.diagnostics := by
  obtain ⟨-, corpus, faults, hcorpus, hmem⟩ := check_eq_ok h
  refine ⟨corpus, faults, hcorpus, fun path failure hfails => (hmem _).2 (List.mem_append.2 ?_)⟩
  cases hfails with
  | index hfile hfailed =>
      obtain ⟨space, -, rfl, rfl⟩ := Corpus.buildTolerant_eq_ok_iff.1 hcorpus
      refine .inl (List.mem_map.2 ⟨_, Corpus.mem_faultsOf.2 (List.mem_map.2 ⟨_, hfile, ?_⟩), rfl⟩)
      exact congrArg (Prod.mk _) hfailed
  | scan hentry hfailed => exact .inr (mem_evaluate_of_scan hentry hfailed)
  | @rule _ _ _ _ _ unit _ phase hfile hpassed hfailed =>
      have hunit : unit.path = path := by simpa using List.find?_some hfile
      subst hunit
      exact .inr (phase.mem_evaluate hfile (mem_runRules_of_error hpassed hfailed))

end Run

namespace Lint

/-- The files at some paths as far as they could be looked at. -/
def loadedFrom (disk : Disk) (parser : Parser) (paths : List Path) : List Loaded :=
  paths.filterMap fun path => (Loaded.ofDisk disk parser path).toOption

theorem eq_loadedFrom {disk : Disk} {parser : Parser} {paths : List Path} {files : List Loaded}
    (h : paths.mapM (Loaded.ofDisk disk parser) = .ok files) :
    files = loadedFrom disk parser paths := by
  have hall := Fallible.mapM_eq_ok.1 h
  clear h
  induction hall with
  | nil => rfl
  | cons hloaded _ ih =>
      rw [ih]
      simp [loadedFrom, hloaded, Except.toOption]

theorem loadFiles_eq_ok_iff {disk : Disk} {parser : Parser} {paths : List Path}
    {files : List Loaded} :
    loadFiles disk parser paths = .ok files ↔
      (∀ path ∈ paths, ∃ loaded, Loaded.ofDisk disk parser path = .ok loaded) ∧
        files = loadedFrom disk parser paths := by
  have hload : loadFiles disk parser paths = .ok files ↔
      paths.mapM (Loaded.ofDisk disk parser) = .ok files := by
    rw [loadFiles]
    cases paths.mapM (Loaded.ofDisk disk parser) <;> simp [Except.mapError]
  rw [hload, ← Fallible.mapM_isOk_iff]
  constructor
  · exact fun h => ⟨⟨files, h⟩, eq_loadedFrom h⟩
  · rintro ⟨⟨files', h⟩, rfl⟩
    rwa [← eq_loadedFrom h]

theorem loadedFrom_eq_nil_iff {disk : Disk} {parser : Parser} {paths : List Path}
    (h : ∀ path ∈ paths, ∃ loaded, Loaded.ofDisk disk parser path = .ok loaded) :
    loadedFrom disk parser paths = [] ↔ paths = [] := by
  rw [loadedFrom, List.filterMap_eq_nil_iff]
  constructor
  · intro hnone
    refine List.eq_nil_iff_forall_not_mem.2 fun path hpath => ?_
    obtain ⟨loaded, hloaded⟩ := h path hpath
    simpa [hloaded, Except.toOption] using hnone path hpath
  · rintro rfl
    simp

theorem checkLoaded_eq_ok_iff {settings : Settings} {registry : Registry} {files : List Loaded}
    {result : LintResult} : checkLoaded settings registry files = .ok result ↔
      Run.check settings.analysis registry files = .ok result := by
  rw [checkLoaded]
  cases Run.check settings.analysis registry files <;> simp [Except.mapError]

theorem checkFiles_eq_ok_iff {disk : Disk} {parser : Parser} {settings : Settings}
    {registry : Registry} {paths : List Path} {result : LintResult} :
    checkFiles disk parser settings registry paths = .ok result ↔
      (∀ path ∈ paths, ∃ loaded, Loaded.ofDisk disk parser path = .ok loaded) ∧
        Run.check settings.analysis registry (loadedFrom disk parser paths) = .ok result := by
  rw [checkFiles]
  constructor
  · intro h
    split at h
    · next files hfiles =>
        obtain ⟨hload, rfl⟩ := loadFiles_eq_ok_iff.1 hfiles
        exact ⟨hload, checkLoaded_eq_ok_iff.1 h⟩
    · cases h
  · rintro ⟨hload, h⟩
    rw [loadFiles_eq_ok_iff.2 ⟨hload, rfl⟩]
    exact checkLoaded_eq_ok_iff.2 h

/-- Linting files has a result exactly when every path can be looked at, something could be parsed
where files were given, and no base name breaks the symbol space; and then whatever fails for one
file is an error of that file, with code 0, in the result. -/
theorem checkFiles_isOk_iff (disk : Disk) (parser : Parser) (settings : Settings)
    (registry : Registry) (paths : List Path) :
    ((∃ result, checkFiles disk parser settings registry paths = .ok result) ↔
      (∀ path ∈ paths, ∃ loaded, Loaded.ofDisk disk parser path = .ok loaded) ∧
      (paths = [] ∨ ∃ file, Loaded.parsed file ∈ loadedFrom disk parser paths) ∧
      ∀ decl ∈ Run.types settings.analysis (loadedFrom disk parser paths),
        ∀ name ∈ decl.baseNames,
          ¬ (Run.types settings.analysis (loadedFrom disk parser paths)).Breaks
            (Run.importsAt settings.analysis (loadedFrom disk parser paths) decl.path)
            decl name) ∧
    ∀ result, checkFiles disk parser settings registry paths = .ok result →
      ∃ corpus faults,
        Corpus.buildTolerant settings.analysis
          (Run.units settings.analysis (loadedFrom disk parser paths)) = .ok (corpus, faults) ∧
        ∀ path failure, Run.Fails (Run.effectiveRegistry registry) corpus path failure →
          Run.failureDiagnostic path failure ∈ result.diagnostics := by
  constructor
  · simp only [checkFiles_eq_ok_iff, exists_and_left, Run.check_isOk_iff]
    refine and_congr_right fun hload => and_congr_left fun _ => ?_
    rw [or_congr_left (loadedFrom_eq_nil_iff hload)]
  · intro result h
    exact Run.mem_diagnostics_of_fails (checkFiles_eq_ok_iff.1 h).2

end Lint
end SandboxLint
