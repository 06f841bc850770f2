import SandboxLint.Proofs.Rule.Disabled
import SandboxLint.Proofs.Run.Containment

/-!
Disabling rules. A run is the sum of its parts, so disabling further rules should take
away what they report and leave the rest. But a rule is shown which rules are disabled
and may make something of it: the rest is left exactly where every other rule finds in
each of its files what it found before. No rule of the catalog looks at it.
-/

namespace SandboxLint

theorem SymbolSpace.build_disabling {analysis : AnalysisSettings} {units : List OutlinedFile}
    {space : SymbolSpace} (h : build analysis units = .ok space) (codes : List Int) :
    build (analysis.disabling codes) units = .ok (space.disabling codes) := by
  obtain ⟨bases, hbases, hspace⟩ := Fallible.bind_eq_ok.1 h
  cases hspace
  exact Fallible.bind_eq_ok.2 ⟨bases, hbases, rfl⟩

theorem Corpus.buildTolerant_disabling {analysis : AnalysisSettings} {units : List OutlinedFile}
    {corpus : Corpus} {faults : List (String × Fault)}
    (h : buildTolerant analysis units = .ok (corpus, faults)) (codes : List Int) :
    buildTolerant (analysis.disabling codes) units = .ok (corpus.disabling codes, faults) := by
  obtain ⟨space, hspace, rfl, rfl⟩ := buildTolerant_eq_ok_iff.1 h
  refine buildTolerant_eq_ok_iff.2 ⟨_, SymbolSpace.build_disabling hspace codes, ?_, ?_⟩
  · simp only [space.index_disabling codes]
    rfl
  · simp only [space.index_disabling codes]
    rfl

/-- The corpus with codes disabled besides those that are. -/
def Corpus.alsoDisabling (corpus : Corpus) (codes : List Int) : Corpus :=
  corpus.disabling (corpus.space.analysis.disabledRules ++ codes)

def Settings.disabling (settings : Settings) (codes : List Int) : Settings :=
  { settings with analysis := settings.analysis.disabling codes }

namespace Run

variable {corpus : Corpus} {registry : Registry} {codes : List Int}

section Unchanged

theorem graphOf_disabling (corpus : Corpus) (codes : List Int) :
    graphOf (corpus.disabling codes) = graphOf corpus := by
  simp only [graphOf, CallGraph.buildTolerant, CallGraph.scan_disabling]
  rfl

theorem scanFailures_disabling (corpus : Corpus) (codes : List Int) :
    scanFailures (corpus.disabling codes) = scanFailures corpus := by
  simp only [scanFailures, CallGraph.scan_disabling]
  rfl

theorem indexFailures_disabling (corpus : Corpus) (codes : List Int) :
    indexFailures (corpus.disabling codes) = indexFailures corpus := by
  have hindex : (corpus.disabling codes).space.index = corpus.space.index :=
    funext (corpus.space.index_disabling codes)
  simp only [indexFailures, hindex]
  rfl

/-- The errors of files stay when rules are disabled. -/
theorem filter_faultDiagnostics (hcodes : 0 ∉ codes) (faults : List (String × Fault)) :
    (faultDiagnostics faults).filter (!codes.contains ·.code) = faultDiagnostics faults := by
  refine List.filter_eq_self.2 fun d hd => ?_
  rw [code_of_mem_faultDiagnostics hd]
  simpa using hcodes

end Unchanged

section Evaluations

theorem path_of_mem_findingsAt {graph : Option CallGraph} {path : String} {rule : Rule}
    {d : Diagnostic} (h : d ∈ findingsAt corpus graph path rule) : d.path = path := by
  obtain ⟨unit, _, hunit, -, finding, -, rfl⟩ := mem_findingsAt.1 h
  exact (SymbolSpace.path_of_file? hunit).2

/-- A rule that runs on the file at a path, with the call graph where it is given one. -/
structure Evaluation where
  graph : Option CallGraph
  path : String
  rule : Rule

namespace Evaluation

def found (corpus : Corpus) (evaluation : Evaluation) : List Diagnostic :=
  findingsAt corpus evaluation.graph evaluation.path evaluation.rule

/-- What tells the findings of one evaluation from those of the others. -/
def key (evaluation : Evaluation) : String × Int :=
  (evaluation.path, evaluation.rule.code)

theorem key_of_mem_found (evaluation : Evaluation) :
    ∀ d ∈ evaluation.found corpus, (d.path, d.code) = evaluation.key := by
  intro d hd
  rw [key, ← code_of_mem_findingsAt hd, path_of_mem_findingsAt hd]

end Evaluation

def evaluationsOn (graph : Option CallGraph) (rules : List Rule) (paths : List String) :
    List Evaluation :=
  paths.flatMap fun path => rules.map fun rule => { graph, path, rule }

/-- All evaluations of a run in which no rule fails. -/
def evaluations (registry : Registry) (corpus : Corpus) : List Evaluation :=
  evaluationsOn none (entryRules registry corpus.space.analysis.disabledRules)
      corpus.space.entryFiles ++
    evaluationsOn (some (graphOf corpus))
      (registry.ofFamily .callGraph corpus.space.analysis.disabledRules)
      (graphOf corpus).helperFiles

variable {evaluation : Evaluation} {graph : Option CallGraph} {rules : List Rule}
  {paths : List String}

theorem mem_evaluationsOn : evaluation ∈ evaluationsOn graph rules paths ↔
    evaluation.graph = graph ∧ evaluation.rule ∈ rules ∧ evaluation.path ∈ paths := by
  obtain ⟨given, path, rule⟩ := evaluation
  simp only [evaluationsOn, List.mem_flatMap, List.mem_map, Evaluation.mk.injEq]
  constructor
  · rintro ⟨_, hpath, _, hrule, rfl, rfl, rfl⟩
    exact ⟨rfl, hrule, hpath⟩
  · rintro ⟨rfl, hrule, hpath⟩
    exact ⟨path, hpath, rule, hrule, rfl, rfl, rfl⟩

theorem mem_evaluations_iff : evaluation ∈ evaluations registry corpus ↔
    ∃ rules, Phase registry corpus evaluation.graph rules evaluation.path ∧
      evaluation.rule ∈ rules := by
  rw [evaluations, List.mem_append, mem_evaluationsOn, mem_evaluationsOn]
  obtain ⟨graph, path, rule⟩ := evaluation
  constructor
  · rintro (⟨rfl, hrule, hpath⟩ | ⟨rfl, hrule, hpath⟩)
    · exact ⟨_, .entry hpath, hrule⟩
    · exact ⟨_, .helper hpath, hrule⟩
  · rintro ⟨rules, hphase, hrule⟩
    cases hphase with
    | entry hpath => exact .inl ⟨rfl, hrule, hpath⟩
    | helper hpath => exact .inr ⟨rfl, hrule, hpath⟩

theorem entryRules_append (registry : Registry) (disabled codes : List Int) :
    entryRules registry (disabled ++ codes) =
      (entryRules registry disabled).filter (!codes.contains ·.code) := by
  rw [entryRules, entryRules, List.filter_append, registry.ofFamily_append,
    registry.ofFamily_append]

theorem filter_evaluationsOn (keep : Rule → Bool) (graph : Option CallGraph) (rules : List Rule)
    (paths : List String) :
    (evaluationsOn graph rules paths).filter (fun evaluation => keep evaluation.rule) =
      evaluationsOn graph (rules.filter keep) paths := by
  simp [evaluationsOn, List.filter_flatMap, List.filter_map, Function.comp_def]

/-- With further codes disabled, the evaluations are those of the other rules. -/
theorem evaluations_alsoDisabling (registry : Registry) (corpus : Corpus) (codes : List Int) :
    evaluations registry (corpus.alsoDisabling codes) =
      (evaluations registry corpus).filter (!codes.contains ·.rule.code) := by
  rw [Corpus.alsoDisabling, evaluations, evaluations, graphOf_disabling, List.filter_append,
    filter_evaluationsOn (!codes.contains ·.code), filter_evaluationsOn (!codes.contains ·.code),
    ← entryRules_append, ← registry.ofFamily_append]
  rfl

theorem mem_evaluations_alsoDisabling_iff :
    evaluation ∈ evaluations registry (corpus.alsoDisabling codes) ↔
      (∃ rules, Phase registry corpus evaluation.graph rules evaluation.path ∧
        evaluation.rule ∈ rules) ∧ evaluation.rule.code ∉ codes := by
  rw [evaluations_alsoDisabling, List.mem_filter, mem_evaluations_iff]
  simp

theorem nodup_key_evaluationsOn (hpaths : paths.Nodup) (hrules : rules.Pairwise (·.code ≠ ·.code)) :
    ((evaluationsOn graph rules paths).map (·.key)).Nodup := by
  have hproduct : (evaluationsOn graph rules paths).map (·.key) = paths ×ˢ rules.map (·.code) := by
    simp [evaluationsOn, List.map_flatMap, Evaluation.key, SProd.sprod, List.product,
      Function.comp_def]
  rw [hproduct]
  exact hpaths.product (List.pairwise_map.2 hrules)

/-- An evaluation is told by its file and its code. -/
theorem nodup_key_evaluations (hregistered : registry.Registered)
    (hentries : corpus.space.entryFiles.Nodup) :
    ((evaluations registry corpus).map (·.key)).Nodup := by
  rw [evaluations, List.map_append, List.nodup_append]
  refine ⟨nodup_key_evaluationsOn hentries (hregistered.entryRules_distinct _),
    nodup_key_evaluationsOn (graphOf corpus).nodup_helperFiles
      (hregistered.ofFamily_distinct _ _), ?_⟩
  -- a file can be of both phases, but a rule is not
  intro _ hentryKey _ hhelperKey hsame
  obtain ⟨entry, hentry, rfl⟩ := List.mem_map.1 hentryKey
  obtain ⟨helper, hhelper, rfl⟩ := List.mem_map.1 hhelperKey
  obtain ⟨-, hrule, -⟩ := mem_evaluationsOn.1 hentry
  obtain ⟨-, hrule', -⟩ := mem_evaluationsOn.1 hhelper
  refine hregistered.code_ne_of_family (mem_of_mem_entryRules hrule)
    (Registry.mem_of_mem_ofFamily hrule') ?_ (congrArg Prod.snd hsame)
  rw [Registry.family_of_mem_ofFamily hrule']
  exact family_ne_of_mem_entryRules hrule

end Evaluations

section Reports

/-- What rules report in a run, failures included. -/
def ruleReports (registry : Registry) (corpus : Corpus) : List Diagnostic :=
  runOn corpus none (entryRules registry corpus.space.analysis.disabledRules)
      corpus.space.entryFiles ++
    runOn corpus (some (graphOf corpus))
      (registry.ofFamily .callGraph corpus.space.analysis.disabledRules)
      (graphOf corpus).helperFiles

theorem delivered_perm_ruleReports (registry : Registry) (corpus : Corpus) :
    (delivered registry corpus).Perm
      (ruleReports registry corpus ++ (indexFailures corpus ++ scanFailures corpus)) := by
  rw [List.perm_iff_count]
  intro d
  have hscans := (scanFailures_perm corpus).count_eq d
  simp only [delivered, ruleReports, List.count_append]
  omega

/-- Of what is delivered only the reports of rules can show which rules are disabled. -/
theorem delivered_perm_filter_iff (hcodes : 0 ∉ codes) (disabled : List Int) :
    (delivered registry (corpus.disabling disabled)).Perm
        ((delivered registry corpus).filter (!codes.contains ·.code)) ↔
      (ruleReports registry (corpus.disabling disabled)).Perm
        ((ruleReports registry corpus).filter (!codes.contains ·.code)) := by
  have hall := (delivered_perm_ruleReports registry corpus).filter (!codes.contains ·.code)
  have hfewer := delivered_perm_ruleReports registry (corpus.disabling disabled)
  rw [List.filter_append, List.filter_append, indexFailures, scanFailures,
    filter_faultDiagnostics hcodes, filter_faultDiagnostics hcodes] at hall
  rw [indexFailures_disabling, scanFailures_disabling] at hfewer
  rw [hfewer.congr_left, hall.congr_right]
  exact List.perm_append_right_iff _

theorem ruleReports_of_success (hrules : RulesSucceed registry corpus) :
    ruleReports registry corpus = (evaluations registry corpus).flatMap (·.found corpus) := by
  have hparts : ∀ graph rules paths,
      (evaluationsOn graph rules paths).flatMap (·.found corpus) =
        paths.flatMap fun path => rules.flatMap (findingsAt corpus graph path) := by
    intro graph rules paths
    rw [evaluationsOn, List.flatMap_assoc]
    simp only [List.flatMap_map]
    rfl
  rw [ruleReports, runOn_entryRules_of_success hrules, runOn_callGraph_of_success hrules,
    evaluations, List.flatMap_append, hparts, hparts]
  rfl

theorem succeed_of_code_ne {input : RuleInput} {rules : List Rule}
    (h : ∀ d ∈ runRules input rules, d.code ≠ LintCode.fileFailure) :
    ∀ rule ∈ rules, ∃ found, rule.run input = .ok found := by
  induction rules with
  | nil => simp
  | cons rule rest ih =>
      rw [runRules] at h
      cases hrun : rule.run input with
      | error failure =>
          rw [hrun] at h
          exact absurd rfl (h _ (List.mem_singleton_self _))
      | ok found =>
          rw [hrun] at h
          exact List.forall_mem_cons.2
            ⟨⟨found, hrun⟩, ih fun d hd => h d (List.mem_append_right _ hd)⟩

/-- Rules that report nothing under the code of file failures do not fail. -/
theorem rulesSucceed_of_code_ne
    (h : ∀ d ∈ ruleReports registry corpus, d.code ≠ LintCode.fileFailure) :
    RulesSucceed registry corpus := by
  intro graph rules path unit hphase hunit
  refine succeed_of_code_ne fun d hd => h d ?_
  have hon : ∀ paths, path ∈ paths → d ∈ runOn corpus graph rules paths := fun paths hpath =>
    List.mem_flatMap.2 ⟨path, hpath, by simpa only [hunit] using hd⟩
  cases hphase with
  | entry hpath => exact List.mem_append_left _ (hon _ hpath)
  | helper hpath => exact List.mem_append_right _ (hon _ hpath)

end Reports

section Keeping

/-- With further codes disabled, no other rule fails, and each finds in every file of its phase
what it found there before. -/
def KeepsFindings (registry : Registry) (corpus : Corpus) (codes : List Int) : Prop :=
  ∀ graph rules path unit, Phase registry corpus graph rules path →
    corpus.space.file? path = some unit → ∀ rule ∈ rules, rule.code ∉ codes →
      ∃ found, rule.run (.ofCorpus (corpus.alsoDisabling codes) unit graph) = .ok found ∧
        found.Perm (findingsAt corpus graph path rule)

theorem findingsAt_of_run {graph : Option CallGraph} {path : String} {unit : OutlinedFile}
    {rule : Rule} {found : List Diagnostic} (hunit : corpus.space.file? path = some unit)
    (hrun : rule.run (.ofCorpus corpus unit graph) = .ok found) :
    findingsAt corpus graph path rule = found := by
  simp only [findingsAt, hunit, hrun]
  rfl

/-- Rules that do not look at what is disabled keep their findings. -/
theorem KeepsFindings.of_ignoresDisabled (hrules : RulesSucceed registry corpus)
    (hignores : ∀ rule ∈ registry.rules, rule.code ∉ codes → rule.IgnoresDisabled) :
    KeepsFindings registry corpus codes := by
  intro graph rules path unit hphase hunit rule hrule hcode
  obtain ⟨found, hrun⟩ := hrules graph rules path unit hphase hunit rule hrule
  refine ⟨found, ?_, by rw [findingsAt_of_run hunit hrun]⟩
  rw [← hrun, Rule.run, Rule.run, Corpus.alsoDisabling,
    hignores rule (hphase.mem_rules hrule) hcode]
  rfl

/-- Findings are kept where the evaluations that are left succeed and each finds the same. -/
theorem keepsFindings_iff : KeepsFindings registry corpus codes ↔
    RulesSucceed registry (corpus.alsoDisabling codes) ∧
      ∀ evaluation ∈ evaluations registry (corpus.alsoDisabling codes),
        (evaluation.found (corpus.alsoDisabling codes)).Perm (evaluation.found corpus) := by
  constructor
  · intro hkeeps
    refine ⟨fun graph rules path unit hphase hunit rule hrule => ?_, fun evaluation hmem => ?_⟩
    · have hmem : { graph, path, rule } ∈ evaluations registry (corpus.alsoDisabling codes) :=
        mem_evaluations_iff.2 ⟨rules, hphase, hrule⟩
      obtain ⟨⟨all, hall, hrule⟩, hcode⟩ := mem_evaluations_alsoDisabling_iff.1 hmem
      obtain ⟨found, hrun, -⟩ := hkeeps graph all path unit hall hunit rule hrule hcode
      exact ⟨found, hrun⟩
    · obtain ⟨⟨all, hall, hrule⟩, hcode⟩ := mem_evaluations_alsoDisabling_iff.1 hmem
      cases hunit : corpus.space.file? evaluation.path with
      | none =>
          have hunit' : (corpus.alsoDisabling codes).space.file? evaluation.path = none := hunit
          simp [Evaluation.found, findingsAt, hunit, hunit']
      | some unit =>
          obtain ⟨found, hrun, hperm⟩ := hkeeps _ all _ unit hall hunit _ hrule hcode
          have hfound : evaluation.found (corpus.alsoDisabling codes) = found :=
            findingsAt_of_run hunit hrun
          rwa [hfound]
  · rintro ⟨hrules, hsame⟩ graph all path unit hall hunit rule hrule hcode
    have hmem : { graph, path, rule } ∈ evaluations registry (corpus.alsoDisabling codes) :=
      mem_evaluations_alsoDisabling_iff.2 ⟨⟨all, hall, hrule⟩, hcode⟩
    obtain ⟨rules, hphase, hrule⟩ := mem_evaluations_iff.1 hmem
    obtain ⟨found, hrun⟩ := hrules graph rules path unit hphase hunit rule hrule
    have hfound : Evaluation.found (corpus.alsoDisabling codes) { graph, path, rule } = found :=
      findingsAt_of_run hunit hrun
    exact ⟨found, hrun, hfound ▸ hsame _ hmem⟩

/-- With further codes disabled, rules report what they reported before and is not under one of
these codes, exactly where the findings are kept. -/
theorem ruleReports_perm_filter_iff (hregistered : registry.Registered)
    (hentries : corpus.space.entryFiles.Nodup) (hrules : RulesSucceed registry corpus) :
    (ruleReports registry (corpus.alsoDisabling codes)).Perm
        ((ruleReports registry corpus).filter (!codes.contains ·.code)) ↔
      KeepsFindings registry corpus codes := by
  have hkeys : ((evaluations registry (corpus.alsoDisabling codes)).map (·.key)).Nodup :=
    nodup_key_evaluations hregistered hentries
  have hbefore : (ruleReports registry corpus).filter (!codes.contains ·.code) =
      (evaluations registry (corpus.alsoDisabling codes)).flatMap (·.found corpus) := by
    rw [ruleReports_of_success hrules, evaluations_alsoDisabling]
    exact filter_flatMap_of_key (!codes.contains ·) fun _ _ => code_of_mem_findingsAt
  have hiff : RulesSucceed registry (corpus.alsoDisabling codes) →
      ((ruleReports registry (corpus.alsoDisabling codes)).Perm
          ((ruleReports registry corpus).filter (!codes.contains ·.code)) ↔
        ∀ evaluation ∈ evaluations registry (corpus.alsoDisabling codes),
          (evaluation.found (corpus.alsoDisabling codes)).Perm (evaluation.found corpus)) := by
    intro hfewer
    rw [hbefore, ruleReports_of_success hfewer]
    exact flatMap_perm_iff_of_key hkeys (·.key_of_mem_found) (·.key_of_mem_found)
  rw [keepsFindings_iff]
  refine ⟨fun hperm => ?_, fun ⟨hfewer, hsame⟩ => (hiff hfewer).2 hsame⟩
  -- a failure would be reported under a code that no finding has
  have hfewer : RulesSucceed registry (corpus.alsoDisabling codes) := by
    refine rulesSucceed_of_code_ne fun d hd => ?_
    have hmem := hperm.mem_iff.1 hd
    rw [hbefore] at hmem
    obtain ⟨evaluation, hevaluation, hfound⟩ := List.mem_flatMap.1 hmem
    obtain ⟨rules, hphase, hrule⟩ := mem_evaluations_iff.1 hevaluation
    rw [code_of_mem_findingsAt hfound]
    exact hregistered.apart.1 _ (hphase.mem_rules hrule)
  exact ⟨hfewer, (hiff hfewer).1 hperm⟩

theorem diagnostics_perm_filter_iff (hregistered : registry.Registered)
    (hentries : corpus.space.entryFiles.Nodup) (hrules : RulesSucceed registry corpus)
    (hcodes : 0 ∉ codes) (skipped : List String) :
    (resultOf registry (corpus.alsoDisabling codes) skipped).diagnostics.Perm
        ((resultOf registry corpus skipped).diagnostics.filter (!codes.contains ·.code)) ↔
      KeepsFindings registry corpus codes := by
  have hbefore :=
    (diagnostics_perm_delivered registry corpus skipped).filter (!codes.contains ·.code)
  rw [(diagnostics_perm_delivered registry _ skipped).congr_left, hbefore.congr_right,
    ← ruleReports_perm_filter_iff hregistered hentries hrules]
  exact delivered_perm_filter_iff hcodes _

/-- Diagnostics of a run that are kept by another one stand in the same order there. -/
theorem diagnostics_eq_filter_of_perm (hregistered : registry.Registered) {corpus' : Corpus}
    {keep : Diagnostic → Bool} {skipped skipped' : List String}
    (h : (resultOf registry corpus' skipped').diagnostics.Perm
      ((resultOf registry corpus skipped).diagnostics.filter keep)) :
    (resultOf registry corpus' skipped').diagnostics =
      (resultOf registry corpus skipped).diagnostics.filter keep := by
  have hdelivered : (delivered registry corpus').Perm ((delivered registry corpus).filter keep) :=
    (diagnostics_perm_delivered registry corpus' skipped').symm.trans
      (h.trans ((diagnostics_perm_delivered registry corpus skipped).filter keep))
  simp only [resultOf, Sink.sorted, Sink.items_extend, List.nil_append]
  rw [← Sorting.mergeSort_filter Diagnostic.ordered_trans Diagnostic.ordered_total]
  exact Sorting.mergeSort_eq_of_perm Diagnostic.ordered_trans Diagnostic.ordered_total hdelivered
    fun _ ha _ hb => delivered_apart hregistered ha hb

end Keeping

end Run

namespace Lint

/-- Disabling rules changes nothing that the corpus or the call graph is built from. -/
theorem checkFiles_disabling {disk : Disk} {parser : Parser} {settings : Settings}
    {registry : Registry} {paths : List Path} {corpus : Corpus} {faults : List (String × Fault)}
    (hload : ∀ path ∈ paths, ∃ loaded, Loaded.ofDisk disk parser path = .ok loaded)
    (hgiven : loadedFrom disk parser paths = [] ∨
      ∃ file, Loaded.parsed file ∈ loadedFrom disk parser paths)
    (hcorpus : Corpus.buildTolerant settings.analysis
      (Run.units settings.analysis (loadedFrom disk parser paths)) = .ok (corpus, faults))
    (hsome : registry.size ≠ 0) (codes : List Int) :
    checkFiles disk parser (settings.disabling codes) registry paths = .ok
      (Run.resultOf registry (corpus.disabling codes)
        ((loadedFrom disk parser paths).filterMap (·.skipped?))) :=
  checkFiles_of_corpus hload hgiven (Corpus.buildTolerant_disabling hcorpus codes) hsome

/-- A run is the sum of its parts: where no rule fails, it reports what every enabled structural or
semantic rule finds in every entry file, what every enabled call-graph rule finds in every helper
file, and the files that could not be processed, and nothing else. With further codes disabled there
is a run with the same entry and helper files, and it reports the same without these codes exactly
where the other rules keep their findings, as rules do that do not look at what is disabled. -/
theorem checkFiles_sum_of_parts {disk : Disk} {parser : Parser} {settings : Settings}
    {registry : Registry} {paths : List Path} {result : LintResult} (hsome : registry.size ≠ 0)
    (hrun : checkFiles disk parser settings registry paths = .ok result) :
    ∃ corpus faults,
      Corpus.buildTolerant settings.analysis
        (Run.units settings.analysis (loadedFrom disk parser paths)) = .ok (corpus, faults) ∧
      (Run.RulesSucceed registry corpus →
        result.diagnostics.Perm
          ((result.entryFiles.flatMap fun path =>
              (registry.enabled .structural settings.analysis.disabledRules ++
                registry.enabled .semantic settings.analysis.disabledRules).flatMap
                (Run.findingsAt corpus none path)) ++
            (result.helperFiles.flatMap fun path =>
              (registry.enabled .callGraph settings.analysis.disabledRules).flatMap
                (Run.findingsAt corpus (some (Run.graphOf corpus)) path)) ++
            (Run.indexFailures corpus ++ Run.scanFailures corpus)) ∧
        (result.entryFiles = [] →
          result.diagnostics.Perm (Run.indexFailures corpus ++ Run.scanFailures corpus))) ∧
      ∀ codes : List Int, 0 ∉ codes →
        ∃ fewer,
          checkFiles disk parser
            (settings.disabling (settings.analysis.disabledRules ++ codes)) registry paths =
              .ok fewer ∧
          fewer.entryFiles = result.entryFiles ∧ fewer.helperFiles = result.helperFiles ∧
          (registry.Registered → Run.RulesSucceed registry corpus →
            (fewer.diagnostics.Perm (result.diagnostics.filter (!codes.contains ·.code)) ↔
              Run.KeepsFindings registry corpus codes) ∧
            (Run.KeepsFindings registry corpus codes →
              fewer.diagnostics = result.diagnostics.filter (!codes.contains ·.code)) ∧
            ((∀ rule ∈ registry.rules, rule.code ∉ codes → rule.IgnoresDisabled) →
              Run.KeepsFindings registry corpus codes)) := by
  obtain ⟨hload, hcheck⟩ := checkFiles_eq_ok_iff.1 hrun
  obtain ⟨hgiven, corpus, faults, hcorpus, -⟩ := Run.check_eq_ok_iff.1 hcheck
  cases hrun.symm.trans (checkFiles_of_corpus hload hgiven hcorpus hsome)
  have built : SymbolSpace.Built settings.analysis
      (Run.units settings.analysis (loadedFrom disk parser paths)) corpus.space := by
    obtain ⟨space, hspace, rfl, -⟩ := Corpus.buildTolerant_eq_ok_iff.1 hcorpus
    exact SymbolSpace.built_of_build hspace
  refine ⟨corpus, faults, hcorpus, fun hrules => ?_, fun codes hcodes => ?_⟩
  · have hparts := Run.diagnostics_perm_parts hrules
      ((loadedFrom disk parser paths).filterMap (·.skipped?))
    rw [built.analysis_eq] at hparts
    refine ⟨hparts, fun hnone => ?_⟩
    have hentries : corpus.space.entryFiles = [] := hnone
    have hhelpers : (Run.graphOf corpus).helperFiles = [] :=
      Run.helperFiles_of_no_entries hentries
    rwa [Run.entryFindings, Run.helperFindings, hentries, hhelpers] at hparts
  · have hfewer := checkFiles_disabling hload hgiven hcorpus hsome
      (settings.analysis.disabledRules ++ codes)
    have halso : corpus.disabling (settings.analysis.disabledRules ++ codes) =
        corpus.alsoDisabling codes := by
      rw [Corpus.alsoDisabling, built.analysis_eq]
    rw [halso] at hfewer
    refine ⟨_, hfewer, rfl, ?_, fun hregistered hrules => ?_⟩
    · exact congrArg CallGraph.helperFiles (Run.graphOf_disabling corpus _)
    · have hiff := Run.diagnostics_perm_filter_iff hregistered built.nodup_entryFiles hrules hcodes
        ((loadedFrom disk parser paths).filterMap (·.skipped?))
      exact ⟨hiff, fun hkeeps => Run.diagnostics_eq_filter_of_perm hregistered (hiff.2 hkeeps),
        .of_ignoresDisabled hrules⟩

section Door

def doorUnit : OutlinedFile :=
  .ofFile doorFile ({} : AnalysisSettings).markerImport

def doorCorpus : Corpus :=
  .ofSpace (.inOrder (Sketch.outlined [doorFile]))

theorem build_door : SymbolSpace.build {} (Sketch.outlined [doorFile]) = .ok doorCorpus.space :=
  SymbolSpace.build_inOrder (by decide) (by decide) (by decide)

theorem door_mem_entryFiles : doorUnit.path ∈ doorCorpus.space.entryFiles :=
  (SymbolSpace.built_of_build build_door).mem_entryFiles_of_names (by decide) (.head _) (by decide)
    (.head _) (by decide) rfl (by decide)

theorem exists_corpus_door : ∃ faults, Corpus.buildTolerant ({} : Settings).analysis
    (Run.units ({} : Settings).analysis (loadedFrom doorDisk doorParser [doorPath])) =
      .ok (doorCorpus, faults) := by
  rw [loadedFrom_door]
  exact ⟨_, Corpus.buildTolerant_eq_ok_iff.2 ⟨_, build_door, rfl, rfl⟩⟩

/-- The run over the door alone, with some codes disabled. -/
theorem checkFiles_door {registry : Registry} (hsome : registry.size ≠ 0) (codes : List Int) :
    checkFiles doorDisk doorParser (Settings.disabling {} codes) registry [doorPath] =
      .ok (Run.resultOf registry (doorCorpus.disabling codes) []) := by
  have hload : ∀ path ∈ [doorPath], ∃ loaded,
      Loaded.ofDisk doorDisk doorParser path = .ok loaded := by simp [ofDisk_door]
  have hgiven : ∃ file, .parsed file ∈ loadedFrom doorDisk doorParser [doorPath] :=
    ⟨doorFile, loadedFrom_door ▸ List.mem_singleton_self _⟩
  obtain ⟨faults, hcorpus⟩ := exists_corpus_door
  have hrun : checkFiles doorDisk doorParser (Settings.disabling {} codes) registry [doorPath] =
      .ok (Run.resultOf registry (doorCorpus.disabling codes) _) :=
    checkFiles_disabling hload (.inr hgiven) hcorpus hsome codes
  rwa [loadedFrom_door] at hrun

/-- The door with the rule against throwing disabled. -/
theorem checkFiles_sum_of_parts_door :
    ∃ result fewer,
      checkFiles doorDisk doorParser {} .catalog [doorPath] = .ok result ∧
      checkFiles doorDisk doorParser (Settings.disabling {} [2]) .catalog [doorPath] = .ok fewer ∧
      fewer.diagnostics = result.diagnostics.filter (!([2] : List Int).contains ·.code) ∧
      fewer.entryFiles = result.entryFiles ∧ fewer.helperFiles = result.helperFiles := by
  have hsome : Registry.catalog.size ≠ 0 := by decide
  have hresult := checkFiles_door hsome []
  obtain ⟨corpus, faults, -, -, hdisable⟩ := checkFiles_sum_of_parts hsome hresult
  obtain ⟨fewer, hfewer, hentries, hhelpers, hkeeping⟩ := hdisable [2] (by decide)
  obtain ⟨-, hsame, hignoring⟩ :=
    hkeeping Registry.registered_catalog (rulesSucceed_catalog corpus)
  have hkeeps := hignoring fun rule hrule _ => Rule.ignoresDisabled_of_mem_catalog hrule
  exact ⟨_, fewer, hresult, hfewer, hsame hkeeps, hentries, hhelpers⟩

/-- A rule against disabled rules. -/
def noticeRule : Rule :=
  { code := 31, name := "notices", family := .structural, severity := .warning
    category := .language, summary := "No disabled rules"
    evaluate := fun input =>
      .ok (input.analysis.disabledRules.map fun code =>
        (input.root, "Rule " ++ paddedCode code ++ " is disabled")) }

def noticeRegistry : Registry :=
  { rules := [noticeRule] }

theorem registered_notice : noticeRegistry.Registered :=
  ⟨[noticeRule], rfl⟩

theorem rulesSucceed_notice (corpus : Corpus) : Run.RulesSucceed noticeRegistry corpus := by
  intro graph rules path unit hphase _ rule hrule
  cases List.mem_singleton.1 (hphase.mem_rules hrule)
  exact ⟨_, rfl⟩

/-- The rule against disabled rules finds nothing in the door until a rule is disabled. -/
theorem not_keepsFindings_door : ¬ Run.KeepsFindings noticeRegistry doorCorpus [2] := by
  intro hkeeps
  have hrule : noticeRule ∈ Run.entryRules noticeRegistry [] :=
    List.mem_append_left _ ((Registry.ofFamily_perm _ _ _).mem_iff.2 (.head _))
  obtain ⟨found, hrun, hperm⟩ := hkeeps none _ _ doorUnit (.entry door_mem_entryFiles) rfl
    noticeRule hrule (by decide)
  have hnone : Run.findingsAt doorCorpus none doorUnit.path noticeRule = [] := rfl
  rw [hnone] at hperm
  cases hperm.eq_nil
  cases hrun

/-- Even where no rule ever fails, disabling further codes does not always leave what is reported
under other codes: a rule can report that a code is disabled. -/
theorem not_forall_disabling_filters : ¬ ∀ (disk : Disk) (parser : Parser) (settings : Settings)
    (registry : Registry) (paths : List Path) (result : LintResult) (codes : List Int),
    registry.Registered → registry.size ≠ 0 → (∀ corpus, Run.RulesSucceed registry corpus) →
    checkFiles disk parser settings registry paths = .ok result → 0 ∉ codes →
    ∃ fewer,
      checkFiles disk parser
        (settings.disabling (settings.analysis.disabledRules ++ codes)) registry paths =
          .ok fewer ∧
      fewer.diagnostics.Perm (result.diagnostics.filter (!codes.contains ·.code)) := by
  intro hfilters
  have hsome : noticeRegistry.size ≠ 0 := by decide
  obtain ⟨fewer, hfewer, hperm⟩ := hfilters doorDisk doorParser {} noticeRegistry [doorPath] _ [2]
    registered_notice hsome rulesSucceed_notice (checkFiles_door hsome []) (by decide)
  cases hfewer.symm.trans (checkFiles_door hsome [2])
  have hiff := Run.diagnostics_perm_filter_iff registered_notice
    (SymbolSpace.built_of_build build_door).nodup_entryFiles (rulesSucceed_notice doorCorpus)
    (show 0 ∉ [2] by decide) []
  exact not_keepsFindings_door (hiff.1 hperm)

end Door

end Lint
end SandboxLint
