import SandboxLint.Proofs.Corpus.Sketch
import SandboxLint.Proofs.FileTree
import SandboxLint.Proofs.Rule.Reading
import SandboxLint.Proofs.Rule.Registry
import SandboxLint.Proofs.Run.Completion
import SandboxLint.Proofs.Sorting

/-!
The parts of a run. As long as no rule fails, what is reported is what each enabled rule
finds in each file of its phase, and the errors of files that could not be processed.
-/

namespace SandboxLint

namespace Run

variable {corpus : Corpus} {registry : Registry}

/-- What a rule finds in the file at a path of a corpus. -/
def findingsAt (corpus : Corpus) (graph : Option CallGraph) (path : String) (rule : Rule) :
    List Diagnostic :=
  match corpus.space.file? path with
  | some unit => ((rule.run (.ofCorpus corpus unit graph)).toOption).getD []
  | none => []

def graphOf (corpus : Corpus) : CallGraph :=
  (CallGraph.buildTolerant corpus corpus.space.entryFiles).1

/-- The errors of files whose reading against the symbol space failed. -/
def indexFailures (corpus : Corpus) : List Diagnostic :=
  faultDiagnostics (Corpus.faultsOf
    (corpus.space.files.map fun unit => (unit.path, corpus.space.index unit)))

/-- The errors of entry files whose calls could not be followed. -/
def scanFailures (corpus : Corpus) : List Diagnostic :=
  faultDiagnostics (Corpus.faultsOf
    (corpus.space.entryFiles.map fun entry => (entry, CallGraph.scan corpus entry)))

/-- No rule fails in the files of its phase. -/
def RulesSucceed (registry : Registry) (corpus : Corpus) : Prop :=
  ∀ graph rules path unit, Phase registry corpus graph rules path →
    corpus.space.file? path = some unit →
      ∀ rule ∈ rules, ∃ found, rule.run (.ofCorpus corpus unit graph) = .ok found

theorem runRules_of_success {input : RuleInput} {rules : List Rule}
    (h : ∀ rule ∈ rules, ∃ found, rule.run input = .ok found) :
    runRules input rules = rules.flatMap fun rule => ((rule.run input).toOption).getD [] := by
  induction rules with
  | nil => rfl
  | cons rule rest ih =>
      obtain ⟨found, hfound⟩ := h rule List.mem_cons_self
      have hrest := ih fun r hr => h r (List.mem_cons_of_mem _ hr)
      rw [runRules, hfound, List.flatMap_cons, ← hrest]
      simp [Except.toOption, hfound]

/-- What rules report on a file is a finding of one of them or the failure of one. -/
theorem mem_runRules {input : RuleInput} {rules : List Rule} {d : Diagnostic}
    (h : d ∈ runRules input rules) :
    (∃ failure, d = failureDiagnostic input.unit.path failure) ∨
      ∃ rule ∈ rules, ∃ finding, d = rule.diagnostic input finding := by
  induction rules with
  | nil => cases h
  | cons rule rest ih =>
      simp only [runRules, Rule.run] at h
      cases hfound : rule.evaluate input with
      | error failure =>
          rw [hfound] at h
          exact .inl ⟨failure, List.mem_singleton.1 h⟩
      | ok found =>
          rw [hfound] at h
          cases List.mem_append.1 h with
          | inl hmem =>
              obtain ⟨finding, -, rfl⟩ := List.mem_map.1 hmem
              exact .inr ⟨rule, List.mem_cons_self, finding, rfl⟩
          | inr hmem =>
              refine (ih hmem).imp_right ?_
              rintro ⟨other, hother, hfinding⟩
              exact ⟨other, List.mem_cons_of_mem _ hother, hfinding⟩

/-- Rules that find the same in a file of two corpora report the same about it. -/
theorem runRules_congr {a b : Corpus} {unit : OutlinedFile} {graph graph' : Option CallGraph}
    {rules : List Rule}
    (h : ∀ rule ∈ rules,
      rule.evaluate (.ofCorpus b unit graph') = rule.evaluate (.ofCorpus a unit graph)) :
    runRules (.ofCorpus b unit graph') rules = runRules (.ofCorpus a unit graph) rules := by
  induction rules with
  | nil => rfl
  | cons rule rest ih =>
      obtain ⟨hrule, hrest⟩ := List.forall_mem_cons.1 h
      have hrun : rule.run (.ofCorpus b unit graph') = rule.run (.ofCorpus a unit graph) := by
        rw [Rule.run, Rule.run, hrule]
        rfl
      rw [runRules, runRules, hrun, ih hrest]
      rfl

theorem runOn_of_success {graph : Option CallGraph} {rules : List Rule} {paths : List String}
    (h : ∀ path ∈ paths, ∀ unit, corpus.space.file? path = some unit →
      ∀ rule ∈ rules, ∃ found, rule.run (.ofCorpus corpus unit graph) = .ok found) :
    runOn corpus graph rules paths =
      paths.flatMap fun path => rules.flatMap (findingsAt corpus graph path) := by
  refine List.flatMap_congr fun path hpath => ?_
  cases hfile : corpus.space.file? path with
  | none => simp [findingsAt, hfile]
  | some unit =>
      simp only [runRules_of_success (h path hpath unit hfile)]
      exact List.flatMap_congr fun rule _ => by simp [findingsAt, hfile]

/-- The entry files' part of what is reported, rules in any order. -/
def entryFindings (corpus : Corpus) (rules : List Rule) : List Diagnostic :=
  corpus.space.entryFiles.flatMap fun path => rules.flatMap (findingsAt corpus none path)

/-- The helper files' part of what is reported, rules in any order. -/
def helperFindings (corpus : Corpus) (rules : List Rule) : List Diagnostic :=
  (graphOf corpus).helperFiles.flatMap fun path =>
    rules.flatMap (findingsAt corpus (some (graphOf corpus)) path)

def entryRules (registry : Registry) (disabled : List Int) : List Rule :=
  registry.ofFamily .structural disabled ++ registry.ofFamily .semantic disabled

theorem mem_of_mem_entryRules {disabled : List Int} {rule : Rule}
    (h : rule ∈ entryRules registry disabled) : rule ∈ registry.rules := by
  cases List.mem_append.1 h with
  | inl hstructural => exact Registry.mem_of_mem_ofFamily hstructural
  | inr hsemantic => exact Registry.mem_of_mem_ofFamily hsemantic

theorem family_ne_of_mem_entryRules {disabled : List Int} {rule : Rule}
    (h : rule ∈ entryRules registry disabled) : rule.family ≠ .callGraph := by
  cases List.mem_append.1 h with
  | inl hstructural => simp [Registry.family_of_mem_ofFamily hstructural]
  | inr hsemantic => simp [Registry.family_of_mem_ofFamily hsemantic]

/-- All diagnostics of a run over a corpus, in the order in which they are delivered. -/
def delivered (registry : Registry) (corpus : Corpus) : List Diagnostic :=
  indexFailures corpus ++
    (runOn corpus none (entryRules registry corpus.space.analysis.disabledRules)
        corpus.space.entryFiles ++
      faultDiagnostics (CallGraph.buildTolerant corpus corpus.space.entryFiles).2 ++
      runOn corpus (some (graphOf corpus))
        (registry.ofFamily .callGraph corpus.space.analysis.disabledRules)
        (graphOf corpus).helperFiles)

/-- What a run over a corpus gives, with the paths of files that were left out. -/
def resultOf (registry : Registry) (corpus : Corpus) (skipped : List String) : LintResult :=
  let sink := ({} : Sink).extend (delivered registry corpus)
  { diagnostics := sink.sorted
    filesChecked := corpus.space.files.length
    entryFiles := corpus.space.entryFiles
    helperFiles := (graphOf corpus).helperFiles
    skippedFiles := Text.sorted skipped
    errorCount := sink.errorCount
    warningCount := sink.warningCount }

/-- Without entry files there is nothing to evaluate, so the case is none of its own. -/
theorem evaluate_eq (registry : Registry) (corpus : Corpus) :
    evaluate registry corpus =
      { diagnostics :=
          runOn corpus none (entryRules registry corpus.space.analysis.disabledRules)
              corpus.space.entryFiles ++
            faultDiagnostics (CallGraph.buildTolerant corpus corpus.space.entryFiles).2 ++
            runOn corpus (some (graphOf corpus))
              (registry.ofFamily .callGraph corpus.space.analysis.disabledRules)
              (graphOf corpus).helperFiles
        entryFiles := corpus.space.entryFiles
        helperFiles := (graphOf corpus).helperFiles } := by
  simp only [evaluate]
  split
  · next hnone =>
      rw [List.isEmpty_iff] at hnone
      have hhelpers : (graphOf corpus).helperFiles = [] := helperFiles_of_no_entries hnone
      have hfaults : (CallGraph.buildTolerant corpus []).2 = [] := by
        simp [CallGraph.buildTolerant, Text.sorted, Corpus.faultsOf]
      simp [hnone, hhelpers, hfaults, runOn, faultDiagnostics]
  · rfl

/-- A run has a result exactly when there is something to look at and the corpus can be made, and
then the result is that of the corpus. -/
theorem check_eq_ok_iff {analysis : AnalysisSettings} {registry : Registry} {files : List Loaded}
    {result : LintResult} :
    check analysis registry files = .ok result ↔
      (files = [] ∨ ∃ file, Loaded.parsed file ∈ files) ∧
        ∃ corpus faults,
          Corpus.buildTolerant analysis (units analysis files) = .ok (corpus, faults) ∧
          result = resultOf (effectiveRegistry registry) corpus (files.filterMap (·.skipped?)) := by
  have hfaults : ∀ corpus faults,
      Corpus.buildTolerant analysis (units analysis files) = .ok (corpus, faults) →
        faultDiagnostics faults = indexFailures corpus := by
    intro corpus faults hcorpus
    obtain ⟨space, -, rfl, rfl⟩ := Corpus.buildTolerant_eq_ok_iff.1 hcorpus
    rfl
  by_cases hsome : files = [] ∨ ∃ file, Loaded.parsed file ∈ files
  · have hguard : ¬ ((files.filterMap (·.file?)).isEmpty && !files.isEmpty) = true := by
      rwa [nothing_parsed_iff, not_not]
    have hunits : (files.filterMap (·.file?)).map (OutlinedFile.ofFile · analysis.markerImport) =
        units analysis files := rfl
    simp only [check, hguard, hunits, hsome, true_and, Bool.false_eq_true, if_false]
    cases hcorpus : Corpus.buildTolerant analysis (units analysis files) with
    | error fault => simp
    | ok found =>
        obtain ⟨corpus, faults⟩ := found
        simp only [hfaults corpus faults hcorpus, evaluate_eq, Except.ok.injEq, Prod.mk.injEq]
        constructor
        · rintro rfl
          exact ⟨corpus, faults, ⟨rfl, rfl⟩, rfl⟩
        · rintro ⟨_, _, ⟨rfl, rfl⟩, rfl⟩
          rfl
  · have hguard : ((files.filterMap (·.file?)).isEmpty && !files.isEmpty) = true := by
      rwa [nothing_parsed_iff]
    simp [check, hguard, hsome]

/-- The diagnostics of a run over a corpus in order are those that were delivered. -/
theorem diagnostics_perm_delivered (registry : Registry) (corpus : Corpus)
    (skipped : List String) :
    (resultOf registry corpus skipped).diagnostics.Perm (delivered registry corpus) := by
  have hitems := Sink.items_extend {} (delivered registry corpus)
  rw [resultOf, Sink.sorted, hitems, List.nil_append]
  exact List.mergeSort_perm _ _

/-- A run that delivers only some of what another one delivers reports these in the same order. -/
theorem diagnostics_of_filter {corpus' : Corpus} {keep : Diagnostic → Bool}
    (h : delivered registry corpus' = (delivered registry corpus).filter keep)
    (skipped skipped' : List String) :
    (resultOf registry corpus' skipped').diagnostics =
      (resultOf registry corpus skipped).diagnostics.filter keep := by
  simp only [resultOf, Sink.sorted, Sink.items_extend, List.nil_append, h]
  exact Sorting.mergeSort_filter Diagnostic.ordered_trans Diagnostic.ordered_total keep _

theorem runOn_entryRules_of_success (hrules : RulesSucceed registry corpus) :
    runOn corpus none (entryRules registry corpus.space.analysis.disabledRules)
        corpus.space.entryFiles =
      entryFindings corpus (entryRules registry corpus.space.analysis.disabledRules) :=
  runOn_of_success fun path hpath unit hunit => hrules none _ path unit (.entry hpath) hunit

theorem runOn_callGraph_of_success (hrules : RulesSucceed registry corpus) :
    runOn corpus (some (graphOf corpus))
        (registry.ofFamily .callGraph corpus.space.analysis.disabledRules)
        (graphOf corpus).helperFiles =
      helperFindings corpus
        (registry.ofFamily .callGraph corpus.space.analysis.disabledRules) :=
  runOn_of_success fun path hpath unit hunit => hrules _ _ path unit (.helper hpath) hunit

theorem delivered_of_success (hrules : RulesSucceed registry corpus) :
    delivered registry corpus =
      indexFailures corpus ++
        (entryFindings corpus (entryRules registry corpus.space.analysis.disabledRules) ++
          faultDiagnostics (CallGraph.buildTolerant corpus corpus.space.entryFiles).2 ++
          helperFindings corpus
            (registry.ofFamily .callGraph corpus.space.analysis.disabledRules)) := by
  rw [delivered, runOn_entryRules_of_success hrules, runOn_callGraph_of_success hrules]

theorem scanFailures_perm (corpus : Corpus) :
    (faultDiagnostics (CallGraph.buildTolerant corpus corpus.space.entryFiles).2).Perm
      (scanFailures corpus) :=
  (((List.mergeSort_perm corpus.space.entryFiles _).map _).filterMap _).map _

/-- Where no rule fails, a run reports what every enabled rule finds in every file of its phase,
and the files that could not be processed. -/
theorem diagnostics_perm_parts (hrules : RulesSucceed registry corpus) (skipped : List String) :
    (resultOf registry corpus skipped).diagnostics.Perm
      (entryFindings corpus (registry.enabled .structural corpus.space.analysis.disabledRules ++
          registry.enabled .semantic corpus.space.analysis.disabledRules) ++
        helperFindings corpus
          (registry.enabled .callGraph corpus.space.analysis.disabledRules) ++
        (indexFailures corpus ++ scanFailures corpus)) := by
  refine (diagnostics_perm_delivered registry corpus skipped).trans ?_
  rw [delivered_of_success hrules]
  have hentryRules :=
    (registry.ofFamily_perm .structural corpus.space.analysis.disabledRules).append
      (registry.ofFamily_perm .semantic corpus.space.analysis.disabledRules)
  have hentries := List.Perm.flatMap_left corpus.space.entryFiles fun path _ =>
    hentryRules.flatMap_right (findingsAt corpus none path)
  have hhelperRules := registry.ofFamily_perm .callGraph corpus.space.analysis.disabledRules
  have hhelpers := List.Perm.flatMap_left (graphOf corpus).helperFiles fun path _ =>
    hhelperRules.flatMap_right (findingsAt corpus (some (graphOf corpus)) path)
  have hscans := scanFailures_perm corpus
  rw [List.perm_iff_count]
  intro d
  have hentry := hentries.count_eq d
  have hhelper := hhelpers.count_eq d
  have hscan := hscans.count_eq d
  simp only [entryFindings, helperFindings, entryRules, List.count_append]
  omega

theorem mem_findingsAt {graph : Option CallGraph} {path : String} {rule : Rule} {d : Diagnostic} :
    d ∈ findingsAt corpus graph path rule ↔
      ∃ unit found, corpus.space.file? path = some unit ∧
        rule.evaluate (.ofCorpus corpus unit graph) = .ok found ∧
        ∃ finding ∈ found, d = rule.diagnostic (.ofCorpus corpus unit graph) finding := by
  rw [findingsAt]
  cases hfile : corpus.space.file? path with
  | none => simp
  | some unit =>
      cases hfound : rule.evaluate (.ofCorpus corpus unit graph) with
      | error failure =>
          simp [Rule.run, hfound, Functor.map, Except.map, Except.toOption]
      | ok found =>
          simp [Rule.run, hfound, Functor.map, Except.map, Except.toOption, eq_comm]

theorem code_of_mem_findingsAt {graph : Option CallGraph} {path : String} {rule : Rule}
    {d : Diagnostic} (h : d ∈ findingsAt corpus graph path rule) : d.code = rule.code := by
  obtain ⟨_, _, -, -, finding, -, rfl⟩ := mem_findingsAt.1 h
  rfl

theorem code_of_mem_faultDiagnostics {faults : List (String × Fault)} {d : Diagnostic}
    (h : d ∈ faultDiagnostics faults) : d.code = 0 := by
  obtain ⟨fault, -, rfl⟩ := List.mem_map.1 h
  rfl

section Keys

variable {α β κ : Type} {given : α → κ} {told : β → κ} {xs : List α}

/-- Where everything given is told from its key, keeping some keys of what is given is keeping what
gives them. -/
theorem filter_flatMap_of_key (keep : κ → Bool) {f : α → List β}
    (hkey : ∀ x, ∀ y ∈ f x, told y = given x) :
    (xs.flatMap f).filter (fun y => keep (told y)) =
      (xs.filter fun x => keep (given x)).flatMap f := by
  induction xs with
  | nil => rfl
  | cons x rest ih =>
      rw [List.flatMap_cons, List.filter_append, ih]
      by_cases hkept : keep (given x) = true
      · have hall : (f x).filter (fun y => keep (told y)) = f x := by
          refine List.filter_eq_self.2 fun y hy => ?_
          rw [hkey x y hy, hkept]
        rw [hall, List.filter_cons, if_pos hkept, List.flatMap_cons]
      · have hnone : (f x).filter (fun y => keep (told y)) = [] := by
          refine List.filter_eq_nil_iff.2 fun y hy => ?_
          rwa [hkey x y hy]
        rw [hnone, List.nil_append, List.filter_cons, if_neg hkept]

theorem filter_of_nodup_key [DecidableEq κ] (hkeys : (xs.map given).Nodup) {x : α} (hx : x ∈ xs) :
    (xs.filter fun y => given y == given x) = [x] := by
  induction xs with
  | nil => cases hx
  | cons first rest ih =>
      obtain ⟨hfirst, hrest⟩ := List.nodup_cons.1 hkeys
      have hother : ∀ y ∈ rest, given y ≠ given first := fun y hy hsame =>
        hfirst (hsame ▸ List.mem_map_of_mem hy)
      cases List.mem_cons.1 hx with
      | inl heq =>
          have hnone : (rest.filter fun y => given y == given first) = [] :=
            List.filter_eq_nil_iff.2 fun y hy => by simpa using hother y hy
          rw [heq, List.filter_cons, if_pos (beq_self_eq_true _), hnone]
      | inr hmem =>
          rw [List.filter_cons, if_neg (by simpa using (hother x hmem).symm), ih hrest hmem]

/-- Where keys stand once, two ways of giving agree as a whole, up to order, exactly when they agree
at each place. -/
theorem flatMap_perm_iff_of_key [DecidableEq κ] {f g : α → List β} (hkeys : (xs.map given).Nodup)
    (hf : ∀ x, ∀ y ∈ f x, told y = given x) (hg : ∀ x, ∀ y ∈ g x, told y = given x) :
    (xs.flatMap f).Perm (xs.flatMap g) ↔ ∀ x ∈ xs, (f x).Perm (g x) := by
  refine ⟨fun hperm x hx => ?_, List.Perm.flatMap_left xs⟩
  have hshare := hperm.filter fun y => told y == given x
  rw [filter_flatMap_of_key (· == given x) hf, filter_flatMap_of_key (· == given x) hg,
    filter_of_nodup_key hkeys hx] at hshare
  simpa using hshare

end Keys

theorem Phase.mem_rules {graph : Option CallGraph} {rules : List Rule} {path : String}
    (h : Phase registry corpus graph rules path) {rule : Rule} (hrule : rule ∈ rules) :
    rule ∈ registry.rules := by
  cases h with
  | entry => exact mem_of_mem_entryRules hrule
  | helper => exact Registry.mem_of_mem_ofFamily hrule

end Run

namespace Lint

theorem rulesSucceed_catalog (corpus : Corpus) : Run.RulesSucceed .catalog corpus := by
  intro graph rules path unit hphase _ rule hrule
  obtain ⟨found, hfound⟩ := Rule.exists_evaluate (hphase.mem_rules hrule) corpus unit graph
  exact ⟨_, by rw [Rule.run, hfound]; rfl⟩

/-- Where there is something to look at and a corpus can be made, the run is one over it. -/
theorem checkFiles_of_corpus {disk : Disk} {parser : Parser} {settings : Settings}
    {paths : List Path} {corpus : Corpus} {faults : List (String × Fault)}
    (hload : ∀ path ∈ paths, ∃ loaded, Loaded.ofDisk disk parser path = .ok loaded)
    (hgiven : loadedFrom disk parser paths = [] ∨
      ∃ file, Loaded.parsed file ∈ loadedFrom disk parser paths)
    (hcorpus : Corpus.buildTolerant settings.analysis
      (Run.units settings.analysis (loadedFrom disk parser paths)) = .ok (corpus, faults))
    {registry : Registry} (hsome : registry.size ≠ 0) :
    checkFiles disk parser settings registry paths = .ok
      (Run.resultOf registry corpus ((loadedFrom disk parser paths).filterMap (·.skipped?))) := by
  have hregistry : Run.effectiveRegistry registry = registry := by
    simp [Run.effectiveRegistry, hsome]
  exact checkFiles_eq_ok_iff.2
    ⟨hload, Run.check_eq_ok_iff.2 ⟨hgiven, _, _, hcorpus, by rw [hregistry]⟩⟩

section Door

/-- The file of a door that throws. -/
def doorFile : SourceFile :=
  Sketch.file "/Door.cs"
    [Sketch.usingOf "UdonSharp",
      Sketch.classDecl [] "Door" ["UdonSharpBehaviour"]
        [Sketch.methodDecl [] "Open" [Sketch.group "throw_statement" none []]]]

def doorPath : Path :=
  { root := .slash, parts := ["Door.cs"] }

def doorDisk : Disk :=
  { root := .directory [("Door.cs", .file (.bytes []))] }

/-- A parser that takes every text for the door. -/
def doorParser : Parser :=
  fun _ => some doorFile.tree

/-- A file of the root directory is read and parsed under its own path. -/
theorem ofDisk_top {disk : Disk} {parser : Parser} {entries : List (String × FileTree)}
    {name text : String} {bytes : List UInt8} {tree : Tree}
    (hroot : disk.root = .directory entries)
    (hfound : List.lookup name entries = some (.file (.bytes bytes)))
    (hnull : Path.hasNull ⟨.slash, [name]⟩ = false) (hdots : name ≠ "..")
    (hshort : name.utf8ByteSize ≤ Disk.nameLimit)
    (htext : Text.decodeFile bytes = text) (htree : parser (.ofText text) = some tree) :
    Loaded.ofDisk disk parser ⟨.slash, [name]⟩ =
      .ok (.parsed { path := Path.toText ⟨.slash, [name]⟩, source := .ofText text, tree }) := by
  have hplain : ∀ target, some (FileTree.file (.bytes bytes)) ≠ some (.link target) := by simp
  have hentry := Disk.entry_top hroot hfound hplain hnull hdots hshort
  have hresolve := Disk.resolve_top hroot hfound hplain hnull hdots hshort
  have hread : disk.readBytes ⟨.slash, [name]⟩ = .ok bytes := by
    simp only [Disk.readBytes, Disk.content, hentry, Option.elim]
  simp only [Loaded.ofDisk, hnull, hread, hresolve, htext, htree]
  rfl

theorem ofDisk_door : Loaded.ofDisk doorDisk doorParser doorPath = .ok (.parsed doorFile) :=
  ofDisk_top rfl rfl (by decide) (by decide) (by decide) (by decide) rfl

theorem loadedFrom_door : loadedFrom doorDisk doorParser [doorPath] = [.parsed doorFile] := by
  simp [loadedFrom, ofDisk_door, Except.toOption]

/-- Files in the order of their paths whose space can be computed are run, whatever files that
cannot be read come with them. -/
theorem exists_check {sources : List SourceFile} {files : List Loaded}
    (hsome : ∃ file, Loaded.parsed file ∈ files) (honly : files.filterMap (·.file?) = sources)
    (hpaths : (sources.map (·.path)).Pairwise (· < ·))
    (hbuilds : (SymbolSpace.buildInOrder {} (Sketch.outlined sources)).toOption.any
      (fun _ => true) = true) :
    ∃ result, Run.check {} .catalog files = .ok result := by
  have hunits : Run.units {} files = Sketch.outlined sources := by
    rw [Run.units, honly]
    rfl
  have hordered : ((Sketch.outlined sources).map (·.path)).Pairwise (· < ·) := by
    rw [Sketch.outlined, List.map_map]
    exact hpaths
  obtain ⟨space, hbuild, -⟩ := SymbolSpace.exists_build_of_any hordered
    (by rw [Sketch.outlined, List.map_map, List.map_map]; rfl) hbuilds
  have hcorpus := Corpus.buildTolerant_eq_ok_iff.2 ⟨space, hunits ▸ hbuild, rfl, rfl⟩
  exact ⟨_, Run.check_eq_ok_iff.2 ⟨.inr hsome, _, _, hcorpus, rfl⟩⟩

/-- The door is run, whatever files that cannot be read come with it. -/
theorem exists_check_door {files : List Loaded} (hdoor : .parsed doorFile ∈ files)
    (honly : files.filterMap (·.file?) = [doorFile]) :
    ∃ result, Run.check {} .catalog files = .ok result :=
  exists_check ⟨doorFile, hdoor⟩ honly (by decide) (by decide)

end Door

end Lint
end SandboxLint
