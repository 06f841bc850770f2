import SandboxLint.Proofs.Run.EntryHelpers
import SandboxLint.Proofs.Run.Schedule
import SandboxLint.Proofs.Run.Sides

/-!
Rules that fail. A rule gives its findings one after the other and can fail behind any of
them. A file on which a rule fails keeps what the rules before it found and gets one error
in place of the rest, in whatever order the workers deliver; and nothing of that shows in
what is reported about other files.
-/

namespace SandboxLint

namespace Rule

/-- What a rule gives at a time: a finding, or the failure that ends it. -/
abbrev Yield := Except Failure Finding

/-- A rule that gives these yields on a file, of which the first failure counts alone. -/
def Yields (rule : Rule) (input : RuleInput) (yields : List Yield) : Prop :=
  rule.evaluate input = yields.mapM id

def findings (yields : List Yield) : List Finding :=
  yields.filterMap (·.toOption)

theorem mapM_of_sound {yields : List Yield} (h : ∀ failure, .error failure ∉ yields) :
    yields.mapM id = .ok (findings yields) := by
  induction yields with
  | nil => rfl
  | cons first rest ih =>
      have hrest := ih fun failure hmem => h failure (List.mem_cons_of_mem _ hmem)
      cases first with
      | error failure => exact absurd List.mem_cons_self (h failure)
      | ok finding =>
          rw [List.mapM_cons, hrest]
          rfl

theorem mapM_of_failure (found : List Finding) (failure : Failure) (rest : List Yield) :
    List.mapM id (found.map Except.ok ++ .error failure :: rest : List Yield) =
      .error failure := by
  induction found with
  | nil => rfl
  | cons finding found ih =>
      rw [List.map_cons, List.cons_append, List.mapM_cons, ih]
      rfl

/-- Yields with a failure among them are cut at the first one. -/
theorem exists_first_failure {yields : List Yield} {failure : Failure}
    (h : .error failure ∈ yields) :
    ∃ found first rest, yields = List.map .ok found ++ .error first :: rest := by
  induction yields with
  | nil => cases h
  | cons head tail ih =>
      cases head with
      | error first => exact ⟨[], first, tail, rfl⟩
      | ok finding =>
          obtain ⟨found, first, rest, htail⟩ := ih (by simpa using h)
          exact ⟨finding :: found, first, rest, by rw [htail]; rfl⟩

def evaluatedBy (rule : Rule) (evaluate : RuleInput → Except Failure (List Finding)) : Rule :=
  { rule with evaluate }

end Rule

namespace Registry

/-- The rules for entry files as they come: the enabled structural ones by code, and behind them
the enabled semantic ones by code. -/
def EntryOrder (registry : Registry) (disabled : List Int) (rules : List Rule) : Prop :=
  ∃ structural semantic, rules = structural ++ semantic ∧
    structural.Perm (registry.enabled .structural disabled) ∧
    structural.Pairwise (·.code < ·.code) ∧
    semantic.Perm (registry.enabled .semantic disabled) ∧
    semantic.Pairwise (·.code < ·.code)

theorem Registered.entryOrder {registry : Registry} (h : registry.Registered)
    (disabled : List Int) : registry.EntryOrder disabled (Run.entryRules registry disabled) :=
  ⟨_, _, rfl, registry.ofFamily_perm _ _, h.ofFamily_ascending _ _, registry.ofFamily_perm _ _,
    h.ofFamily_ascending _ _⟩

theorem Registered.ofFamily_distinct {registry : Registry} (h : registry.Registered)
    (family : RuleFamily) (disabled : List Int) :
    (registry.ofFamily family disabled).Pairwise (·.code ≠ ·.code) :=
  (h.ofFamily_ascending family disabled).imp ne_of_lt

/-- Rules of different families have different codes. -/
theorem Registered.code_ne_of_family {registry : Registry} (h : registry.Registered) {a b : Rule}
    (ha : a ∈ registry.rules) (hb : b ∈ registry.rules) (hfamily : a.family ≠ b.family) :
    a.code ≠ b.code :=
  fun hcode => hfamily (congrArg Rule.family (h.apart.2 a ha b hb hcode))

theorem Registered.entryRules_distinct {registry : Registry} (h : registry.Registered)
    (disabled : List Int) : (Run.entryRules registry disabled).Pairwise (·.code ≠ ·.code) := by
  refine List.pairwise_append.2
    ⟨h.ofFamily_distinct _ _, h.ofFamily_distinct _ _, fun a ha b hb => ?_⟩
  refine h.code_ne_of_family (mem_of_mem_ofFamily ha) (mem_of_mem_ofFamily hb) ?_
  rw [family_of_mem_ofFamily ha, family_of_mem_ofFamily hb]
  decide

/-- A registry whose rules are evaluated in another way. -/
def changed (registry : Registry) (change : Rule → RuleInput → Except Failure (List Finding)) :
    Registry :=
  { rules := registry.rules.map fun rule => rule.evaluatedBy (change rule) }

theorem ofFamily_changed (registry : Registry)
    (change : Rule → RuleInput → Except Failure (List Finding)) (family : RuleFamily)
    (disabled : List Int) :
    (registry.changed change).ofFamily family disabled =
      (registry.ofFamily family disabled).map fun rule => rule.evaluatedBy (change rule) := by
  have hall : (registry.changed change).all =
      registry.all.map fun rule => rule.evaluatedBy (change rule) := by
    refine (List.map_mergeSort ?_).symm
    exact fun _ _ _ _ => rfl
  rw [ofFamily, ofFamily, hall, List.filter_map]
  rfl

end Registry

namespace Run

/-- How a file is reported on which a rule fails: with what the rules before the first such rule
found, none of it under the code of that rule or of file failures, and with one error. -/
inductive CutShort (yields : Rule → List Rule.Yield) (input : RuleInput) (rules : List Rule)
    (reported : List Diagnostic) : Prop
  | behind {before rest : List Rule} {failing : Rule} {kept : List Diagnostic}
      {found : List Finding} {failure : Failure} {unread : List Rule.Yield}
      (order : rules = before ++ failing :: rest)
      (sound : ∀ rule ∈ before, ∀ failure, .error failure ∉ yields rule)
      (fails : yields failing = found.map .ok ++ .error failure :: unread)
      (all : kept = before.flatMap fun rule =>
        (Rule.findings (yields rule)).map (rule.diagnostic input))
      (codes : ∀ d ∈ kept, d.code ≠ failing.code ∧ d.code ≠ LintCode.fileFailure)
      (cut : reported = kept ++ [failureDiagnostic input.unit.path failure]) :
      CutShort yields input rules reported

section Rules

variable {input : RuleInput} {rules : List Rule}

theorem run_of_sound {rule : Rule} {yields : List Rule.Yield} (hyields : rule.Yields input yields)
    (hsound : ∀ failure, .error failure ∉ yields) :
    rule.run input = .ok ((Rule.findings yields).map (rule.diagnostic input)) := by
  rw [Rule.run, hyields, Rule.mapM_of_sound hsound]
  rfl

theorem run_of_failure {rule : Rule} {found : List Finding} {failure : Failure}
    {rest : List Rule.Yield}
    (hyields : rule.Yields input (found.map .ok ++ .error failure :: rest)) :
    rule.run input = .error failure := by
  rw [Rule.run, hyields, Rule.mapM_of_failure]
  rfl

/-- A rule in front that finds what it looks for puts its findings before all others. -/
theorem CutShort.cons {yields : Rule → List Rule.Yield} {rule : Rule} {reported : List Diagnostic}
    (h : CutShort yields input rules reported) (hsound : ∀ failure, .error failure ∉ yields rule)
    (hdistinct : ∀ other ∈ rules, rule.code ≠ other.code)
    (hgiven : rule.code ≠ LintCode.fileFailure) :
    CutShort yields input (rule :: rules)
      ((Rule.findings (yields rule)).map (rule.diagnostic input) ++ reported) := by
  obtain @⟨before, after, failing, kept, found, failure, unread, horder, hbefore, hfailing,
    hkept, hcodes, hcut⟩ := h
  have hcode : rule.code ≠ failing.code := hdistinct failing (by simp [horder])
  have hcodes' : ∀ d ∈ (Rule.findings (yields rule)).map (rule.diagnostic input) ++ kept,
      d.code ≠ failing.code ∧ d.code ≠ LintCode.fileFailure := by
    refine List.forall_mem_append.2 ⟨fun d hd => ?_, hcodes⟩
    obtain ⟨finding, -, rfl⟩ := List.mem_map.1 hd
    exact ⟨hcode, hgiven⟩
  refine .behind (by rw [horder, List.cons_append])
    (List.forall_mem_cons.2 ⟨hsound, hbefore⟩) hfailing ?_ hcodes' ?_
  · rw [hkept, List.flatMap_cons]
  · rw [hcut, List.append_assoc]

/-- Rules of which one fails are run up to the first that does. -/
theorem runRules_cutShort {yields : Rule → List Rule.Yield}
    (hyields : ∀ rule ∈ rules, rule.Yields input (yields rule))
    (hdistinct : rules.Pairwise (·.code ≠ ·.code))
    (hgiven : ∀ rule ∈ rules, rule.code ≠ LintCode.fileFailure)
    (hfails : ∃ rule ∈ rules, ∃ failure, .error failure ∈ yields rule) :
    CutShort yields input rules (runRules input rules) := by
  induction rules with
  | nil => simp at hfails
  | cons rule rest ih =>
      obtain ⟨hrule, hrest⟩ := List.forall_mem_cons.1 hyields
      obtain ⟨hcode, hdistinct⟩ := List.pairwise_cons.1 hdistinct
      obtain ⟨hruleGiven, hrestGiven⟩ := List.forall_mem_cons.1 hgiven
      rw [runRules]
      by_cases hsound : ∀ failure, .error failure ∉ yields rule
      · have hlater : ∃ other ∈ rest, ∃ failure, .error failure ∈ yields other := by
          obtain ⟨other, hother, failure, hfailure⟩ := hfails
          cases List.mem_cons.1 hother with
          | inl heq => exact absurd (heq ▸ hfailure) (hsound failure)
          | inr hmem => exact ⟨other, hmem, failure, hfailure⟩
        rw [run_of_sound hrule hsound]
        exact (ih hrest hdistinct hrestGiven hlater).cons hsound hcode hruleGiven
      · simp only [not_forall, not_not] at hsound
        -- The first rule that fails loses what it found so far, and no later rule runs.
        obtain ⟨_, hfailure⟩ := hsound
        obtain ⟨found, failure, unread, hcut⟩ := Rule.exists_first_failure hfailure
        rw [hcut] at hrule
        refine .behind (List.nil_append _).symm (by simp) hcut rfl (by simp) ?_
        rw [run_of_failure hrule]
        rfl

theorem runRules_changed {change : Rule → RuleInput → Except Failure (List Finding)}
    (h : ∀ rule ∈ rules, change rule input = rule.evaluate input) :
    runRules input (rules.map fun rule => rule.evaluatedBy (change rule)) =
      runRules input rules := by
  induction rules with
  | nil => rfl
  | cons rule rest ih =>
      obtain ⟨hrule, hrest⟩ := List.forall_mem_cons.1 h
      have hrun : (rule.evaluatedBy (change rule)).run input = rule.run input :=
        congrArg _ hrule
      rw [List.map_cons, runRules, runRules, hrun, ih hrest]

end Rules

section Sharing

variable {keep : Diagnostic → Bool} {before after : List Task} {task : Task} {delivery : Delivery}

/-- At most one of the tasks delivers diagnostics of a kind. -/
def Alone (keep : Diagnostic → Bool) (tasks : List Task) : Prop :=
  tasks.Pairwise fun a b => (batches a).filter keep = [] ∨ (batches b).filter keep = []

theorem batches_cons (delivery : Delivery) (task : Task) :
    batches (delivery :: task) = batches [delivery] ++ batches task := by
  simp [batches]

theorem Alone.tail (h : Alone keep (before ++ (delivery :: task) :: after)) :
    Alone keep (before ++ task :: after) := by
  have hless : ∀ share : List Diagnostic,
      share = [] ∨ (batches (delivery :: task)).filter keep = [] →
        share = [] ∨ (batches task).filter keep = [] := by
    intro share
    rw [batches_cons, List.filter_append, List.append_eq_nil_iff]
    exact Or.imp_right And.right
  obtain ⟨hbefore, hrest, hacross⟩ := List.pairwise_append.1 h
  obtain ⟨hhead, hafter⟩ := List.pairwise_cons.1 hrest
  refine List.pairwise_append.2 ⟨hbefore, List.pairwise_cons.2 ⟨fun b hb => ?_, hafter⟩, ?_⟩
  · exact (hless _ (hhead b hb).symm).symm
  · intro a ha b hb
    cases List.mem_cons.1 hb with
    | inl heq =>
        subst heq
        exact hless _ (hacross a ha _ List.mem_cons_self)
    | inr hmem => exact hacross a ha b (List.mem_cons_of_mem _ hmem)

/-- What is delivered next is of the kind only where no task in front delivers such. -/
theorem Alone.head (h : Alone keep (before ++ (delivery :: task) :: after)) :
    (batches [delivery]).filter keep = [] ∨ (before.flatMap batches).filter keep = [] := by
  by_cases hnone : (batches [delivery]).filter keep = []
  · exact .inl hnone
  · refine .inr ?_
    rw [List.filter_flatMap, List.flatMap_eq_nil_iff]
    intro a ha
    refine ((List.pairwise_append.1 h).2.2 a ha _ List.mem_cons_self).resolve_right fun hboth => ?_
    rw [batches_cons, List.filter_append, List.append_eq_nil_iff] at hboth
    exact hnone hboth.1

/-- Whatever the schedule of a phase, what it adds of a kind that only one task delivers stands in
the order of that task. -/
theorem Steps.exists_added {tasks : List Task} {board final : Board}
    (h : Steps tasks board final) :
    ∃ added, final.sink.items = board.sink.items ++ added ∧
      ∀ keep, Alone keep tasks →
        added.filter keep = (tasks.flatMap batches).filter keep := by
  induction h with
  | @done tasks board ended =>
      refine ⟨[], (List.append_nil _).symm, fun keep _ => ?_⟩
      have hnone : tasks.flatMap batches = [] :=
        List.flatMap_eq_nil_iff.2 fun task htask => by rw [ended task htask]; rfl
      rw [hnone]
  | @step before after task delivery board final _ ih =>
      obtain ⟨added, hadded, hshare⟩ := ih
      have hitems : (board.receive delivery).sink.items = board.sink.items ++ batches [delivery] :=
        board.items_receiveAll [delivery]
      refine ⟨batches [delivery] ++ added, by rw [hadded, hitems, List.append_assoc], ?_⟩
      intro keep halone
      -- The delivery goes in front of what the tasks before its own deliver.
      simp only [List.filter_append, hshare keep halone.tail, List.flatMap_append,
        List.flatMap_cons, batches_cons delivery task]
      cases halone.head with
      | inl hnone => simp [hnone]
      | inr hnone => simp [hnone]

end Sharing

section Phase

variable {corpus : Corpus} {graph : Option CallGraph} {rules : List Rule} {paths : List String}

theorem filter_reportsAt (path file : String) :
    (reportsAt corpus graph rules path).filter (·.path == file) =
      if path = file then reportsAt corpus graph rules path else [] := by
  split
  · next heq =>
      refine List.filter_eq_self.2 fun d hd => ?_
      rw [path_of_mem_reportsAt hd, heq, beq_self_eq_true]
  · next hne =>
      refine List.filter_eq_nil_iff.2 fun d hd => ?_
      rw [path_of_mem_reportsAt hd]
      simpa using hne

theorem filter_runOn (hpaths : paths.Nodup) {path : String} (hpath : path ∈ paths) :
    (runOn corpus graph rules paths).filter (·.path == path) =
      reportsAt corpus graph rules path := by
  rw [runOn_eq, filter_flatMap_of_key (· == path) fun _ _ => path_of_mem_reportsAt,
    List.filter_beq, List.count_eq_one_of_mem hpaths hpath, List.replicate_one,
    List.flatMap_singleton]

theorem alone_rulesTaskAt (hpaths : paths.Nodup) (path : String) :
    Alone (·.path == path) (paths.map (rulesTaskAt corpus graph rules)) := by
  have hbatches : ∀ file, batches (rulesTaskAt corpus graph rules file) =
      reportsAt corpus graph rules file := by
    intro file
    simpa [runOn_eq] using batches_rulesTaskAt corpus graph rules [file]
  refine List.pairwise_map.2 (hpaths.imp fun {first second} hne => ?_)
  rw [hbatches, hbatches, filter_reportsAt, filter_reportsAt, ite_eq_right_iff, ite_eq_right_iff]
  by_cases heq : first = path
  · exact .inr fun hsecond => absurd (heq.trans hsecond.symm) hne
  · exact .inl fun hfirst => absurd hfirst heq

/-- Whatever the schedule, rules on files of different paths add to each file's share what they
report about it, in order. -/
theorem Steps.exists_reports (hpaths : paths.Nodup) {board final : Board}
    (h : Steps (paths.map (rulesTaskAt corpus graph rules)) board final) :
    ∃ added, final.sink.items = board.sink.items ++ added ∧
      added.Perm (runOn corpus graph rules paths) ∧
      ∀ path ∈ paths, added.filter (·.path == path) = reportsAt corpus graph rules path := by
  obtain ⟨added, hadded, hshare⟩ := h.exists_added
  have hperm := h.items
  rw [hadded, List.perm_append_left_iff, batches_rulesTaskAt] at hperm
  refine ⟨added, hadded, hperm, fun path hpath => ?_⟩
  rw [hshare _ (alone_rulesTaskAt hpaths path), batches_rulesTaskAt, filter_runOn hpaths hpath]

end Phase

section Elsewhere

variable {corpus : Corpus} {graph : Option CallGraph} {path file : String} {registry : Registry}
  {change : Rule → RuleInput → Except Failure (List Finding)}

theorem filter_runOn_changed {rules : List Rule}
    (hchange : ∀ rule ∈ rules, ∀ input, input.unit.path ≠ path →
      change rule input = rule.evaluate input) (hother : file ≠ path) (paths : List String) :
    (runOn corpus graph (rules.map fun rule => rule.evaluatedBy (change rule)) paths).filter
        (·.path == file) =
      (runOn corpus graph rules paths).filter (·.path == file) := by
  rw [runOn_eq, runOn_eq, List.filter_flatMap, List.filter_flatMap]
  refine List.flatMap_congr fun at' _ => ?_
  rw [filter_reportsAt, filter_reportsAt]
  by_cases hat : at' = file
  · rw [if_pos hat, if_pos hat, hat]
    cases hunit : corpus.space.file? file with
    | none => rw [reportsAt_of_no_file hunit, reportsAt_of_no_file hunit]
    | some unit =>
        rw [reportsAt_of_file hunit, reportsAt_of_file hunit]
        refine runRules_changed fun rule hrule => hchange rule hrule _ ?_
        exact (SymbolSpace.path_of_file? hunit).2.symm ▸ hother
  · rw [if_neg hat, if_neg hat]

/-- A registry that is changed on one file reports the same about another. -/
theorem diagnostics_changed
    (hchange : ∀ rule ∈ registry.rules, ∀ input, input.unit.path ≠ path →
      change rule input = rule.evaluate input) (hother : file ≠ path) (skipped : List String) :
    (resultOf (registry.changed change) corpus skipped).diagnostics.filter (·.path == file) =
      (resultOf registry corpus skipped).diagnostics.filter (·.path == file) := by
  have hsorted : ∀ registry : Registry,
      (resultOf registry corpus skipped).diagnostics.filter (·.path == file) =
        ((delivered registry corpus).filter (·.path == file)).mergeSort Diagnostic.ordered := by
    intro registry
    simp only [resultOf, Sink.sorted, Sink.items_extend, List.nil_append]
    exact (Sorting.mergeSort_filter Diagnostic.ordered_trans Diagnostic.ordered_total _ _).symm
  have hentries : entryRules (registry.changed change) corpus.space.analysis.disabledRules =
      (entryRules registry corpus.space.analysis.disabledRules).map
        fun rule => rule.evaluatedBy (change rule) := by
    rw [entryRules, entryRules, Registry.ofFamily_changed, Registry.ofFamily_changed,
      List.map_append]
  rw [hsorted, hsorted, delivered, delivered, hentries, Registry.ofFamily_changed]
  simp only [List.filter_append]
  rw [filter_runOn_changed (fun rule hrule => hchange rule (mem_of_mem_entryRules hrule)) hother,
    filter_runOn_changed (fun rule hrule => hchange rule (Registry.mem_of_mem_ofFamily hrule))
      hother]

end Elsewhere

/-- What a run delivers, with the phase of entry files in any order. -/
theorem delivered_perm {registry : Registry} {corpus : Corpus} {analysis : AnalysisSettings}
    (hanalysis : corpus.space.analysis = analysis) {added : List Diagnostic}
    (hadded : (runOn corpus none (entryRules registry analysis.disabledRules)
      corpus.space.entryFiles).Perm added) :
    (delivered registry corpus).Perm
      (indexFailures corpus ++ added ++ scanFailures corpus ++
        runOn corpus (some (graphOf corpus))
          (registry.ofFamily .callGraph analysis.disabledRules) (graphOf corpus).helperFiles) := by
  subst hanalysis
  have hphases := (hadded.append (scanFailures_perm corpus)).append_left (indexFailures corpus)
  simpa only [delivered, List.append_assoc] using hphases.append_right _

end Run

namespace SymbolSpace

variable {analysis : AnalysisSettings} {units : List OutlinedFile} {space : SymbolSpace}

theorem entryFiles_sublist (space : SymbolSpace) :
    space.entryFiles.Sublist (space.files.map (·.path)) := by
  have hpaths : space.files.map (·.path) = space.classifications.map (·.path) := by
    rw [classifications, List.map_map]
    rfl
  rw [hpaths]
  exact List.filter_sublist.map _

theorem Built.nodup_entryFiles (built : Built analysis units space) : space.entryFiles.Nodup := by
  refine space.entryFiles_sublist.nodup ?_
  rw [built.files_eq]
  exact nodup_paths_byPath units

theorem exists_file_of_entry {path : String} (h : path ∈ space.entryFiles) :
    ∃ unit, space.file? path = some unit := by
  obtain ⟨unit, hunit, hpath⟩ := List.mem_map.1 (space.entryFiles_sublist.subset h)
  rw [← Option.isSome_iff_exists, file?, List.find?_isSome]
  exact ⟨unit, hunit, by simp [hpath]⟩

end SymbolSpace

namespace Lint

section Contained

variable {disk : Disk} {parser : Parser} {settings : Settings} {registry : Registry}
  {paths : List Path} {files : List Loaded} {corpus : Corpus} {faults : List (String × Fault)}

/-- A rule that fails is contained. Whatever rules fail on whatever files, there is a result. In
every schedule of the phase of entry files, a file on which a rule fails keeps what the rules
before it found, in order, and gets one error besides; and about every other file than one the
same is reported, whatever rules do on that one. -/
theorem checkFiles_contains_failures {yields : Rule → RuleInput → List Rule.Yield}
    (hregistered : registry.Registered) (hsome : registry.size ≠ 0)
    (hyields : ∀ rule ∈ registry.rules, ∀ input, rule.Yields input (yields rule input))
    (hload : loadFiles disk parser paths = .ok files)
    (hparsed : ∃ file, Loaded.parsed file ∈ files)
    (hcorpus : Corpus.buildTolerant settings.analysis (Run.units settings.analysis files) =
      .ok (corpus, faults)) :
    ∃ result rules,
      checkFiles disk parser settings registry paths = .ok result ∧
      result.entryFiles = corpus.space.entryFiles ∧
      registry.EntryOrder settings.analysis.disabledRules rules ∧
      (∀ board final,
        Run.Steps (result.entryFiles.map (Run.rulesTaskAt corpus none rules)) board final →
          ∃ added, final.sink.items = board.sink.items ++ added ∧
            result.diagnostics.Perm
              (Run.indexFailures corpus ++ added ++ Run.scanFailures corpus ++
                Run.runOn corpus (some (Run.graphOf corpus))
                  (registry.ofFamily .callGraph settings.analysis.disabledRules)
                  result.helperFiles) ∧
            ∀ path ∈ result.entryFiles, ∃ unit, corpus.space.file? path = some unit ∧
              ((∃ rule ∈ rules, ∃ failure,
                  .error failure ∈ yields rule (.ofCorpus corpus unit none)) →
                Run.CutShort (yields · (.ofCorpus corpus unit none)) (.ofCorpus corpus unit none)
                  rules (added.filter (·.path == path)))) ∧
      ∀ path change,
        (∀ rule ∈ registry.rules, ∀ input : RuleInput, input.unit.path ≠ path →
          change rule input = rule.evaluate input) →
        ∃ other, checkFiles disk parser settings (registry.changed change) paths = .ok other ∧
          other.entryFiles = result.entryFiles ∧ other.helperFiles = result.helperFiles ∧
          ∀ file, file ≠ path →
            other.diagnostics.filter (·.path == file) =
              result.diagnostics.filter (·.path == file) := by
  obtain ⟨hpaths, rfl⟩ := loadFiles_eq_ok_iff.1 hload
  have built : SymbolSpace.Built settings.analysis
      (Run.units settings.analysis (loadedFrom disk parser paths)) corpus.space := by
    obtain ⟨space, hspace, rfl, -⟩ := Corpus.buildTolerant_eq_ok_iff.1 hcorpus
    exact SymbolSpace.built_of_build hspace
  have hrun : ∀ {registry : Registry}, registry.size ≠ 0 →
      checkFiles disk parser settings registry paths = .ok (Run.resultOf registry corpus _) :=
    checkFiles_of_corpus hpaths (.inr hparsed) hcorpus
  refine ⟨_, _, hrun hsome, rfl, hregistered.entryOrder _, ?_, ?_⟩
  · intro board final hsteps
    obtain ⟨added, hadded, hreports, hshare⟩ := hsteps.exists_reports built.nodup_entryFiles
    refine ⟨added, hadded, ?_, fun path hpath => ?_⟩
    · exact (Run.diagnostics_perm_delivered registry corpus _).trans
        (Run.delivered_perm built.analysis_eq hreports.symm)
    · obtain ⟨unit, hunit⟩ := SymbolSpace.exists_file_of_entry hpath
      refine ⟨unit, hunit, fun hfails => ?_⟩
      rw [hshare path hpath, Run.reportsAt_of_file hunit]
      exact Run.runRules_cutShort
        (fun rule hrule => hyields rule (Run.mem_of_mem_entryRules hrule) _)
        (hregistered.entryRules_distinct _)
        (fun rule hrule => hregistered.apart.1 rule (Run.mem_of_mem_entryRules hrule)) hfails
  · intro path change hchange
    have hsome' : (registry.changed change).size ≠ 0 := by
      rwa [Registry.size, Registry.changed, List.length_map]
    exact ⟨_, hrun hsome', rfl, rfl, fun file hother =>
      Run.diagnostics_changed hchange hother _⟩

section Yard

def methodRule : Rule :=
  { code := 1, name := "methods", family := .structural, severity := .warning
    category := .language, summary := "No methods"
    evaluate := fun input => .ok ((input.find ["method_declaration"]).map (·, "A method")) }

/-- What the rule against classes gives: it breaks off behind the classes of the bell. -/
def classYields (input : RuleInput) : List Rule.Yield :=
  (input.find ["class_declaration"]).map (fun node => .ok (node, "A class")) ++
    if input.unit.path == "/Bell.cs" then [.error (.raised "RuntimeError" "boom")] else []

def classRule : Rule :=
  { code := 2, name := "classes", family := .structural, severity := .warning
    category := .language, summary := "No classes"
    evaluate := fun input => (classYields input).mapM id }

def breakingRegistry : Registry :=
  { rules := [methodRule, classRule] }

def breakingYields (rule : Rule) (input : RuleInput) : List Rule.Yield :=
  if rule.code == 1 then (input.find ["method_declaration"]).map fun node => .ok (node, "A method")
  else classYields input

theorem registered_breaking : breakingRegistry.Registered :=
  ⟨breakingRegistry.rules, rfl⟩

theorem yields_breaking : ∀ rule ∈ breakingRegistry.rules, ∀ input,
    rule.Yields input (breakingYields rule input) := by
  have hmethod : ∀ input, methodRule.Yields input (breakingYields methodRule input) := by
    intro input
    have hsound : ∀ failure, .error failure ∉ breakingYields methodRule input := by
      simp [breakingYields, methodRule]
    rw [Rule.Yields, Rule.mapM_of_sound hsound]
    simp [breakingYields, methodRule, Rule.findings, Except.toOption]
  simp only [breakingRegistry, List.forall_mem_cons, List.not_mem_nil, false_implies, implies_true,
    and_true]
  exact ⟨hmethod, fun input => rfl⟩

theorem corpus_yard : ∃ faults, Corpus.buildTolerant ({} : Settings).analysis
    (Run.units ({} : Settings).analysis [.parsed alarmFile, .parsed bellFile]) =
      .ok (.ofSpace yardSpace, faults) :=
  ⟨_, Corpus.buildTolerant_eq_ok_iff.2 ⟨yardSpace, build_yard, rfl, rfl⟩⟩

/-- The rule against classes breaks off on the bell: the bell keeps its methods and gets an error,
and the alarm is reported as if no rule had found or failed on anything in the bell. -/
theorem checkFiles_contains_failures_yard : ∃ result rules,
    checkFiles yardDisk yardParser {} breakingRegistry [alarmPath, bellPath] = .ok result ∧
      "/Bell.cs" ∈ result.entryFiles ∧
      (∀ board final,
        Run.Steps (result.entryFiles.map (Run.rulesTaskAt (.ofSpace yardSpace) none rules)) board
          final →
        ∃ added unit, final.sink.items = board.sink.items ++ added ∧
          yardSpace.file? "/Bell.cs" = some unit ∧
          Run.CutShort (breakingYields · (.ofCorpus (.ofSpace yardSpace) unit none))
            (.ofCorpus (.ofSpace yardSpace) unit none) rules
            (added.filter (·.path == "/Bell.cs"))) ∧
      ∃ other,
        checkFiles yardDisk yardParser {} (breakingRegistry.changed fun rule input =>
          if input.unit.path = "/Bell.cs" then .ok [] else rule.evaluate input)
          [alarmPath, bellPath] = .ok other ∧
        other.diagnostics.filter (·.path == "/Alarm.cs") =
          result.diagnostics.filter (·.path == "/Alarm.cs") := by
  have hload : loadFiles yardDisk yardParser [alarmPath, bellPath] =
      .ok [.parsed alarmFile, .parsed bellFile] := by
    refine loadFiles_eq_ok_iff.2 ⟨by simp [ofDisk_alarm, ofDisk_bell], ?_⟩
    simp [loadedFrom, ofDisk_alarm, ofDisk_bell, Except.toOption]
  obtain ⟨faults, hcorpus⟩ := corpus_yard
  obtain ⟨result, rules, hrun, hentries, horder, hphase, helsewhere⟩ :=
    checkFiles_contains_failures registered_breaking (by decide) yields_breaking hload
      ⟨alarmFile, List.mem_cons_self⟩ hcorpus
  have hbell : "/Bell.cs" ∈ result.entryFiles := hentries ▸ bell_mem_entryFiles
  refine ⟨result, rules, hrun, hbell, fun board final hsteps => ?_, ?_⟩
  · obtain ⟨added, hadded, -, hfiles⟩ := hphase board final hsteps
    obtain ⟨unit, hunit, hcut⟩ := hfiles _ hbell
    refine ⟨added, unit, hadded, hunit, hcut ⟨classRule, ?_, .raised "RuntimeError" "boom", ?_⟩⟩
    · obtain ⟨structural, semantic, rfl, hstructural, -⟩ := horder
      exact List.mem_append_left _ (hstructural.mem_iff.2 (.tail _ (.head _)))
    · have hpath : unit.path = "/Bell.cs" := (SymbolSpace.path_of_file? hunit).2
      simp [breakingYields, classRule, classYields, RuleInput.ofCorpus, hpath]
  · obtain ⟨other, hother, -, -, hsame⟩ := helsewhere "/Bell.cs"
      (fun rule input => if input.unit.path = "/Bell.cs" then .ok [] else rule.evaluate input)
      (fun rule _ input hpath => if_neg hpath)
    exact ⟨other, hother, hsame "/Alarm.cs" (by decide)⟩

end Yard

end Contained

end Lint
end SandboxLint
