import SandboxLint.Proofs.CallGraph
import SandboxLint.Proofs.Corpus.Files
import SandboxLint.Proofs.Run.Parts

/-!
Runs on several workers. In each phase of a run the tasks of the files deliver what
they find in any order: batches of diagnostics, edges of the call graph, and paths of
files that are left out. Deliveries commute up to the order in which things lie, and the
result of a run shows no such order; so every schedule gives the same result.
-/

namespace SandboxLint

namespace Rule

/-- A rule whose findings do not show in which order edges came into the call graph. -/
def Pure (rule : Rule) : Prop :=
  ∀ (corpus : Corpus) (unit : OutlinedFile) (a b : CallGraph), a.SameEdges b →
    rule.evaluate (.ofCorpus corpus unit (some b)) = rule.evaluate (.ofCorpus corpus unit (some a))

theorem pure_of_mem_catalog {rule : Rule} (h : rule ∈ Registry.catalogRules) : rule.Pure := by
  intro corpus unit a b hedges
  have halike : Corpus.Alike unit corpus corpus :=
    ⟨rfl, rfl, fun _ _ => rfl, fun _ _ => rfl, fun _ _ => rfl, fun _ _ _ _ => ⟨rfl, rfl⟩,
      fun _ _ _ => rfl⟩
  refine evaluate_congr h halike (congrArg some ?_)
  rw [Bool.eq_iff_iff, List.isEmpty_iff, List.isEmpty_iff, List.eq_nil_iff_forall_not_mem,
    List.eq_nil_iff_forall_not_mem]
  simp only [hedges.callers]

end Rule

namespace Registry

theorem registered_catalog : Registered .catalog :=
  ⟨catalogRules, rfl⟩

end Registry

namespace Run

/-- What the tasks of a run share. -/
structure Board where
  sink : Sink := {}
  graph : CallGraph := []
  skipped : List String := []

/-- What a task delivers at once. -/
inductive Delivery where
  | batch (found : List Diagnostic)
  | edges (entry : String) (helpers : List String)
  | skip (path : String)

abbrev Task := List Delivery

namespace Board

def receive (board : Board) : Delivery → Board
  | .batch found => { board with sink := board.sink.extend found }
  | .edges entry helpers => { board with graph := board.graph.addEdges entry helpers }
  | .skip path => { board with skipped := board.skipped ++ [path] }

/-- Boards that hold the same, whatever order it came in. -/
structure Same (a b : Board) : Prop where
  items : a.sink.items.Perm b.sink.items
  edges : a.graph.SameEdges b.graph
  skipped : a.skipped.Perm b.skipped

namespace Same

variable {a b c : Board}

theorem refl (a : Board) : Same a a :=
  ⟨.refl _, .refl _, .refl _⟩

theorem trans (hab : Same a b) (hbc : Same b c) : Same a c :=
  ⟨hab.items.trans hbc.items, hab.edges.trans hbc.edges, hab.skipped.trans hbc.skipped⟩

theorem receive (h : Same a b) (delivery : Delivery) :
    Same (a.receive delivery) (b.receive delivery) := by
  cases delivery with
  | batch found =>
      refine ⟨?_, h.edges, h.skipped⟩
      simpa only [Board.receive, Sink.items_extend] using h.items.append_right found
  | edges entry helpers => exact ⟨h.items, h.edges.addEdges entry helpers, h.skipped⟩
  | skip path => exact ⟨h.items, h.edges, h.skipped.append_right [path]⟩

/-- Of two deliveries it does not matter which comes first. -/
theorem receive_comm (board : Board) (first second : Delivery) :
    Same ((board.receive first).receive second) ((board.receive second).receive first) := by
  cases first with
  | batch found =>
      cases second with
      | batch found' =>
          refine ⟨?_, .refl _, .refl _⟩
          simp only [Board.receive, Sink.items_extend, List.append_assoc]
          exact List.perm_append_comm.append_left _
      | edges | skip => exact .refl _
  | edges entry helpers =>
      cases second with
      | edges entry' helpers' =>
          exact ⟨.refl _, .addEdges_comm board.graph entry entry' helpers helpers', .refl _⟩
      | batch | skip => exact .refl _
  | skip path =>
      cases second with
      | skip path' =>
          refine ⟨.refl _, .refl _, ?_⟩
          simp only [Board.receive, List.append_assoc]
          exact List.perm_append_comm.append_left _
      | batch | edges => exact .refl _

end Same

def receiveAll (board : Board) (deliveries : List Delivery) : Board :=
  deliveries.foldl receive board

theorem Same.receiveAll {a b : Board} (h : Same a b) (deliveries : List Delivery) :
    Same (a.receiveAll deliveries) (b.receiveAll deliveries) := by
  induction deliveries generalizing a b with
  | nil => exact h
  | cons delivery rest ih => exact ih (h.receive delivery)

/-- A delivery that comes first could as well come after others. -/
theorem same_receiveAll_append (board : Board) (delivery : Delivery)
    (before after : List Delivery) :
    Same ((board.receive delivery).receiveAll (before ++ after))
      (board.receiveAll (before ++ delivery :: after)) := by
  induction before generalizing board with
  | nil => exact .refl _
  | cons first rest ih =>
      have hswap := (Same.receive_comm board delivery first).receiveAll (rest ++ after)
      exact hswap.trans (ih (board.receive first))

end Board

/-- A phase of a run: the next delivery is that of any task, until all have ended. -/
inductive Steps : List Task → Board → Board → Prop
  | done {tasks : List Task} {board : Board} (ended : ∀ task ∈ tasks, task = []) :
      Steps tasks board board
  | step {before after : List Task} {task : Task} {delivery : Delivery} {board final : Board}
      (next : Steps (before ++ task :: after) (board.receive delivery) final) :
      Steps (before ++ (delivery :: task) :: after) board final

namespace Steps

/-- Whatever the schedule, a phase leaves what its tasks leave one after the other. -/
theorem same {tasks : List Task} {board final : Board} (h : Steps tasks board final) :
    final.Same (board.receiveAll tasks.flatten) := by
  induction h with
  | done ended =>
      rw [List.flatten_eq_nil_iff.2 ended]
      exact .refl _
  | @step before after task delivery board final next ih =>
      have hmoved := board.same_receiveAll_append delivery before.flatten
        (task ++ after.flatten)
      simp only [List.flatten_append, List.flatten_cons, List.cons_append] at ih ⊢
      exact ih.trans hmoved

theorem cons_nil {tasks : List Task} {board final : Board} (h : Steps tasks board final) :
    Steps ([] :: tasks) board final := by
  induction h with
  | done ended => exact .done (List.forall_mem_cons.2 ⟨rfl, ended⟩)
  | @step before after task delivery board final _ ih =>
      have hnext : Steps (([] :: before) ++ (delivery :: task) :: after) board final := .step ih
      exact hnext

/-- Taking the tasks one after the other is a schedule. -/
theorem inOrder (tasks : List Task) (board : Board) :
    Steps tasks board (board.receiveAll tasks.flatten) := by
  induction tasks generalizing board with
  | nil => exact .done (by simp)
  | cons task rest ih =>
      induction task generalizing board with
      | nil => exact (ih board).cons_nil
      | cons delivery task ihtask =>
          have hnext : Steps ([] ++ (delivery :: task) :: rest) board _ :=
            .step (ihtask (board.receive delivery))
          exact hnext

/-- The counts stay right at every step, and so in the whole phase. -/
theorem counted {tasks : List Task} {board final : Board} (h : Steps tasks board final)
    (hboard : board.sink.Counted) : final.sink.Counted := by
  induction h with
  | done => exact hboard
  | @step _ _ _ delivery _ _ _ ih =>
      refine ih ?_
      cases delivery with
      | batch found => exact Sink.counted_extend hboard found
      | edges | skip => exact hboard

end Steps

/-- The reading of a file: only one that is left out is delivered. -/
def readingTask (file : Loaded) : Task :=
  file.skipped?.toList.map .skip

/-- The error of a file that came upon a fault, else nothing. -/
def faultTask {α : Type} (path : String) : Except Fault α → Task
  | .ok _ => []
  | .error fault => [.batch [failureDiagnostic path (.fault fault)]]

/-- The scanning of an entry file: its edges all at once, or its error. -/
def scanningTask (corpus : Corpus) (entry : String) : Task :=
  match CallGraph.scan corpus entry with
  | .ok helpers => [.edges entry helpers]
  | .error fault => [.batch [failureDiagnostic entry (.fault fault)]]

/-- The rules on a file: a batch for each, up to the first that fails. -/
def rulesTask (input : RuleInput) : List Rule → Task
  | [] => []
  | rule :: rest =>
      match rule.run input with
      | .ok found => .batch found :: rulesTask input rest
      | .error failure => [.batch [failureDiagnostic input.unit.path failure]]

def rulesTaskAt (corpus : Corpus) (graph : Option CallGraph) (rules : List Rule) (path : String) :
    Task :=
  match corpus.space.file? path with
  | some unit => rulesTask (.ofCorpus corpus unit graph) rules
  | none => []

/-- A run over files on several workers: each phase is taken in some schedule, and the next one
starts when all its tasks have ended. -/
inductive Finishes (analysis : AnalysisSettings) (registry : Registry) (files : List Loaded) :
    LintResult → Prop
  | run {corpus : Corpus} {faults : List (String × Fault)}
      {parsed indexed checked scanned gated : Board}
      (given : files = [] ∨ ∃ file, Loaded.parsed file ∈ files)
      (parsing : Steps (files.map readingTask) {} parsed)
      (built : Corpus.buildTolerant analysis (units analysis files) = .ok (corpus, faults))
      (indexing : Steps (corpus.space.files.map fun unit =>
        faultTask unit.path (corpus.space.index unit)) parsed indexed)
      (checking : Steps (corpus.space.entryFiles.map (rulesTaskAt corpus none
        (entryRules (effectiveRegistry registry) analysis.disabledRules))) indexed checked)
      (scanning : Steps (corpus.space.entryFiles.map (scanningTask corpus)) checked scanned)
      (gating : Steps (scanned.graph.helperFiles.map (rulesTaskAt corpus (some scanned.graph)
        ((effectiveRegistry registry).ofFamily .callGraph analysis.disabledRules))) scanned gated) :
      Finishes analysis registry files
        { diagnostics := gated.sink.sorted
          filesChecked := corpus.space.files.length
          entryFiles := corpus.space.entryFiles
          helperFiles := scanned.graph.helperFiles
          skippedFiles := Text.sorted parsed.skipped
          errorCount := gated.sink.errorCount
          warningCount := gated.sink.warningCount }

/-- What deliveries bring into the sink. -/
def batches (deliveries : List Delivery) : List Diagnostic :=
  deliveries.flatMap fun
    | .batch found => found
    | _ => []

theorem batches_flatten (tasks : List Task) :
    batches tasks.flatten = tasks.flatMap batches := by
  induction tasks with
  | nil => rfl
  | cons task rest ih => simp [batches, ← ih]

theorem Board.items_receiveAll (board : Board) (deliveries : List Delivery) :
    (board.receiveAll deliveries).sink.items = board.sink.items ++ batches deliveries := by
  induction deliveries generalizing board with
  | nil => simp [receiveAll, batches]
  | cons delivery rest ih =>
      have hrest : board.receiveAll (delivery :: rest) = (board.receive delivery).receiveAll rest :=
        rfl
      rw [hrest, ih]
      cases delivery with
      | batch found => simp [receive, Sink.items_extend, batches]
      | edges | skip => simp [receive, batches]

/-- A delivery that brings no edges. -/
def Delivery.Edgeless : Delivery → Prop
  | .edges _ _ => False
  | _ => True

theorem Board.graph_receiveAll (board : Board) {deliveries : List Delivery}
    (h : ∀ delivery ∈ deliveries, delivery.Edgeless) :
    (board.receiveAll deliveries).graph = board.graph := by
  induction deliveries generalizing board with
  | nil => rfl
  | cons delivery rest ih =>
      obtain ⟨hfirst, hrest⟩ := List.forall_mem_cons.1 h
      refine (ih (board.receive delivery) hrest).trans ?_
      cases delivery with
      | batch | skip => rfl
      | edges => exact hfirst.elim

namespace Steps

variable {tasks : List Task} {board final : Board}

theorem items (h : Steps tasks board final) :
    final.sink.items.Perm (board.sink.items ++ tasks.flatMap batches) := by
  rw [← batches_flatten, ← board.items_receiveAll]
  exact h.same.items

theorem edges (h : Steps tasks board final)
    (hedgeless : ∀ task ∈ tasks, ∀ delivery ∈ task, delivery.Edgeless) :
    final.graph.SameEdges board.graph := by
  have hsame := h.same.edges
  rwa [board.graph_receiveAll] at hsame
  intro delivery hdelivery
  obtain ⟨task, htask, hmem⟩ := List.mem_flatten.1 hdelivery
  exact hedgeless task htask delivery hmem

end Steps

theorem batches_rulesTask (input : RuleInput) (rules : List Rule) :
    batches (rulesTask input rules) = runRules input rules := by
  induction rules with
  | nil => rfl
  | cons rule rest ih =>
      rw [rulesTask, runRules]
      cases rule.run input with
      | error failure => simp [batches]
      | ok found =>
          rw [← ih]
          simp [batches]

theorem edgeless_rulesTask (input : RuleInput) (rules : List Rule) :
    ∀ delivery ∈ rulesTask input rules, delivery.Edgeless := by
  induction rules with
  | nil => simp [rulesTask]
  | cons rule rest ih =>
      rw [rulesTask]
      cases rule.run input with
      | error failure => simp [Delivery.Edgeless]
      | ok found => simpa [Delivery.Edgeless] using ih

theorem batches_rulesTaskAt (corpus : Corpus) (graph : Option CallGraph) (rules : List Rule)
    (paths : List String) :
    (paths.map (rulesTaskAt corpus graph rules)).flatMap batches =
      runOn corpus graph rules paths := by
  rw [List.flatMap_map, runOn]
  refine List.flatMap_congr fun path _ => ?_
  rw [rulesTaskAt]
  cases corpus.space.file? path with
  | none => rfl
  | some unit => exact batches_rulesTask _ rules

theorem edgeless_rulesTaskAt (corpus : Corpus) (graph : Option CallGraph) (rules : List Rule)
    (paths : List String) :
    ∀ task ∈ paths.map (rulesTaskAt corpus graph rules), ∀ delivery ∈ task, delivery.Edgeless := by
  intro task htask
  obtain ⟨path, -, rfl⟩ := List.mem_map.1 htask
  rw [rulesTaskAt]
  cases corpus.space.file? path with
  | none => simp
  | some unit => exact edgeless_rulesTask _ rules

theorem batches_faultTask {α β : Type} (items : List β) (path : β → String)
    (result : β → Except Fault α) :
    (items.map fun item => faultTask (path item) (result item)).flatMap batches =
      faultDiagnostics (Corpus.faultsOf (items.map fun item => (path item, result item))) := by
  induction items with
  | nil => rfl
  | cons item rest ih =>
      simp only [List.map_cons, List.flatMap_cons, ih]
      cases result item with
      | ok value => simp [faultTask, batches, Corpus.faultsOf]
      | error fault => simp [faultTask, batches, Corpus.faultsOf, faultDiagnostics]

theorem edgeless_faultTask {α : Type} (path : String) (result : Except Fault α) :
    ∀ delivery ∈ faultTask path result, delivery.Edgeless := by
  cases result with
  | ok value => simp [faultTask]
  | error fault => simp [faultTask, Delivery.Edgeless]

theorem batches_indexing (corpus : Corpus) :
    (corpus.space.files.map fun unit =>
      faultTask unit.path (corpus.space.index unit)).flatMap batches = indexFailures corpus :=
  batches_faultTask _ _ _

theorem batches_scanning (corpus : Corpus) :
    (corpus.space.entryFiles.map (scanningTask corpus)).flatMap batches = scanFailures corpus := by
  have htask : ∀ entry, batches (scanningTask corpus entry) =
      batches (faultTask entry (CallGraph.scan corpus entry)) := by
    intro entry
    rw [scanningTask]
    cases CallGraph.scan corpus entry <;> simp [faultTask, batches]
  rw [scanFailures, ← batches_faultTask, List.flatMap_map, List.flatMap_map]
  exact List.flatMap_congr fun entry _ => htask entry

theorem graph_scanning (board : Board) (corpus : Corpus) (entries : List String) :
    (board.receiveAll (entries.map (scanningTask corpus)).flatten).graph =
      board.graph.addScans corpus entries := by
  induction entries generalizing board with
  | nil => rfl
  | cons entry rest ih =>
      have hfirst : board.receiveAll ((entry :: rest).map (scanningTask corpus)).flatten =
          (board.receiveAll (scanningTask corpus entry)).receiveAll
            (rest.map (scanningTask corpus)).flatten :=
        List.foldl_append
      rw [hfirst, ih, CallGraph.addScans, CallGraph.addScans, List.foldl_cons, scanningTask]
      cases CallGraph.scan corpus entry <;> rfl

theorem skipped_reading (board : Board) (files : List Loaded) :
    (board.receiveAll (files.map readingTask).flatten).skipped =
      board.skipped ++ files.filterMap (·.skipped?) := by
  induction files generalizing board with
  | nil => simp [Board.receiveAll]
  | cons file rest ih =>
      have hfirst : board.receiveAll ((file :: rest).map readingTask).flatten =
          (board.receiveAll (readingTask file)).receiveAll (rest.map readingTask).flatten :=
        List.foldl_append
      rw [hfirst, ih]
      cases hskipped : file.skipped? with
      | none => simp [readingTask, hskipped, Board.receiveAll]
      | some path => simp [readingTask, hskipped, Board.receiveAll, Board.receive]

theorem edgeless_readingTask (file : Loaded) :
    ∀ delivery ∈ readingTask file, delivery.Edgeless := by
  simp [readingTask, Delivery.Edgeless]

theorem batches_reading (files : List Loaded) : (files.map readingTask).flatMap batches = [] := by
  simp [List.flatMap_map, readingTask, batches]

theorem runOn_congr {rules : List Rule} (hpure : ∀ rule ∈ rules, rule.Pure) {a b : CallGraph}
    (h : a.SameEdges b) (corpus : Corpus) (paths : List String) :
    runOn corpus (some a) rules paths = runOn corpus (some b) rules paths := by
  refine List.flatMap_congr fun path _ => ?_
  cases corpus.space.file? path with
  | none => rfl
  | some unit =>
      exact runRules_congr fun rule hrule => (hpure rule hrule corpus unit a b h).symm

/-- A diagnostic of a run is the error of a file, or it has the severity of the rule of its
code. -/
def Graded (registry : Registry) (d : Diagnostic) : Prop :=
  d.code = LintCode.fileFailure ∧ d.severity = .error ∨
    ∃ rule ∈ registry.rules, d.code = rule.code ∧ d.severity = rule.severity

theorem graded_of_mem_faultDiagnostics {registry : Registry} {faults : List (String × Fault)}
    {d : Diagnostic} (h : d ∈ faultDiagnostics faults) : Graded registry d := by
  obtain ⟨fault, -, rfl⟩ := List.mem_map.1 h
  exact .inl ⟨rfl, rfl⟩

theorem graded_of_mem_runRules {registry : Registry} {input : RuleInput} {rules : List Rule}
    (hrules : ∀ rule ∈ rules, rule ∈ registry.rules) {d : Diagnostic}
    (h : d ∈ runRules input rules) : Graded registry d := by
  obtain ⟨failure, rfl⟩ | ⟨rule, hrule, finding, rfl⟩ := mem_runRules h
  · exact .inl ⟨rfl, rfl⟩
  · exact .inr ⟨rule, hrules rule hrule, rfl, rfl⟩

theorem graded_of_mem_runOn {registry : Registry} {corpus : Corpus} {graph : Option CallGraph}
    {rules : List Rule} (hrules : ∀ rule ∈ rules, rule ∈ registry.rules) {paths : List String}
    {d : Diagnostic} (h : d ∈ runOn corpus graph rules paths) : Graded registry d := by
  obtain ⟨path, -, hd⟩ := List.mem_flatMap.1 h
  split at hd
  · exact graded_of_mem_runRules hrules hd
  · cases hd

theorem graded_of_mem_delivered {registry : Registry} {corpus : Corpus} {d : Diagnostic}
    (h : d ∈ delivered registry corpus) : Graded registry d := by
  simp only [delivered, List.mem_append] at h
  rcases h with hindex | (hentry | hscan) | hhelper
  · exact graded_of_mem_faultDiagnostics hindex
  · exact graded_of_mem_runOn (fun _ => mem_of_mem_entryRules) hentry
  · exact graded_of_mem_faultDiagnostics hscan
  · exact graded_of_mem_runOn (fun _ => Registry.mem_of_mem_ofFamily) hhelper

/-- Within a run the order of diagnostics tells them apart. -/
theorem delivered_apart {registry : Registry} (hregistered : registry.Registered)
    {corpus : Corpus} {a b : Diagnostic} (ha : a ∈ delivered registry corpus)
    (hb : b ∈ delivered registry corpus) (hab : a.ordered b = true) (hba : b.ordered a = true) :
    a = b := by
  obtain ⟨hgiven, happart⟩ := hregistered.apart
  refine Diagnostic.eq_of_ordered hab hba fun hcode => ?_
  rcases graded_of_mem_delivered ha with ⟨hfailed, hseverity⟩ | ⟨rule, hrule, hcode', hseverity⟩ <;>
    rcases graded_of_mem_delivered hb with
      ⟨hfailed', hseverity'⟩ | ⟨other, hother, hcode'', hseverity'⟩
  · rw [hseverity, hseverity']
  · exact absurd (hcode''.symm.trans (hcode.symm.trans hfailed)) (hgiven other hother)
  · exact absurd (hcode'.symm.trans (hcode.trans hfailed')) (hgiven rule hrule)
  · have hsame := happart rule hrule other hother (hcode'.symm.trans (hcode.trans hcode''))
    rw [hseverity, hseverity', hsame]

section Finish

variable {analysis : AnalysisSettings} {registry : Registry} {files : List Loaded}

theorem Steps.sameEdges_graphOf {corpus : Corpus} {checked scanned : Board}
    (hempty : checked.graph.SameEdges [])
    (scanning : Steps (corpus.space.entryFiles.map (scanningTask corpus)) checked scanned) :
    scanned.graph.SameEdges (graphOf corpus) := by
  have hscanned := scanning.same.edges
  rw [graph_scanning] at hscanned
  refine hscanned.trans ?_
  rw [graphOf, CallGraph.buildTolerant_eq]
  exact hempty.addScans corpus fun entry => List.mem_mergeSort.symm

/-- A result shows neither in which order its diagnostics, its edges and its skipped files came. -/
theorem eq_resultOf_of_perm {registry : Registry} (hregistered : registry.Registered)
    {corpus : Corpus} {sink : Sink} (hitems : sink.items.Perm (delivered registry corpus))
    (hcounted : sink.Counted) {graph : CallGraph} (hgraph : graph.SameEdges (graphOf corpus))
    {skipped skipped' : List String} (hskipped : skipped.Perm skipped') :
    { diagnostics := sink.sorted
      filesChecked := corpus.space.files.length
      entryFiles := corpus.space.entryFiles
      helperFiles := graph.helperFiles
      skippedFiles := Text.sorted skipped
      errorCount := sink.errorCount
      warningCount := sink.warningCount } = resultOf registry corpus skipped' := by
  have hempty : ({} : Sink).Counted := ⟨rfl, rfl⟩
  obtain ⟨herrors, hwarnings⟩ := Sink.counted_extend hempty (delivered registry corpus)
  simp only [resultOf, LintResult.mk.injEq, hgraph.helperFiles_eq, true_and, herrors, hwarnings,
    hcounted.1, hcounted.2, Sink.items_extend, List.nil_append, Sink.sorted]
  refine ⟨?_, Text.sorted_eq_of_perm hskipped, hitems.countP_eq _, hitems.countP_eq _⟩
  refine Sorting.mergeSort_eq_of_perm Diagnostic.ordered_trans Diagnostic.ordered_total hitems ?_
  exact fun a ha b hb =>
    delivered_apart hregistered (hitems.mem_iff.1 ha) (hitems.mem_iff.1 hb)

/-- What the phases of a run leave, whatever their schedules. -/
theorem Finishes.eq_resultOf {result : LintResult} (h : Finishes analysis registry files result)
    (hregistered : (effectiveRegistry registry).Registered)
    (hpure : ∀ rule ∈ (effectiveRegistry registry).rules, rule.Pure) {corpus : Corpus}
    {faults : List (String × Fault)}
    (hcorpus : Corpus.buildTolerant analysis (units analysis files) = .ok (corpus, faults)) :
    result = resultOf (effectiveRegistry registry) corpus (files.filterMap (·.skipped?)) := by
  obtain @⟨_, _, parsed, indexed, checked, scanned, gated, -, parsing, built, indexing, checking,
    scanning, gating⟩ := h
  cases hcorpus.symm.trans built
  have hanalysis : corpus.space.analysis = analysis := by
    obtain ⟨space, hspace, rfl, -⟩ := Corpus.buildTolerant_eq_ok_iff.1 hcorpus
    exact (SymbolSpace.built_of_build hspace).analysis_eq
  -- no phase before the scanning brings edges
  have hempty : checked.graph.SameEdges [] :=
    (checking.edges (edgeless_rulesTaskAt _ _ _ _)).trans <|
      (indexing.edges fun task htask => by
        obtain ⟨unit, -, rfl⟩ := List.mem_map.1 htask
        exact edgeless_faultTask _ _).trans <|
      parsing.edges fun task htask => by
        obtain ⟨file, -, rfl⟩ := List.mem_map.1 htask
        exact edgeless_readingTask file
  have hgraph := scanning.sameEdges_graphOf hempty
  have hskipped : parsed.skipped.Perm (files.filterMap (·.skipped?)) := by
    have hsame := parsing.same.skipped
    rwa [skipped_reading] at hsame
  have hitems : gated.sink.items.Perm (delivered (effectiveRegistry registry) corpus) := by
    have hrules : ∀ rule ∈ (effectiveRegistry registry).ofFamily .callGraph
        analysis.disabledRules, rule.Pure :=
      fun rule hrule => hpure rule (Registry.mem_of_mem_ofFamily hrule)
    have hgated := gating.items
    rw [batches_rulesTaskAt, hgraph.helperFiles_eq, runOn_congr hrules hgraph] at hgated
    -- the phases add up to all that is delivered, counted for each diagnostic
    rw [List.perm_iff_count]
    intro d
    have hparsed := parsing.items.count_eq d
    have hindexed := indexing.items.count_eq d
    have hchecked := checking.items.count_eq d
    have hscanned := scanning.items.count_eq d
    have hscans := (scanFailures_perm corpus).count_eq d
    replace hgated := hgated.count_eq d
    simp only [batches_reading, batches_indexing, batches_rulesTaskAt, batches_scanning,
      List.count_append, List.count_nil] at hparsed hindexed hchecked hscanned hgated
    simp only [delivered, hanalysis, List.count_append]
    omega
  have hcounted : gated.sink.Counted :=
    gating.counted <| scanning.counted <| checking.counted <| indexing.counted <|
      parsing.counted ⟨rfl, rfl⟩
  exact eq_resultOf_of_perm hregistered hitems hcounted hgraph hskipped

/-- Taking every phase in order is a run. -/
theorem exists_finishes {result : LintResult} (h : check analysis registry files = .ok result) :
    ∃ finished, Finishes analysis registry files finished := by
  obtain ⟨hgiven, corpus, faults, hcorpus, -⟩ := check_eq_ok_iff.1 h
  exact ⟨_, .run hgiven (.inOrder _ _) hcorpus (.inOrder _ _) (.inOrder _ _) (.inOrder _ _)
    (.inOrder _ _)⟩

end Finish

end Run

namespace Loaded

theorem ofDisk_eq_parsed {disk : Disk} {parser : Parser} {path : Path} {file : SourceFile}
    (h : ofDisk disk parser path = .ok (.parsed file)) :
    ∃ bytes resolved tree, disk.readBytes path = .ok bytes ∧ disk.resolve path = .ok resolved ∧
      parser (.ofText (Text.decodeFile bytes)) = some tree ∧
      file = { path := resolved.toText, source := .ofText (Text.decodeFile bytes), tree } := by
  rw [ofDisk] at h
  split at h
  · cases h
  · split at h
    · cases h
    · next bytes hbytes =>
        obtain ⟨resolved, hresolved, h⟩ := Fallible.bind_eq_ok.1 h
        split at h
        · next tree htree =>
            cases h
            exact ⟨bytes, resolved, tree, hbytes, hresolved, htree, rfl⟩
        · cases h

/-- Files that are parsed from plain paths are told by the path they resolve to. -/
theorem parsed_eq_of_path {disk : Disk} {parser : Parser} {path path' : Path}
    {file file' : SourceFile} (hworking : disk.working.Plain) (hpath : path.Plain)
    (hpath' : path'.Plain) (h : ofDisk disk parser path = .ok (.parsed file))
    (h' : ofDisk disk parser path' = .ok (.parsed file')) (hsame : file.path = file'.path) :
    file = file' := by
  obtain ⟨bytes, resolved, tree, hbytes, hresolved, htree, rfl⟩ := ofDisk_eq_parsed h
  obtain ⟨bytes', resolved', tree', hbytes', hresolved', htree', rfl⟩ := ofDisk_eq_parsed h'
  have hread : bytes = bytes' :=
    Disk.readBytes_eq_of_resolve hworking hpath hpath' hbytes hbytes' hresolved hresolved' hsame
  subst hread
  have hparsed : tree = tree' := Option.some.inj (htree.symm.trans htree')
  have htext : resolved.toText = resolved'.toText := hsame
  rw [hparsed, htext]

end Loaded

namespace Lint

/-- Linting the files at some paths on several workers. -/
def Finishes (disk : Disk) (parser : Parser) (settings : Settings) (registry : Registry)
    (paths : List Path) (result : LintResult) : Prop :=
  ∃ files, loadFiles disk parser paths = .ok files ∧
    Run.Finishes settings.analysis registry files result

section Order

variable {disk : Disk} {parser : Parser} {paths paths' : List Path}

/-- The units of files from plain paths are told by their paths. -/
theorem units_apart (hworking : disk.working.Plain) (hpaths : ∀ path ∈ paths, path.Plain)
    (analysis : AnalysisSettings) {a b : OutlinedFile}
    (ha : a ∈ Run.units analysis (loadedFrom disk parser paths))
    (hb : b ∈ Run.units analysis (loadedFrom disk parser paths)) (h : a.path = b.path) : a = b := by
  have hread : ∀ {unit}, unit ∈ Run.units analysis (loadedFrom disk parser paths) →
      ∃ path file, path.Plain ∧ Loaded.ofDisk disk parser path = .ok (.parsed file) ∧
        unit = .ofFile file analysis.markerImport := by
    intro unit hunit
    obtain ⟨file, hfile, rfl⟩ := List.mem_map.1 hunit
    obtain ⟨loaded, hloaded, hparsed⟩ := List.mem_filterMap.1 hfile
    obtain ⟨path, hpath, hof⟩ := List.mem_filterMap.1 hloaded
    cases loaded with
    | unreadable | unparsable => cases hparsed
    | parsed other =>
        cases hparsed
        refine ⟨path, file, hpaths path hpath, ?_, rfl⟩
        cases hdisk : Loaded.ofDisk disk parser path with
        | ok found => simpa [hdisk, Except.toOption] using hof
        | error fault => simp [hdisk, Except.toOption] at hof
  obtain ⟨path, file, hplain, hfile, rfl⟩ := hread ha
  obtain ⟨path', file', hplain', hfile', rfl⟩ := hread hb
  rw [Loaded.parsed_eq_of_path hworking hplain hplain' hfile hfile' h]

/-- Files that come in another order are run with the same result. -/
theorem check_loadedFrom_perm {analysis : AnalysisSettings} {registry : Registry}
    {result : LintResult} (hworking : disk.working.Plain) (hpaths : ∀ path ∈ paths, path.Plain)
    (hcheck : Run.check analysis registry (loadedFrom disk parser paths) = .ok result)
    (hperm : paths'.Perm paths) :
    Run.check analysis registry (loadedFrom disk parser paths') = .ok result := by
  obtain ⟨hgiven, corpus, faults, hcorpus, rfl⟩ := Run.check_eq_ok_iff.1 hcheck
  have hfiles : (loadedFrom disk parser paths').Perm (loadedFrom disk parser paths) :=
    hperm.filterMap _
  have hgiven' : loadedFrom disk parser paths' = [] ∨
      ∃ file, Loaded.parsed file ∈ loadedFrom disk parser paths' := by
    refine hgiven.imp (fun hnone => ?_) fun ⟨file, hfile⟩ => ⟨file, hfiles.mem_iff.2 hfile⟩
    rw [hnone] at hfiles
    exact hfiles.eq_nil
  have hunits : (Run.units analysis (loadedFrom disk parser paths)).Perm
      (Run.units analysis (loadedFrom disk parser paths')) :=
    ((hfiles.filterMap _).map _).symm
  have hspace : SymbolSpace.byPath (Run.units analysis (loadedFrom disk parser paths)) =
      SymbolSpace.byPath (Run.units analysis (loadedFrom disk parser paths')) :=
    SymbolSpace.byPath_eq_of_perm hunits fun a ha b hb => units_apart hworking hpaths analysis ha hb
  have hcorpus' : Corpus.buildTolerant analysis
      (Run.units analysis (loadedFrom disk parser paths')) = .ok (corpus, faults) := by
    rwa [Corpus.buildTolerant, SymbolSpace.build, ← hspace]
  refine Run.check_eq_ok_iff.2 ⟨hgiven', corpus, faults, hcorpus', ?_⟩
  simp only [Run.resultOf, Text.sorted_eq_of_perm (hfiles.filterMap _)]

/-- A run over the same paths in another order has the same result, on any number of workers and
in any schedule: it is that of the run that takes one file after the other. -/
theorem checkFiles_deterministic {settings : Settings} {registry : Registry} {result : LintResult}
    (hworking : disk.working.Plain) (hpaths : ∀ path ∈ paths, path.Plain)
    (hregistered : (Run.effectiveRegistry registry).Registered)
    (hpure : ∀ rule ∈ (Run.effectiveRegistry registry).rules, rule.Pure)
    (hrun : checkFiles disk parser settings registry paths = .ok result)
    (hperm : paths'.Perm paths) :
    checkFiles disk parser settings registry paths' = .ok result ∧
      ∀ result', Finishes disk parser settings registry paths' result' ↔ result' = result := by
  obtain ⟨hload, hcheck⟩ := checkFiles_eq_ok_iff.1 hrun
  have hload' : ∀ path ∈ paths', ∃ loaded, Loaded.ofDisk disk parser path = .ok loaded :=
    fun path hpath => hload path (hperm.mem_iff.1 hpath)
  have hcheck' := check_loadedFrom_perm hworking hpaths hcheck hperm
  have hunique : ∀ finished,
      Run.Finishes settings.analysis registry (loadedFrom disk parser paths') finished →
        finished = result := by
    intro finished hfinished
    obtain ⟨-, corpus, faults, hcorpus, rfl⟩ := Run.check_eq_ok_iff.1 hcheck'
    exact hfinished.eq_resultOf hregistered hpure hcorpus
  refine ⟨checkFiles_eq_ok_iff.2 ⟨hload', hcheck'⟩, fun result' => ⟨?_, ?_⟩⟩
  · rintro ⟨files, hfiles, hfinished⟩
    obtain ⟨-, rfl⟩ := loadFiles_eq_ok_iff.1 hfiles
    exact hunique result' hfinished
  · rintro rfl
    obtain ⟨finished, hfinished⟩ := Run.exists_finishes hcheck'
    cases hunique finished hfinished
    exact ⟨_, loadFiles_eq_ok_iff.2 ⟨hload', rfl⟩, hfinished⟩

/-- A path at which the disk of the door has nothing. -/
def gonePath : Path :=
  { root := .slash, parts := ["Gone.cs"] }

theorem ofDisk_gone : Loaded.ofDisk doorDisk doorParser gonePath =
    .ok (.unreadable "/Gone.cs" "No such file or directory") := by
  have hnull : gonePath.hasNull = false := by decide
  have hgone : List.lookup "Gone.cs" [("Door.cs", FileTree.file (.bytes []))] = none := rfl
  have hentry : doorDisk.entry gonePath = .error .notFound :=
    Disk.entry_top rfl hgone (by simp) hnull (by decide) (by decide)
  have hread : doorDisk.readBytes gonePath = .error .notFound := by
    simp only [Disk.readBytes, Disk.content, hentry]
  simp only [Loaded.ofDisk, hnull, hread]
  rfl

/-- A door and a file that is not there, in both orders. -/
theorem checkFiles_deterministic_door :
    ∃ result, checkFiles doorDisk doorParser {} .catalog [doorPath, gonePath] = .ok result ∧
      ∀ result', Finishes doorDisk doorParser {} .catalog [gonePath, doorPath] result' ↔
        result' = result := by
  have hloaded : loadedFrom doorDisk doorParser [doorPath, gonePath] =
      [.parsed doorFile, .unreadable "/Gone.cs" "No such file or directory"] := by
    simp [loadedFrom, ofDisk_door, ofDisk_gone, Except.toOption]
  have hfiles : ∃ result, Run.check {} .catalog
      (loadedFrom doorDisk doorParser [doorPath, gonePath]) = .ok result := by
    rw [hloaded]
    exact exists_check_door List.mem_cons_self rfl
  obtain ⟨result, hresult⟩ := hfiles
  have hrun : checkFiles doorDisk doorParser {} .catalog [doorPath, gonePath] = .ok result := by
    refine checkFiles_eq_ok_iff.2 ⟨?_, hresult⟩
    simp [ofDisk_door, ofDisk_gone]
  have hplain : ∀ path ∈ [doorPath, gonePath], path.Plain := by
    simp [Path.Plain, Path.PlainPart, doorPath, gonePath]
  have hworking : doorDisk.working.Plain := by simp [Path.Plain, doorDisk]
  have hregistered : (Run.effectiveRegistry .catalog).Registered := Registry.registered_catalog
  have hpure : ∀ rule ∈ (Run.effectiveRegistry .catalog).rules, rule.Pure :=
    fun rule hrule => Rule.pure_of_mem_catalog hrule
  exact ⟨result, hrun, (checkFiles_deterministic hworking hplain hregistered hpure hrun
    (List.Perm.swap _ _ _)).2⟩

end Order

end Lint
end SandboxLint
