import SandboxLint.Proofs.CallGraph
import SandboxLint.Proofs.Corpus.ApartIndex
import SandboxLint.Proofs.Run.Parts

/-!
Runs over two sides. Where two sides of a corpus name none of each other's types, each
file of a side is classified, scanned and checked in the corpus of all files as it is in
the corpus of its side; so the entry files, the call graph and the diagnostics of a side
are the parts of the whole ones that are about its files.
-/

namespace SandboxLint

theorem any_congr {α : Type} {value? : Option α} {p q : α → Bool}
    (h : ∀ value, value? = some value → p value = q value) : value?.any p = value?.any q := by
  cases value? with
  | none => rfl
  | some value => exact h value rfl

theorem any_resolved_congr {α : Type} {result : Except Fault (Option α)} {p q : α → Bool}
    (h : ∀ value, result = .ok (some value) → p value = q value) :
    (RuleInput.resolved result).any p = (RuleInput.resolved result).any q :=
  any_congr fun value hvalue => h value (Rule.resolved_eq_some.1 hvalue)

theorem SymbolSpace.path_of_file? {space : SymbolSpace} {path : String} {unit : OutlinedFile}
    (h : space.file? path = some unit) : unit ∈ space.files ∧ unit.path = path :=
  ⟨List.mem_of_find?_eq_some h, by simpa using List.find?_some h⟩

namespace CallGraph

variable {corpus : Corpus} {entry : String}

theorem scan_of_no_file (h : corpus.space.file? entry = none) : scan corpus entry = .ok [] := by
  rw [scan, Corpus.model?, h]
  rfl

theorem scan_of_file {unit : OutlinedFile} (h : corpus.space.file? entry = some unit) :
    scan corpus entry = do
      let symbols ← (unit.file.root.descendants ["invocation_expression"]).mapM
        (Rule.modelOf corpus unit).invocation
      return symbols.filterMap (helperOf entry) := by
  obtain ⟨-, rfl⟩ := SymbolSpace.path_of_file? h
  rw [scan, Corpus.model?, h]
  rfl

end CallGraph

/-- A rule of the catalog, or one that reads nothing but the file, finds the same in corpora that
are alike there. -/
theorem Rule.evaluate_eq_of_alike {rule : Rule}
    (hrule : rule ∈ Registry.catalogRules ∨ rule.ReadsFile) {unit : OutlinedFile} {a b : Corpus}
    (halike : Corpus.Alike unit a b) {graph graph' : Option CallGraph}
    (hgraph : CallGraph.AlikeAt unit.path graph graph') :
    rule.evaluate (.ofCorpus b unit graph') = rule.evaluate (.ofCorpus a unit graph) := by
  cases hrule with
  | inl hcatalog => exact evaluate_congr hcatalog halike hgraph
  | inr hfile => exact hfile _ _ ⟨rfl, halike.entryNodes, halike.analysis⟩

namespace Run

variable {corpus : Corpus} {graph : Option CallGraph} {rules : List Rule} {path : String}

/-- What rules report about the file at a path of a corpus. -/
def reportsAt (corpus : Corpus) (graph : Option CallGraph) (rules : List Rule) (path : String) :
    List Diagnostic :=
  match corpus.space.file? path with
  | some unit => runRules (.ofCorpus corpus unit graph) rules
  | none => []

theorem runOn_eq (corpus : Corpus) (graph : Option CallGraph) (rules : List Rule)
    (paths : List String) :
    runOn corpus graph rules paths = paths.flatMap (reportsAt corpus graph rules) :=
  rfl

theorem reportsAt_of_no_file (h : corpus.space.file? path = none) :
    reportsAt corpus graph rules path = [] := by
  rw [reportsAt, h]

theorem reportsAt_of_file {unit : OutlinedFile} (h : corpus.space.file? path = some unit) :
    reportsAt corpus graph rules path = runRules (.ofCorpus corpus unit graph) rules := by
  rw [reportsAt, h]

theorem path_of_mem_reportsAt {d : Diagnostic} (h : d ∈ reportsAt corpus graph rules path) :
    d.path = path := by
  cases hunit : corpus.space.file? path with
  | none =>
      rw [reportsAt_of_no_file hunit] at h
      cases h
  | some unit =>
      rw [reportsAt_of_file hunit] at h
      have hpath := (SymbolSpace.path_of_file? hunit).2
      obtain ⟨failure, rfl⟩ | ⟨rule, -, finding, rfl⟩ := mem_runRules h
      · exact hpath
      · exact hpath

theorem faultsOf_filter {α : Type} (keep : String → Bool)
    (results : List (String × Except Fault α)) :
    Corpus.faultsOf (results.filter (keep ·.1)) = (Corpus.faultsOf results).filter (keep ·.1) := by
  induction results with
  | nil => rfl
  | cons first rest ih =>
      obtain ⟨path, result⟩ := first
      simp only [Corpus.faultsOf] at ih ⊢
      cases hkeep : keep path <;> cases result <;> simp [hkeep, ih]

/-- Leaving out files before or after their faults are reported makes no difference. -/
theorem faultDiagnostics_filter {α : Type} (keep : String → Bool)
    (results : List (String × Except Fault α)) :
    faultDiagnostics (Corpus.faultsOf (results.filter (keep ·.1))) =
      (faultDiagnostics (Corpus.faultsOf results)).filter (keep ·.path) := by
  rw [faultsOf_filter, faultDiagnostics, faultDiagnostics, List.filter_map]
  rfl

end Run

variable {near away : String → Prop} {home : String → Bool}

section Sides

open SymbolSpace

variable {analysis : AnalysisSettings} {units : List OutlinedFile} {space part : SymbolSpace}

theorem Side.file?_part (built : Built analysis units space)
    (built' : Built analysis (atHome home units) part) {path : String} (hhome : home path = true) :
    part.file? path = space.file? path := by
  rw [file?, file?, Side.files_of_part built built', find?_atHome hhome]

theorem Side.mem_places_of_entryNode (side : Side near home space.files) {unit : OutlinedFile}
    (hunit : unit ∈ space.files) {node : Node} (h : node ∈ space.entryNodes unit) :
    node ∈ unit.file.root.places := by
  obtain ⟨fragment, hfragment, rfl⟩ := List.mem_map.1 h
  have hdeclared := (List.mem_filter.1 hfragment).1
  obtain ⟨file, marker, rfl⟩ := side.outlined unit hunit
  obtain ⟨place, hplace, -, rfl⟩ := Outline.mem_types_iff.1 hdeclared
  exact hplace

/-- An entry file calls into files of its own side only. -/
theorem Side.home_of_calls (side : Side near home space.files)
    (built : Built analysis units space) {entry helper : String} (hhome : home entry = true)
    (h : CallGraph.Calls (Corpus.ofSpace space) entry helper) : home helper = true := by
  obtain ⟨helpers, hscan, hhelper⟩ := h
  cases hfile : space.file? entry with
  | none =>
      rw [CallGraph.scan_of_no_file hfile] at hscan
      cases hscan
      cases hhelper
  | some unit =>
      obtain ⟨hunit, rfl⟩ := path_of_file? hfile
      rw [CallGraph.scan_of_file hfile] at hscan
      obtain ⟨symbols, hsymbols, hhelpers⟩ := Fallible.bind_eq_ok.1 hscan
      cases hhelpers
      obtain ⟨symbol?, hsymbol, hleads⟩ := List.mem_filterMap.1 hhelper
      obtain ⟨symbol, rfl, hleads⟩ := Option.bind_eq_some_iff.1 hleads
      obtain ⟨-, hpath⟩ := (Option.ite_none_right_eq_some (p := _ = true)).1 hleads
      cases hpath
      obtain ⟨call, hcall, hinvocation⟩ := (Fallible.mem_of_mapM hsymbols).1 hsymbol
      -- A call read in a file of this side is answered by a type of this side.
      have hread := side.readAlike_self built hunit hhome (built.scopes_of_file hunit)
      have hnear := (Model.invocation_alike (side.agree_self built) hread
        (List.mem_filter.1 hcall).1).2 symbol hinvocation
      exact hnear.path

namespace Apart

variable (apart : Apart near away home space.files) (built : Built analysis units space)

include apart built in
/-- An entry file and the helper files that it calls into stand on one side. -/
theorem home_of_calls {entry helper : String}
    (h : CallGraph.Calls (Corpus.ofSpace space) entry helper) : home helper = home entry := by
  cases hhome : home entry with
  | true => exact apart.here.home_of_calls built hhome h
  | false => simpa using apart.there.home_of_calls built (by simp [hhome]) h

variable (built' : Built analysis (atHome home units) part)
include apart built built'

theorem isEntryFragment_eq {unit : OutlinedFile} (hunit : unit ∈ space.files)
    (hhome : home unit.path = true) {fragment : Fragment}
    (hfragment : fragment ∈ unit.outline.types) :
    part.isEntryFragment fragment = space.isEntryFragment fragment := by
  have hcommon := apart.here.common_of_fragment hunit hhome hfragment
  have htypes : typesIn space.files = space.types := built.types_eq.symm
  rw [← Side.types_of_part built built', htypes] at hcommon
  obtain ⟨decl, hown, hspace, hpart⟩ := hcommon
  have hinherits := (apart.agree built built').inherits decl hown
  simp only [isEntryFragment, hspace, hpart, Option.any_some, hinherits]

theorem classify_eq {unit : OutlinedFile} (hunit : unit ∈ space.files)
    (hhome : home unit.path = true) : part.classify unit = space.classify unit := by
  have htypes : unit.outline.types.filter part.isEntryFragment =
      unit.outline.types.filter space.isEntryFragment :=
    List.filter_congr fun _ hfragment =>
      apart.isEntryFragment_eq built built' hunit hhome hfragment
  rw [classify, classify, htypes]

/-- The entry files of a side are those of the whole space that stand there. -/
theorem entryFiles_part : part.entryFiles = space.entryFiles.filter home := by
  have hfiles : part.classifications = space.classifications.filter (home ·.path) := by
    rw [classifications, classifications, Side.files_of_part built built', List.filter_map]
    refine List.map_congr_left fun unit hunit => ?_
    obtain ⟨hunit, hhome⟩ := List.mem_filter.1 hunit
    exact apart.classify_eq built built' hunit hhome
  rw [entryFiles, entryFiles, hfiles, List.filter_map, List.filter_filter, List.filter_filter]
  refine congrArg (List.map _) (List.filter_congr fun c _ => ?_)
  exact Bool.and_comm _ _

/-- The corpora of a side and of all files give the same answers about a file of the side. -/
theorem alike {unit : OutlinedFile} (hunit : unit ∈ space.files) (hhome : home unit.path = true) :
    Corpus.Alike unit (Corpus.ofSpace space) (Corpus.ofSpace part) := by
  have hagree := apart.agree built built'
  have hread := apart.readAlike built built' hunit hhome (built.scopes_of_file hunit)
  have hmodel : Rule.modelOf (Corpus.ofSpace part) unit =
      ⟨part, unit, ((Corpus.ofSpace space).scopes.get? unit.path).getD []⟩ := by
    rw [Rule.modelOf, apart.scopes_part built built' hhome]
    rfl
  have hnodes : part.entryNodes unit = space.entryNodes unit := by
    rw [entryNodes, entryNodes, apart.classify_eq built built' hunit hhome]
  refine ⟨?_, hnodes, fun node hnode => ?_, fun node hnode => ?_, fun base hbase => ?_,
    fun node hnode symbol hsymbol => ?_, fun node hnode name => ?_⟩
  · show part.analysis = space.analysis.disabling part.analysis.disabledRules
    rw [hagree.analysis]
    rfl
  · rw [hmodel]
    exact (Model.memberAccess_alike hagree hread hnode).1
  · rw [hmodel]
    exact (Model.invocation_alike hagree hread hnode).1
  · obtain ⟨node, hnode, hbase⟩ := List.mem_flatMap.1 hbase
    have hentry := apart.here.mem_places_of_entryNode hunit hnode
    have hplace := Node.mem_places_of_baseType hentry hbase
    obtain ⟨heq, hown⟩ := Model.typeReference_alike hagree hread hplace
    rw [hmodel, heq]
    exact any_resolved_congr fun decl hdecl => hagree.inherits decl (hown decl hdecl)
  · have hown : space.types.Own near symbol.owner := by
      cases hsymbol with
      | inl haccess => exact ((Model.memberAccess_alike hagree hread hnode).2 symbol haccess).owner
      | inr hcall => exact ((Model.invocation_alike hagree hread hnode).2 symbol hcall).owner
    exact ⟨hagree.isPlainData_eq hown, apart.isShared_part built built' hown⟩
  · obtain ⟨heq, hown⟩ := Model.enclosingType_eq hread hnode
    rw [hmodel, heq]
    exact any_congr fun decl hdecl =>
      congrArg Option.isSome (hagree.bases.findMethods_eq (hown decl hdecl) name)

/-- An entry file at home is scanned alike in both corpora. -/
theorem scan_eq {entry : String} (hhome : home entry = true) :
    CallGraph.scan (Corpus.ofSpace part) entry = CallGraph.scan (Corpus.ofSpace space) entry := by
  have hfile := Side.file?_part built built' hhome
  cases hunit : space.file? entry with
  | none => rw [CallGraph.scan_of_no_file (hfile.trans hunit), CallGraph.scan_of_no_file hunit]
  | some unit =>
      obtain ⟨hmem, rfl⟩ := path_of_file? hunit
      rw [CallGraph.scan_of_file (hfile.trans hunit), CallGraph.scan_of_file hunit]
      refine congrArg (· >>= _) (Fallible.mapM_congr fun call hcall => ?_)
      exact (apart.alike built built' hmem hhome).invocation call (List.mem_filter.1 hcall).1

/-- The call graph of a side is the part of the whole graph about the helper files there. -/
theorem graphOf_part : Run.graphOf (Corpus.ofSpace part) =
    (Run.graphOf (Corpus.ofSpace space)).filter (home ·.1) := by
  rw [Run.graphOf, Run.graphOf, CallGraph.buildTolerant_eq, CallGraph.buildTolerant_eq,
    Corpus.space_ofSpace, Corpus.space_ofSpace, apart.entryFiles_part built built',
    Text.sorted_filter]
  exact (CallGraph.addScans_filter (fun entry _ hhome => apart.scan_eq built built' hhome)
    (fun entry _ helper hcalls => apart.home_of_calls built hcalls) []).symm

theorem callersOf_part {path : String} (hhome : home path = true) :
    (Run.graphOf (Corpus.ofSpace part)).callersOf path =
      (Run.graphOf (Corpus.ofSpace space)).callersOf path := by
  rw [CallGraph.callersOf, CallGraph.callersOf, apart.graphOf_part built built',
    Assoc.get?_filter hhome]

theorem helperFiles_part : (Run.graphOf (Corpus.ofSpace part)).helperFiles =
    (Run.graphOf (Corpus.ofSpace space)).helperFiles.filter home := by
  rw [CallGraph.helperFiles, CallGraph.helperFiles, apart.graphOf_part built built',
    ← Text.sortedSet_filter, Assoc.keys, Assoc.keys, List.filter_map]
  rfl

/-- Rules report the same about the files of a side, whether these are taken alone or not. -/
theorem runOn_part {rules : List Rule}
    (hrules : ∀ rule ∈ rules, rule ∈ Registry.catalogRules ∨ rule.ReadsFile)
    {graph graph' : Option CallGraph}
    (hgraph : ∀ path, home path = true → CallGraph.AlikeAt path graph graph')
    (paths : List String) :
    Run.runOn (Corpus.ofSpace part) graph' rules (paths.filter home) =
      (Run.runOn (Corpus.ofSpace space) graph rules paths).filter (home ·.path) := by
  have hpath : ∀ path ∈ paths, ∀ d ∈ Run.reportsAt (Corpus.ofSpace space) graph rules path,
      home d.path = home path :=
    fun path _ d hd => congrArg home (Run.path_of_mem_reportsAt hd)
  rw [Run.runOn_eq, Run.runOn_eq, ← flatMap_filter_eq hpath]
  refine List.flatMap_congr fun path hmem => ?_
  have hhome := (List.mem_filter.1 hmem).2
  have hfile := Side.file?_part built built' hhome
  cases hunit : space.file? path with
  | none => rw [Run.reportsAt_of_no_file (hfile.trans hunit), Run.reportsAt_of_no_file hunit]
  | some unit =>
      obtain ⟨hknown, rfl⟩ := path_of_file? hunit
      rw [Run.reportsAt_of_file (hfile.trans hunit), Run.reportsAt_of_file hunit]
      exact Run.runRules_congr fun rule hrule => Rule.evaluate_eq_of_alike (hrules rule hrule)
        (apart.alike built built' hknown hhome) (hgraph unit.path hhome)

theorem indexFailures_part : Run.indexFailures (Corpus.ofSpace part) =
    (Run.indexFailures (Corpus.ofSpace space)).filter (home ·.path) := by
  have hresults : (part.files.map fun unit => (unit.path, part.index unit)) =
      (space.files.map fun unit => (unit.path, space.index unit)).filter (home ·.1) := by
    rw [Side.files_of_part built built', List.filter_map]
    refine List.map_congr_left fun unit hunit => ?_
    obtain ⟨hunit, hhome⟩ := List.mem_filter.1 hunit
    rw [apart.index_eq built built' hunit hhome]
  rw [Run.indexFailures, Run.indexFailures, ← Run.faultDiagnostics_filter]
  exact congrArg (fun results => Run.faultDiagnostics (Corpus.faultsOf results)) hresults

theorem scanFaults_part :
    Run.faultDiagnostics (CallGraph.buildTolerant (Corpus.ofSpace part) part.entryFiles).2 =
      (Run.faultDiagnostics
        (CallGraph.buildTolerant (Corpus.ofSpace space) space.entryFiles).2).filter
          (home ·.path) := by
  rw [CallGraph.buildTolerant, CallGraph.buildTolerant, apart.entryFiles_part built built',
    Text.sorted_filter, ← Run.faultDiagnostics_filter, List.filter_map]
  refine congrArg (fun results => Run.faultDiagnostics (Corpus.faultsOf results))
    (List.map_congr_left fun entry hentry => ?_)
  rw [apart.scan_eq built built' (List.mem_filter.1 hentry).2]

/-- What is delivered about the files of a side is what a run over this side alone delivers. -/
theorem delivered_part {registry : Registry}
    (hrules : ∀ rule ∈ registry.rules, rule ∈ Registry.catalogRules ∨ rule.ReadsFile) :
    Run.delivered registry (Corpus.ofSpace part) =
      (Run.delivered registry (Corpus.ofSpace space)).filter (home ·.path) := by
  have hanalysis := (apart.agree built built').analysis
  have hentryRules : ∀ rule ∈ Run.entryRules registry space.analysis.disabledRules,
      rule ∈ Registry.catalogRules ∨ rule.ReadsFile :=
    fun rule hrule => hrules rule (Run.mem_of_mem_entryRules hrule)
  have hhelperRules : ∀ rule ∈ registry.ofFamily .callGraph space.analysis.disabledRules,
      rule ∈ Registry.catalogRules ∨ rule.ReadsFile :=
    fun rule hrule => hrules rule (Registry.mem_of_mem_ofFamily hrule)
  have hcallers : ∀ path, home path = true → CallGraph.AlikeAt path
      (some (Run.graphOf (Corpus.ofSpace space))) (some (Run.graphOf (Corpus.ofSpace part))) := by
    intro path hhome
    simp only [CallGraph.AlikeAt, Option.map_some, apart.callersOf_part built built' hhome]
  rw [Run.delivered, Run.delivered, List.filter_append, List.filter_append, List.filter_append,
    Corpus.space_ofSpace, Corpus.space_ofSpace, apart.indexFailures_part built built',
    apart.scanFaults_part built built', hanalysis, apart.entryFiles_part built built',
    apart.helperFiles_part built built']
  exact congrArg₂ (fun entry helper => _ ++ (entry ++ _ ++ helper))
    (apart.runOn_part built built' hentryRules (fun _ _ => rfl) _)
    (apart.runOn_part built built' hhelperRules hcallers _)

end Apart

end Sides

end SandboxLint
