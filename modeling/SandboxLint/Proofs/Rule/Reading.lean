import Mathlib.Data.List.Basic
import SandboxLint.Proofs.Syntax.Places
import SandboxLint.Rule.Catalog

/-!
What the rules of the catalog read. Most of them look at the file, its entry types and
the settings alone; six look into the corpus, and one of these at the callers of the
file. So a rule finds the same in two corpora that answer alike all that can be asked
about the places of a file.
-/

namespace SandboxLint

def AnalysisSettings.disabling (analysis : AnalysisSettings) (codes : List Int) :
    AnalysisSettings :=
  { analysis with disabledRules := codes }

/-- Inputs with the same file, entry types and settings, disabled rules apart. -/
structure RuleInput.Alike (a b : RuleInput) : Prop where
  unit_eq : b.unit = a.unit
  entryTypes_eq : b.entryTypes = a.entryTypes
  analysis_eq : b.analysis = a.analysis.disabling b.analysis.disabledRules

namespace Rule

/-- A rule that finds the same in all inputs that are alike, in whatever corpus. -/
def ReadsFile (rule : Rule) : Prop :=
  ∀ a b : RuleInput, a.Alike b → rule.evaluate b = rule.evaluate a

/-- The rules of the catalog that look into the corpus. -/
inductive LooksAround : (RuleInput → Except Failure (List Finding)) → Prop
  | interfaces : LooksAround fun input => .ok (interfaces input)
  | eventTargets : LooksAround fun input => .ok (eventTargets input)
  | fieldAccess : LooksAround crossFileFieldAccess
  | staticAccess : LooksAround staticMethodFieldAccess
  | invocation : LooksAround crossFileMethodInvocation
  | dataUsage : LooksAround serializableClassUsage

theorem readsFile_of_same {rule : Rule}
    (h : ∀ unit entryTypes analysis codes corpus graph corpus' graph',
      rule.evaluate ⟨unit, entryTypes, analysis.disabling codes, corpus', graph'⟩ =
      rule.evaluate ⟨unit, entryTypes, analysis, corpus, graph⟩) : rule.ReadsFile := by
  rintro ⟨unit, entryTypes, analysis, corpus, graph⟩ ⟨_, _, analysis', corpus', graph'⟩ halike
  obtain ⟨rfl, rfl, hanalysis⟩ := halike
  dsimp only at hanalysis
  rw [hanalysis]
  exact h _ _ analysis analysis'.disabledRules corpus graph corpus' graph'

/-- A rule of the catalog reads the file alone and never fails, or it looks around. -/
theorem catalog_cases {rule : Rule} (h : rule ∈ Registry.catalogRules) :
    (rule.ReadsFile ∧ ∀ input, ∃ found, rule.evaluate input = .ok found) ∨
      LooksAround rule.evaluate := by
  simp only [Registry.catalogRules, List.mem_cons, List.not_mem_nil, or_false] at h
  rcases h with rfl | rfl | rfl | rfl | rfl | rfl | rfl | rfl | rfl | rfl | rfl | rfl | rfl | rfl |
    rfl | rfl | rfl | rfl | rfl | rfl | rfl | rfl | rfl | rfl | rfl | rfl
  all_goals first
    | exact .inr (by constructor)
    | exact .inl ⟨readsFile_of_same fun _ _ _ _ _ _ _ _ => rfl, fun _ => ⟨_, rfl⟩⟩

def modelOf (corpus : Corpus) (unit : OutlinedFile) : Model :=
  { space := corpus.space, unit, scopes := (corpus.scopes.get? unit.path).getD [] }

end Rule

namespace RuleInput

variable (corpus : Corpus) (unit : OutlinedFile) (graph : Option CallGraph)

theorem root_ofCorpus : (ofCorpus corpus unit graph).root = unit.file.root :=
  rfl

theorem baseType_ofCorpus : (ofCorpus corpus unit graph).analysis.baseType =
    corpus.space.analysis.baseType :=
  rfl

theorem model_ofCorpus : (ofCorpus corpus unit graph).model =
    .ok (corpus, Rule.modelOf corpus unit) :=
  rfl

end RuleInput

/-- Corpora that give the same answers about the places of a file. -/
structure Corpus.Alike (unit : OutlinedFile) (a b : Corpus) : Prop where
  analysis : b.space.analysis = a.space.analysis.disabling b.space.analysis.disabledRules
  entryNodes : b.space.entryNodes unit = a.space.entryNodes unit
  memberAccess : ∀ node ∈ unit.file.root.places,
    (Rule.modelOf b unit).memberAccess node = (Rule.modelOf a unit).memberAccess node
  invocation : ∀ node ∈ unit.file.root.places,
    (Rule.modelOf b unit).invocation node = (Rule.modelOf a unit).invocation node
  baseInherits : ∀ base ∈ (a.space.entryNodes unit).flatMap (·.baseTypes),
    (RuleInput.resolved ((Rule.modelOf b unit).typeReference base)).any b.space.inheritsBase =
      (RuleInput.resolved ((Rule.modelOf a unit).typeReference base)).any a.space.inheritsBase
  owner : ∀ node ∈ unit.file.root.places, ∀ symbol,
    (Rule.modelOf a unit).memberAccess node = .ok (some symbol) ∨
      (Rule.modelOf a unit).invocation node = .ok (some symbol) →
    b.space.isPlainData symbol.owner = a.space.isPlainData symbol.owner ∧
      b.isShared symbol.owner = a.isShared symbol.owner
  target : ∀ node ∈ unit.file.root.places, ∀ name,
    (((Rule.modelOf b unit).enclosingType node).any fun decl =>
      (b.space.bases.findMethods decl name).isSome) =
    ((Rule.modelOf a unit).enclosingType node).any fun decl =>
      (a.space.bases.findMethods decl name).isSome

theorem Corpus.Alike.baseType {unit : OutlinedFile} {a b : Corpus} (h : Alike unit a b) :
    b.space.analysis.baseType = a.space.analysis.baseType := by
  rw [h.analysis, AnalysisSettings.disabling]

/-- Call graphs, or none, that agree on whether a file is called at all. -/
def CallGraph.AlikeAt (path : String) (a b : Option CallGraph) : Prop :=
  b.map (fun graph => (graph.callersOf path).isEmpty) =
    a.map fun graph => (graph.callersOf path).isEmpty

namespace Rule

variable {a b : Corpus} {unit : OutlinedFile} {root : Node}

theorem resolved_eq_some {α : Type} {result : Except Fault (Option α)} {value : α} :
    RuleInput.resolved result = some value ↔ result = .ok (some value) := by
  cases result with
  | ok found => simp [RuleInput.resolved]
  | error fault => simp [RuleInput.resolved]

theorem plainDataOwner_eq_some {kind : SymbolKind} {symbol? : Option Symbol} {symbol : Symbol} :
    plainDataOwner a kind symbol? = some symbol ↔
      symbol? = some symbol ∧ symbol.kind = kind ∧ a.space.isPlainData symbol.owner = true := by
  simp [plainDataOwner, Option.filter_eq_some_iff]

theorem mem_plainFieldAccesses {model : Model} {root node : Node} {symbol : Symbol} :
    (node, symbol) ∈ plainFieldAccesses a model root ↔
      node ∈ root.descendants ["member_access_expression"] ∧
        model.memberAccess node = .ok (some symbol) ∧ symbol.kind = .field ∧
          a.space.isPlainData symbol.owner = true := by
  rw [plainFieldAccesses, List.mem_filterMap]
  constructor
  · rintro ⟨place, hplace, hfound⟩
    obtain ⟨found, howner, hpair⟩ := Option.map_eq_some_iff.1 hfound
    cases hpair
    rw [plainDataOwner_eq_some, resolved_eq_some] at howner
    exact ⟨hplace, howner⟩
  · rintro ⟨hplace, howner⟩
    rw [← resolved_eq_some, ← plainDataOwner_eq_some] at howner
    exact ⟨node, hplace, Option.map_eq_some_iff.2 ⟨symbol, howner, rfl⟩⟩

theorem plainDataOwner_congr {kind : SymbolKind} {found : Except Fault (Option Symbol)}
    (h : ∀ symbol, found = .ok (some symbol) →
      b.space.isPlainData symbol.owner = a.space.isPlainData symbol.owner) :
    plainDataOwner b kind (RuleInput.resolved found) =
      plainDataOwner a kind (RuleInput.resolved found) := by
  match found with
  | .error fault => rfl
  | .ok none => rfl
  | .ok (some symbol) =>
      simp only [plainDataOwner, RuleInput.resolved, Option.filter_some, h symbol rfl]

theorem breach_congr {owner : TypeDecl} (path : String) (h : b.isShared owner = a.isShared owner) :
    breach b path owner = breach a path owner := by
  simp only [breach, h]

theorem plainFieldAccesses_congr (halike : Corpus.Alike unit a b)
    (hroot : root ∈ unit.file.root.places) :
    plainFieldAccesses b (modelOf b unit) root = plainFieldAccesses a (modelOf a unit) root := by
  refine List.filterMap_congr fun node hnode => ?_
  have hplace := Node.mem_places_of_descendant hroot hnode
  rw [halike.memberAccess node hplace,
    plainDataOwner_congr fun symbol hsymbol => (halike.owner node hplace symbol (.inl hsymbol)).1]

theorem isShared_of_plainFieldAccess (halike : Corpus.Alike unit a b)
    (hroot : root ∈ unit.file.root.places) {node : Node} {symbol : Symbol}
    (h : (node, symbol) ∈ plainFieldAccesses a (modelOf a unit) root) :
    b.isShared symbol.owner = a.isShared symbol.owner := by
  obtain ⟨hplace, hmember, -⟩ := mem_plainFieldAccesses.1 h
  exact (halike.owner node (Node.mem_places_of_descendant hroot hplace) symbol (.inl hmember)).2

theorem interfaces_congr (halike : Corpus.Alike unit a b) (graph graph' : Option CallGraph) :
    interfaces (.ofCorpus b unit graph') = interfaces (.ofCorpus a unit graph) := by
  have hinherits : ∀ base ∈ (a.space.entryNodes unit).flatMap (·.baseTypes),
      baseInherits (.ofCorpus b unit graph') base = baseInherits (.ofCorpus a unit graph) base :=
    halike.baseInherits
  have htypes : (RuleInput.ofCorpus b unit graph').entryTypes = a.space.entryNodes unit :=
    halike.entryNodes
  have htypes' : (RuleInput.ofCorpus a unit graph).entryTypes = a.space.entryNodes unit := rfl
  simp only [interfaces, RuleInput.baseType_ofCorpus, halike.baseType, htypes, htypes']
  refine congrArg (List.map _) (List.filter_congr fun base hmem => ?_)
  rw [hinherits base hmem]

theorem eventTargets_congr (halike : Corpus.Alike unit a b) (graph graph' : Option CallGraph) :
    eventTargets (.ofCorpus b unit graph') = eventTargets (.ofCorpus a unit graph) := by
  refine List.filterMap_congr fun call hcall => ?_
  have hplace := (List.mem_filter.1 hcall).1
  have htarget : ∀ type name, declaresTarget (.ofCorpus b unit graph') type call name =
      declaresTarget (.ofCorpus a unit graph) type call name :=
    fun type name => congrArg (Bool.or _) (halike.target call hplace name)
  have htypes : (RuleInput.ofCorpus b unit graph').entryTypes =
      (RuleInput.ofCorpus a unit graph).entryTypes := halike.entryNodes
  simp only [htarget, htypes]

theorem crossFileFieldAccess_congr (halike : Corpus.Alike unit a b)
    (graph graph' : Option CallGraph) :
    crossFileFieldAccess (.ofCorpus b unit graph') =
      crossFileFieldAccess (.ofCorpus a unit graph) := by
  have hroot := Node.mem_places_self unit.file.root
  show Except.ok (List.filterMap _ (plainFieldAccesses b (modelOf b unit) unit.file.root)) =
    Except.ok (List.filterMap _ (plainFieldAccesses a (modelOf a unit) unit.file.root))
  rw [plainFieldAccesses_congr halike hroot]
  refine congrArg Except.ok (List.filterMap_congr ?_)
  rintro ⟨node, symbol⟩ haccess
  have hshared := isShared_of_plainFieldAccess halike hroot haccess
  exact congrArg (Option.map _) (breach_congr unit.path hshared)

theorem crossFileMethodInvocation_congr (halike : Corpus.Alike unit a b)
    (graph graph' : Option CallGraph) :
    crossFileMethodInvocation (.ofCorpus b unit graph') =
      crossFileMethodInvocation (.ofCorpus a unit graph) := by
  simp only [crossFileMethodInvocation, RuleInput.model_ofCorpus]
  refine congrArg Except.ok (List.filterMap_congr fun call hcall => ?_)
  have hplace := (List.mem_filter.1 hcall).1
  rw [halike.invocation call hplace, plainDataOwner_congr (a := a) fun symbol hsymbol =>
    (halike.owner call hplace symbol (.inr hsymbol)).1]
  refine Option.bind_congr fun symbol hsymbol => ?_
  obtain ⟨hresolved, -⟩ := plainDataOwner_eq_some.1 hsymbol
  have hshared := (halike.owner call hplace symbol (.inr (resolved_eq_some.1 hresolved))).2
  rw [breach_congr _ hshared]
  rfl

theorem serializableClassUsage_congr (halike : Corpus.Alike unit a b)
    (graph graph' : Option CallGraph) :
    serializableClassUsage (.ofCorpus b unit graph') =
      serializableClassUsage (.ofCorpus a unit graph) := by
  have haccesses := plainFieldAccesses_congr halike (Node.mem_places_self unit.file.root)
  simp only [serializableClassUsage, RuleInput.model_ofCorpus, RuleInput.root_ofCorpus,
    RuleInput.baseType_ofCorpus, halike.baseType]
  exact congrArg (fun accesses => Except.ok (List.map _ accesses)) haccesses

theorem staticMethodFieldAccess_congr (halike : Corpus.Alike unit a b)
    {graph graph' : Option CallGraph} (hgraph : CallGraph.AlikeAt unit.path graph graph') :
    staticMethodFieldAccess (.ofCorpus b unit graph') =
      staticMethodFieldAccess (.ofCorpus a unit graph) := by
  match graph, graph' with
  | none, none => rfl
  | some graph, some graph' =>
      have hcallers : (graph'.callersOf unit.path).isEmpty = (graph.callersOf unit.path).isEmpty :=
        Option.some.inj hgraph
      simp only [staticMethodFieldAccess, RuleInput.model_ofCorpus, RuleInput.baseType_ofCorpus,
        halike.baseType]
      show (if (graph'.callersOf unit.path).isEmpty = true then _ else _) =
        if (graph.callersOf unit.path).isEmpty = true then _ else _
      rw [hcallers]
      refine if_congr Iff.rfl rfl ?_
      refine congrArg Except.ok (List.flatMap_congr fun method hmethod => ?_)
      have hplace : method ∈ unit.file.root.places :=
        (List.mem_filter.1 (List.mem_filter.1 hmethod).1).1
      exact congrArg (List.map _) (plainFieldAccesses_congr halike hplace)

/-- A rule of the catalog finds the same in a file of two corpora that are alike there. -/
theorem evaluate_congr {rule : Rule} (hrule : rule ∈ Registry.catalogRules)
    (halike : Corpus.Alike unit a b) {graph graph' : Option CallGraph}
    (hgraph : CallGraph.AlikeAt unit.path graph graph') :
    rule.evaluate (.ofCorpus b unit graph') = rule.evaluate (.ofCorpus a unit graph) := by
  cases catalog_cases hrule with
  | inl hfile => exact hfile.1 _ _ ⟨rfl, halike.entryNodes, halike.analysis⟩
  | inr haround =>
      generalize rule.evaluate = evaluate at haround
      cases haround with
      | interfaces => exact congrArg Except.ok (interfaces_congr halike graph graph')
      | eventTargets => exact congrArg Except.ok (eventTargets_congr halike graph graph')
      | fieldAccess => exact crossFileFieldAccess_congr halike graph graph'
      | staticAccess => exact staticMethodFieldAccess_congr halike hgraph
      | invocation => exact crossFileMethodInvocation_congr halike graph graph'
      | dataUsage => exact serializableClassUsage_congr halike graph graph'

/-- No rule of the catalog fails on a file of a corpus. -/
theorem exists_evaluate {rule : Rule} (hrule : rule ∈ Registry.catalogRules) (corpus : Corpus)
    (unit : OutlinedFile) (graph : Option CallGraph) :
    ∃ found, rule.evaluate (.ofCorpus corpus unit graph) = .ok found := by
  cases catalog_cases hrule with
  | inl hfile => exact hfile.2 _
  | inr haround =>
      generalize rule.evaluate = evaluate at haround
      cases haround with
      | interfaces | eventTargets | fieldAccess | invocation | dataUsage => exact ⟨_, rfl⟩
      | staticAccess =>
          cases graph with
          | none => exact ⟨_, rfl⟩
          | some graph =>
              by_cases hcallers : (graph.callersOf unit.path).isEmpty = true
              · exact ⟨[], if_pos hcallers⟩
              · exact ⟨_, if_neg hcallers⟩

end Rule
end SandboxLint
