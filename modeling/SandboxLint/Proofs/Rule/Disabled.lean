import SandboxLint.Proofs.Rule.Reading

/-!
Names and expressions mean the same whatever rules are disabled, and what a rule of the
catalog finds in a file does not depend on it. Other rules can look at it, as it is part
of the settings that rules are given.
-/

namespace SandboxLint

/-- The space with other rules disabled. -/
def SymbolSpace.disabling (space : SymbolSpace) (codes : List Int) : SymbolSpace :=
  { space with analysis := space.analysis.disabling codes }

def Corpus.disabling (corpus : Corpus) (codes : List Int) : Corpus :=
  { corpus with space := corpus.space.disabling codes }

namespace Model

def disabling (model : Model) (codes : List Int) : Model :=
  { model with space := model.space.disabling codes }

variable (model : Model) (codes : List Int)

theorem bases_disabling : (model.disabling codes).space.bases = model.space.bases :=
  rfl

theorem binding_disabling (node : Node) (name : String) :
    (model.disabling codes).binding node name = model.binding node name :=
  rfl

theorem enclosingType_disabling (node : Node) :
    (model.disabling codes).enclosingType node = model.enclosingType node :=
  rfl

theorem lookup_disabling (ref? : Option TypeRef) (node : Node) :
    (model.disabling codes).lookup ref? node = model.lookup ref? node :=
  rfl

theorem typeReference_disabling (node : Node) :
    (model.disabling codes).typeReference node = model.typeReference node := by
  simp only [typeReference, compoundReference, binding_disabling, lookup_disabling]
  rfl

theorem canonicalRef_disabling (ref? : Option TypeRef) (owner : TypeDecl) (path : String) :
    (model.disabling codes).space.canonicalRef ref? owner path =
      model.space.canonicalRef ref? owner path :=
  rfl

theorem memberOf_disabling (decl : TypeDecl) (name : String) :
    (model.disabling codes).memberOf decl name = model.memberOf decl name := by
  simp only [memberOf, fieldSymbol, methodSymbol, canonicalRef_disabling]
  rfl

theorem plainCallees_disabling (node : Node) (name : String) :
    (model.disabling codes).plainCallees node name = model.plainCallees node name :=
  rfl

theorem applicable_disabling (call : Node) (callees : Option (TypeDecl × List MethodDecl)) :
    (model.disabling codes).applicable call callees = model.applicable call callees := by
  simp only [applicable, methodSymbol, canonicalRef_disabling]

theorem unboundNameType_disabling (node : Node) (name : String) :
    (model.disabling codes).unboundNameType node name = model.unboundNameType node name := by
  simp only [unboundNameType, canonicalRef_disabling, lookup_disabling]
  rfl

theorem baseExpressionType_disabling (node : Node) :
    (model.disabling codes).baseExpressionType node = model.baseExpressionType node :=
  rfl

theorem accessType_disabling (node : Node) (symbol? : Option Symbol) :
    (model.disabling codes).accessType node symbol? = model.accessType node symbol? := by
  simp only [accessType, lookup_disabling]

theorem receiverDecl_disabling (receiver : Option Node) (type? : Option TypeRef) :
    (model.disabling codes).receiverDecl receiver type? = model.receiverDecl receiver type? := by
  simp only [receiverDecl, lookup_disabling]

/-- Typing and resolution take the same steps whatever is disabled. -/
theorem steps_disabling (fuel : Nat) :
    (∀ node?, (model.disabling codes).typeWithin fuel node? = model.typeWithin fuel node?) ∧
      (∀ node, (model.disabling codes).memberWithin fuel node = model.memberWithin fuel node) ∧
      ∀ node, (model.disabling codes).invocationWithin fuel node =
        model.invocationWithin fuel node := by
  induction fuel with
  | zero => exact ⟨fun _ => rfl, fun _ => rfl, fun _ => rfl⟩
  | succ fuel ih =>
      obtain ⟨htype, hmember, hinvocation⟩ := ih
      refine ⟨fun node? => ?_, fun node => ?_, fun node => ?_⟩
      · cases node? with
        | none => rfl
        | some node =>
            simp only [typeWithin, htype, hmember, hinvocation, binding_disabling,
              unboundNameType_disabling, enclosingType_disabling, baseExpressionType_disabling,
              accessType_disabling]
      · simp only [memberWithin, htype, receiverDecl_disabling, memberOf_disabling]
      · simp only [invocationWithin, htype, receiverDecl_disabling, binding_disabling,
          plainCallees_disabling, applicable_disabling, bases_disabling]

theorem memberAccess_disabling (node : Node) :
    (model.disabling codes).memberAccess node = model.memberAccess node :=
  (model.steps_disabling codes depthLimit).2.1 node

theorem invocation_disabling (node : Node) :
    (model.disabling codes).invocation node = model.invocation node :=
  (model.steps_disabling codes depthLimit).2.2 node

end Model

theorem SymbolSpace.index_disabling (space : SymbolSpace) (codes : List Int)
    (unit : OutlinedFile) : (space.disabling codes).index unit = space.index unit := by
  have htypeReference : ∀ scopes,
      Model.typeReference ⟨space.disabling codes, unit, scopes⟩ =
        Model.typeReference ⟨space, unit, scopes⟩ :=
    fun scopes => funext fun node => Model.typeReference_disabling ⟨space, unit, scopes⟩ codes node
  have htypes : (space.disabling codes).types = space.types := rfl
  simp only [index, references, htypeReference, htypes]

theorem CallGraph.scan_disabling (corpus : Corpus) (codes : List Int) (entry : String) :
    scan (corpus.disabling codes) entry = scan corpus entry := by
  have hmodel : (corpus.disabling codes).model? entry =
      (corpus.model? entry).map (·.disabling codes) := by
    simp only [Corpus.model?, Option.map_map]
    rfl
  rw [scan, scan, hmodel]
  cases corpus.model? entry with
  | none => rfl
  | some model =>
      have hinvocation : (model.disabling codes).invocation = model.invocation :=
        funext (model.invocation_disabling codes)
      simp only [Option.map_some, hinvocation]
      rfl

/-- Disabling changes no answer about a file. -/
theorem Corpus.alike_disabling (corpus : Corpus) (unit : OutlinedFile) (codes : List Int) :
    Alike unit corpus (corpus.disabling codes) where
  analysis := rfl
  entryNodes := rfl
  memberAccess node _ := (Rule.modelOf corpus unit).memberAccess_disabling codes node
  invocation node _ := (Rule.modelOf corpus unit).invocation_disabling codes node
  baseInherits base _ := congrArg (fun found => (RuleInput.resolved found).any _)
    ((Rule.modelOf corpus unit).typeReference_disabling codes base)
  owner _ _ _ _ := ⟨rfl, rfl⟩
  target _ _ _ := rfl

namespace Rule

/-- A rule that finds the same in a file of a corpus whatever rules are disabled. -/
def IgnoresDisabled (rule : Rule) : Prop :=
  ∀ (corpus : Corpus) (unit : OutlinedFile) (graph : Option CallGraph) (codes : List Int),
    rule.evaluate (.ofCorpus (corpus.disabling codes) unit graph) =
      rule.evaluate (.ofCorpus corpus unit graph)

/-- No rule of the catalog looks at what is disabled. -/
theorem ignoresDisabled_of_mem_catalog {rule : Rule} (h : rule ∈ Registry.catalogRules) :
    rule.IgnoresDisabled :=
  fun corpus unit _ codes => evaluate_congr h (corpus.alike_disabling unit codes) rfl

end Rule
end SandboxLint
