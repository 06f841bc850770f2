import SandboxLint.Proofs.Corpus.ReferenceIndex
import SandboxLint.Proofs.Corpus.Termination
import SandboxLint.Proofs.Run.Schedule
import SandboxLint.Proofs.Run.Sides

/-!
Files without failures. Aliases are the only thing that resolution can fail on once a
corpus is made, and they fail only where they run in a circle. So in a corpus without such
circles every file is read and scanned to its end, whatever its tree looks like, and a run
with the catalog reports no file as failed.
-/

namespace SandboxLint

namespace Imports

variable {imports : Imports}

/-- An alias whose target reads as the plain name of an alias. -/
def Leads (imports : Imports) (name other : String) : Prop :=
  (∃ target next, imports.aliases.get? name = some target ∧ TypeRef.parse target = some next ∧
    next.qualifier = "" ∧ next.name = other) ∧ (imports.aliases.get? other).isSome

/-- Following aliases from some name comes back to it. -/
def Circular (imports : Imports) : Prop :=
  ∃ name, Relation.TransGen imports.Leads name name

theorem Hop.leads {ref next after : TypeRef} (hop : imports.Hop ref next)
    (hnext : imports.Hop next after) : imports.Leads ref.name next.name := by
  obtain ⟨target, htarget, hparse⟩ := hop
  obtain ⟨target', htarget', -⟩ := hnext
  have hbare := qualifier_of_alias (Option.isSome_of_eq_some htarget)
  have hbare' := qualifier_of_alias (Option.isSome_of_eq_some htarget')
  simp only [aliasTarget?, hbare, hbare', beq_self_eq_true, if_true] at htarget htarget'
  exact ⟨⟨target, next, htarget, hparse, hbare', rfl⟩, Option.isSome_of_eq_some htarget'⟩

theorem Leads.of_path {ref last next : TypeRef} (hpath : Relation.TransGen imports.Hop ref last)
    (hnext : imports.Hop last next) : Relation.TransGen imports.Leads ref.name last.name := by
  induction hpath generalizing next with
  | single hop => exact .single (hop.leads hnext)
  | tail _ hop ih => exact (ih hop).tail (hop.leads hnext)

/-- A reference that can be followed for ever comes twice to the name of one alias. -/
theorem Endless.circular {ref : TypeRef} (h : imports.Endless ref) : imports.Circular := by
  obtain ⟨again, -, hcircle⟩ := h.reachesCircle
  obtain ⟨next, hnext, -⟩ := Relation.TransGen.head'_iff.1 hcircle
  exact ⟨again.name, Leads.of_path hcircle hnext⟩

theorem aliasesEnd_of_not_circular (h : ¬ imports.Circular) : imports.AliasesEnd :=
  fun _ hendless => h hendless.circular

/-- Aliases that only lead down in some order run in no circle. -/
theorem not_circular_of_descending (rank : String → Nat)
    (h : ∀ name other, imports.Leads name other → rank other < rank name) :
    ¬ imports.Circular := by
  rintro ⟨name, hcircle⟩
  have hless : ∀ other, Relation.TransGen imports.Leads name other → rank other < rank name := by
    intro other hpath
    induction hpath with
    | single hstep => exact h _ _ hstep
    | tail _ hstep ih => exact (h _ _ hstep).trans ih
  exact lt_irrefl _ (hless name hcircle)

end Imports

namespace SymbolSpace

variable {space : SymbolSpace}

theorem imports_aliasesEnd (h : ∀ unit ∈ space.files, unit.outline.imports.AliasesEnd)
    (path : String) : (space.imports path).AliasesEnd := by
  rw [imports, importsIn]
  split
  · next unit hunit => exact h unit (List.mem_of_find?_eq_some hunit)
  · exact Imports.aliasesEnd_of_none rfl

theorem resolveText_isOk {site : Site} (h : site.imports.AliasesEnd) (text : String) :
    ∃ found, space.resolveText site text = .ok found := by
  rw [resolveText, TypeTable.resolveText]
  split
  · exact ⟨none, rfl⟩
  · exact resolveRef_isOk h _

theorem canonicalRef_isOk (h : ∀ path, (space.imports path).AliasesEnd) (ref? : Option TypeRef)
    (owner : TypeDecl) (path : String) : ∃ ref, space.canonicalRef ref? owner path = .ok ref := by
  cases ref? with
  | none => exact ⟨none, rfl⟩
  | some ref =>
      refine Fallible.bind_isOk (resolveRef_isOk (h path) ref) fun target => ?_
      cases target with
      | none => exact ⟨_, rfl⟩
      | some decl => exact ⟨_, rfl⟩

end SymbolSpace

namespace Model

/-- A model in whose file and space no alias can be followed for ever. -/
structure AliasesEnd (model : Model) : Prop where
  own : model.unit.outline.imports.AliasesEnd
  all : ∀ path, (model.space.imports path).AliasesEnd

namespace AliasesEnd

variable {model : Model} (h : model.AliasesEnd)
include h

theorem fieldSymbol (owner : TypeDecl) (field : FieldDecl) :
    ∃ symbol, model.fieldSymbol owner field = .ok symbol :=
  Fallible.bind_isOk (SymbolSpace.canonicalRef_isOk h.all _ owner _) fun _ => ⟨_, rfl⟩

theorem methodSymbol (owner : TypeDecl) (method : MethodDecl) :
    ∃ symbol, model.methodSymbol owner method = .ok symbol :=
  Fallible.bind_isOk (SymbolSpace.canonicalRef_isOk h.all _ owner _) fun _ => ⟨_, rfl⟩

theorem memberOf (decl : TypeDecl) (name : String) :
    ∃ symbol, model.memberOf decl name = .ok symbol := by
  rw [Model.memberOf]
  split
  · exact Fallible.map_isOk (h.fieldSymbol _ _) some
  · split
    · exact Fallible.map_isOk (h.methodSymbol _ _) some
    · exact ⟨_, rfl⟩
    · exact ⟨_, rfl⟩

theorem importedFrom (name target : String) :
    ∃ found, model.importedFrom name target = .ok found := by
  refine Fallible.bind_isOk (SymbolSpace.resolveText_isOk h.own target) fun decl? => ?_
  cases decl? with
  | none => exact ⟨_, rfl⟩
  | some decl =>
      dsimp only
      split
      · exact ⟨_, rfl⟩
      · exact ⟨_, rfl⟩

theorem staticallyImported (name : String) :
    ∃ found, model.staticallyImported name = .ok found := by
  have heach : ∀ target ∈ model.unit.outline.staticUsings,
      ∃ found, model.importedFrom name target = .ok found :=
    fun target _ => h.importedFrom name target
  refine Fallible.bind_isOk (Fallible.mapM_isOk_iff.2 heach) fun found => ?_
  split
  · exact ⟨_, rfl⟩
  · exact ⟨_, rfl⟩

theorem plainCallees (node : Node) (name : String) :
    ∃ callees, model.plainCallees node name = .ok callees := by
  rw [Model.plainCallees]
  split
  · exact ⟨_, rfl⟩
  · exact h.staticallyImported name

theorem applicable (call : Node) (callees : Option (TypeDecl × List MethodDecl)) :
    ∃ symbol, model.applicable call callees = .ok symbol := by
  cases callees with
  | none => exact ⟨_, rfl⟩
  | some found =>
      simp only [Model.applicable]
      split
      · exact Fallible.map_isOk (h.methodSymbol _ _) some
      · exact ⟨_, rfl⟩

theorem unboundNameType (node : Node) (name : String) :
    ∃ type, model.unboundNameType node name = .ok type := by
  rw [Model.unboundNameType]
  split
  · exact SymbolSpace.canonicalRef_isOk h.all _ _ _
  · exact Fallible.bind_isOk (lookup_isOk h.own _ node) fun _ => ⟨_, rfl⟩

theorem accessType (node : Node) (symbol? : Option Symbol) :
    ∃ type, model.accessType node symbol? = .ok type := by
  cases symbol? with
  | none => exact Fallible.bind_isOk (lookup_isOk h.own _ node) fun _ => ⟨_, rfl⟩
  | some symbol =>
      rw [Model.accessType]
      split
      all_goals exact ⟨_, rfl⟩

theorem receiverDecl (receiver : Option Node) (type? : Option TypeRef) :
    ∃ decl, model.receiverDecl receiver type? = .ok decl := by
  cases type? with
  | none => exact ⟨_, rfl⟩
  | some ref =>
      cases receiver with
      | none => exact ⟨_, rfl⟩
      | some node =>
          simp only [Model.receiverDecl]
          split
          · exact ⟨_, rfl⟩
          · exact lookup_isOk h.own _ node

end AliasesEnd

/-- Typing and resolution give answers up to a depth. -/
structure StepsAnswer (model : Model) (fuel : Nat) : Prop where
  type : ∀ node?, ∃ type, model.typeWithin fuel node? = .ok type
  member : ∀ node, ∃ symbol, model.memberWithin fuel node = .ok symbol
  invocation : ∀ node, ∃ symbol, model.invocationWithin fuel node = .ok symbol

namespace AliasesEnd

variable {model : Model} (h : model.AliasesEnd) {fuel : Nat} (hsteps : model.StepsAnswer fuel)
include h hsteps

omit h in
theorem boundNameType (bound : Binding) : ∃ type, model.boundNameType fuel bound = .ok type := by
  simp only [Model.boundNameType]
  split
  · exact ⟨_, rfl⟩
  · cases bound.initializer with
    | some value => exact hsteps.type (some value)
    | none =>
        cases bound.loopSource with
        | none => exact ⟨_, rfl⟩
        | some source => exact Fallible.bind_isOk (hsteps.type (some source)) fun _ => ⟨_, rfl⟩

theorem typeWithin_succ (node : Node) :
    ∃ type, model.typeWithin (fuel + 1) (some node) = .ok type := by
  rw [Model.typeWithin_succ]
  split
  · exact hsteps.type _
  split
  · cases model.binding node node.text with
    | none => exact h.unboundNameType node node.text
    | some bound => exact boundNameType hsteps bound
  split
  · exact ⟨_, rfl⟩
  split
  · exact ⟨_, rfl⟩
  split
  · exact Fallible.bind_isOk (hsteps.member node) (h.accessType node)
  split
  · exact Fallible.bind_isOk (hsteps.invocation node) fun _ => ⟨_, rfl⟩
  split
  · exact Fallible.bind_isOk (hsteps.type _) fun _ => ⟨_, rfl⟩
  split
  · exact ⟨_, rfl⟩
  split
  · exact ⟨_, rfl⟩
  · exact ⟨_, rfl⟩

theorem received {α : Type} (receiver : Option Node)
    {next : Option TypeDecl → Except Fault (Option α)} (hnone : next none = .ok none)
    (hsome : ∀ decl, ∃ found, next (some decl) = .ok found) :
    ∃ found, (do next (← model.receiverDecl receiver (← model.typeWithin fuel receiver))) =
      .ok found := by
  refine Fallible.bind_isOk (hsteps.type receiver) fun type? =>
    Fallible.bind_isOk (h.receiverDecl receiver type?) fun decl? => ?_
  cases decl? with
  | none => exact ⟨none, hnone⟩
  | some decl => exact hsome decl

theorem memberWithin_succ (node : Node) :
    ∃ symbol, model.memberWithin (fuel + 1) node = .ok symbol := by
  simp only [memberWithin]
  split
  · exact ⟨_, rfl⟩
  · refine h.received hsteps _ rfl fun decl => ?_
    dsimp only
    split
    · exact ⟨_, rfl⟩
    · exact h.memberOf decl _

theorem invocationWithin_succ (node : Node) :
    ∃ symbol, model.invocationWithin (fuel + 1) node = .ok symbol := by
  simp only [invocationWithin]
  split
  · exact ⟨_, rfl⟩
  · cases node.child? "function" with
    | none => exact ⟨_, rfl⟩
    | some function =>
        dsimp only
        split
        · split
          · exact ⟨_, rfl⟩
          · exact Fallible.bind_isOk (h.plainCallees node _) (h.applicable node)
        · split
          · refine h.received hsteps _ rfl fun decl => ?_
            dsimp only
            split
            · exact ⟨_, rfl⟩
            · exact h.applicable node _
          · exact ⟨_, rfl⟩

omit hsteps in
/-- Typing and resolution have an answer at every depth: what they ask for is less deep, and all
else is looked up. -/
theorem stepsAnswer (fuel : Nat) : model.StepsAnswer fuel := by
  induction fuel with
  | zero => exact ⟨fun _ => ⟨_, rfl⟩, fun _ => ⟨_, rfl⟩, fun _ => ⟨_, rfl⟩⟩
  | succ fuel ih =>
      refine ⟨fun node? => ?_, h.memberWithin_succ ih, h.invocationWithin_succ ih⟩
      cases node? with
      | none => exact ⟨_, rfl⟩
      | some node => exact h.typeWithin_succ ih node

end AliasesEnd
end Model

namespace Corpus

variable {corpus : Corpus}
  (haliases : ∀ unit ∈ corpus.space.files, unit.outline.imports.AliasesEnd)
include haliases

theorem scan_isOk (path : String) : ∃ helpers, CallGraph.scan corpus path = .ok helpers := by
  cases hunit : corpus.space.file? path with
  | none => exact ⟨[], CallGraph.scan_of_no_file hunit⟩
  | some unit =>
      have hmodel : (Rule.modelOf corpus unit).AliasesEnd :=
        ⟨haliases unit (SymbolSpace.path_of_file? hunit).1,
          SymbolSpace.imports_aliasesEnd haliases⟩
      have hcalls : ∀ call ∈ unit.file.root.descendants ["invocation_expression"],
          ∃ symbol, (Rule.modelOf corpus unit).invocation call = .ok symbol :=
        fun call _ => (hmodel.stepsAnswer Model.depthLimit).invocation call
      rw [CallGraph.scan_of_file hunit]
      exact Fallible.bind_isOk (Fallible.mapM_isOk_iff.2 hcalls) fun _ => ⟨_, rfl⟩

end Corpus

namespace Run

theorem faultDiagnostics_of_ok {α β : Type} {items : List β} (path : β → String)
    {result : β → Except Fault α} (h : ∀ item ∈ items, ∃ value, result item = .ok value) :
    faultDiagnostics (Corpus.faultsOf (items.map fun item => (path item, result item))) = [] := by
  rw [faultDiagnostics, List.map_eq_nil_iff, Corpus.faultsOf, List.filterMap_eq_nil_iff]
  intro pair hpair
  obtain ⟨item, hitem, rfl⟩ := List.mem_map.1 hpair
  obtain ⟨value, hvalue⟩ := h item hitem
  simp only [hvalue]

theorem code_ne_of_catalog {corpus : Corpus}
    (haliases : ∀ unit ∈ corpus.space.files, unit.outline.imports.AliasesEnd)
    {skipped : List String} {d : Diagnostic}
    (hd : d ∈ (resultOf .catalog corpus skipped).diagnostics) :
    d.code ≠ LintCode.fileFailure := by
  have hindex : indexFailures corpus = [] :=
    faultDiagnostics_of_ok OutlinedFile.path fun unit hunit =>
      corpus.space.exists_index (haliases unit hunit)
  have hscan : scanFailures corpus = [] :=
    faultDiagnostics_of_ok id fun path _ => Corpus.scan_isOk haliases path
  have hcode : ∀ graph (paths : List String) (rules : List Rule),
      (∀ rule ∈ rules, rule ∈ Registry.catalog.rules) →
      d ∈ paths.flatMap (fun path => rules.flatMap (findingsAt corpus graph path)) →
        d.code ≠ LintCode.fileFailure := by
    intro graph paths rules hrules hmem
    obtain ⟨path, -, hpath⟩ := List.mem_flatMap.1 hmem
    obtain ⟨rule, hrule, hfound⟩ := List.mem_flatMap.1 hpath
    rw [code_of_mem_findingsAt hfound]
    exact Registry.registered_catalog.apart.1 rule (hrules rule hrule)
  have hparts := (diagnostics_perm_parts (Lint.rulesSucceed_catalog corpus) skipped).mem_iff.1 hd
  rw [hindex, hscan, List.append_nil, List.append_nil] at hparts
  cases List.mem_append.1 hparts with
  | inl hentry =>
      refine hcode _ _ _ (fun rule hrule => ?_) hentry
      exact (List.mem_append.1 hrule).elim (fun h => (List.mem_filter.1 h).1)
        fun h => (List.mem_filter.1 h).1
  | inr hhelper => exact hcode _ _ _ (fun rule hrule => (List.mem_filter.1 hrule).1) hhelper

end Run

namespace Lint

/-- Files fail only for circles of aliases. In a corpus of any trees that could be made and in
which no file's aliases run in a circle, every file is read against the symbol space and scanned
for calls, and every rule of the catalog runs on it, to the end; so a run with the catalog has a
result and reports no file as failed. -/
theorem checkFiles_faultless {disk : Disk} {parser : Parser} {settings : Settings}
    {registry : Registry} {paths : List Path} {files : List Loaded} {corpus : Corpus}
    {faults : List (String × Fault)} (hcatalog : Run.effectiveRegistry registry = .catalog)
    (hload : loadFiles disk parser paths = .ok files)
    (hgiven : files = [] ∨ ∃ file, Loaded.parsed file ∈ files)
    (hcorpus : Corpus.buildTolerant settings.analysis (Run.units settings.analysis files) =
      .ok (corpus, faults))
    (hcircles : ∀ unit ∈ corpus.space.files, ¬ unit.outline.imports.Circular) :
    (∃ result, checkFiles disk parser settings registry paths = .ok result ∧
      ∀ d ∈ result.diagnostics, d.code ≠ LintCode.fileFailure) ∧
    ∀ unit ∈ corpus.space.files,
      (∃ index, corpus.space.index unit = .ok index) ∧
      (∃ helpers, CallGraph.scan corpus unit.path = .ok helpers) ∧
      ∀ rule ∈ Registry.catalogRules, ∀ graph,
        ∃ found, rule.run (.ofCorpus corpus unit graph) = .ok found := by
  have haliases : ∀ unit ∈ corpus.space.files, unit.outline.imports.AliasesEnd :=
    fun unit hunit => Imports.aliasesEnd_of_not_circular (hcircles unit hunit)
  obtain ⟨hpaths, rfl⟩ := loadFiles_eq_ok_iff.1 hload
  refine ⟨⟨_, checkFiles_eq_ok_iff.2 ⟨hpaths, Run.check_eq_ok_iff.2
    ⟨hgiven, corpus, faults, hcorpus, by rw [hcatalog]⟩⟩, fun d hd => ?_⟩, fun unit hunit => ?_⟩
  · exact Run.code_ne_of_catalog haliases hd
  · refine ⟨corpus.space.exists_index (haliases unit hunit), Corpus.scan_isOk haliases unit.path,
      fun rule hrule graph => ?_⟩
    exact Fallible.map_isOk (Rule.exists_evaluate hrule corpus unit graph) _

section Glow

def aliasOf (name kind target : String) : Tree :=
  Sketch.group "using_directive" none
    [Sketch.word "identifier" name none, Sketch.word "=" "=" none, Sketch.word kind target none]

/-- A file with an alias of an alias. -/
def glowFile : SourceFile :=
  Sketch.file "/Glow.cs"
    [Sketch.usingOf "UdonSharp", aliasOf "Bulb" "identifier" "Lamp",
      aliasOf "Lamp" "qualified_name" "Park.Light",
      Sketch.classDecl [] "Glow" ["UdonSharpBehaviour"]
        [Sketch.methodDecl [] "Shine" [Sketch.call (Sketch.access "function" "Bulb" "Flash")]]]

def glowPath : Path :=
  { root := .slash, parts := ["Glow.cs"] }

def glowDisk : Disk :=
  { root := .directory [("Glow.cs", .file (.bytes []))] }

def glowParser : Parser :=
  fun _ => some glowFile.tree

def glowUnit : OutlinedFile :=
  .ofFile glowFile ({} : AnalysisSettings).markerImport

theorem load_glow : loadFiles glowDisk glowParser [glowPath] = .ok [.parsed glowFile] := by
  have hglow : Loaded.ofDisk glowDisk glowParser glowPath = .ok (.parsed glowFile) :=
    ofDisk_top rfl rfl (by decide) (by decide) (by decide) (by decide) rfl
  refine loadFiles_eq_ok_iff.2 ⟨by simp [hglow], ?_⟩
  simp [loadedFrom, hglow, Except.toOption]

theorem build_glow : SymbolSpace.build {} [glowUnit] = .ok (.inOrder [glowUnit]) :=
  SymbolSpace.build_inOrder (by decide) (by decide) (by decide)

/-- The first alias leads to the second, and the second to no alias. -/
theorem not_circular_glow : ¬ glowUnit.outline.imports.Circular := by
  have haliases : glowUnit.outline.imports.aliases =
      [("Bulb", "Lamp"), ("Lamp", "Park.Light")] := by
    decide
  have hplain : TypeRef.parse "Lamp" = some { name := "Lamp" } := by decide
  have hqualified : TypeRef.parse "Park.Light" = some { name := "Light", qualifier := "Park" } := by
    decide
  refine Imports.not_circular_of_descending (fun name => if name = "Bulb" then 1 else 0) ?_
  rintro name other ⟨⟨target, next, htarget, hparse, hbare, rfl⟩, -⟩
  have hmem := Assoc.mem_of_get? (haliases ▸ htarget)
  simp only [List.mem_cons, Prod.mk.injEq, List.not_mem_nil, or_false] at hmem
  obtain ⟨rfl, rfl⟩ | ⟨rfl, rfl⟩ := hmem
  · cases hplain.symm.trans hparse
    decide
  · cases hqualified.symm.trans hparse
    exact absurd hbare (by decide)

/-- The file with an alias of an alias does not fail. -/
theorem checkFiles_faultless_glow :
    ¬ glowUnit.outline.imports.Circular ∧
      ∃ result, checkFiles glowDisk glowParser {} .catalog [glowPath] = .ok result ∧
        ∀ d ∈ result.diagnostics, d.code ≠ LintCode.fileFailure := by
  have hcorpus : Corpus.buildTolerant ({} : Settings).analysis
      (Run.units ({} : Settings).analysis [.parsed glowFile]) =
        .ok (.ofSpace (.inOrder [glowUnit]), _) :=
    Corpus.buildTolerant_eq_ok_iff.2 ⟨_, build_glow, rfl, rfl⟩
  have hcircles : ∀ unit ∈ (Corpus.ofSpace (.inOrder [glowUnit])).space.files,
      ¬ unit.outline.imports.Circular := by
    intro unit hunit
    cases List.mem_singleton.1 hunit
    exact not_circular_glow
  exact ⟨not_circular_glow, (checkFiles_faultless rfl load_glow
    (.inr ⟨glowFile, List.mem_cons_self⟩) hcorpus hcircles).1⟩

end Glow

end Lint
end SandboxLint
