import SandboxLint.Proofs.Corpus.Owners
import SandboxLint.Proofs.Corpus.ReferenceIndex
import SandboxLint.Proofs.Rule.Locality
import SandboxLint.Proofs.Run.EntryHelpers
import SandboxLint.Proofs.Run.Faultless

/-!
The two rules on fields of plain data. They look at the same member accesses: one
reports each of them, the other all but those to a type that stays at home, that is a
type read in a file that declares it and mentioned by no other file.
-/

namespace SandboxLint

namespace Corpus

variable {analysis : AnalysisSettings} {units : List OutlinedFile} {corpus : Corpus}
  {decl : TypeDecl}

/-- A file that could be read has an identifier that refers to a type. -/
def Mentions (corpus : Corpus) (unit : OutlinedFile) (decl : TypeDecl) : Prop :=
  (∃ found, corpus.space.index unit = .ok found) ∧
    ∃ name, Model.RefersTo
      { space := corpus.space, unit, scopes := Scope.collect unit.file.root } name decl

/-- A type is seen from a file that declares it, and no file that does not declare it mentions
it. -/
def AtHome (corpus : Corpus) (path : String) (decl : TypeDecl) : Prop :=
  path ∈ decl.declaringFiles ∧
    ∀ other ∈ corpus.space.files, other.path ∉ decl.declaringFiles → ¬ corpus.Mentions other decl

/-- A type is shared exactly when a file that does not declare it mentions it. -/
theorem isShared_iff_mentions (hmade : MadeOf analysis units corpus)
    (hdecl : decl ∈ corpus.space.types) :
    corpus.isShared decl = true ↔
      ∃ other ∈ corpus.space.files, other.path ∉ decl.declaringFiles ∧
        corpus.Mentions other decl := by
  simp only [isShared, List.any_eq_true, Bool.not_eq_true', List.contains_eq_mem,
    decide_eq_false_iff_not]
  constructor
  · rintro ⟨path, hpath, haway⟩
    obtain ⟨other, hother, found, hindex, rfl, -⟩ := hmade.exists_index hpath
    have hrefers := (mem_referencingFiles_iff_refersTo hmade hother hindex hdecl).1 hpath
    exact ⟨other, hother, haway, ⟨found, hindex⟩, hrefers⟩
  · rintro ⟨other, hother, haway, ⟨found, hindex⟩, hrefers⟩
    exact ⟨other.path, (mem_referencingFiles_iff_refersTo hmade hother hindex hdecl).2 hrefers,
      haway⟩

end Corpus

namespace Rule

variable {analysis : AnalysisSettings} {units : List OutlinedFile} {corpus : Corpus}
  {unit : OutlinedFile} {node : Node} {symbol : Symbol}

/-- A member access names a field of plain data: of a type that is marked as such, lies in no
library and does not inherit the sandboxed base. -/
structure ReadsPlainField (corpus : Corpus) (unit : OutlinedFile) (node : Node)
    (symbol : Symbol) : Prop where
  resolves : (modelOf corpus unit).memberAccess node = .ok (some symbol)
  field : symbol.kind = .field
  marked : symbol.owner.hasAttribute corpus.space.analysis.serializableAttributes = true
  own : corpus.space.isExternal symbol.owner = false
  unsandboxed : corpus.space.inheritsBase symbol.owner = false

/-- Why a member access reads no field of plain data. -/
inductive Exempt (corpus : Corpus) (unit : OutlinedFile) (node : Node) : Prop
  | failing {fault : Fault} (failed : (modelOf corpus unit).memberAccess node = .error fault)
  | unknown (unresolved : (modelOf corpus unit).memberAccess node = .ok none)
  | other {symbol : Symbol} (resolves : (modelOf corpus unit).memberAccess node = .ok (some symbol))
      (kind : symbol.kind = .property ∨ symbol.kind = .method ∨ symbol.kind = .type)
  | sandboxed {symbol : Symbol}
      (resolves : (modelOf corpus unit).memberAccess node = .ok (some symbol))
      (inherits : corpus.space.inheritsBase symbol.owner = true)
  | external {symbol : Symbol}
      (resolves : (modelOf corpus unit).memberAccess node = .ok (some symbol))
      (library : corpus.space.isExternal symbol.owner = true)

theorem readsPlainField_iff : ReadsPlainField corpus unit node symbol ↔
    plainDataOwner corpus .field (RuleInput.resolved ((modelOf corpus unit).memberAccess node)) =
      some symbol := by
  rw [plainDataOwner_eq_some, resolved_eq_some]
  simp only [SymbolSpace.isPlainData, Bool.and_eq_true, Bool.not_eq_true']
  constructor
  · rintro ⟨hresolves, hfield, hmarked, hown, hfree⟩
    exact ⟨hresolves, hfield, ⟨hown, hfree⟩, hmarked⟩
  · rintro ⟨hresolves, hfield, ⟨hown, hfree⟩, hmarked⟩
    exact ⟨hresolves, hfield, hmarked, hown, hfree⟩

instance (corpus : Corpus) (unit : OutlinedFile) (node : Node) :
    Decidable (∃ symbol, ReadsPlainField corpus unit node symbol) :=
  decidable_of_iff ((plainDataOwner corpus .field
    (RuleInput.resolved ((modelOf corpus unit).memberAccess node))).isSome = true)
    (Option.isSome_iff_exists.trans (exists_congr fun _ => readsPlainField_iff.symm))

theorem Exempt.not_reads (h : Exempt corpus unit node) :
    ¬ ∃ symbol, ReadsPlainField corpus unit node symbol := by
  rintro ⟨symbol, hreads⟩
  cases h with
  | failing hfailed => cases hfailed.symm.trans hreads.resolves
  | unknown hnone => cases hnone.symm.trans hreads.resolves
  | other hresolves hkind =>
      cases hresolves.symm.trans hreads.resolves
      simp [hreads.field] at hkind
  | sandboxed hresolves hinherits =>
      cases hresolves.symm.trans hreads.resolves
      cases hinherits.symm.trans hreads.unsandboxed
  | external hresolves hlibrary =>
      cases hresolves.symm.trans hreads.resolves
      cases hlibrary.symm.trans hreads.own

/-- What is left of a list, item by item with something found about it, are its items about which
something is found. -/
theorem map_fst_filterMap {α β γ : Type} (key : α → β) (find : α → Option γ) (items : List α) :
    (items.filterMap fun item => (find item).map (key item, ·)).map Prod.fst =
      (items.filter fun item => (find item).isSome).map key := by
  induction items with
  | nil => rfl
  | cons item rest ih =>
      cases hfind : find item with
      | none => simpa [hfind] using ih
      | some found => simpa [hfind] using ih

theorem map_fst_plainFieldAccesses (root : Node) :
    (plainFieldAccesses corpus (modelOf corpus unit) root).map Prod.fst =
      (root.descendants ["member_access_expression"]).filter
        fun node => ∃ symbol, ReadsPlainField corpus unit node symbol := by
  refine (map_fst_filterMap id _ _).trans ?_
  rw [List.map_id]
  refine List.filter_congr fun node _ => ?_
  rw [Bool.eq_iff_iff, Option.isSome_iff_exists, decide_eq_true_eq]
  exact exists_congr fun _ => readsPlainField_iff.symm

theorem mem_plainFieldAccesses_iff_reads {root : Node} :
    (node, symbol) ∈ plainFieldAccesses corpus (modelOf corpus unit) root ↔
      node ∈ root.descendants ["member_access_expression"] ∧
        ReadsPlainField corpus unit node symbol := by
  rw [mem_plainFieldAccesses, readsPlainField_iff, plainDataOwner_eq_some, resolved_eq_some]

/-- Nothing is wrong with touching a type exactly when it stays at home. -/
theorem breach_eq_none_iff (hmade : Corpus.MadeOf analysis units corpus) {decl : TypeDecl}
    (hdecl : decl ∈ corpus.space.types) (path : String) :
    breach corpus path decl = none ↔ corpus.AtHome path decl := by
  have hshared : corpus.isShared decl = false ↔ ∀ other ∈ corpus.space.files,
      other.path ∉ decl.declaringFiles → ¬ corpus.Mentions other decl := by
    rw [← Bool.not_eq_true, Corpus.isShared_iff_mentions hmade hdecl]
    simp only [not_exists, not_and]
  rw [Corpus.AtHome, ← hshared]
  constructor
  · intro hnone
    by_cases hhome : path ∈ decl.declaringFiles
    · exact ⟨hhome, by simpa [breach, hhome] using hnone⟩
    · simp [breach, hhome] at hnone
  · rintro ⟨hhome, hfalse⟩
    exact breach_eq_none hhome hfalse

/-- The rules on fields of plain data stay in step. In every file of a corpus the rule on their use
reports the member accesses that read one, in source order and each once; the rule on access across
files reports a part of these, in the same order, and leaves out exactly those to types that stay at
home. No other member access is reported by either. -/
theorem plainField_rules_in_step (hmade : Corpus.MadeOf analysis units corpus)
    (unit : OutlinedFile) (graph : Option CallGraph) :
    ∃ crossing usage reported used,
      Registry.catalog.get? 20 = some crossing ∧ Registry.catalog.get? 25 = some usage ∧
      crossing.evaluate (.ofCorpus corpus unit graph) = .ok reported ∧
      usage.evaluate (.ofCorpus corpus unit graph) = .ok used ∧
      used.map Prod.fst = (unit.file.root.descendants ["member_access_expression"]).filter
        (fun node => ∃ symbol, ReadsPlainField corpus unit node symbol) ∧
      (reported.map Prod.fst).Sublist (used.map Prod.fst) ∧
      (∀ node ∈ used.map Prod.fst, ∀ symbol, ReadsPlainField corpus unit node symbol →
        (node ∉ reported.map Prod.fst ↔ corpus.AtHome unit.path symbol.owner)) ∧
      ∀ node, Exempt corpus unit node →
        node ∉ used.map Prod.fst ∧ node ∉ reported.map Prod.fst := by
  have built : SymbolSpace.Built analysis units (modelOf corpus unit).space :=
    SymbolSpace.built_of_build hmade.indexed.1
  let accesses := plainFieldAccesses corpus (modelOf corpus unit) unit.file.root
  let reported : List Finding := accesses.filterMap fun access =>
    (breach corpus unit.path access.2.owner).map fun b =>
      (access.1, fieldBreachMessage access.2.owner b)
  obtain ⟨used, hused, hplaces⟩ : ∃ used,
      serializableClassUsage (.ofCorpus corpus unit graph) = .ok used ∧
        used.map Prod.fst = accesses.map Prod.fst :=
    ⟨_, rfl, by rw [List.map_map]; rfl⟩
  have hreported : reported.map Prod.fst = (accesses.filter fun access =>
      (breach corpus unit.path access.2.owner).isSome).map Prod.fst := by
    rw [← map_fst_filterMap]
    simp [reported, List.map_filterMap, Function.comp_def]
  have hsub : (reported.map Prod.fst).Sublist (used.map Prod.fst) := by
    rw [hplaces, hreported]
    exact List.Sublist.map _ (List.filter_sublist ..)
  have hall := hplaces.trans (map_fst_plainFieldAccesses unit.file.root)
  refine ⟨_, _, reported, used, rfl, rfl, rfl, hused, hall, hsub, ?_, ?_⟩
  · intro node hnode symbol hreads
    have howner : symbol.owner ∈ corpus.space.types :=
      Model.owner_mem_of_memberAccess built hreads.resolves
    have hplace : node ∈ unit.file.root.descendants ["member_access_expression"] :=
      (List.mem_filter.1 (hall ▸ hnode)).1
    rw [← breach_eq_none_iff hmade howner, hreported, List.mem_map]
    constructor
    · intro hunreported
      -- A breach would be a report at this very access.
      by_contra hbreach
      refine hunreported ⟨(node, symbol), List.mem_filter.2 ⟨?_, ?_⟩, rfl⟩
      · exact mem_plainFieldAccesses_iff_reads.2 ⟨hplace, hreads⟩
      · exact Option.isSome_iff_ne_none.2 hbreach
    · rintro hnone ⟨⟨_, other⟩, hmem, rfl⟩
      obtain ⟨haccess, hbreach⟩ := List.mem_filter.1 hmem
      cases hreads.resolves.symm.trans (mem_plainFieldAccesses_iff_reads.1 haccess).2.resolves
      simp [hnone] at hbreach
  · intro node hexempt
    have hunused : node ∉ used.map Prod.fst := by
      rw [hall, List.mem_filter, decide_eq_true_eq]
      exact fun hmem => hexempt.not_reads hmem.2
    exact ⟨hunused, fun hmem => hunused (hsub.subset hmem)⟩

section Workshop

/-- A bench that reads a field of its items and one of its parts, and a crate that holds parts. -/
def workshop : List SourceFile :=
  [Sketch.file "Bench.cs"
      [Sketch.usingOf "UdonSharp",
        Sketch.classDecl [] "Bench" ["UdonSharpBehaviour"]
          [Sketch.methodDecl [] "Fit"
            [Sketch.access none "Item" "size", Sketch.access none "Part" "size"]],
        Sketch.marked "Serializable"
          (Sketch.classDecl [] "Item" [] [Sketch.fieldDecl "int" "size"]),
        Sketch.marked "Serializable"
          (Sketch.classDecl [] "Part" [] [Sketch.fieldDecl "int" "size"])],
    Sketch.file "Crate.cs" [Sketch.classDecl [] "Crate" [] [Sketch.fieldDecl "Part" "held"]]]

def workshopSpace : SymbolSpace :=
  .inOrder (Sketch.outlined workshop)

def workshopUnit (place : Nat) : OutlinedFile :=
  ((Sketch.outlined workshop)[place]?).getD (.ofFile (Sketch.file "" []) "")

def workshopModel (place : Nat) : Model :=
  { space := workshopSpace, unit := workshopUnit place
    scopes := Scope.collect (workshopUnit place).file.root }

def workshopType (name : String) : TypeDecl :=
  (workshopSpace.types.find? name).getD default

def sizeAccess (place : Nat) : Node :=
  (((workshopUnit 0).file.root.descendants ["member_access_expression"])[place]?).getD default

def crateName (place : Nat) : Node :=
  (((workshopUnit 1).file.root.descendants ["identifier"])[place]?).getD default

theorem flat_workshop : workshopSpace.bases.Flat := by
  decide

theorem build_workshop : SymbolSpace.build {} (Sketch.outlined workshop) = .ok workshopSpace :=
  SymbolSpace.build_inOrder (by decide) (by decide) (by decide)

theorem madeOf_workshop :
    Corpus.MadeOf {} (Sketch.outlined workshop) (.ofSpace workshopSpace) :=
  .of_build build_workshop

theorem bench_mem_entryFiles : "Bench.cs" ∈ workshopSpace.entryFiles :=
  (SymbolSpace.built_of_build build_workshop).mem_entryFiles_of_names flat_workshop
    (.head _) (by decide) (.head _) (by decide) rfl (by decide)

/-- The type names in front of the dots mean the types of the bench's file. -/
theorem receiverIs_item : (workshopModel 0).ReceiverIs (Model.depthLimit - 1)
    ((sizeAccess 0).child? "expression") (workshopType "Item") := by
  rw [← Option.some_get (show ((sizeAccess 0).child? "expression").isSome = true by decide)]
  exact .of_flat flat_workshop (by decide) (by decide) (by decide) (by decide) (by decide)
    (by decide) rfl

theorem receiverIs_part : (workshopModel 0).ReceiverIs (Model.depthLimit - 1)
    ((sizeAccess 1).child? "expression") (workshopType "Part") := by
  rw [← Option.some_get (show ((sizeAccess 1).child? "expression").isSome = true by decide)]
  exact .of_flat flat_workshop (by decide) (by decide) (by decide) (by decide) (by decide)
    (by decide) rfl

theorem typeReference_crate : (workshopModel 1).typeReference (crateName 1) =
    .ok (some (workshopType "Part")) := by
  have hlookup : (workshopModel 1).lookup (some { name := "Part" }) (crateName 1) =
      .ok (some (workshopType "Part")) := by
    rw [Model.lookup_of_flat flat_workshop (by decide) (by decide)]
    rfl
  exact hlookup

theorem exists_index_workshop (place : Nat) :
    ∃ found, workshopSpace.index (workshopUnit place) = .ok found := by
  refine workshopSpace.exists_index (Imports.aliasesEnd_of_none ?_)
  match place with
  | 0 | 1 | _ + 2 => rfl

theorem modelOf_workshop : modelOf (.ofSpace workshopSpace) (workshopUnit 0) = workshopModel 0 := by
  obtain ⟨found, hfound⟩ := exists_index_workshop 0
  have hbench : workshopUnit 0 ∈ (Corpus.ofSpace workshopSpace).space.files := .head _
  rw [modelOf, Corpus.scopes_of_index madeOf_workshop hbench hfound]
  rfl

/-- An access to the size of a marked type of the workshop reads a field of plain data. -/
theorem reads_size {place : Nat} {decl : TypeDecl} {field : FieldDecl}
    (hreceiver : (workshopModel 0).ReceiverIs (Model.depthLimit - 1)
      ((sizeAccess place).child? "expression") decl)
    (hkind : (sizeAccess place).kind = "member_access_expression")
    (hname : Model.memberName ((sizeAccess place).child? "name") = "size")
    (hfield : decl.fields.get? "size" = some field) (hplain : field.isProperty = false)
    (hmarked : decl.hasAttribute ({} : AnalysisSettings).serializableAttributes = true)
    (hown : workshopSpace.isExternal decl = false)
    (hnames : BaseTable.namesBase ({} : AnalysisSettings).baseType decl = false) :
    ∃ symbol, ReadsPlainField (.ofSpace workshopSpace) (workshopUnit 0) (sizeAccess place) symbol ∧
      symbol.owner = decl := by
  have haliases : (workshopModel 0).AliasesEnd :=
    ⟨Imports.aliasesEnd_of_none rfl, SymbolSpace.aliasesEnd_of_none (by decide)⟩
  obtain ⟨symbol, hsymbol⟩ := haliases.fieldSymbol decl field
  have hfound : workshopSpace.bases.findField decl "size" = some (decl, field) := by
    rw [flat_workshop.findField_eq, hfield]
    rfl
  have hresolves : (workshopModel 0).memberAccess (sizeAccess place) = .ok (some symbol) :=
    Model.memberWithin_eq_some_iff.2
      ⟨hkind, by simp [hname], decl, hreceiver, .field (hname ▸ hfound) hsymbol⟩
  have hfieldKind : symbol.kind = .field := by
    obtain ⟨type, -, hmade⟩ := Fallible.bind_eq_ok.1 hsymbol
    cases hmade
    simp [hplain]
  have howner := (Model.owner_of_fieldSymbol hsymbol).1
  refine ⟨symbol, ⟨modelOf_workshop ▸ hresolves, hfieldKind, ?_, ?_, ?_⟩, howner⟩
  · rw [howner]
    exact hmarked
  · rw [howner]
    exact hown
  · rw [howner]
    exact ((SymbolSpace.built_of_build build_workshop).inheritsBase_of_flat flat_workshop
      hreceiver.outcome.1).trans hnames

theorem mentions_part :
    (Corpus.ofSpace workshopSpace).Mentions (workshopUnit 1) (workshopType "Part") :=
  ⟨exists_index_workshop 1, crateName 1, .tail _ (.head _), by decide, typeReference_crate⟩

theorem atHome_item :
    (Corpus.ofSpace workshopSpace).AtHome (workshopUnit 0).path (workshopType "Item") := by
  refine ⟨by decide, fun other hother haway hmentions => ?_⟩
  have hfiles : other ∈ [workshopUnit 0, workshopUnit 1] := hother
  simp only [List.mem_cons, List.not_mem_nil, or_false] at hfiles
  obtain rfl | rfl := hfiles
  · exact haway (by decide)
  · obtain ⟨-, name, hplace, hnamed, href⟩ := hmentions
    have hnames : name ∈ [crateName 0, crateName 1, crateName 2] := hplace
    simp only [List.mem_cons, List.not_mem_nil, or_false] at hnames
    obtain rfl | rfl | rfl := hnames
    · cases href
    · have hsame := Option.some.inj (Except.ok.inj (typeReference_crate.symm.trans href))
      exact absurd (congrArg TypeDecl.name hsame) (by decide)
    · exact hnamed (by decide)

/-- The crate makes the parts shared; the items stay at home. -/
theorem plainField_rules_in_step_workshop :
    "Bench.cs" ∈ workshopSpace.entryFiles ∧ ∃ reported used,
      crossFileFieldAccess (.ofCorpus (.ofSpace workshopSpace) (workshopUnit 0) none) =
        .ok reported ∧
      serializableClassUsage (.ofCorpus (.ofSpace workshopSpace) (workshopUnit 0) none) =
        .ok used ∧
      used.map Prod.fst = [sizeAccess 0, sizeAccess 1] ∧
      reported.map Prod.fst = [sizeAccess 1] := by
  obtain ⟨item, hitem, hitemOwner⟩ := reads_size receiverIs_item (by decide) (by decide) rfl
    (by decide) (by decide) (by decide) (by decide)
  obtain ⟨part, hpart, hpartOwner⟩ := reads_size receiverIs_part (by decide) (by decide) rfl
    (by decide) (by decide) (by decide) (by decide)
  obtain ⟨_, _, reported, used, hcrossing, husage, hreported, hused, hall, hsub, hleft, -⟩ :=
    plainField_rules_in_step madeOf_workshop (workshopUnit 0) none
  cases hcrossing
  cases husage
  have hboth : used.map Prod.fst = [sizeAccess 0, sizeAccess 1] := by
    rw [hall]
    refine List.filter_eq_self.2 fun node hnode => ?_
    have hmem : node ∈ [sizeAccess 0, sizeAccess 1] := hnode
    simp only [List.mem_cons, List.not_mem_nil, or_false] at hmem
    obtain rfl | rfl := hmem
    · exact decide_eq_true ⟨item, hitem⟩
    · exact decide_eq_true ⟨part, hpart⟩
  rw [hboth] at hsub hleft
  have hfirst : sizeAccess 0 ∉ reported.map Prod.fst :=
    (hleft _ (.head _) item hitem).2 (hitemOwner ▸ atHome_item)
  have hsecond : sizeAccess 1 ∈ reported.map Prod.fst := by
    by_contra hnot
    have hhome := (hleft _ (.tail _ (.head _)) part hpart).1 hnot
    rw [hpartOwner] at hhome
    exact hhome.2 (workshopUnit 1) (.tail _ (.head _)) (by decide) mentions_part
  refine ⟨bench_mem_entryFiles, reported, used, hreported, hused, hboth, ?_⟩
  have hrest : (reported.map Prod.fst).Sublist [sizeAccess 1] := by
    refine (List.sublist_cons_iff.1 hsub).resolve_right ?_
    rintro ⟨rest, hcons, -⟩
    exact hfirst (hcons ▸ List.mem_cons_self)
  exact (List.sublist_singleton.1 hrest).resolve_left (List.ne_nil_of_mem hsecond)

end Workshop

end Rule
end SandboxLint
