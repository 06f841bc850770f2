import SandboxLint.Proofs.Corpus.BaseFault
import SandboxLint.Proofs.Corpus.ReferenceIndex
import SandboxLint.Proofs.EntryPoint

/-!
The bases of entry classes, read twice. The base graph resolves the text of a base at the top
of the class, among the types around it. The rule on interfaces resolves the place: it looks
only at three kinds of places, takes no local name and no `var` for a type, and counts the class
itself among the types around. So a type nested in the class, or in one that the class reaches,
hides the base that the graph has.
-/

namespace SandboxLint
namespace Node

variable {node base : Node}

/-- What stands between a declaration and the types in its base list. -/
def baseHolders : List String := ["base_list", "primary_constructor_base_type"]

theorem ancestors_of_child {child : Node} (h : child ∈ node.children) :
    child.ancestors = node :: node.ancestors := by
  obtain ⟨tree, -, rfl⟩ := List.mem_map.1 h
  rfl

theorem parent_eq_head? (node : Node) : node.parent = node.ancestors.head? := by
  obtain ⟨tree, above⟩ := node
  cases above <;> rfl

theorem ancestors_of_baseType (h : base ∈ node.baseTypes) :
    ∃ holder between, base.ancestors = holder :: between ++ node :: node.ancestors ∧
      ∀ place ∈ holder :: between, place.kind ∈ baseHolders := by
  rw [baseTypes] at h
  split at h
  · cases h
  · next list hlist =>
      have hkind : list.kind = "base_list" := by simpa using List.find?_some hlist
      have habove := ancestors_of_child (List.mem_of_find?_eq_some hlist)
      obtain ⟨child, hchild, hread⟩ := List.mem_filterMap.1 h
      have hbelow := ancestors_of_child (List.mem_filter.1 hchild).1
      split at hread
      · next hholder =>
          -- the base stands in a child that also has constructor arguments
          have hinside : base ∈ child.children := by
            cases htype : child.child? "type" with
            | some type =>
                rw [htype, Option.some_or] at hread
                cases hread
                exact List.mem_of_find?_eq_some htype
            | none =>
                rw [htype, Option.none_or] at hread
                exact (List.mem_filter.1 (List.mem_of_head? hread)).1
          refine ⟨child, [list], ?_, ?_⟩
          · rw [ancestors_of_child hinside, hbelow, habove]
            rfl
          · simp [baseHolders, hkind, beq_iff_eq.1 hholder]
      · split at hread
        · cases hread
        · cases hread
          refine ⟨list, [], ?_, by simp [baseHolders, hkind]⟩
          rw [hbelow, habove]
          rfl

/-- Seen from a base, what is above is the declaration and what is above it. -/
theorem filter_ancestors_of_baseType (keep : String → Bool) (h : base ∈ node.baseTypes)
    (hkeep : ∀ kind ∈ baseHolders, keep kind = false) :
    base.ancestors.filter (keep ·.kind) = (node :: node.ancestors).filter (keep ·.kind) := by
  obtain ⟨holder, between, hancestors, hkinds⟩ := ancestors_of_baseType h
  have hnone : (holder :: between).filter (keep ·.kind) = [] :=
    List.filter_eq_nil_iff.2 fun place hplace => by simp [hkeep _ (hkinds place hplace)]
  rw [hancestors, List.filter_append, hnone, List.nil_append]

theorem namespaceOf_of_baseType (h : base ∈ node.baseTypes)
    (hkind : node.kind = "class_declaration") (file : String) :
    base.namespaceOf file = node.namespaceOf file := by
  have hsame := filter_ancestors_of_baseType (· == "namespace_declaration") h (by decide)
  rw [namespaceOf, namespaceOf, hsame, List.filter_cons_of_neg (by simp [hkind])]

theorem enclosingTypeNames_of_baseType (h : base ∈ node.baseTypes)
    (hkind : node.kind = "class_declaration") (file : String) :
    base.enclosingTypeNames file = node.qualifiedName file :: node.enclosingTypeNames file := by
  have hsame := filter_ancestors_of_baseType Kind.typeDeclarations.contains h (by decide)
  rw [enclosingTypeNames, hsame, List.filter_cons_of_pos (by rw [hkind]; decide)]
  rfl

end Node

namespace Model

variable {model : Model} {node base : Node}

theorem identifierRole_of_baseType (h : base ∈ node.baseTypes) : identifierRole base = .free := by
  obtain ⟨holder, between, hancestors, hkinds⟩ := Node.ancestors_of_baseType h
  have hparent : base.parent = some holder := by rw [Node.parent_eq_head?, hancestors]; rfl
  have hkind := hkinds holder List.mem_cons_self
  simp only [Node.baseHolders, List.mem_cons, List.not_mem_nil, or_false] at hkind
  rw [identifierRole, hparent]
  obtain hkind | hkind := hkind
  all_goals
    simp [hkind, Kind.declaringParents, Kind.typeDeclarations, Kind.memberHolders,
      Kind.namespaceDeclarations]

/-- The reference that a place is read as, if any. -/
def readAt (model : Model) (node : Node) : Option TypeRef :=
  Option.filter (!·.isImplicit)
    (if node.kind == "identifier" then
      if (model.binding node node.text).isSome then none else some { name := node.text }
    else if node.kind == "generic_name" || node.kind == "qualified_name" then
      TypeRef.parse node.text
    else none)

theorem lookup_filter (ref? : Option TypeRef) :
    model.lookup (ref?.filter (!·.isImplicit)) node = model.lookup ref? node := by
  cases ref? with
  | none => rfl
  | some ref =>
      by_cases himplicit : ref.isImplicit = true
      · rw [Option.filter_some_neg (by simpa using himplicit)]
        simp [lookup, himplicit]
      · rw [Option.filter_some_pos (by simpa using himplicit)]

theorem typeReference_of_baseType (h : base ∈ node.baseTypes) :
    model.typeReference base = model.lookup (model.readAt base) base := by
  rw [readAt, lookup_filter, typeReference, identifierRole_of_baseType h, compoundReference]
  by_cases hkind : (base.kind == "identifier") = true
  · rw [if_pos hkind, if_pos hkind]
    by_cases hbound : (model.binding base base.text).isSome = true
    · rw [if_pos hbound]
      simp [hbound, lookup]
    · simp [hbound]
  · rw [if_neg hkind, if_neg hkind]
    split
    · rfl
    · rfl

theorem lookup_readAt {ref : TypeRef} (h : model.readAt base = some ref) :
    model.lookup (some ref) base = model.space.resolveRef (model.site base) ref := by
  have hexplicit : ref.isImplicit = false := by simpa using (Option.filter_eq_some_iff.1 h).2
  simp [lookup, hexplicit]

end Model

namespace TypeTable

variable {table : TypeTable} {bases : BaseTable} {site : Site} {ref : TypeRef}

/-- A reference means the same outside all types, unless it is a plain name of the corpus under
which a type is nested in those around. -/
theorem resolveRef_of_no_nested
    (h : site.imports.aliasTarget? ref = none → site.imports.expandQualifier ref.qualifier = "" →
      (∃ other ∈ table, other.name = ref.name) →
        table.resolveNested bases site.enclosing ref.name = none) :
    table.resolveRef (some bases) site ref =
      table.resolveRef (some bases) { site with enclosing := [] } ref := by
  obtain ⟨top, htop⟩ : ∃ top : Site, top = { site with enclosing := [] } := ⟨_, rfl⟩
  have himports : top.imports = site.imports := by rw [htop]
  have htypes : top.enclosing = [] := by rw [htop]
  rw [← htop]
  cases halias : site.imports.aliasTarget? ref with
  | some target => simp only [resolveRef, himports, halias]
  | none =>
      simp only [resolveRef, himports, halias]
      by_cases hplain : site.imports.expandQualifier ref.qualifier = ""
      · rw [resolvePlain_of_plain hplain, resolvePlain_of_plain (himports ▸ hplain),
          plainMeaning_of_no_enclosing ref.name htypes]
        by_cases hknown : ∃ other ∈ table, other.name = ref.name
        · have hsome : ¬ (table.named ref.name).isEmpty = true := by
            rw [isEmpty_named_iff]
            exact not_not_intro hknown
          rw [plainMeaning, if_neg hsome, h halias hplain hknown, htop]
          rfl
        · have hnone := isEmpty_named_iff.2 hknown
          rw [plainMeaning, if_pos hnone, List.isEmpty_iff.1 hnone, resolveVisible_nil]
      · rw [resolvePlain_of_qualified _ hplain, resolvePlain_of_qualified _ (himports ▸ hplain),
          htop]
        rfl

theorem resolveRef_of_nested {nested : TypeDecl} (halias : site.imports.aliasTarget? ref = none)
    (hplain : site.imports.expandQualifier ref.qualifier = "")
    (hknown : ∃ other ∈ table, other.name = ref.name)
    (hnested : table.resolveNested bases site.enclosing ref.name = some nested) :
    table.resolveRef (some bases) site ref =
      .ok (if nested.ambiguous then none else some nested) := by
  have hsome : ¬ (table.named ref.name).isEmpty = true := by
    rw [isEmpty_named_iff]
    exact not_not_intro hknown
  simp only [resolveRef, halias]
  rw [resolvePlain_of_plain hplain, plainMeaning, if_neg hsome, hnested]

end TypeTable

namespace SymbolSpace

/-- A type nested in a type, or in one that it reaches, has the plain name that is written in the
base list of the type. -/
structure Hides (space : SymbolSpace) (decl : TypeDecl) (ref : TypeRef) (nested : TypeDecl) :
    Prop where
  noAlias : (space.imports decl.path).aliasTarget? ref = none
  plain : (space.imports decl.path).expandQualifier ref.qualifier = ""
  known : ∃ other ∈ space.types, other.name = ref.name
  found : (space.bases.chain decl).findSome? (space.types.nestedType · ref.name) = some nested

variable {analysis : AnalysisSettings} {files : List OutlinedFile} {space : SymbolSpace}
  {decl : TypeDecl} {unit : OutlinedFile}

theorem Built.imports_of_mem (built : Built analysis files space) (hunit : unit ∈ space.files) :
    space.imports unit.path = unit.outline.imports := by
  have hnodup : (space.files.map (·.path)).Nodup := by
    rw [built.files_eq]
    exact nodup_paths_byPath files
  rw [imports, importsIn]
  cases hfile : space.files.find? (·.path == unit.path) with
  | none => exact absurd (List.find?_eq_none.1 hfile unit hunit) (by simp)
  | some other =>
      have hpath : other.path = unit.path := by simpa using List.find?_some hfile
      rw [List.inj_on_of_nodup_map hnodup (List.mem_of_find?_eq_some hfile) hunit hpath]

/-- A type with only one part is what that part declares. -/
theorem Built.eq_merge_of_partsOf (built : Built analysis files space)
    (hdecl : decl ∈ space.types) {part : Fragment} (hparts : space.partsOf decl = [part]) :
    decl = .merge part [part] := by
  rw [built.types_eq] at hdecl
  obtain ⟨first, rest, hfragments, hmerge⟩ := TypeTable.mem_ofOutlines_iff.1 hdecl
  cases hparts.symm.trans hfragments
  exact hmerge

/-- In a nested type no base name is the plain name of a type of the corpus. -/
theorem Built.outerType_of_plain {sources : List SourceFile} {marker : String}
    (built : Built analysis (sources.map (.ofFile · marker)) space) (hdecl : decl ∈ space.types)
    {name : String} (hname : name ∈ decl.baseNames) {ref : TypeRef}
    (hparse : TypeRef.parse name = some ref)
    (halias : (space.imports decl.path).aliasTarget? ref = none)
    (hplain : (space.imports decl.path).expandQualifier ref.qualifier = "")
    (hknown : ∃ other ∈ space.types, other.name = ref.name) : decl.outerType = none := by
  have houter : ∀ outer, decl.outerType = some outer →
      (space.types.find? outer).isSome = true := by
    intro outer houter
    have hlisted := hdecl
    rw [built.types_eq, built.files_eq] at hlisted ⊢
    exact (outlined_ofFile sources marker).byPath.isSome_find?_outerType hlisted houter
  obtain ⟨found, hfound⟩ := TypeTable.resolveBases_isOk_iff.1
    ⟨_, built.resolveBases_eq hdecl⟩ name hname
  by_contra hnested
  exact (TypeTable.resolveText_baseSite_isOk_iff houter).1 ⟨found, hfound⟩
    (.early hparse (Option.isSome_iff_ne_none.2 hnested) halias hplain hknown)

end SymbolSpace

namespace Rule

/-- What the rule on interfaces takes a base of a class for: nothing where it reads no reference, a
type that is nested in the class or in one that it reaches, or else what the base graph has. Only
an identifier that is no name can be read differently by the graph. -/
inductive BaseReading (corpus : Corpus) (unit : OutlinedFile) (decl : TypeDecl) (base : Node) :
    Option TypeDecl → Prop
  | unread (nothing : (modelOf corpus unit).readAt base = none) :
      BaseReading corpus unit decl base none
  | hidden {ref : TypeRef} {nested : TypeDecl}
      (reads : (modelOf corpus unit).readAt base = some ref)
      (word : TypeRef.parse base.text = some ref) (hides : corpus.space.Hides decl ref nested) :
      BaseReading corpus unit decl base (if nested.ambiguous then none else some nested)
  | written {ref : TypeRef} {found : Option TypeDecl}
      (reads : (modelOf corpus unit).readAt base = some ref)
      (word : TypeRef.parse base.text = some ref)
      (unhidden : ∀ nested, ¬ corpus.space.Hides decl ref nested)
      (means : corpus.space.types.resolveText none
        (corpus.space.types.baseSite corpus.space.imports decl) base.text = .ok found) :
      BaseReading corpus unit decl base found
  | nameless {ref : TypeRef} (reads : (modelOf corpus unit).readAt base = some ref)
      (noWord : TypeRef.parse base.text ≠ some ref) :
      BaseReading corpus unit decl base
        (RuleInput.resolved (corpus.space.resolveRef ((modelOf corpus unit).site base) ref))

variable {analysis : AnalysisSettings} {sources : List SourceFile} {marker : String}
  {corpus : Corpus} {unit : OutlinedFile} {type base : Node} {decl : TypeDecl}

/-- What is read as it is written and is not hidden is what the base graph has. -/
theorem BaseReading.means {reading : Option TypeDecl} {ref : TypeRef}
    (h : BaseReading corpus unit decl base reading)
    (hreads : (modelOf corpus unit).readAt base = some ref)
    (hparse : TypeRef.parse base.text = some ref)
    (hunhidden : ∀ nested, ¬ corpus.space.Hides decl ref nested) :
    corpus.space.types.resolveText none
      (corpus.space.types.baseSite corpus.space.imports decl) base.text = .ok reading := by
  cases h with
  | unread hnothing => cases hnothing.symm.trans hreads
  | hidden hreads' hparse' hides =>
      cases hparse'.symm.trans hparse
      exact absurd hides (hunhidden _)
  | written _ _ _ hmeans => exact hmeans
  | nameless hreads' hnoWord =>
      cases hreads'.symm.trans hreads
      exact absurd hparse hnoWord

/-- A class is a part of a type, and its only one. -/
structure OnlyPart (corpus : Corpus) (unit : OutlinedFile) (type : Node) (decl : TypeDecl) :
    Prop where
  file : unit ∈ corpus.space.files
  isClass : type.kind = "class_declaration"
  known : corpus.space.types.find? (type.qualifiedName unit.outline.namespaceName) = some decl
  only : corpus.space.partsOf decl =
    [Outline.fragment unit.file unit.outline.namespaceName type]

namespace OnlyPart

theorem mem_types (hpart : OnlyPart corpus unit type decl) : decl ∈ corpus.space.types :=
  List.mem_of_find?_eq_some hpart.known

variable (built : SymbolSpace.Built analysis (sources.map (.ofFile · marker)) corpus.space)
  (hpart : OnlyPart corpus unit type decl) (hbase : base ∈ type.baseTypes)
include built hpart

theorem eq_merge : decl = .merge (Outline.fragment unit.file unit.outline.namespaceName type)
    [Outline.fragment unit.file unit.outline.namespaceName type] :=
  built.eq_merge_of_partsOf hpart.mem_types hpart.only

include hbase

theorem text_mem_baseNames : base.text ∈ decl.baseNames := by
  rw [built.mem_baseNames_iff hpart.mem_types, hpart.only]
  exact ⟨_, List.mem_singleton_self _, List.mem_map_of_mem hbase⟩

/-- The rule looks at a base from where the graph does, and from inside the class. -/
theorem site_eq : (modelOf corpus unit).site base =
    { imports := corpus.space.imports decl.path
      namespaceName := decl.namespaceName
      enclosing :=
        decl.qualifiedName :: type.enclosingTypeNames unit.outline.namespaceName } := by
  have hspace := Node.namespaceOf_of_baseType hbase hpart.isClass unit.outline.namespaceName
  have hnames :=
    Node.enclosingTypeNames_of_baseType hbase hpart.isClass unit.outline.namespaceName
  have himports := built.imports_of_mem hpart.file
  rw [Model.site, Model.enclosingNames]
  simp only [modelOf]
  rw [hspace, hnames, hpart.eq_merge built]
  exact congrArg (fun imports => { imports, namespaceName := _, enclosing := _ : Site })
    himports.symm

theorem imports_site : ((modelOf corpus unit).site base).imports =
    corpus.space.imports decl.path :=
  congrArg Site.imports (hpart.site_eq built hbase)

variable {ref : TypeRef} (hparse : TypeRef.parse base.text = some ref)
include hparse

/-- For a plain name of the corpus the class is the only type around, for nested classes have no
such bases. -/
theorem resolveNested_eq (halias : (corpus.space.imports decl.path).aliasTarget? ref = none)
    (hplain : (corpus.space.imports decl.path).expandQualifier ref.qualifier = "")
    (hknown : ∃ other ∈ corpus.space.types, other.name = ref.name) :
    corpus.space.types.resolveNested corpus.space.bases
        ((modelOf corpus unit).site base).enclosing ref.name =
      (corpus.space.bases.chain decl).findSome? (corpus.space.types.nestedType · ref.name) := by
  have htop := built.outerType_of_plain hpart.mem_types (hpart.text_mem_baseNames built hbase)
    hparse halias hplain hknown
  rw [hpart.eq_merge built] at htop
  have hnone : type.enclosing Kind.typeDeclarations = none := Option.map_eq_none_iff.1 htop
  have hnames : type.enclosingTypeNames unit.outline.namespaceName = [] := by
    rw [Node.enclosingTypeNames, List.map_eq_nil_iff, List.filter_eq_nil_iff]
    exact List.find?_eq_none.1 hnone
  have hfind : corpus.space.types.find? decl.qualifiedName = some decl := by
    have hname := hpart.known
    rwa [hpart.eq_merge built] at hname ⊢
  rw [hpart.site_eq built hbase, hnames, TypeTable.resolveNested, List.findSome?_singleton, hfind,
    Option.bind_some]

theorem resolveRef_of_hides {nested : TypeDecl} (hides : corpus.space.Hides decl ref nested) :
    corpus.space.resolveRef ((modelOf corpus unit).site base) ref =
      .ok (if nested.ambiguous then none else some nested) := by
  have himports := hpart.imports_site built hbase
  apply TypeTable.resolveRef_of_nested
  · rw [himports]
    exact hides.noAlias
  · rw [himports]
    exact hides.plain
  · exact hides.known
  · rw [hpart.resolveNested_eq built hbase hparse hides.noAlias hides.plain hides.known]
    exact hides.found

/-- What nothing hides is what the base graph has. -/
theorem resolveRef_of_unhidden (hunhidden : ∀ nested, ¬ corpus.space.Hides decl ref nested) :
    ∃ found, corpus.space.resolveRef ((modelOf corpus unit).site base) ref = .ok found ∧
      corpus.space.types.resolveText none
        (corpus.space.types.baseSite corpus.space.imports decl) base.text = .ok found := by
  have himports := hpart.imports_site built hbase
  obtain ⟨found, hfound⟩ := TypeTable.resolveBases_isOk_iff.1
    ⟨_, built.resolveBases_eq hpart.mem_types⟩ _ (hpart.text_mem_baseNames built hbase)
  have htop := TypeTable.resolveText_of_pending corpus.space.bases hfound
  rw [TypeTable.resolveText, hparse] at htop
  refine ⟨found, ?_, hfound⟩
  refine (TypeTable.resolveRef_of_no_nested fun halias hplain hknown => ?_).trans ?_
  · rw [himports] at halias hplain
    rw [hpart.resolveNested_eq built hbase hparse halias hplain hknown]
    exact Option.eq_none_iff_forall_ne_some.2 fun nested hnested =>
      hunhidden nested ⟨halias, hplain, hknown, hnested⟩
  · rw [hpart.site_eq built hbase]
    exact htop

omit hparse

theorem exists_baseReading : ∃ reading, BaseReading corpus unit decl base reading ∧
    RuleInput.resolved ((modelOf corpus unit).typeReference base) = reading := by
  rw [Model.typeReference_of_baseType hbase]
  cases hreads : (modelOf corpus unit).readAt base with
  | none => exact ⟨none, .unread hreads, rfl⟩
  | some ref =>
      rw [Model.lookup_readAt hreads]
      by_cases hparse : TypeRef.parse base.text = some ref
      · by_cases hhidden : ∃ nested, corpus.space.Hides decl ref nested
        · obtain ⟨nested, hides⟩ := hhidden
          have hresolve := hpart.resolveRef_of_hides built hbase hparse hides
          exact ⟨_, .hidden hreads hparse hides, congrArg RuleInput.resolved hresolve⟩
        · have hunhidden := not_exists.1 hhidden
          obtain ⟨found, hresolve, hmeans⟩ :=
            hpart.resolveRef_of_unhidden built hbase hparse hunhidden
          exact ⟨found, .written hreads hparse hunhidden hmeans,
            congrArg RuleInput.resolved hresolve⟩
      · exact ⟨_, .nameless hreads hparse, rfl⟩

end OnlyPart

theorem mem_interfaces_iff {input : RuleInput} {message : String} :
    (base, message) ∈ interfaces input ↔ base ∈ input.entryTypes.flatMap (·.baseTypes) ∧
      message = "Interface implementation is not supported in UdonSharp" ∧
      TypeName.simple base.text ≠ input.analysis.baseType ∧ baseInherits input base = false := by
  rw [interfaces, List.mem_map]
  constructor
  · rintro ⟨other, hother, hpair⟩
    cases hpair
    simpa using hother
  · rintro ⟨hmem, rfl, hother⟩
    exact ⟨base, List.mem_filter.2 ⟨hmem, by simpa using hother⟩, rfl⟩

/-- The rule on interfaces is exact about what it takes a base for. Of a class that is the only part
of its type it reports the bases that neither are called like the sandboxed base nor are taken
for a type that inherits it. Where it reads the reference that is written and no nested type hides
it, this is the answer of the base graph. -/
theorem interfaces_exact
    (hmade : Corpus.MadeOf analysis (sources.map (.ofFile · marker)) corpus)
    (hunit : unit ∈ corpus.space.files) (hentry : type ∈ corpus.space.entryNodes unit)
    (hdecl : corpus.type? (type.qualifiedName unit.outline.namespaceName) = some decl)
    (honly : corpus.space.partsOf decl =
      [Outline.fragment unit.file unit.outline.namespaceName type]) (graph : Option CallGraph) :
    ∃ rule found, Registry.catalog.get? 17 = some rule ∧
      rule.evaluate (.ofCorpus corpus unit graph) = .ok found ∧
      (∀ base ∈ type.baseTypes, ∃ reading, BaseReading corpus unit decl base reading ∧
        ∀ message, (base, message) ∈ found ↔
          message = "Interface implementation is not supported in UdonSharp" ∧
          TypeName.simple base.text ≠ analysis.baseType ∧
          reading.any corpus.space.inheritsBase = false) ∧
      ∀ base ∈ type.baseTypes, ∀ ref, (modelOf corpus unit).readAt base = some ref →
        TypeRef.parse base.text = some ref →
        (∀ nested, ¬ corpus.space.Hides decl ref nested) →
        ∀ message, (base, message) ∈ found ↔
          message = "Interface implementation is not supported in UdonSharp" ∧
          TypeName.simple base.text ≠ analysis.baseType ∧
          ¬ ∃ target, corpus.space.types.resolveText none
              (corpus.space.types.baseSite corpus.space.imports decl) base.text =
                .ok (some target) ∧
            corpus.space.inheritsBase target = true := by
  have built := SymbolSpace.built_of_build hmade.indexed.1
  have hpart : OnlyPart corpus unit type decl :=
    ⟨hunit, (built.fragment_of_entryNode hunit hentry).1, hdecl, honly⟩
  have hreported : ∀ base ∈ type.baseTypes, ∀ message,
      (base, message) ∈ interfaces (.ofCorpus corpus unit graph) ↔
        message = "Interface implementation is not supported in UdonSharp" ∧
        TypeName.simple base.text ≠ analysis.baseType ∧
        (RuleInput.resolved ((modelOf corpus unit).typeReference base)).any
          corpus.space.inheritsBase = false := by
    intro base hbase message
    rw [mem_interfaces_iff, RuleInput.baseType_ofCorpus, built.analysis_eq]
    exact and_iff_right (List.mem_flatMap.2 ⟨type, hentry, hbase⟩)
  refine ⟨_, _, rfl, rfl, fun base hbase => ?_, fun base hbase ref hreads hparse hunhidden => ?_⟩
  · obtain ⟨_, hreading, rfl⟩ := hpart.exists_baseReading built hbase
    exact ⟨_, hreading, hreported base hbase⟩
  · obtain ⟨reading, hreading, hresolved⟩ := hpart.exists_baseReading built hbase
    intro message
    rw [hreported base hbase message, hresolved, hreading.means hreads hparse hunhidden]
    cases reading <;> simp

section Fair

/-- A booth that is a stand, with a class inside that is called like the stand. -/
def fair : List SourceFile :=
  [Sketch.file "Booth.cs"
      [Sketch.usingOf "UdonSharp",
        Sketch.classDecl [] "Booth" ["Stand"] [Sketch.classDecl [] "Stand" [] []]],
    Sketch.file "Stand.cs" [Sketch.classDecl [] "Stand" ["UdonSharpBehaviour"] []]]

def fairSpace : SymbolSpace :=
  .inOrder (Sketch.outlined fair)

def fairType (name : String) : TypeDecl :=
  (fairSpace.types.find? name).getD default

def boothUnit : OutlinedFile :=
  ((Sketch.outlined fair).head?).getD (.ofFile (Sketch.file "" []) "")

def boothNode : Node :=
  ((boothUnit.file.root.descendants ["class_declaration"]).head?).getD default

def boothBase : Node :=
  (boothNode.baseTypes.head?).getD default

theorem build_fair : SymbolSpace.build {} (Sketch.outlined fair) = .ok fairSpace :=
  SymbolSpace.build_inOrder (by decide) (by decide) (by decide)

theorem madeOf_fair : Corpus.MadeOf {} (Sketch.outlined fair) (.ofSpace fairSpace) :=
  .of_build build_fair

theorem basesOf_fair : fairSpace.basesOf (fairType "Booth") = [fairType "Stand"] ∧
    fairSpace.basesOf (fairType "Stand") = [] ∧
    fairSpace.basesOf (fairType "Booth.Stand") = [] := by
  decide

theorem inheritsBase_fair : fairSpace.inheritsBase (fairType "Booth") = true ∧
    fairSpace.inheritsBase (fairType "Stand") = true ∧
    fairSpace.inheritsBase (fairType "Booth.Stand") = false := by
  have built := SymbolSpace.built_of_build build_fair
  obtain ⟨hbooth, hstand, hinner⟩ := basesOf_fair
  refine ⟨built.inheritsBase_of_base (by decide) hbooth hstand (by decide), ?_, ?_⟩
  · rw [built.inheritsBase_of_no_bases (by decide) hstand]
    decide
  · rw [built.inheritsBase_of_no_bases (by decide) hinner]
    decide

theorem hides_fair :
    fairSpace.Hides (fairType "Booth") { name := "Stand" } (fairType "Booth.Stand") where
  noAlias := by decide
  plain := by decide
  known := ⟨fairType "Stand", by decide, by decide⟩
  found := by
    obtain ⟨more, -, hchain⟩ := fairSpace.bases.exists_chain_eq (fairType "Booth")
    rw [hchain]
    rfl

theorem partsOf_fair : fairSpace.partsOf (fairType "Booth") =
    [Outline.fragment boothUnit.file boothUnit.outline.namespaceName boothNode] :=
  TypeTable.fragmentsNamed_of_ordered (by decide) _

/-- The booth is an entry class through the stand, and yet the stand is reported, for the class
inside is taken for it. -/
theorem interfaces_exact_fair : boothNode ∈ fairSpace.entryNodes boothUnit ∧
    boothBase ∈ boothNode.baseTypes ∧
    fairSpace.types.resolveText none
      (fairSpace.types.baseSite fairSpace.imports (fairType "Booth")) boothBase.text =
        .ok (some (fairType "Stand")) ∧
    fairSpace.inheritsBase (fairType "Stand") = true ∧
    ∃ rule found, Registry.catalog.get? 17 = some rule ∧
      rule.evaluate (.ofCorpus (.ofSpace fairSpace) boothUnit none) = .ok found ∧
      (boothBase, "Interface implementation is not supported in UdonSharp") ∈ found := by
  have hentry : boothNode ∈ fairSpace.entryNodes boothUnit :=
    SymbolSpace.mem_entryNodes_iff.2 ⟨_, .head _,
      Bool.and_eq_true_iff.2 ⟨by decide, inheritsBase_fair.1⟩, rfl⟩
  have hunit : boothUnit ∈ (Corpus.ofSpace fairSpace).space.files := .head _
  have hbase : boothBase ∈ boothNode.baseTypes := .head _
  have hmeans : fairSpace.types.resolveText none
      (fairSpace.types.baseSite fairSpace.imports (fairType "Booth")) boothBase.text =
        .ok (some (fairType "Stand")) := by
    decide
  refine ⟨hentry, hbase, hmeans, inheritsBase_fair.2.1, ?_⟩
  obtain ⟨rule, found, hrule, hfound, hexact, -⟩ :=
    interfaces_exact madeOf_fair hunit hentry rfl partsOf_fair none
  refine ⟨rule, found, hrule, hfound, ?_⟩
  obtain ⟨reading, hreading, hreported⟩ := hexact boothBase hbase
  refine (hreported _).2 ⟨rfl, by decide, ?_⟩
  have hreads : (modelOf (.ofSpace fairSpace) boothUnit).readAt boothBase =
      some { name := "Stand" } := by
    decide
  cases hreading with
  | unread hnothing => rfl
  | hidden hreads' _ hides =>
      cases hreads.symm.trans hreads'
      cases hides_fair.found.symm.trans hides.found
      exact inheritsBase_fair.2.2
  | written hreads' _ hunhidden _ =>
      cases hreads.symm.trans hreads'
      exact absurd hides_fair (hunhidden _)
  | nameless hreads' hnoWord =>
      cases hreads.symm.trans hreads'
      exact absurd (by decide) hnoWord

end Fair

end Rule
end SandboxLint
