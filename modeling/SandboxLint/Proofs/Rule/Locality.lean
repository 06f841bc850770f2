import SandboxLint.Proofs.Corpus.Reach
import SandboxLint.Proofs.Corpus.Sketch
import SandboxLint.Proofs.Rule.Reading
import SandboxLint.Proofs.Run.Completion

/-!
Types that stay at home. A file refers to a type only if the name of the type stands in
its text, so a type of one file whose name is nowhere else is not shared, and the rules
on plain data across files have nothing to say about its members there.
-/

namespace SandboxLint

/-- A type is referred to from a file only if its name stands in the file's text. -/
theorem SymbolSpace.name_isInfix_of_referenced {space : SymbolSpace} {file : SourceFile}
    {marker : String} (hgrounded : file.Grounded) {decl : TypeDecl} (hnamed : decl.WellNamed)
    (hunique : ∀ other ∈ space.types, other.qualifiedName = decl.qualifiedName → other = decl)
    {found : FileIndex} (hindex : space.index (.ofFile file marker) = .ok found)
    (h : decl.qualifiedName ∈ found.referenced) :
    decl.name.toList <:+: file.source.text.toList := by
  obtain ⟨referenced, hreferenced, hfound⟩ := Fallible.bind_eq_ok.1 hindex
  cases hfound
  obtain ⟨types, htypes, hnames⟩ := Fallible.bind_eq_ok.1 hreferenced
  cases hnames
  obtain ⟨type?, htype, hname⟩ := List.mem_filterMap.1 (List.mem_eraseDups.1 h)
  obtain ⟨type, rfl, hsame⟩ := Option.map_eq_some_iff.1 hname
  obtain ⟨node, hnode, hread⟩ := (Fallible.mem_of_mapM htypes).1 htype
  have hplace := Node.mem_places_of_descendant (Node.mem_places_self file.root)
    (List.mem_filter.1 hnode).1
  have hroot : file.root.AllNear (OccursIn [file.source.text]) :=
    hgrounded.allNear (List.mem_singleton_self _)
  have htable : type ∈ space.types := Model.mem_types_of_typeReference hread
  obtain rfl := hunique type htable hsame
  obtain ⟨text, htext, hinfix⟩ := Model.near_of_typeReference (partClosed_occursIn _) hnamed rfl
    hroot hplace hread
  rwa [List.mem_singleton.1 htext] at hinfix

namespace Corpus

variable {analysis : AnalysisSettings} {units : List OutlinedFile} {corpus : Corpus}

/-- A corpus made of files, whether or not all of them could be read against the symbol space. -/
def MadeOf (analysis : AnalysisSettings) (units : List OutlinedFile) (corpus : Corpus) : Prop :=
  build analysis units = .ok corpus ∨ ∃ faults, buildTolerant analysis units = .ok (corpus, faults)

theorem referencingFiles_ofIndexes (space : SymbolSpace) (indexes : List FileIndex)
    (decl : TypeDecl) :
    (ofIndexes space indexes).referencingFiles decl =
      Assoc.valuesOf (indexes.flatMap fun i => i.referenced.map fun q => (q, i.path))
        decl.qualifiedName :=
  Assoc.getD_groups _ _

theorem mem_successesOf {α : Type} {results : List (String × Except Fault α)} {value : α} :
    value ∈ successesOf results ↔ ∃ path, (path, .ok value) ∈ results := by
  rw [successesOf, List.mem_filterMap]
  constructor
  · rintro ⟨⟨path, result⟩, hmem, hvalue⟩
    cases result with
    | ok found =>
        cases hvalue
        exact ⟨path, hmem⟩
    | error fault => cases hvalue
  · rintro ⟨path, hmem⟩
    exact ⟨_, hmem, rfl⟩

/-- However a corpus is made, it has the symbol space of its files and indexes of some of them. -/
theorem MadeOf.indexed (h : MadeOf analysis units corpus) :
    SymbolSpace.build analysis units = .ok corpus.space ∧
      ∃ indexes, corpus = ofIndexes corpus.space indexes ∧ ∀ found ∈ indexes,
        ∃ unit ∈ corpus.space.files, corpus.space.index unit = .ok found := by
  cases h with
  | inl hbuild =>
      obtain ⟨space, hspace, hrest⟩ := Fallible.bind_eq_ok.1 hbuild
      obtain ⟨indexes, hindexes, hcorpus⟩ := Fallible.bind_eq_ok.1 hrest
      cases hcorpus
      exact ⟨hspace, indexes, rfl, fun found hfound => (Fallible.mem_of_mapM hindexes).1 hfound⟩
  | inr htolerant =>
      obtain ⟨faults, htolerant⟩ := htolerant
      obtain ⟨space, hspace, rfl, -⟩ := buildTolerant_eq_ok_iff.1 htolerant
      refine ⟨hspace, _, rfl, fun found hfound => ?_⟩
      obtain ⟨path, hmem⟩ := mem_successesOf.1 hfound
      obtain ⟨unit, hunit, hresult⟩ := List.mem_map.1 hmem
      exact ⟨unit, hunit, (Prod.mk.inj hresult).2⟩

/-- A file refers to a type only if it could be read and found to do so. -/
theorem MadeOf.exists_index (h : MadeOf analysis units corpus) {decl : TypeDecl} {path : String}
    (hpath : path ∈ corpus.referencingFiles decl) :
    ∃ unit ∈ corpus.space.files, ∃ found, corpus.space.index unit = .ok found ∧
      unit.path = path ∧ decl.qualifiedName ∈ found.referenced := by
  obtain ⟨-, indexes, hcorpus, hindexes⟩ := h.indexed
  rw [hcorpus, referencingFiles_ofIndexes] at hpath
  obtain ⟨pair, hpair, rfl⟩ := List.mem_map.1 hpath
  obtain ⟨hpair, hname⟩ := List.mem_filter.1 hpair
  obtain ⟨found, hfound, hin⟩ := List.mem_flatMap.1 hpair
  obtain ⟨qualified, hqualified, rfl⟩ := List.mem_map.1 hin
  obtain ⟨unit, hunit, hindex⟩ := hindexes found hfound
  have hunitPath : unit.path = found.path := by
    obtain ⟨referenced, -, hmade⟩ := Fallible.bind_eq_ok.1 hindex
    cases hmade
    rfl
  exact ⟨unit, hunit, found, hindex, hunitPath, beq_iff_eq.1 hname ▸ hqualified⟩

end Corpus

namespace Rule

variable {corpus : Corpus} {unit : OutlinedFile} {graph : Option CallGraph}

/-- The rule on field accesses reports exactly the accesses to fields of plain data that is declared
elsewhere or shared. -/
theorem mem_crossFileFieldAccess (corpus : Corpus) (unit : OutlinedFile)
    (graph : Option CallGraph) :
    ∃ found, crossFileFieldAccess (.ofCorpus corpus unit graph) = .ok found ∧
      ∀ node message, (node, message) ∈ found ↔
        ∃ symbol b, node ∈ unit.file.root.descendants ["member_access_expression"] ∧
          (modelOf corpus unit).memberAccess node = .ok (some symbol) ∧ symbol.kind = .field ∧
          corpus.space.isPlainData symbol.owner = true ∧
          breach corpus unit.path symbol.owner = some b ∧
          message = fieldBreachMessage symbol.owner b := by
  refine ⟨_, rfl, fun node message => ?_⟩
  simp only [List.mem_filterMap, Prod.exists]
  constructor
  · rintro ⟨place, symbol, haccess, hfinding⟩
    obtain ⟨b, hbreach, hpair⟩ := Option.map_eq_some_iff.1 hfinding
    cases hpair
    obtain ⟨hplace, hmember, hkind, hplain⟩ := mem_plainFieldAccesses.1 haccess
    exact ⟨symbol, b, hplace, hmember, hkind, hplain, hbreach, rfl⟩
  · rintro ⟨symbol, b, hplace, hmember, hkind, hplain, hbreach, rfl⟩
    exact ⟨node, symbol, mem_plainFieldAccesses.2 ⟨hplace, hmember, hkind, hplain⟩,
      Option.map_eq_some_iff.2 ⟨b, hbreach, rfl⟩⟩

/-- The rule on invocations reports exactly the calls of instance methods of plain data that is
declared elsewhere or shared. -/
theorem mem_crossFileMethodInvocation (corpus : Corpus) (unit : OutlinedFile)
    (graph : Option CallGraph) :
    ∃ found, crossFileMethodInvocation (.ofCorpus corpus unit graph) = .ok found ∧
      ∀ node message, (node, message) ∈ found ↔
        ∃ symbol b, node ∈ unit.file.root.descendants ["invocation_expression"] ∧
          (modelOf corpus unit).invocation node = .ok (some symbol) ∧ symbol.kind = .method ∧
          corpus.space.isPlainData symbol.owner = true ∧ symbol.isStatic = false ∧
          breach corpus unit.path symbol.owner = some b ∧
          message = methodBreachMessage symbol b := by
  refine ⟨_, rfl, fun node message => ?_⟩
  rw [List.mem_filterMap]
  constructor
  · rintro ⟨place, hplace, hfinding⟩
    obtain ⟨symbol, howner, hrest⟩ := Option.bind_eq_some_iff.1 hfinding
    obtain ⟨hstatic, hrest⟩ := (Option.ite_none_left_eq_some (p := _ = true)).1 hrest
    obtain ⟨b, hbreach, hpair⟩ := Option.bind_eq_some_iff.1 hrest
    cases hpair
    rw [plainDataOwner_eq_some, resolved_eq_some] at howner
    exact ⟨symbol, b, hplace, howner.1, howner.2.1, howner.2.2, by simpa using hstatic, hbreach,
      rfl⟩
  · rintro ⟨symbol, b, hplace, hmember, hkind, hplain, hstatic, hbreach, rfl⟩
    have howner : plainDataOwner corpus .method
        (RuleInput.resolved ((modelOf corpus unit).invocation node)) = some symbol :=
      plainDataOwner_eq_some.2 ⟨resolved_eq_some.2 hmember, hkind, hplain⟩
    refine ⟨node, hplace, Option.bind_eq_some_iff.2 ⟨symbol, howner, ?_⟩⟩
    rw [if_neg (by simp [hstatic])]
    exact Option.bind_eq_some_iff.2 ⟨b, hbreach, rfl⟩

theorem breach_eq_none {path : String} {decl : TypeDecl} (hhome : path ∈ decl.declaringFiles)
    (hshared : corpus.isShared decl = false) : breach corpus path decl = none := by
  simp [breach, hhome, hshared]

/-- Of a type that is at home and not shared no field access is reported. -/
theorem owner_ne_of_fieldAccess {decl : TypeDecl} (hhome : unit.path ∈ decl.declaringFiles)
    (hshared : corpus.isShared decl = false) (graph : Option CallGraph) :
    ∃ found, crossFileFieldAccess (.ofCorpus corpus unit graph) = .ok found ∧
      ∀ finding ∈ found, ∀ symbol,
        (modelOf corpus unit).memberAccess finding.1 = .ok (some symbol) → symbol.owner ≠ decl := by
  obtain ⟨found, hfound, hmem⟩ := mem_crossFileFieldAccess corpus unit graph
  refine ⟨found, hfound, ?_⟩
  rintro ⟨node, message⟩ hfinding symbol hsymbol rfl
  obtain ⟨member, b, -, hmember, -, -, hreported, -⟩ := (hmem node message).1 hfinding
  rw [hmember] at hsymbol
  cases hsymbol
  rw [breach_eq_none hhome hshared] at hreported
  cases hreported

/-- Of a type that is at home and not shared no invocation is reported. -/
theorem owner_ne_of_invocation {decl : TypeDecl} (hhome : unit.path ∈ decl.declaringFiles)
    (hshared : corpus.isShared decl = false) (graph : Option CallGraph) :
    ∃ found, crossFileMethodInvocation (.ofCorpus corpus unit graph) = .ok found ∧
      ∀ finding ∈ found, ∀ symbol,
        (modelOf corpus unit).invocation finding.1 = .ok (some symbol) → symbol.owner ≠ decl := by
  obtain ⟨found, hfound, hmem⟩ := mem_crossFileMethodInvocation corpus unit graph
  refine ⟨found, hfound, ?_⟩
  rintro ⟨node, message⟩ hfinding symbol hsymbol rfl
  obtain ⟨member, b, -, hmember, -, -, -, hreported, -⟩ := (hmem node message).1 hfinding
  rw [hmember] at hsymbol
  cases hsymbol
  rw [breach_eq_none hhome hshared] at hreported
  cases hreported

end Rule

namespace Corpus

variable {analysis : AnalysisSettings} {sources : List SourceFile} {corpus : Corpus}

/-- The files of a corpus that outlined files make up are among them. -/
theorem MadeOf.exists_source
    (h : MadeOf analysis (sources.map (.ofFile · analysis.markerImport)) corpus)
    {unit : OutlinedFile} (hunit : unit ∈ corpus.space.files) :
    ∃ file ∈ sources, unit = .ofFile file analysis.markerImport := by
  have built := SymbolSpace.built_of_build h.indexed.1
  rw [built.files_eq] at hunit
  obtain ⟨file, hfile, rfl⟩ := List.mem_map.1 (SymbolSpace.mem_of_mem_byPath hunit)
  exact ⟨file, hfile, rfl⟩

/-- A type of one file whose name stands in no other file is referred to from that file alone. -/
theorem isShared_eq_false
    (hmade : MadeOf analysis (sources.map (.ofFile · analysis.markerImport)) corpus)
    (hgrounded : ∀ file ∈ sources, file.Grounded) {decl : TypeDecl}
    (hdecl : decl ∈ corpus.space.types) (hundotted : '.' ∉ decl.name.toList) {unit : OutlinedFile}
    (hhome : unit.path ∈ decl.declaringFiles)
    (hprivate : ∀ other ∈ corpus.space.files, other.path ≠ unit.path →
      ¬ decl.name.toList <:+: other.file.source.text.toList) :
    corpus.isShared decl = false := by
  have built := SymbolSpace.built_of_build hmade.indexed.1
  have hnamed : decl.WellNamed := by
    have houtlined := SymbolSpace.outlined_ofFile sources analysis.markerImport
    rw [built.types_eq, built.files_eq] at hdecl
    exact ⟨hundotted, houtlined.byPath.qualifiedName_eq hdecl⟩
  rw [isShared, List.any_eq_false]
  intro path hpath
  obtain ⟨other, hother, found, hindex, rfl, hreferenced⟩ := hmade.exists_index hpath
  by_cases hsame : other.path = unit.path
  · simp [hsame, hhome]
  · obtain ⟨file, hfile, rfl⟩ := hmade.exists_source hother
    have hinfix := SymbolSpace.name_isInfix_of_referenced (hgrounded file hfile) hnamed
      (fun type htype hname => built.eq_of_qualifiedName_eq htype hdecl hname) hindex hreferenced
    exact absurd hinfix (hprivate _ hother hsame)

theorem declaringFiles_ne_nil
    (hmade : MadeOf analysis (sources.map (.ofFile · analysis.markerImport)) corpus)
    {decl : TypeDecl} (hdecl : decl ∈ corpus.space.types) : decl.declaringFiles ≠ [] := by
  have built := SymbolSpace.built_of_build hmade.indexed.1
  rw [built.types_eq] at hdecl
  obtain ⟨first, rest, -, rfl⟩ := TypeTable.mem_ofOutlines_iff.1 hdecl
  refine List.ne_nil_of_mem (a := first.path) ?_
  simp [TypeDecl.merge, List.mem_eraseDups]

/-- Locality: a type that one file declares and whose name stands in the text of no other file is
not shared, and in that file neither rule on plain data across files reports a member of it. -/
theorem private_type_is_local
    (hmade : MadeOf analysis (sources.map (.ofFile · analysis.markerImport)) corpus)
    (hgrounded : ∀ file ∈ sources, file.Grounded) {decl : TypeDecl}
    (hdecl : decl ∈ corpus.space.types) (hundotted : '.' ∉ decl.name.toList) {unit : OutlinedFile}
    (hhome : ∀ path ∈ decl.declaringFiles, path = unit.path)
    (hprivate : ∀ other ∈ corpus.space.files, other.path ≠ unit.path →
      ¬ decl.name.toList <:+: other.file.source.text.toList) :
    corpus.isShared decl = false ∧ ∀ graph : Option CallGraph,
      (∃ rule found, Registry.catalog.get? 20 = some rule ∧
        rule.evaluate (.ofCorpus corpus unit graph) = .ok found ∧
        ∀ finding ∈ found, ∀ symbol,
          (Rule.modelOf corpus unit).memberAccess finding.1 = .ok (some symbol) →
            symbol.owner ≠ decl) ∧
      (∃ rule found, Registry.catalog.get? 22 = some rule ∧
        rule.evaluate (.ofCorpus corpus unit graph) = .ok found ∧
        ∀ finding ∈ found, ∀ symbol,
          (Rule.modelOf corpus unit).invocation finding.1 = .ok (some symbol) →
            symbol.owner ≠ decl) := by
  have hpath : unit.path ∈ decl.declaringFiles := by
    obtain ⟨path, hpath⟩ := List.exists_mem_of_ne_nil _ (declaringFiles_ne_nil hmade hdecl)
    exact hhome path hpath ▸ hpath
  have hshared := isShared_eq_false hmade hgrounded hdecl hundotted hpath hprivate
  refine ⟨hshared, fun graph => ⟨?_, ?_⟩⟩
  · obtain ⟨found, hfound, howner⟩ := Rule.owner_ne_of_fieldAccess hpath hshared graph
    exact ⟨_, found, rfl, hfound, howner⟩
  · obtain ⟨found, hfound, howner⟩ := Rule.owner_ne_of_invocation hpath hshared graph
    exact ⟨_, found, rfl, hfound, howner⟩

/-- A door, and a shelf that reads a field of the plain data declared beside it. -/
def shelf : List SourceFile :=
  [Sketch.textFile "Door.cs" "class Door { }" [Sketch.classDecl [] "Door" [] []],
    Sketch.textFile "Shelf.cs"
      "[Serializable] class Item { int size; } class Shelf { Item item; void Fit() { item.size; } }"
      [Sketch.marked "Serializable"
          (Sketch.classDecl [] "Item" [] [Sketch.fieldDecl "int" "size"]),
        Sketch.classDecl [] "Shelf" []
          [Sketch.fieldDecl "Item" "item",
            Sketch.methodDecl [] "Fit" [Sketch.access none "item" "size"]]]]

/-- The shelf may read the plain data that stands beside it. -/
theorem private_type_is_local_shelf : ∃ corpus item unit,
    MadeOf {} (Sketch.outlined shelf) corpus ∧ item ∈ corpus.space.types ∧ item.name = "Item" ∧
      item.attributes = ["Serializable"] ∧ unit ∈ corpus.space.files ∧ unit.path = "Shelf.cs" ∧
      corpus.isShared item = false ∧
      ∃ found, Rule.crossFileFieldAccess (.ofCorpus corpus unit none) = .ok found ∧
        ∀ finding ∈ found, ∀ symbol,
          (Rule.modelOf corpus unit).memberAccess finding.1 = .ok (some symbol) →
            symbol.owner ≠ item := by
  have hrun : ((SymbolSpace.buildInOrder {} (Sketch.outlined shelf)).toOption.any fun space =>
      space.types.any fun item => item.name == "Item" && item.attributes == ["Serializable"] &&
        space.files.any fun unit => unit.path == "Shelf.cs" &&
          (item.declaringFiles.all (· == unit.path)) &&
          space.files.all fun other => other.path == unit.path ||
            !decide (item.name.toList <:+: other.file.source.text.toList)) = true := by
    decide
  have hgrounded : ∀ file ∈ shelf, file.Grounded := by
    unfold SourceFile.Grounded
    decide +kernel
  obtain ⟨space, hbuild, hrun⟩ :=
    SymbolSpace.exists_build_of_any (by decide) (by decide) hrun
  simp only [Bool.and_eq_true, Bool.or_eq_true, beq_iff_eq, List.any_eq_true, List.all_eq_true,
    Bool.not_eq_true', decide_eq_false_iff_not] at hrun
  obtain ⟨item, hitem, ⟨hname, hmarked⟩, unit, hunit, ⟨hpath, hhome⟩, hprivate⟩ := hrun
  obtain ⟨corpus, faults, hcorpus, rfl⟩ : ∃ corpus faults,
      buildTolerant {} (Sketch.outlined shelf) = .ok (corpus, faults) ∧ corpus.space = space :=
    ⟨_, _, buildTolerant_eq_ok_iff.2 ⟨space, hbuild, rfl, rfl⟩, rfl⟩
  have hmade : MadeOf {} (Sketch.outlined shelf) corpus := .inr ⟨faults, hcorpus⟩
  obtain ⟨hshared, hrules⟩ := private_type_is_local hmade hgrounded hitem (by rw [hname]; decide)
    hhome fun other hother hne => (hprivate other hother).resolve_left hne
  obtain ⟨rule, found, hrule, hfound, hsilent⟩ := (hrules none).1
  cases hrule
  exact ⟨corpus, item, unit, hmade, hitem, hname, hmarked, hunit, hpath, hshared, found, hfound,
    hsilent⟩

end Corpus
end SandboxLint
