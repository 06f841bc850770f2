import SandboxLint.Proofs.Corpus.Apart
import SandboxLint.Proofs.Rule.Locality

/-!
Reading the files of two sides. A file is read against the space of its own side as it is
against the whole space, and refers to types of its own side only, so the corpus of one
side has the scopes of its files, and for each of its types the files that refer to it,
from the corpus of all files.
-/

namespace SandboxLint

variable {near away : String → Prop} {home : String → Bool}

namespace SymbolSpace

variable {a b : SymbolSpace} {athome : String → Prop} {unit : OutlinedFile} {scopes : Scopes}

theorem Agree.references_eq (hagree : Agree near athome a b)
    (hread : ReadAlike near a b unit scopes) :
    b.references unit scopes = a.references unit scopes := by
  have hfilter : ((unit.file.root.descendants ["identifier"]).filter fun node =>
        !(b.types.named node.text).isEmpty) =
      (unit.file.root.descendants ["identifier"]).filter fun node =>
        !(a.types.named node.text).isEmpty := by
    refine List.filter_congr fun node hnode => ?_
    rw [hagree.types.named node.text (hread.places node (List.mem_filter.1 hnode).1)]
  have htypes : ((unit.file.root.descendants ["identifier"]).filter fun node =>
        !(a.types.named node.text).isEmpty).mapM (Model.typeReference ⟨b, unit, scopes⟩) =
      ((unit.file.root.descendants ["identifier"]).filter fun node =>
        !(a.types.named node.text).isEmpty).mapM (Model.typeReference ⟨a, unit, scopes⟩) := by
    refine Fallible.mapM_congr fun node hnode => ?_
    have hplace := (List.mem_filter.1 (List.mem_filter.1 hnode).1).1
    exact (Model.typeReference_alike hagree hread hplace).1
  rw [references, references, hfilter]
  exact congrArg (· >>= _) htypes

/-- The types that a file refers to have near names. -/
theorem Agree.own_of_references (hagree : Agree near athome a b)
    (hread : ReadAlike near a b unit scopes) {found : List String}
    (h : a.references unit scopes = .ok found) {qualified : String} (hfound : qualified ∈ found) :
    ∃ decl, a.types.Own near decl ∧ decl.qualifiedName = qualified := by
  obtain ⟨types, htypes, hnames⟩ := Fallible.bind_eq_ok.1 h
  cases hnames
  obtain ⟨type?, htype, hname⟩ := List.mem_filterMap.1 (List.mem_eraseDups.1 hfound)
  obtain ⟨type, rfl, hsame⟩ := Option.map_eq_some_iff.1 hname
  obtain ⟨node, hnode, hresolved⟩ := (Fallible.mem_of_mapM htypes).1 htype
  have hplace := (List.mem_filter.1 (List.mem_filter.1 hnode).1).1
  exact ⟨type, (Model.typeReference_alike hagree hread hplace).2 type hresolved, hsame⟩

theorem Agree.index_eq (hagree : Agree near athome a b)
    (hread : ReadAlike near a b unit (Scope.collect unit.file.root)) :
    b.index unit = a.index unit := by
  simp only [index, hagree.references_eq hread]

theorem Agree.own_of_index (hagree : Agree near athome a b)
    (hread : ReadAlike near a b unit (Scope.collect unit.file.root)) {found : FileIndex}
    (h : a.index unit = .ok found) {qualified : String} (hfound : qualified ∈ found.referenced) :
    ∃ decl, a.types.Own near decl ∧ decl.qualifiedName = qualified := by
  obtain ⟨referenced, hreferenced, hmade⟩ := Fallible.bind_eq_ok.1 h
  cases hmade
  exact hagree.own_of_references hread hreferenced hfound

theorem of_index {space : SymbolSpace} {found : FileIndex} (h : space.index unit = .ok found) :
    found.path = unit.path ∧ found.scopes = Scope.collect unit.file.root := by
  obtain ⟨referenced, -, hmade⟩ := Fallible.bind_eq_ok.1 h
  cases hmade
  exact ⟨rfl, rfl⟩

def indexes (space : SymbolSpace) : List FileIndex :=
  Corpus.successesOf (space.files.map fun unit => (unit.path, space.index unit))

theorem mem_indexes {space : SymbolSpace} {found : FileIndex} :
    found ∈ space.indexes ↔ ∃ unit ∈ space.files, space.index unit = .ok found := by
  rw [indexes, Corpus.mem_successesOf]
  constructor
  · rintro ⟨path, hmem⟩
    obtain ⟨unit, hunit, hpair⟩ := List.mem_map.1 hmem
    exact ⟨unit, hunit, (Prod.mk.inj hpair).2⟩
  · rintro ⟨unit, hunit, hindex⟩
    exact ⟨unit.path, List.mem_map.2 ⟨unit, hunit, by rw [hindex]⟩⟩

end SymbolSpace

namespace Side

open SymbolSpace

variable {files : List OutlinedFile} (side : Side near home files)
include side

/-- The types around a place of a file at home are declared there. -/
theorem common_of_enclosing {unit : OutlinedFile} (hunit : unit ∈ files)
    (hhome : home unit.path = true) {node : Node} (hnode : node ∈ unit.file.root.places)
    {outer : String} (houter : outer ∈ node.enclosingTypeNames unit.outline.namespaceName) :
    TypeTable.Common near (typesIn files) (typesIn (atHome home files)) outer := by
  obtain ⟨around, haround, rfl⟩ := List.mem_map.1 houter
  obtain ⟨hancestor, hkind⟩ := List.mem_filter.1 haround
  obtain ⟨file, marker, rfl⟩ := side.outlined unit hunit
  have hplace := Node.mem_places_of_ancestor hnode hancestor
  exact side.common_of_fragment hunit hhome
    (Outline.mem_types_iff.2 ⟨around, hplace, hkind, rfl⟩)

/-- A file at home is read alike by spaces that have its types in common. -/
theorem readAlike {unit : OutlinedFile} (hunit : unit ∈ files) (hhome : home unit.path = true)
    {a b : SymbolSpace}
    (hcommon : ∀ qualified,
      TypeTable.Common near (typesIn files) (typesIn (atHome home files)) qualified →
        TypeTable.Common near a.types b.types qualified)
    {scopes : Scopes} (hscopes : scopes = Scope.collect unit.file.root ∨ scopes = []) :
    ReadAlike near a b unit scopes := by
  have hroot := side.texts unit hunit hhome
  have henclosing := fun node (hnode : node ∈ unit.file.root.places) outer houter =>
    hcommon outer (side.common_of_enclosing hunit hhome hnode houter)
  obtain ⟨file, marker, rfl⟩ := side.outlined unit hunit
  refine ⟨hroot, Outline.allNear_imports side.closed hroot, fun target htarget => ?_, henclosing,
    fun key bindings name binding hbindings hbinding => ?_⟩
  · obtain ⟨directive, hdirective, rfl⟩ := List.mem_map.1 htarget
    exact side.closed.of_writes hroot
      (Outline.writes_of_usingDirective (List.mem_filter.1 hdirective).1)
  · obtain rfl | rfl := hscopes
    · exact Scope.collect_within hbindings hbinding
    · cases hbindings

end Side

/-- The corpus of a symbol space, with the files that can be read against it. -/
def Corpus.ofSpace (space : SymbolSpace) : Corpus :=
  ofIndexes space space.indexes

@[simp] theorem Corpus.space_ofSpace (space : SymbolSpace) : (ofSpace space).space = space :=
  rfl

theorem Corpus.MadeOf.of_build {analysis : AnalysisSettings} {units : List OutlinedFile}
    {space : SymbolSpace} (h : SymbolSpace.build analysis units = .ok space) :
    MadeOf analysis units (ofSpace space) :=
  .inr ⟨_, buildTolerant_eq_ok_iff.2 ⟨space, h, rfl, rfl⟩⟩

namespace SymbolSpace

variable {analysis : AnalysisSettings} {units : List OutlinedFile} {space : SymbolSpace}

/-- A file has the scopes that were collected in it, or none when it could not be read. -/
theorem Built.scopes_of_file (built : Built analysis units space) {unit : OutlinedFile}
    (hunit : unit ∈ space.files) :
    ((Corpus.ofSpace space).scopes.get? unit.path).getD [] = Scope.collect unit.file.root ∨
      ((Corpus.ofSpace space).scopes.get? unit.path).getD [] = [] := by
  cases hscopes : (Corpus.ofSpace space).scopes.get? unit.path with
  | none => exact .inr rfl
  | some scopes =>
      refine .inl ?_
      obtain ⟨found, hfound, hpair⟩ := List.mem_map.1 (Assoc.mem_of_get? hscopes)
      obtain ⟨other, hother, hindex⟩ := mem_indexes.1 hfound
      obtain ⟨hpath, hcollected⟩ := of_index hindex
      obtain ⟨hsame, rfl⟩ := Prod.mk.inj hpair
      have hnodup : (space.files.map (·.path)).Nodup := by
        rw [built.files_eq]
        exact nodup_paths_byPath units
      have hunits : other = unit :=
        List.inj_on_of_nodup_map hnodup hother hunit (hpath.symm.trans hsame)
      rw [Option.getD_some, hcollected, hunits]

end SymbolSpace

section Indexed

open SymbolSpace

variable {analysis : AnalysisSettings} {units : List OutlinedFile} {space part : SymbolSpace}

/-- A file at home leads to types of its own side only. -/
theorem Side.readAlike_self (side : Side near home space.files)
    (built : Built analysis units space) {unit : OutlinedFile} (hunit : unit ∈ space.files)
    (hhome : home unit.path = true) {scopes : Scopes}
    (hscopes : scopes = Scope.collect unit.file.root ∨ scopes = []) :
    ReadAlike near space space unit scopes := by
  refine side.readAlike hunit hhome (fun qualified hcommon => ?_) hscopes
  rw [built.types_eq]
  exact hcommon.self

namespace Apart

variable (apart : Apart near away home space.files) (built : Built analysis units space)
include apart built

/-- A file refers to types of its own side only. -/
theorem home_of_referenced {found : FileIndex} (hfound : found ∈ space.indexes) {decl : TypeDecl}
    (hown : space.types.Own near decl) (hreferenced : decl.qualifiedName ∈ found.referenced) :
    home found.path = true := by
  obtain ⟨unit, hunit, hindex⟩ := mem_indexes.1 hfound
  rw [(of_index hindex).1]
  by_contra haway
  -- a file of the other side refers to the types of that side only
  have hthere : (!home unit.path) = true := by simpa using haway
  have hread := apart.there.readAlike_self built hunit hthere (.inl rfl)
  obtain ⟨other, hother, hname⟩ :=
    (apart.there.agree_self built).own_of_index hread hindex hreferenced
  exact apart.elsewhere built hown other hother hname

variable (built' : Built analysis (atHome home units) part)
include built'

theorem readAlike {unit : OutlinedFile} (hunit : unit ∈ space.files)
    (hhome : home unit.path = true) {scopes : Scopes}
    (hscopes : scopes = Scope.collect unit.file.root ∨ scopes = []) :
    ReadAlike near space part unit scopes := by
  refine apart.here.readAlike hunit hhome (fun qualified hcommon => ?_) hscopes
  rw [Side.types_of_part built built', built.types_eq]
  exact hcommon

theorem index_eq {unit : OutlinedFile} (hunit : unit ∈ space.files)
    (hhome : home unit.path = true) : part.index unit = space.index unit :=
  (apart.agree built built').index_eq (apart.readAlike built built' hunit hhome (.inl rfl))

theorem indexes_part : part.indexes = space.indexes.filter (home ·.path) := by
  simp only [indexes, Corpus.successesOf, List.filterMap_map]
  rw [List.filter_filterMap, Side.files_of_part built built', atHome, List.filterMap_filter]
  refine List.filterMap_congr fun unit hunit => ?_
  cases hhome : home unit.path with
  | true =>
      simp only [Function.comp, apart.index_eq built built' hunit hhome, ite_true]
      cases hindex : space.index unit with
      | error fault => rfl
      | ok found => simp [Except.toOption, Option.filter, (of_index hindex).1, hhome]
  | false =>
      cases hindex : space.index unit with
      | error fault => simp [Function.comp, hindex, Except.toOption]
      | ok found =>
          simp [Function.comp, hindex, Except.toOption, Option.filter, (of_index hindex).1, hhome]

theorem scopes_part {path : String} (hhome : home path = true) :
    (Corpus.ofSpace part).scopes.get? path = (Corpus.ofSpace space).scopes.get? path := by
  have hscopes : (Corpus.ofSpace part).scopes =
      (Corpus.ofSpace space).scopes.filter (home ·.1) := by
    simp only [Corpus.ofSpace, Corpus.ofIndexes, apart.indexes_part built built', List.filter_map]
    rfl
  rw [hscopes, Assoc.get?_filter hhome]

/-- The files that refer to a type of one side are all on that side. -/
theorem referencingFiles_part {decl : TypeDecl} (hown : space.types.Own near decl) :
    (Corpus.ofSpace part).referencingFiles decl =
      (Corpus.ofSpace space).referencingFiles decl := by
  have hpairs : ∀ found ∈ space.indexes, ∀ pair ∈ found.referenced.map fun q => (q, found.path),
      home pair.2 = home found.path := by
    intro found _ pair hpair
    obtain ⟨qualified, -, rfl⟩ := List.mem_map.1 hpair
    rfl
  rw [Corpus.ofSpace, Corpus.ofSpace, Corpus.referencingFiles_ofIndexes,
    Corpus.referencingFiles_ofIndexes, apart.indexes_part built built', flatMap_filter_eq hpairs,
    Assoc.valuesOf, Assoc.valuesOf, List.filter_filter]
  refine congrArg (List.map _) (List.filter_congr fun pair hpair => ?_)
  obtain ⟨found, hfound, hpair⟩ := List.mem_flatMap.1 hpair
  obtain ⟨qualified, hqualified, rfl⟩ := List.mem_map.1 hpair
  by_cases hname : qualified = decl.qualifiedName
  · simp [hname, apart.home_of_referenced built hfound hown (hname ▸ hqualified)]
  · simp [hname]

theorem isShared_part {decl : TypeDecl} (hown : space.types.Own near decl) :
    (Corpus.ofSpace part).isShared decl = (Corpus.ofSpace space).isShared decl := by
  rw [Corpus.isShared, Corpus.isShared, apart.referencingFiles_part built built' hown]

end Apart
end Indexed
end SandboxLint
