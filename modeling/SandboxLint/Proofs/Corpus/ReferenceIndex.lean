import SandboxLint.Proofs.Corpus.Ambiguity
import SandboxLint.Proofs.Corpus.ApartIndex
import SandboxLint.Proofs.Corpus.Requalified

/-!
The index of references and the typing of names. A file counts as referring to a type
exactly when one of its identifiers does. The plain name of a type in front of a dot is
such an identifier. Of a nested or qualified name in front of a dot the last part is not,
although the whole is typed as the type: it stands where a member is selected.
-/

namespace SandboxLint

theorem Node.isSame_self (node : Node) : isSame (some node) node = true := by
  simp [isSame, sameAs]

namespace Model

variable {model : Model}

/-- An identifier that the index of references counts for a type. -/
def RefersTo (model : Model) (name : Node) (decl : TypeDecl) : Prop :=
  name ∈ model.unit.file.root.descendants ["identifier"] ∧
    model.space.types.named name.text ≠ [] ∧ model.typeReference name = .ok (some decl)

/-- A name expression that stands for a type: a plain name that no variable and no field around
has, the name of a type nested in what stands before the dot, or a name that is found as a
whole because what stands before the dot has no such member. -/
inductive Denotes (model : Model) (node : Node) (decl : TypeDecl) : Prop
  | simple (kind : node.kind = "identifier") (unbound : model.binding node node.text = none)
      (fieldless : model.surroundingField node node.text = none)
      (found : model.lookup (some { name := node.text }) node = .ok (some decl))
  | nested (kind : node.kind = "member_access_expression")
      (found : model.memberWithin (depthLimit - 1) node = .ok (some (typeSymbol decl)))
  | qualified (kind : node.kind = "member_access_expression")
      (memberless : model.memberWithin (depthLimit - 1) node = .ok none)
      (found : model.lookup (TypeRef.parse node.text) node = .ok (some decl))

theorem Denotes.typeOf_eq {node : Node} {decl : TypeDecl} (h : model.Denotes node decl) :
    model.typeOf node = .ok (some decl.ref) := by
  cases h with
  | simple hkind hunbound hfieldless hfound =>
      exact typeWithin_name hkind hunbound hfieldless hfound
  | nested hkind hfound =>
      rw [typeOf, depthLimit, typeWithin_succ]
      simp only [hkind]
      exact Fallible.bind_eq_ok.2 ⟨_, hfound, rfl⟩
  | qualified hkind hmemberless hfound =>
      rw [typeOf, depthLimit, typeWithin_succ]
      simp only [hkind]
      exact Fallible.bind_eq_ok.2 ⟨none, hmemberless, Fallible.bind_eq_ok.2 ⟨_, hfound, rfl⟩⟩

theorem Denotes.mem_types {node : Node} {decl : TypeDecl} (h : model.Denotes node decl) :
    decl ∈ model.space.types := by
  cases h with
  | simple _ _ _ hfound => exact (outcome_of_lookup hfound).1
  | qualified _ _ hfound => exact (outcome_of_lookup hfound).1
  | nested _ hfound =>
      obtain ⟨-, -, owner, -, hmember⟩ := memberWithin_eq_some_iff.1 hfound
      cases hmember with
      | field _ hsymbol => exact absurd rfl (owner_of_fieldSymbol hsymbol).2
      | method _ _ hsymbol => cases (owner_of_methodSymbol hsymbol).2
      | nested _ _ hnested hsymbol =>
          cases congrArg Symbol.owner hsymbol
          exact List.mem_of_find?_eq_some hnested

/-- Below a member access an identifier is the member's name or stands for itself. -/
theorem identifierRole_of_access {access name : Node}
    (hkind : access.kind = "member_access_expression") (hparent : name.parent = some access) :
    identifierRole name =
      if Node.isSame (access.child? "name") name then .declared else .free := by
  simp [identifierRole, hparent, hkind]

/-- The plain name of a type in front of a dot refers to the type. -/
theorem refersTo_receiver {access receiver : Node} {decl : TypeDecl}
    (haccess : access ∈ model.unit.file.root.descendants ["member_access_expression"])
    (hreceiver : access.child? "expression" = some receiver)
    (hbefore : Node.isSame (access.child? "name") receiver = false)
    (hkind : receiver.kind = "identifier") (hname : receiver.text = decl.name)
    (hdenotes : model.Denotes receiver decl) : model.RefersTo receiver decl := by
  obtain ⟨hplace, haccessKind⟩ := List.mem_filter.1 haccess
  refine ⟨List.mem_filter.2 ⟨Node.mem_places_of_child? hplace hreceiver, by simp [hkind]⟩, ?_, ?_⟩
  · exact List.ne_nil_of_mem (List.mem_filter.2 ⟨hdenotes.mem_types, by simp [hname]⟩)
  · have hrole := identifierRole_of_access (by simpa using haccessKind)
      (Node.parent_of_child? hreceiver)
    cases hdenotes with
    | simple _ hunbound _ hfound =>
        simp [typeReference, hkind, hrole, hbefore, hunbound, hfound]
    | nested hother => simp [hother] at hkind
    | qualified hother => simp [hother] at hkind

/-- The last part of a name before a dot refers to nothing. -/
theorem not_refersTo_member {access name : Node} {decl : TypeDecl}
    (hkind : access.kind = "member_access_expression")
    (hname : access.child? "name" = some name) : ¬ model.RefersTo name decl := by
  rintro ⟨hplace, -, href⟩
  have hidentifier : name.kind = "identifier" := by simpa using (List.mem_filter.1 hplace).2
  have hrole := identifierRole_of_access hkind (Node.parent_of_child? hname)
  rw [hname, Node.isSame_self, if_pos rfl] at hrole
  simp [typeReference, hidentifier, hrole] at href

theorem lookup_isOk (haliases : model.unit.outline.imports.AliasesEnd) (ref? : Option TypeRef)
    (node : Node) : ∃ decl?, model.lookup ref? node = .ok decl? := by
  cases ref? with
  | none => exact ⟨none, rfl⟩
  | some ref =>
      simp only [lookup]
      split
      · exact ⟨none, rfl⟩
      · exact SymbolSpace.resolveRef_isOk haliases ref

theorem compoundReference_isOk (haliases : model.unit.outline.imports.AliasesEnd) (node : Node) :
    ∃ decl?, model.compoundReference node = .ok decl? := by
  rw [compoundReference]
  split
  · exact lookup_isOk haliases _ node
  · exact ⟨none, rfl⟩

theorem typeReference_isOk (haliases : model.unit.outline.imports.AliasesEnd) (node : Node) :
    ∃ decl?, model.typeReference node = .ok decl? := by
  rw [typeReference]
  split
  · split
    · exact ⟨none, rfl⟩
    · exact compoundReference_isOk haliases _
    · split
      · exact ⟨none, rfl⟩
      · exact lookup_isOk haliases _ node
  · exact compoundReference_isOk haliases node

end Model

theorem SymbolSpace.exists_index (space : SymbolSpace) {unit : OutlinedFile}
    (haliases : unit.outline.imports.AliasesEnd) : ∃ found, space.index unit = .ok found := by
  have hread : ∀ node ∈ (unit.file.root.descendants ["identifier"]).filter fun node =>
      !(space.types.named node.text).isEmpty,
      ∃ decl?, Model.typeReference ⟨space, unit, Scope.collect unit.file.root⟩ node = .ok decl? :=
    fun node _ => Model.typeReference_isOk haliases node
  obtain ⟨types, htypes⟩ := Fallible.mapM_isOk_iff.2 hread
  exact ⟨_, Fallible.bind_eq_ok.2 ⟨_, Fallible.bind_eq_ok.2 ⟨types, htypes, rfl⟩, rfl⟩⟩

namespace Corpus

variable {analysis : AnalysisSettings} {units : List OutlinedFile} {corpus : Corpus}

theorem successesOf_of_mapM {α : Type} {files : List OutlinedFile}
    {f : OutlinedFile → Except Fault α} {values : List α} (h : files.mapM f = .ok values) :
    successesOf (files.map fun unit => (unit.path, f unit)) = values := by
  have hall := Fallible.mapM_eq_ok.1 h
  clear h
  induction hall with
  | nil => rfl
  | cons hvalue _ ih => simp [successesOf, hvalue, Except.toOption, ← ih]

/-- However a corpus is made, it holds the indexes of all files that can be read. -/
theorem MadeOf.eq_ofSpace (h : MadeOf analysis units corpus) : corpus = ofSpace corpus.space := by
  cases h with
  | inl hbuild =>
      obtain ⟨space, -, hrest⟩ := Fallible.bind_eq_ok.1 hbuild
      obtain ⟨indexes, hindexes, hcorpus⟩ := Fallible.bind_eq_ok.1 hrest
      cases hcorpus
      exact congrArg (ofIndexes space) (successesOf_of_mapM hindexes).symm
  | inr htolerant =>
      obtain ⟨faults, htolerant⟩ := htolerant
      obtain ⟨space, -, rfl, -⟩ := buildTolerant_eq_ok_iff.1 htolerant
      rfl

/-- A corpus is known by the symbol space of its files. -/
theorem MadeOf.eq_of_build (h : MadeOf analysis units corpus) {space : SymbolSpace}
    (hbuild : SymbolSpace.build analysis units = .ok space) : corpus = ofSpace space := by
  rw [h.eq_ofSpace, Except.ok.inj (h.indexed.1.symm.trans hbuild)]

section Indexed

variable (hmade : MadeOf analysis units corpus) {unit : OutlinedFile}
  (hunit : unit ∈ corpus.space.files)
include hmade hunit

theorem eq_of_path {other : OutlinedFile} (hother : other ∈ corpus.space.files)
    (hpath : other.path = unit.path) : other = unit := by
  have hnodup : (corpus.space.files.map (·.path)).Nodup := by
    rw [(SymbolSpace.built_of_build hmade.indexed.1).files_eq]
    exact SymbolSpace.nodup_paths_byPath units
  exact List.inj_on_of_nodup_map hnodup hother hunit hpath

theorem file?_of_mem : corpus.space.file? unit.path = some unit := by
  cases hfile : corpus.space.file? unit.path with
  | none => exact absurd (List.find?_eq_none.1 hfile unit hunit) (by simp)
  | some other =>
      have hpath : other.path = unit.path := by simpa using List.find?_some hfile
      rw [eq_of_path hmade hunit (List.mem_of_find?_eq_some hfile) hpath]

variable {found : FileIndex} (hindex : corpus.space.index unit = .ok found)
include hindex

theorem scopes_of_index : corpus.scopes.get? unit.path = some (Scope.collect unit.file.root) := by
  have hscopes : corpus.scopes = corpus.space.indexes.map fun i => (i.path, i.scopes) :=
    congrArg Corpus.scopes hmade.eq_ofSpace
  cases hget : corpus.scopes.get? unit.path with
  | none =>
      have hmem : (unit.path, found.scopes) ∈ corpus.scopes := by
        rw [hscopes, ← (SymbolSpace.of_index hindex).1]
        exact List.mem_map_of_mem (SymbolSpace.mem_indexes.2 ⟨unit, hunit, hindex⟩)
      simpa using List.lookup_eq_none_iff.1 hget _ hmem
  | some scopes =>
      have hmem := Assoc.mem_of_get? hget
      rw [hscopes] at hmem
      obtain ⟨index, hindexes, hpair⟩ := List.mem_map.1 hmem
      obtain ⟨hpath, rfl⟩ := Prod.mk.inj hpair
      obtain ⟨other, hother, hotherIndex⟩ := SymbolSpace.mem_indexes.1 hindexes
      obtain ⟨hotherPath, hcollected⟩ := SymbolSpace.of_index hotherIndex
      rw [hcollected, eq_of_path hmade hunit hother (hotherPath.symm.trans hpath)]

/-- A file that could be read has the model that it was read with. -/
theorem model?_of_index : corpus.model? unit.path =
    some { space := corpus.space, unit, scopes := Scope.collect unit.file.root } := by
  rw [model?, file?_of_mem hmade hunit, scopes_of_index hmade hunit hindex]
  rfl

theorem mem_referencingFiles_iff {decl : TypeDecl} :
    unit.path ∈ corpus.referencingFiles decl ↔ decl.qualifiedName ∈ found.referenced := by
  constructor
  · intro hpath
    obtain ⟨other, hother, index, hotherIndex, hsame, href⟩ := hmade.exists_index hpath
    cases eq_of_path hmade hunit hother hsame
    cases hindex.symm.trans hotherIndex
    exact href
  · intro href
    rw [hmade.eq_ofSpace, ofSpace, referencingFiles_ofIndexes]
    have hpair : (decl.qualifiedName, unit.path) ∈ corpus.space.indexes.flatMap
        fun i => i.referenced.map fun q => (q, i.path) := by
      refine List.mem_flatMap.2 ⟨found, SymbolSpace.mem_indexes.2 ⟨unit, hunit, hindex⟩, ?_⟩
      rw [← (SymbolSpace.of_index hindex).1]
      exact List.mem_map_of_mem href
    exact List.mem_map.2 ⟨_, List.mem_filter.2 ⟨hpair, by simp⟩, rfl⟩

/-- A file counts as referring to a type exactly when one of its identifiers refers to it. -/
theorem mem_referencingFiles_iff_refersTo {decl : TypeDecl} (hdecl : decl ∈ corpus.space.types) :
    unit.path ∈ corpus.referencingFiles decl ↔ ∃ name,
      Model.RefersTo { space := corpus.space, unit, scopes := Scope.collect unit.file.root }
        name decl := by
  rw [mem_referencingFiles_iff hmade hunit hindex]
  obtain ⟨referenced, hreferenced, hfound⟩ := Fallible.bind_eq_ok.1 hindex
  cases hfound
  obtain ⟨types, htypes, hnames⟩ := Fallible.bind_eq_ok.1 hreferenced
  cases hnames
  rw [List.mem_eraseDups, List.mem_filterMap]
  constructor
  · rintro ⟨type?, htype, hname⟩
    obtain ⟨type, rfl, hsame⟩ := Option.map_eq_some_iff.1 hname
    obtain ⟨name, hkept, hread⟩ := (Fallible.mem_of_mapM htypes).1 htype
    obtain ⟨hplace, hnamed⟩ := List.mem_filter.1 hkept
    -- The index holds names; types with the same qualified name are the same.
    cases (SymbolSpace.built_of_build hmade.indexed.1).eq_of_qualifiedName_eq
      (Model.mem_types_of_typeReference hread) hdecl hsame
    exact ⟨name, hplace, by simpa using hnamed, hread⟩
  · rintro ⟨name, hplace, hnamed, hread⟩
    refine ⟨some decl, (Fallible.mem_of_mapM htypes).2 ⟨name, ?_, hread⟩, rfl⟩
    exact List.mem_filter.2 ⟨hplace, by simpa using hnamed⟩

/-- The index of references and the typing of names in a file that could be read. A file refers to
a type exactly when one of its identifiers does. In front of a dot, the plain name of a type is such
an identifier, so a file that uses a type of others by its plain name makes it shared; but the last
part of a nested or qualified name is none, so with such a name alone, though it is typed as the
type, the file does not count. -/
theorem static_use_referenced : ∃ model, corpus.model? unit.path = some model ∧
    (∀ decl ∈ corpus.space.types, unit.path ∈ corpus.referencingFiles decl ↔
      ∃ name, model.RefersTo name decl) ∧
    ∀ access ∈ unit.file.root.descendants ["member_access_expression"], ∀ receiver decl,
      access.child? "expression" = some receiver → model.Denotes receiver decl →
        model.typeOf receiver = .ok (some decl.ref) ∧
        (receiver.kind = "identifier" → receiver.text = decl.name →
          Node.isSame (access.child? "name") receiver = false →
            unit.path ∈ corpus.referencingFiles decl ∧
              (unit.path ∉ decl.declaringFiles → corpus.isShared decl = true)) ∧
        (receiver.kind = "member_access_expression" →
          (unit.path ∈ corpus.referencingFiles decl ↔
            ∃ name, receiver.child? "name" ≠ some name ∧ model.RefersTo name decl)) := by
  refine ⟨_, model?_of_index hmade hunit hindex,
    fun decl hdecl => mem_referencingFiles_iff_refersTo hmade hunit hindex hdecl, ?_⟩
  intro access haccess receiver decl hreceiver hdenotes
  have hcounts := mem_referencingFiles_iff_refersTo hmade hunit hindex hdenotes.mem_types
  refine ⟨hdenotes.typeOf_eq, fun hkind hname hbefore => ?_, fun hkind => ?_⟩
  · have hrefers := Model.refersTo_receiver haccess hreceiver hbefore hkind hname hdenotes
    have hpath := hcounts.2 ⟨receiver, hrefers⟩
    exact ⟨hpath, fun haway => List.any_eq_true.2 ⟨unit.path, hpath, by simpa using haway⟩⟩
  · rw [hcounts]
    refine exists_congr fun name => ⟨fun hrefers => ⟨?_, hrefers⟩, fun hrefers => hrefers.2⟩
    exact fun hlast => Model.not_refersTo_member hkind hlast hrefers

end Indexed

section Market

/-- A buyer that uses an item of the store by its plain name, and a seller that uses it by its
qualified name. -/
def market : List SourceFile :=
  [Sketch.file "Buyer.cs"
      [Sketch.usingOf "Store",
        Sketch.classDecl [] "Buyer" []
          [Sketch.methodDecl [] "Buy"
            [Sketch.call (Sketch.group "member_access_expression" "function"
              [Sketch.wordAt 0 "identifier" "Item" "expression",
                Sketch.wordAt 5 "identifier" "Make" "name"])]]],
    Sketch.file "Seller.cs"
      [Sketch.classDecl [] "Seller" []
        [Sketch.methodDecl [] "Sell"
          [Sketch.call (Sketch.group "member_access_expression" "function"
            [.node { (default : NodeInfo) with
                kind := "member_access_expression", field := some "expression"
                text := "Store.Item", stop := 10, named := true }
              [Sketch.wordAt 0 "identifier" "Store" "expression",
                Sketch.wordAt 6 "identifier" "Item" "name"],
              Sketch.wordAt 11 "identifier" "Make" "name"])]]],
    Sketch.file "Store.cs"
      [Sketch.namespaceDecl "Store"
        [Sketch.classDecl [] "Item" [] [Sketch.methodDecl ["static"] "Make" []]]]]

def marketSpace : SymbolSpace :=
  .inOrder (Sketch.outlined market)

def marketUnit (place : Nat) : OutlinedFile :=
  ((Sketch.outlined market)[place]?).getD (.ofFile (Sketch.file "" []) "")

def marketModel (place : Nat) : Model :=
  { space := marketSpace, unit := marketUnit place
    scopes := Scope.collect (marketUnit place).file.root }

def itemAccess (place : Nat) : Node :=
  (((marketUnit place).file.root.descendants ["member_access_expression"]).head?).getD default

def itemName (place : Nat) : Node :=
  ((itemAccess place).child? "expression").getD default

def item : TypeDecl :=
  (marketSpace.types.find? "Store.Item").getD default

theorem flat_market : marketSpace.bases.Flat := by
  decide

theorem denotes_buyer : (marketModel 0).Denotes (itemName 0) item := by
  refine .simple (by decide) (by decide) ?_ ?_
  · rw [Model.surroundingField_of_flat flat_market]
    decide
  · rw [Model.lookup_of_flat flat_market (by decide) (by decide)]
    decide

/-- Nothing is called like the namespace, so the name of the item is found as a whole. -/
theorem denotes_seller : (marketModel 1).Denotes (itemName 1) item := by
  refine .qualified (by decide) ?_ (by decide)
  refine Model.memberWithin_of_untyped (by decide) ?_
  rw [← Option.some_get (show ((itemName 1).child? "expression").isSome = true by decide)]
  refine @Model.typeWithin_name (marketModel 1) _ _ none (by decide) (by decide)
    ?_ ?_
  · rw [Model.surroundingField_of_flat flat_market]
    decide
  · rw [Model.lookup_of_flat flat_market (by decide) (by decide)]
    decide

theorem not_refersTo_seller (name : Node) : ¬ (marketModel 1).RefersTo name item := by
  rintro ⟨hplace, hnamed, href⟩
  -- The only identifiers with the name of a type are the item's, after the dot, and those that
  -- declare the seller.
  have hnone : ((marketModel 1).unit.file.root.descendants ["identifier"]).all fun name =>
      (marketSpace.types.named name.text).isEmpty ||
        decide ((marketModel 1).typeReference name ≠ .ok (some item)) := by
    decide
  simp only [List.all_eq_true, Bool.or_eq_true, List.isEmpty_iff, decide_eq_true_eq] at hnone
  exact (hnone name hplace).elim hnamed fun hother => hother href

theorem madeOf_market : MadeOf {} (Sketch.outlined market) (ofSpace marketSpace) :=
  .of_build (SymbolSpace.build_inOrder (by decide) (by decide) (by decide))

theorem itemAccess_mem {place : Nat}
    (hsome : ((marketUnit place).file.root.descendants
      ["member_access_expression"]).head?.isSome = true) :
    itemAccess place ∈ (marketUnit place).file.root.descendants ["member_access_expression"] :=
  List.mem_of_mem_head?
    ((Option.eq_some_of_isSome hsome).trans (congrArg some (Option.get_eq_getD _)))

theorem child?_itemAccess {place : Nat}
    (hsome : ((itemAccess place).child? "expression").isSome = true) :
    (itemAccess place).child? "expression" = some (itemName place) :=
  (Option.eq_some_of_isSome hsome).trans (congrArg some (Option.get_eq_getD _))

/-- The buyer makes the item shared; the seller does not count, although the name is typed. -/
theorem static_use_referenced_market :
    "Buyer.cs" ∈ (ofSpace marketSpace).referencingFiles item ∧
      (ofSpace marketSpace).isShared item = true ∧
      (marketModel 1).typeOf (itemName 1) = .ok (some item.ref) ∧
      "Seller.cs" ∉ (ofSpace marketSpace).referencingFiles item := by
  have hbuyer : marketUnit 0 ∈ (ofSpace marketSpace).space.files := .head _
  have hseller : marketUnit 1 ∈ (ofSpace marketSpace).space.files := .tail _ (.head _)
  obtain ⟨bought, hbought⟩ := marketSpace.exists_index
    (Imports.aliasesEnd_of_none (show (marketUnit 0).outline.imports.aliases = [] by
      decide))
  obtain ⟨sold, hsold⟩ := marketSpace.exists_index
    (Imports.aliasesEnd_of_none (show (marketUnit 1).outline.imports.aliases = [] by
      decide))
  obtain ⟨buyer, hmodel, -, huses⟩ := static_use_referenced madeOf_market hbuyer hbought
  cases hmodel.symm.trans (model?_of_index madeOf_market hbuyer hbought)
  obtain ⟨-, hplain, -⟩ := huses (itemAccess 0) (itemAccess_mem (by decide)) (itemName 0)
    item (child?_itemAccess (by decide)) denotes_buyer
  obtain ⟨hreferenced, hshared⟩ :=
    hplain (by decide) (by decide) (by decide)
  obtain ⟨seller, hmodel, -, huses⟩ := static_use_referenced madeOf_market hseller hsold
  cases hmodel.symm.trans (model?_of_index madeOf_market hseller hsold)
  obtain ⟨htyped, -, hqualified⟩ := huses (itemAccess 1) (itemAccess_mem (by decide))
    (itemName 1) item (child?_itemAccess (by decide)) denotes_seller
  refine ⟨hreferenced, hshared (by decide), htyped, fun hpath => ?_⟩
  obtain ⟨name, -, hrefers⟩ := (hqualified (by decide)).1 hpath
  exact not_refersTo_seller name hrefers

end Market

end Corpus
end SandboxLint
