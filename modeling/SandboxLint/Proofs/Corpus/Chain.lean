import SandboxLint.Proofs.Corpus.Agreement

/-!
The chain of a type: the type first, and then what it reaches through base lists. What a
type declares itself is found before anything that its bases declare, and a type without
bases has nothing but what it declares itself.
-/

namespace SandboxLint
namespace BaseTable

variable {bases : BaseTable} {decl owner : TypeDecl} {name : String}

/-- What holds of the pending types and passes on to bases holds of all types of a chain. -/
theorem forall_mem_chainFrom {p : TypeDecl → Prop}
    (hbases : ∀ decl more, p decl → bases.get? decl.qualifiedName = some more →
      ∀ base ∈ more, p base)
    (seen : List String) (pending : List TypeDecl) (hpending : ∀ decl ∈ pending, p decl) :
    ∀ decl ∈ bases.chainFrom seen pending, p decl := by
  induction seen, pending using BaseTable.chainFrom.induct bases with
  | case1 seen => simp [chainFrom]
  | case2 seen decl rest hseen ih =>
      rw [chainFrom_seen rest hseen]
      exact ih (List.forall_mem_cons.1 hpending).2
  | case3 seen decl rest hseen hnone ih =>
      obtain ⟨hdecl, hrest⟩ := List.forall_mem_cons.1 hpending
      rw [chainFrom, dif_neg hseen]
      split
      · exact List.forall_mem_cons.2 ⟨hdecl, ih hrest⟩
      · next more hmore => cases hnone.symm.trans hmore
  | case4 seen decl rest hseen more hmore ih =>
      obtain ⟨hdecl, hrest⟩ := List.forall_mem_cons.1 hpending
      rw [chainFrom_new rest hseen hmore]
      exact List.forall_mem_cons.2
        ⟨hdecl, ih (List.forall_mem_append.2 ⟨hrest, hbases decl more hdecl hmore⟩)⟩

theorem exists_chain_eq (bases : BaseTable) (decl : TypeDecl) :
    ∃ more, (more = [] ∨ bases.get? decl.qualifiedName = some more) ∧
      bases.chain decl = decl :: bases.chainFrom [decl.qualifiedName] more := by
  rw [chain, chainFrom, dif_neg (by simp)]
  split
  · exact ⟨[], .inl rfl, rfl⟩
  · next more hmore => exact ⟨more, .inr hmore, rfl⟩

/-- What is found first in a list of types cuts the list where it is declared. -/
theorem findSome?_owner_iff {α : Type} {types : List TypeDecl} {declared : TypeDecl → Option α}
    {owner : TypeDecl} {value : α} :
    (types.findSome? fun decl => (declared decl).map (decl, ·)) = some (owner, value) ↔
      ∃ front back, types = front ++ owner :: back ∧ declared owner = some value ∧
        ∀ nearer ∈ front, declared nearer = none := by
  rw [List.findSome?_eq_some_iff]
  constructor
  · rintro ⟨front, found, back, htypes, hvalue, hfront⟩
    obtain ⟨_, hdeclared, hpair⟩ := Option.map_eq_some_iff.1 hvalue
    cases hpair
    exact ⟨front, back, htypes, hdeclared,
      fun nearer h => Option.map_eq_none_iff.1 (hfront nearer h)⟩
  · rintro ⟨front, back, htypes, hdeclared, hfront⟩
    exact ⟨front, owner, back, htypes, by rw [hdeclared, Option.map_some],
      fun nearer h => Option.map_eq_none_iff.2 (hfront nearer h)⟩

theorem mem_chain_of_findField {field : FieldDecl}
    (h : bases.findField decl name = some (owner, field)) : owner ∈ bases.chain decl := by
  obtain ⟨front, back, hchain, -, -⟩ := findSome?_owner_iff.1 h
  rw [hchain]
  exact List.mem_append_right front List.mem_cons_self

theorem mem_chain_of_findMethods {methods : List MethodDecl}
    (h : bases.findMethods decl name = some (owner, methods)) :
    owner ∈ bases.chain decl ∧ owner.methods.get? name = some methods := by
  obtain ⟨front, back, hchain, hmethods, -⟩ := findSome?_owner_iff.1 h
  rw [hchain]
  exact ⟨List.mem_append_right front List.mem_cons_self, hmethods⟩

/-- The methods that a type declares itself are found first. -/
theorem findMethods_own {methods : List MethodDecl} (h : decl.methods.get? name = some methods) :
    bases.findMethods decl name = some (decl, methods) := by
  obtain ⟨more, -, hchain⟩ := bases.exists_chain_eq decl
  rw [findMethods, hchain, List.findSome?_cons, h]
  rfl

/-- No type has a base in the corpus. -/
def Flat (bases : BaseTable) : Prop :=
  ∀ pair ∈ bases, pair.2 = []

instance (bases : BaseTable) : Decidable bases.Flat :=
  List.decidableBAll _ bases

theorem Flat.chain_eq (h : bases.Flat) (decl : TypeDecl) : bases.chain decl = [decl] := by
  obtain ⟨more, hmore, hchain⟩ := bases.exists_chain_eq decl
  have hnone : more = [] := hmore.elim id fun hget => h _ (Assoc.mem_of_get? hget)
  rw [hchain, hnone, chainFrom]

theorem Flat.basesOf_eq (h : bases.Flat) (decl : TypeDecl) : bases.basesOf decl = [] := by
  rw [basesOf]
  cases hget : bases.get? decl.qualifiedName with
  | none => rfl
  | some more => exact h _ (Assoc.mem_of_get? hget)

theorem Flat.findField_eq (h : bases.Flat) (decl : TypeDecl) (name : String) :
    bases.findField decl name = (decl.fields.get? name).map (decl, ·) := by
  rw [findField, h.chain_eq, List.findSome?_singleton]

theorem Flat.findMethods_eq (h : bases.Flat) (decl : TypeDecl) (name : String) :
    bases.findMethods decl name = (decl.methods.get? name).map (decl, ·) := by
  rw [findMethods, h.chain_eq, List.findSome?_singleton]

theorem Flat.resolveNested_eq (h : bases.Flat) (table : TypeTable) (enclosing : List String)
    (name : String) :
    table.resolveNested bases enclosing name =
      enclosing.findSome? fun outer => (table.find? outer).bind (table.nestedType · name) := by
  simp only [TypeTable.resolveNested, h.chain_eq, List.findSome?_singleton]

end BaseTable

/-- What a plain name means where no type has bases. -/
def TypeTable.flatMeaning (table : TypeTable) (site : Site) (name : String) : Option TypeDecl :=
  if (table.named name).isEmpty then none
  else
    match site.enclosing.findSome? fun outer =>
      (table.find? outer).bind (table.nestedType · name) with
    | some nested => if nested.ambiguous then none else some nested
    | none => resolveVisible site (table.named name)

namespace Model

variable {model : Model} {node : Node} {decl : TypeDecl}

theorem lookup_of_flat (hflat : model.space.bases.Flat)
    (haliases : model.unit.outline.imports.aliases = []) {name : String}
    (hexplicit : name ≠ "var") :
    model.lookup (some { name }) node =
      .ok (model.space.types.flatMeaning (model.site node) name) := by
  have hplain : (model.site node).imports.aliasTarget? { name } = none := by
    simp [site, Imports.aliasTarget?, haliases, Assoc.get?]
  have himplicit : TypeRef.isImplicit { name } = false := by simp [TypeRef.isImplicit, hexplicit]
  simp only [lookup, himplicit, SymbolSpace.resolveRef, TypeTable.resolveRef, hplain]
  rw [if_neg Bool.false_ne_true, TypeTable.resolvePlain_of_plain rfl, TypeTable.plainMeaning,
    hflat.resolveNested_eq]
  rfl

theorem surroundingField_of_flat (hflat : model.space.bases.Flat) (name : String) :
    model.surroundingField node name = (model.enclosingNames node).findSome? fun qualified =>
      (model.space.types.find? qualified).bind fun decl =>
        (decl.fields.get? name).map (decl, ·) := by
  simp only [surroundingField, hflat.findField_eq]

end Model
end SandboxLint
