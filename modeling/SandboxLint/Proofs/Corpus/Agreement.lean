import SandboxLint.Proofs.Corpus.Reach

/-!
Symbol spaces that agree on near names. A reference with a near name, written where all
that names can mean is near, has the same meaning in both of them, and the meaning is
again near: resolution never leaves what the two have in common.
-/

namespace SandboxLint

theorem findSome?_congr {α β : Type} {xs : List α} {f g : α → Option β}
    (h : ∀ x ∈ xs, f x = g x) : xs.findSome? f = xs.findSome? g := by
  induction xs with
  | nil => rfl
  | cons x rest ih =>
      obtain ⟨hx, hrest⟩ := List.forall_mem_cons.1 h
      rw [List.findSome?_cons, List.findSome?_cons, hx, ih hrest]

variable {near : String → Prop}

namespace TypeTable

/-- A type of a table whose name is near. -/
def Own (near : String → Prop) (table : TypeTable) (decl : TypeDecl) : Prop :=
  decl ∈ table ∧ near decl.name

/-- A qualified name that two tables know as the same type, with a near name. -/
def Common (near : String → Prop) (a b : TypeTable) (qualified : String) : Prop :=
  ∃ decl, a.Own near decl ∧ a.find? qualified = some decl ∧ b.find? qualified = some decl

/-- Tables that know the same under near names. -/
structure Agree (near : String → Prop) (a b : TypeTable) : Prop where
  closed : PartClosed near
  wellNamed : ∀ decl ∈ a, decl.WellNamed
  named : ∀ name, near name → b.named name = a.named name
  nested : ∀ outer name, near name →
    b.find? (outer ++ "." ++ name) = a.find? (outer ++ "." ++ name)
  known : ∀ decl, a.Own near decl →
    a.find? decl.qualifiedName = some decl ∧ b.find? decl.qualifiedName = some decl
  outer : ∀ decl, a.Own near decl → ∀ outer, decl.outerType = some outer → Common near a b outer

end TypeTable

/-- A site where aliases and surrounding types are near. -/
structure Site.Near (near : String → Prop) (a b : TypeTable) (site : Site) : Prop where
  imports : site.imports.AllNear near
  enclosing : ∀ outer ∈ site.enclosing, TypeTable.Common near a b outer

namespace BaseTable

/-- Base graphs that have the same bases for the types of a table with near names, such types
again. -/
def Agree (near : String → Prop) (table : TypeTable) (a b : BaseTable) : Prop :=
  ∀ decl, table.Own near decl → ∃ more, a.get? decl.qualifiedName = some more ∧
    b.get? decl.qualifiedName = some more ∧ ∀ base ∈ more, table.Own near base

theorem chainFrom_seen {bases : BaseTable} {seen : List String} {decl : TypeDecl}
    (rest : List TypeDecl) (hseen : seen.contains decl.qualifiedName = true) :
    bases.chainFrom seen (decl :: rest) = bases.chainFrom seen rest := by
  rw [chainFrom, dif_pos hseen]

theorem chainFrom_new {bases : BaseTable} {seen : List String} {decl : TypeDecl}
    (rest : List TypeDecl) {more : List TypeDecl}
    (hseen : ¬ seen.contains decl.qualifiedName = true)
    (hmore : bases.get? decl.qualifiedName = some more) :
    bases.chainFrom seen (decl :: rest) =
      decl :: bases.chainFrom (decl.qualifiedName :: seen) (rest ++ more) := by
  rw [chainFrom, dif_neg hseen]
  split
  · next hnone =>
      rw [hmore] at hnone
      cases hnone
  · next found hfound =>
      cases hmore.symm.trans hfound
      rfl

namespace Agree

variable {table : TypeTable} {a b : BaseTable}

theorem basesOf_eq (h : Agree near table a b) {decl : TypeDecl} (hdecl : table.Own near decl) :
    b.basesOf decl = a.basesOf decl := by
  obtain ⟨more, ha, hb, -⟩ := h decl hdecl
  rw [basesOf, basesOf, ha, hb]

theorem own_of_mem_basesOf (h : Agree near table a b) {decl base : TypeDecl}
    (hdecl : table.Own near decl) (hbase : base ∈ a.basesOf decl) : table.Own near base := by
  obtain ⟨more, ha, -, hmore⟩ := h decl hdecl
  rw [basesOf, ha] at hbase
  exact hmore base hbase

theorem chainFrom (h : Agree near table a b) (seen : List String) (pending : List TypeDecl)
    (hpending : ∀ decl ∈ pending, table.Own near decl) :
    b.chainFrom seen pending = a.chainFrom seen pending ∧
      ∀ decl ∈ a.chainFrom seen pending, table.Own near decl := by
  induction seen, pending using BaseTable.chainFrom.induct a with
  | case1 seen => simp [BaseTable.chainFrom]
  | case2 seen decl rest hseen ih =>
      rw [chainFrom_seen rest hseen, chainFrom_seen rest hseen]
      exact ih (List.forall_mem_cons.1 hpending).2
  | case3 seen decl rest hseen hnone ih =>
      obtain ⟨more, hmore, -⟩ := h decl (hpending decl List.mem_cons_self)
      rw [hmore] at hnone
      cases hnone
  | case4 seen decl rest hseen more hmore ih =>
      obtain ⟨hdecl, hrest⟩ := List.forall_mem_cons.1 hpending
      obtain ⟨found, ha, hb, hfound⟩ := h decl hdecl
      cases ha.symm.trans hmore
      obtain ⟨heq, hown⟩ := ih (List.forall_mem_append.2 ⟨hrest, hfound⟩)
      rw [chainFrom_new rest hseen ha, chainFrom_new rest hseen hb, heq]
      exact ⟨rfl, List.forall_mem_cons.2 ⟨hdecl, hown⟩⟩

theorem chain_eq (h : Agree near table a b) {decl : TypeDecl} (hdecl : table.Own near decl) :
    b.chain decl = a.chain decl :=
  (h.chainFrom [] [decl] (by simpa using hdecl)).1

theorem own_of_mem_chain (h : Agree near table a b) {decl owner : TypeDecl}
    (hdecl : table.Own near decl) (howner : owner ∈ a.chain decl) : table.Own near owner :=
  (h.chainFrom [] [decl] (by simpa using hdecl)).2 owner howner

theorem findField_eq (h : Agree near table a b) {decl : TypeDecl} (hdecl : table.Own near decl)
    (name : String) : b.findField decl name = a.findField decl name := by
  rw [findField, findField, h.chain_eq hdecl]

theorem findMethods_eq (h : Agree near table a b) {decl : TypeDecl} (hdecl : table.Own near decl)
    (name : String) : b.findMethods decl name = a.findMethods decl name := by
  rw [findMethods, findMethods, h.chain_eq hdecl]

end Agree

def AgreeIfAny (near : String → Prop) (table : TypeTable) :
    Option BaseTable → Option BaseTable → Prop
  | none, none => True
  | some a, some b => Agree near table a b
  | _, _ => False

theorem Agree.ifAny {table : TypeTable} {a b : BaseTable} (h : Agree near table a b) :
    AgreeIfAny near table (some a) (some b) :=
  h

end BaseTable

namespace TypeTable

variable {a b : TypeTable}

theorem Agree.outerNamesFrom (h : Agree near a b) (fuel : Nat) {outer? : Option String}
    (houter : ∀ outer, outer? = some outer → Common near a b outer) :
    b.outerNamesFrom fuel outer? = a.outerNamesFrom fuel outer? ∧
      ∀ outer ∈ a.outerNamesFrom fuel outer?, Common near a b outer := by
  induction fuel generalizing outer? with
  | zero => cases outer? <;> simp [TypeTable.outerNamesFrom]
  | succ fuel ih =>
      cases outer? with
      | none => simp [TypeTable.outerNamesFrom]
      | some outer =>
          obtain ⟨decl, hdecl, ha, hb⟩ := houter outer rfl
          obtain ⟨heq, hcommon⟩ := ih (h.outer decl hdecl)
          simp only [TypeTable.outerNamesFrom, ha, hb, Option.bind_some, heq]
          exact ⟨trivial, List.forall_mem_cons.2 ⟨houter outer rfl, hcommon⟩⟩

theorem Agree.outerNames_eq (h : Agree near a b) {decl : TypeDecl} (hdecl : a.Own near decl) :
    b.outerNames decl = a.outerNames decl :=
  (h.outerNamesFrom _ (h.outer decl hdecl)).1

theorem Agree.common_of_mem_outerNames (h : Agree near a b) {decl : TypeDecl}
    (hdecl : a.Own near decl) {outer : String} (houter : outer ∈ a.outerNames decl) :
    Common near a b outer :=
  (h.outerNamesFrom _ (h.outer decl hdecl)).2 outer houter

theorem Agree.own_of_nestedType (h : Agree near a b) {owner decl : TypeDecl} {name : String}
    (hname : near name) (hfound : a.nestedType owner name = some decl) : a.Own near decl := by
  have hmem : decl ∈ a := List.mem_of_find?_eq_some hfound
  have hsuffix := name_of_nestedType (h.wellNamed decl hmem) hfound
  exact ⟨hmem, h.closed _ _ hsuffix.isInfix hname⟩

section Resolve

variable {basesA? basesB? : Option BaseTable} {site : Site}

theorem Agree.resolveNested_eq (h : Agree near a b) {basesA basesB : BaseTable}
    (hbases : BaseTable.Agree near a basesA basesB) (hsite : site.Near near a b) {name : String}
    (hname : near name) :
    b.resolveNested basesB site.enclosing name = a.resolveNested basesA site.enclosing name := by
  refine findSome?_congr fun outer houter => ?_
  obtain ⟨decl, hdecl, ha, hb⟩ := hsite.enclosing outer houter
  simp only [ha, hb, Option.bind_some, hbases.chain_eq hdecl]
  exact findSome?_congr fun owner _ => h.nested owner.qualifiedName name hname

/-- A near name means the same in both tables. -/
theorem Agree.resolvePlain_eq (h : Agree near a b)
    (hbases : BaseTable.AgreeIfAny near a basesA? basesB?) (hsite : site.Near near a b)
    {ref : TypeRef} (href : near ref.name) :
    b.resolvePlain basesB? site ref = a.resolvePlain basesA? site ref := by
  simp only [resolvePlain, h.named ref.name href]
  cases basesA? with
  | none =>
      cases basesB? with
      | some basesB => exact hbases.elim
      | none =>
          have hpending : (site.enclosing.any fun outer => (b.find? outer).isSome) =
              site.enclosing.any fun outer => (a.find? outer).isSome := by
            rw [Bool.eq_iff_iff, List.any_eq_true, List.any_eq_true]
            refine exists_congr fun outer => and_congr_right fun houter => ?_
            obtain ⟨decl, -, ha, hb⟩ := hsite.enclosing outer houter
            rw [ha, hb]
          rw [hpending]
  | some basesA =>
      cases basesB? with
      | none => exact hbases.elim
      | some basesB => simp only [h.resolveNested_eq hbases hsite href]

theorem Agree.resolveRef_eq (h : Agree near a b)
    (hbases : BaseTable.AgreeIfAny near a basesA? basesB?) (hsite : site.Near near a b)
    {ref : TypeRef} (href : near ref.name) :
    b.resolveRef basesB? site ref = a.resolveRef basesA? site ref := by
  simp only [resolveRef]
  split
  · exact h.resolvePlain_eq hbases hsite href
  · cases hfollow : site.imports.followAliases site.imports.aliases.length ref with
    | error fault => rfl
    | ok target? =>
        cases target? with
        | none => rfl
        | some target =>
            have htop : Site.Near near a b { imports := site.imports } :=
              ⟨hsite.imports, by simp⟩
            exact h.resolvePlain_eq hbases htop (hsite.imports.followAliases h.closed href hfollow)

theorem Agree.own_of_resolveRef (h : Agree near a b) (hsite : site.Near near a b) {ref : TypeRef}
    (href : near ref.name) {decl : TypeDecl}
    (hfound : a.resolveRef basesA? site ref = .ok (some decl)) : a.Own near decl := by
  have hmem := (outcome_of_resolveRef hfound).1
  exact ⟨hmem, near_of_resolveRef h.closed (h.wellNamed decl hmem) hsite.imports href hfound⟩

theorem Agree.resolveText_eq (h : Agree near a b)
    (hbases : BaseTable.AgreeIfAny near a basesA? basesB?) (hsite : site.Near near a b)
    {text : String} (htext : near text) :
    b.resolveText basesB? site text = a.resolveText basesA? site text := by
  simp only [resolveText]
  split
  · rfl
  · next ref hparse => exact h.resolveRef_eq hbases hsite (h.closed.of_parse htext hparse)

theorem Agree.own_of_resolveText (h : Agree near a b) (hsite : site.Near near a b) {text : String}
    (htext : near text) {decl : TypeDecl}
    (hfound : a.resolveText basesA? site text = .ok (some decl)) : a.Own near decl := by
  have hmem := (outcome_of_resolveText hfound).1
  exact ⟨hmem, near_of_resolveText h.closed (h.wellNamed decl hmem) hsite.imports htext hfound⟩

end Resolve

end TypeTable
end SandboxLint
