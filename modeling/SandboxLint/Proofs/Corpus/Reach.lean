import SandboxLint.Corpus.Model
import SandboxLint.Proofs.Corpus.Alias
import SandboxLint.Proofs.Corpus.Declared
import SandboxLint.Proofs.Syntax.Places
import SandboxLint.Proofs.TypeRef

/-!
What references can reach. A type is found by its simple name, also as a nested type,
and names are cut out of what is written, so a file whose text does not have the
name of a type cannot refer to it by any route: plain, qualified, nested or through
aliases.
-/

namespace SandboxLint

/-- A property of texts that their parts inherit. -/
def PartClosed (near : String → Prop) : Prop :=
  ∀ part whole : String, part.toList <:+: whole.toList → near whole → near part

/-- The texts that stand in one of several others. -/
def OccursIn (texts : List String) (part : String) : Prop :=
  ∃ text ∈ texts, part.toList <:+: text.toList

theorem partClosed_occursIn (texts : List String) : PartClosed (OccursIn texts) := by
  rintro part whole hpart ⟨text, htext, hwhole⟩
  exact ⟨text, htext, hpart.trans hwhole⟩

/-- A tree is made of its source: every place has its text from there. -/
def SourceFile.Grounded (file : SourceFile) : Prop :=
  ∀ place ∈ file.root.places, place.text.toList <:+: file.source.text.toList

/-- All texts below a place have a property. -/
def Node.AllNear (near : String → Prop) (root : Node) : Prop :=
  ∀ place ∈ root.places, near place.text

def Imports.AllNear (near : String → Prop) (imports : Imports) : Prop :=
  ∀ target ∈ Assoc.values imports.aliases, near target

variable {near : String → Prop}

theorem SourceFile.Grounded.allNear {file : SourceFile} (h : file.Grounded) {texts : List String}
    (htext : file.source.text ∈ texts) : file.root.AllNear (OccursIn texts) :=
  fun place hplace => ⟨_, htext, h place hplace⟩

namespace PartClosed

theorem of_writes (hclosed : PartClosed near) {root : Node} (hroot : root.AllNear near)
    {text : String} (h : root.Writes text) : near text := by
  obtain rfl | ⟨place, hplace, rfl⟩ := h
  · refine hclosed "" root.text ?_ (hroot root (Node.mem_places_self root))
    rw [String.toList_empty]
    exact List.nil_infix
  · exact hroot place hplace

theorem of_parse (hclosed : PartClosed near) {text : String} (htext : near text) {ref : TypeRef}
    (h : TypeRef.parse text = some ref) : near ref.name :=
  hclosed ref.name text (TypeRef.name_isInfix_of_parse h) htext

end PartClosed

namespace TypeDecl

/-- A type whose name has one part and ends its qualified name. -/
structure WellNamed (decl : TypeDecl) : Prop where
  undotted : '.' ∉ decl.name.toList
  ending : decl.qualifiedName = decl.name ∨
    ∃ around, decl.qualifiedName = around ++ "." ++ decl.name

/-- What stands behind a dot of a qualified name ends in the name. -/
theorem WellNamed.name_suffix {decl : TypeDecl} (h : decl.WellNamed) {outer name : String}
    (hname : decl.qualifiedName = outer ++ "." ++ name) : decl.name.toList <:+ name.toList := by
  have hbehind : '.' :: name.toList <:+ decl.qualifiedName.toList :=
    ⟨outer.toList, by simp [hname]⟩
  have hown : decl.name.toList <:+ decl.qualifiedName.toList := by
    obtain hbare | ⟨around, haround⟩ := h.ending
    · rw [hbare]
    · exact ⟨around.toList ++ ['.'], by simp [haround]⟩
  cases List.suffix_or_suffix_of_suffix hown hbehind with
  | inl hshort =>
      cases List.suffix_cons_iff.1 hshort with
      | inl hdotted => exact absurd (hdotted ▸ List.mem_cons_self) h.undotted
      | inr hsuffix => exact hsuffix
  | inr hlong => exact absurd (hlong.subset List.mem_cons_self) h.undotted

end TypeDecl

namespace Imports

/-- What following aliases ends in is the reference itself or what some target reads as. -/
theorem followAliases_eq_ok_some {imports : Imports} {fuel : Nat} {ref next : TypeRef}
    (h : imports.followAliases fuel ref = .ok (some next)) :
    next = ref ∨ ∃ target ∈ Assoc.values imports.aliases, TypeRef.parse target = some next := by
  induction fuel generalizing ref with
  | zero =>
      cases htarget : imports.aliasTarget? ref with
      | none =>
          rw [followAliases_of_no_alias 0 htarget] at h
          cases h
          exact .inl rfl
      | some target =>
          rw [followAliases_zero htarget] at h
          cases h
  | succ fuel ih =>
      cases htarget : imports.aliasTarget? ref with
      | none =>
          rw [followAliases_of_no_alias _ htarget] at h
          cases h
          exact .inl rfl
      | some target =>
          cases hparse : TypeRef.parse target with
          | none =>
              rw [followAliases_succ_unread fuel htarget hparse] at h
              cases h
          | some first =>
              rw [followAliases_succ_hop fuel ⟨target, htarget, hparse⟩] at h
              -- The first hop ends the search, or a later one does and its target is the answer.
              refine .inr ((ih h).elim ?_ id)
              rintro rfl
              have hqualifier := qualifier_of_alias (Option.isSome_of_eq_some htarget)
              have hget : imports.aliases.get? ref.name = some target := by
                simpa [aliasTarget?, hqualifier] using htarget
              exact ⟨target, List.mem_map.2 ⟨_, Assoc.mem_of_get? hget, rfl⟩, hparse⟩

theorem AllNear.followAliases {imports : Imports} (himports : imports.AllNear near)
    (hclosed : PartClosed near) {fuel : Nat} {ref next : TypeRef} (href : near ref.name)
    (h : imports.followAliases fuel ref = .ok (some next)) : near next.name := by
  obtain rfl | ⟨target, htarget, hparse⟩ := followAliases_eq_ok_some h
  · exact href
  · exact hclosed.of_parse (himports target htarget) hparse

end Imports

namespace TypeTable

variable {table : TypeTable}

theorem name_of_resolveQualified {site : Site} {name full : String} {decl : TypeDecl}
    (h : resolveQualified site (table.named name) full = some decl) : decl.name = name :=
  (mem_named.1 (mem_of_resolveQualified h).1).2

theorem name_of_resolveVisible {site : Site} {name : String} {decl : TypeDecl}
    (h : resolveVisible site (table.named name) = some decl) : decl.name = name :=
  (mem_named.1 (mem_of_resolveVisible h).1).2

theorem name_of_nestedType {owner decl : TypeDecl} (hnamed : decl.WellNamed) {name : String}
    (h : table.nestedType owner name = some decl) :
    decl.name.toList <:+ name.toList := by
  have hname : decl.qualifiedName = owner.qualifiedName ++ "." ++ name := by
    simpa using List.find?_some h
  exact hnamed.name_suffix hname

theorem name_of_resolveNested {decl : TypeDecl} (hnamed : decl.WellNamed) {bases : BaseTable}
    {enclosing : List String} {name : String}
    (h : table.resolveNested bases enclosing name = some decl) :
    decl.name.toList <:+ name.toList := by
  obtain ⟨outer, -, hfound⟩ := List.exists_of_findSome?_eq_some h
  obtain ⟨around, -, hchain⟩ := Option.bind_eq_some_iff.1 hfound
  obtain ⟨owner, -, hnested⟩ := List.exists_of_findSome?_eq_some hchain
  exact name_of_nestedType hnamed hnested

/-- What a reference that is no alias resolves to has its name in the reference. -/
theorem name_of_resolvePlain {decl : TypeDecl} (hnamed : decl.WellNamed)
    {bases? : Option BaseTable} {site : Site} {ref : TypeRef}
    (h : table.resolvePlain bases? site ref = .ok (some decl)) :
    decl.name.toList <:+: ref.name.toList := by
  by_cases hplain : site.imports.expandQualifier ref.qualifier = ""
  · cases bases? with
    | none =>
        have hvisible := (eq_resolveVisible_of_pending hplain h).symm
        rw [name_of_resolveVisible hvisible]
    | some bases =>
        rw [resolvePlain_of_plain hplain, Except.ok.injEq, plainMeaning] at h
        split at h
        · cases h
        · split at h
          · next nested hnested =>
              split at h
              · cases h
              · cases h
                exact (name_of_resolveNested hnamed hnested).isInfix
          · rw [name_of_resolveVisible h]
  · rw [resolvePlain_of_qualified bases? hplain, Except.ok.injEq] at h
    rw [name_of_resolveQualified h]

/-- Near names and near aliases resolve to types with near names. -/
theorem near_of_resolveRef (hclosed : PartClosed near) {decl : TypeDecl} (hnamed : decl.WellNamed)
    {bases? : Option BaseTable} {site : Site} {ref : TypeRef}
    (himports : site.imports.AllNear near) (href : near ref.name)
    (h : table.resolveRef bases? site ref = .ok (some decl)) : near decl.name := by
  simp only [resolveRef] at h
  split at h
  · exact hclosed _ _ (name_of_resolvePlain hnamed h) href
  · split at h
    · cases h
    · cases h
    · next target hfollow =>
        have htarget := himports.followAliases hclosed href hfollow
        exact hclosed _ _ (name_of_resolvePlain hnamed h) htarget

theorem near_of_resolveText (hclosed : PartClosed near) {decl : TypeDecl} (hnamed : decl.WellNamed)
    {bases? : Option BaseTable} {site : Site} {text : String}
    (himports : site.imports.AllNear near) (htext : near text)
    (h : table.resolveText bases? site text = .ok (some decl)) : near decl.name := by
  simp only [resolveText] at h
  split at h
  · cases h
  · next ref hparse =>
      exact near_of_resolveRef hclosed hnamed himports (hclosed.of_parse htext hparse) h

end TypeTable

namespace Outline

variable {file : SourceFile} {marker : String}

theorem writes_of_usingDirective {directive : UsingDirective}
    (h : directive ∈ file.root.usingDirectives) : file.root.Writes directive.target := by
  obtain ⟨node, hnode, hread⟩ := List.mem_filterMap.1 h
  have hplace := Node.mem_places_of_descendant (Node.mem_places_self file.root) hnode
  have hlast : ∀ last, (node.children.filter fun c => c.kind == "qualified_name" ||
      c.kind == "identifier" || c.kind == "generic_name").getLast? = some last →
        file.root.Writes last.text := by
    intro last hlast
    have hchild := (List.mem_filter.1 (List.mem_of_getLast? hlast)).1
    exact Node.writes_text (Node.mem_places_of_child hplace hchild)
  simp only [Node.usingDirective?] at hread
  split at hread
  · next last _ hfound =>
      split at hread
      · cases hread
        exact hlast _ hfound
      · split at hread
        · cases hread
          exact hlast _ hfound
        · cases hread
          exact hlast _ hfound
  · cases hread

theorem allNear_imports (hclosed : PartClosed near) (hroot : file.root.AllNear near) :
    (ofFile file marker).imports.AllNear near := by
  intro target htarget
  obtain ⟨pair, hpair, rfl⟩ := List.mem_map.1 htarget
  obtain ⟨directive, hdirective, halias⟩ := List.mem_filterMap.1 (Assoc.mem_of_mem_ofPairs hpair)
  obtain ⟨name, -, rfl⟩ := Option.map_eq_some_iff.1 halias
  exact hclosed.of_writes hroot (writes_of_usingDirective hdirective)

end Outline

namespace Model

variable {model : Model} {file : SourceFile} {marker : String}

theorem resolveRef_of_lookup {ref? : Option TypeRef} {node : Node} {decl : TypeDecl}
    (h : model.lookup ref? node = .ok (some decl)) :
    ∃ ref, ref? = some ref ∧ model.space.resolveRef (model.site node) ref = .ok (some decl) := by
  simp only [lookup] at h
  split at h
  · cases h
  · next ref =>
      split at h
      · cases h
      · exact ⟨ref, rfl, h⟩

theorem resolveRef_of_compoundReference {node : Node} {decl : TypeDecl}
    (h : model.compoundReference node = .ok (some decl)) :
    ∃ ref, TypeRef.parse node.text = some ref ∧
      model.space.resolveRef (model.site node) ref = .ok (some decl) := by
  rw [compoundReference] at h
  split at h
  · exact resolveRef_of_lookup h
  · cases h

theorem parent_of_part {node whole : Node} (h : identifierRole node = .part whole) :
    node.parent = some whole := by
  rw [identifierRole] at h
  split at h
  · cases h
  · next parent hparent =>
      rw [hparent]
      simp only at h
      split at h
      · cases h
      · split at h
        · cases h
        · split at h
          · cases h
            rfl
          · split at h
            · cases h
            · split at h
              · cases h
                rfl
              · cases h

/-- What an identifier refers to is what it or a place around it is read as. -/
theorem resolveRef_of_typeReference {node : Node} {decl : TypeDecl}
    (h : model.typeReference node = .ok (some decl)) :
    ∃ place ref, (place = node ∨ place ∈ node.ancestors) ∧
      (ref.name = place.text ∨ TypeRef.parse place.text = some ref) ∧
      model.space.resolveRef (model.site place) ref = .ok (some decl) := by
  rw [typeReference] at h
  split at h
  · split at h
    · cases h
    · next whole hrole =>
        obtain ⟨ref, hparse, href⟩ := resolveRef_of_compoundReference h
        exact ⟨whole, ref, .inr (Node.mem_ancestors_of_parent (parent_of_part hrole)),
          .inr hparse, href⟩
    · split at h
      · cases h
      · obtain ⟨ref, hname, href⟩ := resolveRef_of_lookup h
        cases hname
        exact ⟨node, _, .inl rfl, .inl rfl, href⟩
  · obtain ⟨ref, hparse, href⟩ := resolveRef_of_compoundReference h
    exact ⟨node, ref, .inl rfl, .inr hparse, href⟩

theorem mem_types_of_typeReference {node : Node} {decl : TypeDecl}
    (h : model.typeReference node = .ok (some decl)) : decl ∈ model.space.types := by
  obtain ⟨place, ref, -, -, href⟩ := resolveRef_of_typeReference h
  exact (TypeTable.outcome_of_resolveRef href).1

/-- An identifier of a file refers to types only whose names are near all that the file says. -/
theorem near_of_typeReference (hclosed : PartClosed near) {decl : TypeDecl}
    (hnamed : decl.WellNamed) (hunit : model.unit = .ofFile file marker)
    (hroot : file.root.AllNear near) {node : Node} (hnode : node ∈ file.root.places)
    (h : model.typeReference node = .ok (some decl)) : near decl.name := by
  obtain ⟨place, ref, haround, hread, href⟩ := resolveRef_of_typeReference h
  have hplace : place ∈ file.root.places := by
    cases haround with
    | inl hself => exact hself ▸ hnode
    | inr hancestor => exact Node.mem_places_of_ancestor hnode hancestor
  have hname : near ref.name := by
    cases hread with
    | inl hplain => exact hplain ▸ hroot place hplace
    | inr hparse => exact hclosed.of_parse (hroot place hplace) hparse
  have himports : (model.site place).imports.AllNear near := by
    rw [site, hunit]
    exact Outline.allNear_imports hclosed hroot
  exact TypeTable.near_of_resolveRef hclosed hnamed himports hname href

end Model
end SandboxLint
