import SandboxLint.Corpus.Resolve
import SandboxLint.Proofs.Fallible

/-!
What resolution can give. Whatever a written type resolves to is an unambiguous
type of the table, and which one it is does not depend on the base graph when no
surrounding type is searched.
-/

namespace SandboxLint
namespace TypeTable

theorem unique_eq_some_iff {decls : List TypeDecl} {decl : TypeDecl} :
    unique decls = some decl ↔ decls = [decl] ∧ decl.ambiguous = false := by
  match decls with
  | [] | _ :: _ :: _ => simp [unique]
  | [only] =>
      by_cases h : only.ambiguous = true
      · simp only [unique, h, ite_true, reduceCtorEq, List.cons.injEq, and_true, false_iff]
        rintro ⟨rfl, hnot⟩
        simp [h] at hnot
      · simp only [unique, h, List.cons.injEq, and_true]
        constructor
        · rintro ⟨⟩
          exact ⟨rfl, by simpa using h⟩
        · rintro ⟨rfl, -⟩
          rfl

/-- What is picked out of candidates that suit is one of them. -/
theorem mem_of_unique_filter {decls : List TypeDecl} {suits : TypeDecl → Bool} {decl : TypeDecl}
    (h : unique (decls.filter suits) = some decl) :
    decl ∈ decls ∧ suits decl = true ∧ decl.ambiguous = false := by
  obtain ⟨honly, hclear⟩ := unique_eq_some_iff.1 h
  obtain ⟨hmem, hsuits⟩ := List.mem_filter.1 (honly ▸ List.mem_singleton_self decl)
  exact ⟨hmem, hsuits, hclear⟩

theorem mem_named {table : TypeTable} {decl : TypeDecl} {name : String} :
    decl ∈ table.named name ↔ decl ∈ table ∧ decl.name = name := by
  simp [named]

section Candidates

variable {site : Site} {candidates : List TypeDecl} {decl : TypeDecl}

theorem mem_of_resolveQualified {full : String}
    (h : resolveQualified site candidates full = some decl) :
    decl ∈ candidates ∧ decl.ambiguous = false := by
  simp only [resolveQualified] at h
  split at h
  · exact (mem_of_unique_filter h).imp_right And.right
  · exact (mem_of_unique_filter h).imp_right And.right

def visibleTypes (site : Site) (candidates : List TypeDecl) : List TypeDecl :=
  candidates.filter fun c =>
    c.outerType.isNone && namespaceVisible c.namespaceName site.namespaceName site.imports.usings

def ownTypes (site : Site) (candidates : List TypeDecl) : List TypeDecl :=
  candidates.filter fun c => c.outerType.isNone && c.namespaceName == site.namespaceName

theorem filter_visibleTypes : (visibleTypes site candidates).filter
    (·.namespaceName == site.namespaceName) = ownTypes site candidates := by
  rw [visibleTypes, List.filter_filter, ownTypes]
  refine List.filter_congr fun c _ => ?_
  by_cases hown : c.namespaceName = site.namespaceName
  · simp [hown, namespaceVisible]
  · simp [beq_eq_false_iff_ne.2 hown]

/-- In a namespace its own types decide as soon as there are any, however many are in view. -/
theorem resolveVisible_eq : resolveVisible site candidates =
    if site.namespaceName ≠ "" ∧ ownTypes site candidates ≠ [] then
      unique (ownTypes site candidates)
    else unique (visibleTypes site candidates) := by
  have hstep : resolveVisible site candidates =
      if 1 < (visibleTypes site candidates).length && site.namespaceName != "" &&
          !(ownTypes site candidates).isEmpty then
        unique (ownTypes site candidates)
      else unique (visibleTypes site candidates) := by
    rw [← filter_visibleTypes]
    rfl
  rw [hstep]
  by_cases hdecides : site.namespaceName ≠ "" ∧ ownTypes site candidates ≠ []
  · rw [if_pos hdecides]
    by_cases hseveral : 1 < (visibleTypes site candidates).length
    · simp [hseveral, hdecides]
    · -- The only type in view is the site's own.
      have hown : (ownTypes site candidates).Sublist (visibleTypes site candidates) :=
        filter_visibleTypes ▸ List.filter_sublist
      have hsome := List.length_pos_iff.2 hdecides.2
      rw [hown.eq_of_length_le (by omega), ite_self]
  · rw [if_neg hdecides, if_neg]
    simpa [not_and] using fun _ => not_and.1 hdecides

theorem mem_of_resolveVisible (h : resolveVisible site candidates = some decl) :
    decl ∈ candidates ∧ decl.ambiguous = false := by
  rw [resolveVisible_eq] at h
  split at h
  · exact (mem_of_unique_filter h).imp_right And.right
  · exact (mem_of_unique_filter h).imp_right And.right

end Candidates

theorem resolveQualified_nil (site : Site) (full : String) :
    resolveQualified site [] full = none :=
  rfl

theorem resolveVisible_nil (site : Site) : resolveVisible site [] = none := by
  simp [resolveVisible, unique]

/-- A reference with a qualifier is looked up by its full name, whatever stands around. -/
theorem resolvePlain_of_qualified {table : TypeTable} (bases? : Option BaseTable) {site : Site}
    {ref : TypeRef} (h : site.imports.expandQualifier ref.qualifier ≠ "") :
    table.resolvePlain bases? site ref = .ok (resolveQualified site (table.named ref.name)
      (site.imports.expandQualifier ref.qualifier ++ "." ++ ref.name)) := by
  by_cases hnone : (table.named ref.name).isEmpty = true
  · simp [resolvePlain, List.isEmpty_iff.1 hnone, resolveQualified_nil]
  · simp [resolvePlain, hnone, h]

/-- What a plain name means with a base graph at hand. -/
def plainMeaning (table : TypeTable) (bases : BaseTable) (site : Site) (name : String) :
    Option TypeDecl :=
  if (table.named name).isEmpty then none
  else
    match table.resolveNested bases site.enclosing name with
    | some nested => if nested.ambiguous then none else some nested
    | none => resolveVisible site (table.named name)

theorem resolvePlain_of_plain {table : TypeTable} {bases : BaseTable} {site : Site}
    {ref : TypeRef} (h : site.imports.expandQualifier ref.qualifier = "") :
    table.resolvePlain (some bases) site ref = .ok (table.plainMeaning bases site ref.name) := by
  by_cases hnone : (table.named ref.name).isEmpty = true
  · simp [resolvePlain, plainMeaning, hnone]
  · simp only [resolvePlain, plainMeaning, hnone, h]
    cases table.resolveNested bases site.enclosing ref.name <;> rfl

/-- With a base graph at hand, a reference that is no alias is known or unknown. -/
theorem resolvePlain_isOk (table : TypeTable) (bases : BaseTable) (site : Site) (ref : TypeRef) :
    ∃ found, table.resolvePlain (some bases) site ref = .ok found := by
  by_cases hexpand : site.imports.expandQualifier ref.qualifier = ""
  · exact ⟨_, resolvePlain_of_plain hexpand⟩
  · exact ⟨_, resolvePlain_of_qualified _ hexpand⟩

theorem plainMeaning_of_no_enclosing {table : TypeTable} {bases : BaseTable} {site : Site}
    (name : String) (h : site.enclosing = []) :
    table.plainMeaning bases site name = resolveVisible site (table.named name) := by
  by_cases hnone : (table.named name).isEmpty = true
  · simp [plainMeaning, List.isEmpty_iff.1 hnone, resolveVisible_nil]
  · simp [plainMeaning, hnone, resolveNested, h]

theorem eq_resolveVisible_of_pending {table : TypeTable} {site : Site} {ref : TypeRef}
    {found : Option TypeDecl} (hplain : site.imports.expandQualifier ref.qualifier = "")
    (h : table.resolvePlain none site ref = .ok found) :
    found = resolveVisible site (table.named ref.name) := by
  by_cases hnone : (table.named ref.name).isEmpty = true
  · rw [List.isEmpty_iff.1 hnone, resolveVisible_nil]
    simpa [resolvePlain, hnone, eq_comm] using h
  · simp only [resolvePlain, hnone, hplain, bne_self_eq_false, Bool.false_eq_true, if_false] at h
    split at h
    · cases h
    · exact (Except.ok.inj h).symm

/-- A type that can be the outcome of a resolution. -/
def Outcome (table : TypeTable) (decl : TypeDecl) : Prop :=
  decl ∈ table ∧ decl.ambiguous = false

theorem outcome_of_resolveQualified {table : TypeTable} {site : Site} {name full : String}
    {decl : TypeDecl} (h : resolveQualified site (table.named name) full = some decl) :
    table.Outcome decl := by
  obtain ⟨hmem, hclear⟩ := mem_of_resolveQualified h
  exact ⟨(mem_named.1 hmem).1, hclear⟩

theorem outcome_of_resolveVisible {table : TypeTable} {site : Site} {name : String}
    {decl : TypeDecl} (h : resolveVisible site (table.named name) = some decl) :
    table.Outcome decl := by
  obtain ⟨hmem, hclear⟩ := mem_of_resolveVisible h
  exact ⟨(mem_named.1 hmem).1, hclear⟩

theorem mem_of_resolveNested {table : TypeTable} {bases : BaseTable} {enclosing : List String}
    {name : String} {decl : TypeDecl}
    (h : table.resolveNested bases enclosing name = some decl) : decl ∈ table := by
  obtain ⟨outer, -, hfound⟩ := List.exists_of_findSome?_eq_some h
  obtain ⟨around, -, hchain⟩ := Option.bind_eq_some_iff.1 hfound
  obtain ⟨owner, -, hnested⟩ := List.exists_of_findSome?_eq_some hchain
  exact List.mem_of_find?_eq_some hnested

theorem outcome_of_plainMeaning {table : TypeTable} {bases : BaseTable} {site : Site}
    {name : String} {decl : TypeDecl} (h : table.plainMeaning bases site name = some decl) :
    table.Outcome decl := by
  simp only [plainMeaning] at h
  split at h
  · cases h
  · split at h
    · next nested hnested =>
        have hclear : nested.ambiguous = false ∧ nested = decl := by
          by_cases hamb : nested.ambiguous = true <;> simp_all
        exact ⟨hclear.2 ▸ mem_of_resolveNested hnested, hclear.2 ▸ hclear.1⟩
    · exact outcome_of_resolveVisible h

theorem outcome_of_resolvePlain {table : TypeTable} {bases? : Option BaseTable} {site : Site}
    {ref : TypeRef} {decl : TypeDecl} (h : table.resolvePlain bases? site ref = .ok (some decl)) :
    table.Outcome decl := by
  by_cases hplain : site.imports.expandQualifier ref.qualifier = ""
  · cases bases? with
    | none => exact outcome_of_resolveVisible (eq_resolveVisible_of_pending hplain h).symm
    | some bases =>
        rw [resolvePlain_of_plain hplain] at h
        exact outcome_of_plainMeaning (Except.ok.inj h)
  · rw [resolvePlain_of_qualified bases? hplain] at h
    exact outcome_of_resolveQualified (Except.ok.inj h)

theorem outcome_of_resolveRef {table : TypeTable} {bases? : Option BaseTable} {site : Site}
    {ref : TypeRef} {decl : TypeDecl} (h : table.resolveRef bases? site ref = .ok (some decl)) :
    table.Outcome decl := by
  simp only [resolveRef] at h
  split at h
  · exact outcome_of_resolvePlain h
  · split at h
    · cases h
    · cases h
    · exact outcome_of_resolvePlain h

theorem outcome_of_resolveText {table : TypeTable} {bases? : Option BaseTable} {site : Site}
    {text : String} {decl : TypeDecl}
    (h : table.resolveText bases? site text = .ok (some decl)) : table.Outcome decl := by
  simp only [resolveText] at h
  split at h
  · cases h
  · exact outcome_of_resolveRef h

/-- Where the base list of a type is resolved. -/
def baseSite (table : TypeTable) (imports : String → Imports) (decl : TypeDecl) : Site :=
  { imports := imports decl.path
    namespaceName := decl.namespaceName
    enclosing := table.outerNames decl }

theorem mem_of_resolveBases {table : TypeTable} {imports : String → Imports}
    {decl base : TypeDecl} {bases : List TypeDecl}
    (h : table.resolveBases imports decl = .ok bases) :
    base ∈ bases ↔ base.qualifiedName ≠ decl.qualifiedName ∧ ∃ name ∈ decl.baseNames,
      table.resolveText none (table.baseSite imports decl) name = .ok (some base) := by
  obtain ⟨resolved, hresolved, heq⟩ := Fallible.bind_eq_ok.1 h
  cases heq
  rw [List.mem_filterMap]
  constructor
  · rintro ⟨found, hfound, hfilter⟩
    obtain ⟨rfl, hne⟩ := Option.filter_eq_some_iff.1 hfilter
    exact ⟨by simpa using hne, (Fallible.mem_of_mapM hresolved).1 hfound⟩
  · rintro ⟨hne, hname⟩
    exact ⟨some base, (Fallible.mem_of_mapM hresolved).2 hname,
      Option.filter_eq_some_iff.2 ⟨rfl, by simpa using hne⟩⟩

theorem resolveBases_isOk_iff {table : TypeTable} {imports : String → Imports}
    {decl : TypeDecl} :
    (∃ bases, table.resolveBases imports decl = .ok bases) ↔ ∀ name ∈ decl.baseNames,
      ∃ found, table.resolveText none (table.baseSite imports decl) name = .ok found := by
  rw [← Fallible.mapM_isOk_iff]
  constructor
  · rintro ⟨bases, h⟩
    obtain ⟨resolved, hresolved, -⟩ := Fallible.bind_eq_ok.1 h
    exact ⟨resolved, hresolved⟩
  · rintro ⟨resolved, hresolved⟩
    exact ⟨_, Fallible.bind_eq_ok.2 ⟨resolved, hresolved, rfl⟩⟩

/-- A table has a base graph exactly when every base name can be resolved. -/
theorem baseTable_isOk_iff {table : TypeTable} {imports : String → Imports} :
    (∃ bases, table.baseTable imports = .ok bases) ↔
      ∀ decl ∈ table, ∀ name ∈ decl.baseNames,
        ∃ found, table.resolveText none (table.baseSite imports decl) name = .ok found := by
  simp only [← resolveBases_isOk_iff]
  rw [baseTable, Fallible.mapM_isOk_iff]
  refine forall₂_congr fun decl _ => ⟨?_, ?_⟩
  · rintro ⟨entry, h⟩
    obtain ⟨bases, hbases, -⟩ := Fallible.bind_eq_ok.1 h
    exact ⟨bases, hbases⟩
  · rintro ⟨bases, hbases⟩
    exact ⟨_, Fallible.bind_eq_ok.2 ⟨bases, hbases, rfl⟩⟩

end TypeTable
end SandboxLint
