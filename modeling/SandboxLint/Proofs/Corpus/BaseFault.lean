import SandboxLint.Proofs.Corpus.Alias
import SandboxLint.Proofs.Corpus.Qualifier
import SandboxLint.Proofs.Corpus.SymbolSpace

/-!
Which base lists cannot be resolved while the base graph is still being made. There
are two kinds of base names that break it: aliases that run in a circle, and, in a
nested type, plain names that some type of the corpus has, for which the search
through the types around would need the graph itself.
-/

namespace SandboxLint
namespace TypeTable

/-- A base name of a type that breaks the making of the base graph. -/
inductive Breaks (table : TypeTable) (imports : Imports) (decl : TypeDecl) (name : String) : Prop
  | circle {ref : TypeRef} (written : TypeRef.parse name = some ref)
      (endless : imports.Endless ref)
  | early {ref : TypeRef} (written : TypeRef.parse name = some ref)
      (nested : decl.outerType.isSome) (noAlias : imports.aliasTarget? ref = none)
      (plain : imports.expandQualifier ref.qualifier = "")
      (known : ∃ other ∈ table, other.name = ref.name)

theorem isEmpty_named_iff {table : TypeTable} {name : String} :
    (table.named name).isEmpty = true ↔ ¬ ∃ other ∈ table, other.name = name := by
  simp [named]

/-- Without a base graph the search for a plain name fails as soon as there is a type to search. -/
theorem resolvePlain_none_isOk_iff {table : TypeTable} {site : Site} {ref : TypeRef} :
    (∃ found, table.resolvePlain none site ref = .ok found) ↔
      ¬ ((∃ other ∈ table, other.name = ref.name) ∧
        site.imports.expandQualifier ref.qualifier = "" ∧
        ∃ outer ∈ site.enclosing, (table.find? outer).isSome) := by
  by_cases hnone : (table.named ref.name).isEmpty = true
  · simp [resolvePlain, hnone, isEmpty_named_iff.1 hnone]
  · have hknown : ∃ other ∈ table, other.name = ref.name := by
      by_contra hno
      exact hnone (isEmpty_named_iff.2 hno)
    by_cases hplain : site.imports.expandQualifier ref.qualifier = ""
    · by_cases henclosing : ∃ outer ∈ site.enclosing, (table.find? outer).isSome
      · have hany : (site.enclosing.any fun outer => (table.find? outer).isSome) = true := by
          simpa using henclosing
        simp [resolvePlain, hnone, hplain, hany, hknown, henclosing]
      · have hany : (site.enclosing.any fun outer => (table.find? outer).isSome) = false := by
          simpa using henclosing
        simp [resolvePlain, hnone, hplain, hany, henclosing]
    · simp [resolvePlain, hnone, hplain]

theorem exists_enclosing_iff {table : TypeTable} {decl : TypeDecl}
    (houter : ∀ outer, decl.outerType = some outer → (table.find? outer).isSome) :
    (∃ outer ∈ table.outerNames decl, (table.find? outer).isSome) ↔ decl.outerType.isSome := by
  cases hdecl : decl.outerType with
  | none => simp [outerNames, outerNamesFrom, hdecl]
  | some outer =>
      simp only [outerNames, hdecl, outerNamesFrom, Option.isSome_some, iff_true]
      exact ⟨outer, List.mem_cons_self, houter outer hdecl⟩

/-- A base name of a type breaks the making of the base graph with a fault. -/
inductive BreaksWith (table : TypeTable) (imports : Imports) (decl : TypeDecl) (name : String) :
    Fault → Prop
  | circle {ref : TypeRef} (written : TypeRef.parse name = some ref)
      (unqualified : ref.qualifier = "") (endless : imports.Endless ref) :
      BreaksWith table imports decl name .aliasCycle
  | plain {ref : TypeRef} (written : TypeRef.parse name = some ref)
      (nested : decl.outerType.isSome) (unqualified : ref.qualifier = "")
      (noAlias : imports.aliases.get? ref.name = none)
      (known : ∃ other ∈ table, other.name = ref.name) :
      BreaksWith table imports decl name .basesPending
  | erased {ref : TypeRef} (written : TypeRef.parse name = some ref)
      (nested : decl.outerType.isSome) (qualified : imports.Erases ref.qualifier)
      (known : ∃ other ∈ table, other.name = ref.name) :
      BreaksWith table imports decl name .basesPending

theorem breaks_iff {table : TypeTable} {imports : Imports} {decl : TypeDecl} {name : String} :
    table.Breaks imports decl name ↔ ∃ fault, table.BreaksWith imports decl name fault := by
  constructor
  · rintro (⟨hwritten, hendless⟩ | ⟨hwritten, hnested, hnoAlias, hplain, hknown⟩)
    · exact ⟨_, .circle hwritten hendless.unqualified hendless⟩
    · rcases Imports.expandQualifier_eq_empty_iff.1 hplain with hplain | herased
      · refine ⟨_, .plain hwritten hnested hplain ?_ hknown⟩
        simpa [Imports.aliasTarget?, hplain] using hnoAlias
      · exact ⟨_, .erased hwritten hnested herased hknown⟩
  · rintro ⟨fault, ⟨hwritten, -, hendless⟩ | ⟨hwritten, hnested, hplain, hnoAlias, hknown⟩ |
      ⟨hwritten, hnested, herased, hknown⟩⟩
    · exact .circle hwritten hendless
    · refine .early hwritten hnested ?_ (Imports.expandQualifier_eq_empty_iff.2 (.inl hplain))
        hknown
      simpa [Imports.aliasTarget?, hplain] using hnoAlias
    · refine .early hwritten hnested ?_ (Imports.expandQualifier_eq_empty_iff.2 (.inr herased))
        hknown
      simp [Imports.aliasTarget?, herased.1]

section

variable {table : TypeTable} {imports : String → Imports} {decl : TypeDecl} {name : String}
  {fault : Fault}

theorem fault_of_resolvePlain_none {site : Site} {ref : TypeRef}
    (h : table.resolvePlain none site ref = .error fault) : fault = .basesPending := by
  simp only [resolvePlain] at h
  split at h
  · cases h
  · split at h
    · cases h
    · split at h
      · exact (Except.error.inj h).symm
      · cases h

theorem resolvePlain_none_eq_error_iff {site : Site} {ref : TypeRef} :
    table.resolvePlain none site ref = .error fault ↔
      fault = .basesPending ∧ (∃ other ∈ table, other.name = ref.name) ∧
        site.imports.expandQualifier ref.qualifier = "" ∧
        ∃ outer ∈ site.enclosing, (table.find? outer).isSome := by
  constructor
  · intro h
    refine ⟨fault_of_resolvePlain_none h, ?_⟩
    by_contra hfine
    obtain ⟨found, hfound⟩ := resolvePlain_none_isOk_iff.2 hfine
    cases h.symm.trans hfound
  · rintro ⟨rfl, hbroken⟩
    cases hresolve : table.resolvePlain none site ref with
    | ok found => exact absurd hbroken (resolvePlain_none_isOk_iff.1 ⟨found, hresolve⟩)
    | error fault => rw [fault_of_resolvePlain_none hresolve]

/-- The fault of a reference that is an alias is a circle, for its target stands in no type. -/
theorem resolveRef_none_eq_error_of_alias {site : Site} {ref : TypeRef} {target : String}
    (h : site.imports.aliasTarget? ref = some target) :
    table.resolveRef none site ref = .error fault ↔
      fault = .aliasCycle ∧ site.imports.Endless ref := by
  rw [← Imports.followAliases_eq_error_iff]
  simp only [resolveRef, h]
  cases site.imports.followAliases site.imports.aliases.length ref with
  | error fault' => simp
  | ok next? =>
      cases next? with
      | none => simp
      | some next => simp [resolvePlain_none_eq_error_iff]

theorem not_breaksWith_of_unread {imports : Imports} (hparse : TypeRef.parse name = none) :
    ¬ table.BreaksWith imports decl name fault := by
  rintro (⟨hwritten⟩ | ⟨hwritten⟩ | ⟨hwritten⟩) <;> cases hparse.symm.trans hwritten

theorem breaksWith_iff_of_alias {imports : Imports} {ref : TypeRef} {target : String}
    (hparse : TypeRef.parse name = some ref) (htarget : imports.aliasTarget? ref = some target) :
    table.BreaksWith imports decl name fault ↔ fault = .aliasCycle ∧ imports.Endless ref := by
  have hplain := Imports.qualifier_of_alias (Option.isSome_of_eq_some htarget)
  constructor
  · rintro (⟨hwritten, -, hendless⟩ | ⟨hwritten, -, -, hnoAlias, -⟩ |
      ⟨hwritten, -, herased, -⟩) <;> cases hparse.symm.trans hwritten
    · exact ⟨rfl, hendless⟩
    · simp [Imports.aliasTarget?, hplain, hnoAlias] at htarget
    · exact absurd hplain herased.1
  · rintro ⟨rfl, hendless⟩
    exact .circle hparse hplain hendless

theorem breaksWith_iff_of_no_alias {imports : Imports} {ref : TypeRef}
    (hparse : TypeRef.parse name = some ref) (htarget : imports.aliasTarget? ref = none) :
    table.BreaksWith imports decl name fault ↔
      fault = .basesPending ∧ (∃ other ∈ table, other.name = ref.name) ∧
        imports.expandQualifier ref.qualifier = "" ∧ decl.outerType.isSome := by
  rw [Imports.expandQualifier_eq_empty_iff]
  constructor
  · rintro (⟨hwritten, -, hendless⟩ | ⟨hwritten, hnested, hplain, -, hknown⟩ |
      ⟨hwritten, hnested, herased, hknown⟩) <;> cases hparse.symm.trans hwritten
    · obtain ⟨next, ⟨target, halias, -⟩, -⟩ := hendless.next
      cases htarget.symm.trans halias
    · exact ⟨rfl, hknown, .inl hplain, hnested⟩
    · exact ⟨rfl, hknown, .inr herased, hnested⟩
  · rintro ⟨rfl, hknown, hplain | herased, hnested⟩
    · refine .plain hparse hnested hplain ?_ hknown
      simpa [Imports.aliasTarget?, hplain] using htarget
    · exact .erased hparse hnested herased hknown

/-- Before the base graph is there a base name fails with the fault that it breaks it with. -/
theorem resolveText_baseSite_eq_error_iff
    (houter : ∀ outer, decl.outerType = some outer → (table.find? outer).isSome) :
    table.resolveText none (table.baseSite imports decl) name = .error fault ↔
      table.BreaksWith (imports decl.path) decl name fault := by
  cases hparse : TypeRef.parse name with
  | none => simp [resolveText, hparse, not_breaksWith_of_unread hparse]
  | some ref =>
      simp only [resolveText, hparse]
      cases htarget : (imports decl.path).aliasTarget? ref with
      | none =>
          have hresolve : table.resolveRef none (table.baseSite imports decl) ref =
              table.resolvePlain none (table.baseSite imports decl) ref := by
            simp only [resolveRef, baseSite, htarget]
          rw [hresolve, resolvePlain_none_eq_error_iff, breaksWith_iff_of_no_alias hparse htarget]
          simp only [baseSite, exists_enclosing_iff houter]
      | some target =>
          rw [breaksWith_iff_of_alias hparse htarget]
          exact resolveRef_none_eq_error_of_alias htarget

theorem resolveText_baseSite_isOk_iff
    (houter : ∀ outer, decl.outerType = some outer → (table.find? outer).isSome) :
    (∃ found, table.resolveText none (table.baseSite imports decl) name = .ok found) ↔
      ¬ table.Breaks (imports decl.path) decl name := by
  rw [breaks_iff, Fallible.isOk_iff]
  simp only [resolveText_baseSite_eq_error_iff houter]

end

end TypeTable

namespace SymbolSpace

/-- Outlined files make up a symbol space exactly when no base name breaks its making. -/
theorem build_isOk_iff_of_outlined (analysis : AnalysisSettings) {units : List OutlinedFile}
    (h : Outlined units) :
    (∃ space, build analysis units = .ok space) ↔
      ∀ decl ∈ typesIn (byPath units), ∀ name ∈ decl.baseNames,
        ¬ (typesIn (byPath units)).Breaks (importsIn (byPath units) decl.path) decl name := by
  rw [build_isOk_iff, TypeTable.baseTable_isOk_iff]
  refine forall₂_congr fun decl hdecl => forall₂_congr fun name _ => ?_
  exact TypeTable.resolveText_baseSite_isOk_iff fun outer houter =>
    h.byPath.isSome_find?_outerType hdecl houter

end SymbolSpace
end SandboxLint
