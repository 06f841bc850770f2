import Mathlib.Logic.Relation
import Mathlib.Order.Preorder.Finite
import SandboxLint.Proofs.Corpus.Requalified

/-!
Where resolution ends. Following aliases from a reference goes on for ever exactly where it comes
to a circle, and nothing else keeps a reference from being resolved. Resolution is told here by
the rules that it follows, with no bound on how often; the search that stops after as many aliases
as there are finds what the rules give.
-/

namespace SandboxLint

namespace Imports

variable {imports : Imports}

/-- Following aliases from a reference comes to one that it comes back to. -/
def ReachesCircle (imports : Imports) (ref : TypeRef) : Prop :=
  ∃ again, Relation.ReflTransGen imports.Hop ref again ∧ Relation.TransGen imports.Hop again again

theorem ReachesCircle.endless {ref : TypeRef} (h : imports.ReachesCircle ref) :
    imports.Endless ref := by
  obtain ⟨again, hpath, hcircle⟩ := h
  refine endless_of_closed (Relation.ReflTransGen imports.Hop · again) (fun here hhere => ?_) hpath
  obtain ⟨next, hop, hrest⟩ := Relation.TransGen.head'_iff.1 (hcircle.trans_right hhere)
  exact ⟨next, hop, hrest⟩

/-- There are finitely many names of aliases, and what comes after an alias depends on its name
only. -/
theorem Endless.reachesCircle {ref : TypeRef} (h : imports.Endless ref) :
    imports.ReachesCircle ref := by
  obtain ⟨chase, rfl, hchase⟩ := h
  have halias : ∀ n, (imports.aliasTarget? (chase n)).isSome := by
    intro n
    obtain ⟨target, htarget, -⟩ := hchase n
    exact Option.isSome_of_eq_some htarget
  have hmem : ∀ n, (chase n).name ∈ {name | name ∈ Assoc.keys imports.aliases} :=
    fun n => name_mem_of_alias (halias n)
  obtain ⟨i, j, hlt, hsame⟩ :=
    Set.Finite.exists_lt_map_eq_of_forall_mem hmem (List.finite_toSet _)
  have hagain : chase (j + 1) = chase (i + 1) :=
    ((hchase i).of_name_eq (halias j) hsame).functional (hchase j)
  have hpath : ∀ {m n}, m < n → Relation.TransGen imports.Hop (chase m) (chase n) :=
    fun hmn => Nat.rel_of_forall_rel_succ_of_lt _ (fun n => .single (hchase n)) hmn
  have hcircle : Relation.TransGen imports.Hop (chase (i + 1)) (chase (j + 1)) :=
    hpath (Nat.succ_lt_succ hlt)
  rw [hagain] at hcircle
  exact ⟨chase (i + 1), (hpath (Nat.succ_pos i)).to_reflTransGen, hcircle⟩

theorem endless_iff_reachesCircle {ref : TypeRef} :
    imports.Endless ref ↔ imports.ReachesCircle ref :=
  ⟨Endless.reachesCircle, ReachesCircle.endless⟩

end Imports

namespace SymbolSpace

/-- Resolution of a reference, followed to its end: a reference that is no alias is resolved as it
stands, and an alias as its target is at the top of the file. -/
inductive Resolves (space : SymbolSpace) : Site → TypeRef → Option TypeDecl → Prop
  | plain {site : Site} {ref : TypeRef} {found : Option TypeDecl}
      (unaliased : site.imports.aliasTarget? ref = none)
      (meaning : space.types.resolvePlain (some space.bases) site ref = .ok found) :
      Resolves space site ref found
  | unread {site : Site} {ref : TypeRef} {target : String}
      (aliased : site.imports.aliasTarget? ref = some target)
      (noType : TypeRef.parse target = none) :
      Resolves space site ref none
  | renamed {site : Site} {ref next : TypeRef} {target : String} {found : Option TypeDecl}
      (aliased : site.imports.aliasTarget? ref = some target)
      (reads : TypeRef.parse target = some next)
      (rest : Resolves space { imports := site.imports } next found) :
      Resolves space site ref found

variable {space : SymbolSpace}

theorem Resolves.resolveRef_eq {site : Site} {ref : TypeRef} {found : Option TypeDecl}
    (h : space.Resolves site ref found) : space.resolveRef site ref = .ok found := by
  induction h with
  | plain unaliased meaning =>
      simp only [resolveRef, TypeTable.resolveRef, unaliased]
      exact meaning
  | unread aliased noType =>
      rw [resolveRef, TypeTable.resolveRef_of_alias aliased, TypeTable.resolveText, noType]
  | renamed aliased reads rest ih =>
      rw [resolveRef, TypeTable.resolveRef_of_alias aliased, TypeTable.resolveText, reads]
      exact ih

/-- A reference that is no alias is resolved at once. -/
theorem exists_resolves_of_no_alias {site : Site} {ref : TypeRef}
    (h : site.imports.aliasTarget? ref = none) : ∃ found, space.Resolves site ref found := by
  obtain ⟨found, hfound⟩ := space.types.resolvePlain_isOk space.bases site ref
  exact ⟨found, .plain h hfound⟩

theorem exists_resolves_of_followAliases {imports : Imports} {fuel : Nat} {ref : TypeRef}
    {last? : Option TypeRef} (h : imports.followAliases fuel ref = .ok last?) :
    ∃ found, space.Resolves { imports } ref found := by
  induction fuel generalizing ref with
  | zero =>
      cases halias : imports.aliasTarget? ref with
      | none => exact exists_resolves_of_no_alias halias
      | some target => simp [Imports.followAliases_zero halias] at h
  | succ fuel ih =>
      cases halias : imports.aliasTarget? ref with
      | none => exact exists_resolves_of_no_alias halias
      | some target =>
          cases hread : TypeRef.parse target with
          | none => exact ⟨none, .unread halias hread⟩
          | some next =>
              rw [Imports.followAliases_succ_hop fuel ⟨target, halias, hread⟩] at h
              obtain ⟨found, hfound⟩ := ih h
              exact ⟨found, .renamed halias hread hfound⟩

theorem exists_resolves_of_not_endless {site : Site} {ref : TypeRef}
    (h : ¬ site.imports.Endless ref) : ∃ found, space.Resolves site ref found := by
  cases halias : site.imports.aliasTarget? ref with
  | none => exact exists_resolves_of_no_alias halias
  | some target =>
      cases hread : TypeRef.parse target with
      | none => exact ⟨none, .unread halias hread⟩
      | some next =>
          have hnext : ¬ site.imports.Endless next :=
            fun hendless => h (Imports.Hop.endless ⟨target, halias, hread⟩ hendless)
          cases hlast : site.imports.followAliases site.imports.aliases.length next with
          | error fault => exact absurd (Imports.followAliases_eq_error_iff.1 hlast).2 hnext
          | ok last? =>
              have hrest : ∃ found, space.Resolves { imports := site.imports } next found :=
                exists_resolves_of_followAliases hlast
              obtain ⟨found, hfound⟩ := hrest
              exact ⟨found, .renamed halias hread hfound⟩

theorem resolveRef_of_endless {site : Site} {ref : TypeRef} (h : site.imports.Endless ref) :
    space.resolveRef site ref = .error .aliasCycle := by
  obtain ⟨next, ⟨target, halias, -⟩, -⟩ := h.next
  simp only [resolveRef, TypeTable.resolveRef, halias, Imports.followAliases_of_endless h]

/-- Resolution has an end exactly where following aliases does not come to a circle. -/
theorem exists_resolves_iff {site : Site} {ref : TypeRef} :
    (∃ found, space.Resolves site ref found) ↔ ¬ site.imports.ReachesCircle ref := by
  rw [← Imports.endless_iff_reachesCircle]
  refine ⟨fun ⟨found, hfound⟩ hendless => ?_, exists_resolves_of_not_endless⟩
  have herror := hfound.resolveRef_eq.symm.trans (resolveRef_of_endless hendless)
  cases herror

theorem resolveRef_eq_ok_iff {site : Site} {ref : TypeRef} {found : Option TypeDecl} :
    space.resolveRef site ref = .ok found ↔ space.Resolves site ref found := by
  refine ⟨fun h => ?_, Resolves.resolveRef_eq⟩
  have hends : ¬ site.imports.Endless ref := by
    intro hendless
    rw [resolveRef_of_endless hendless] at h
    cases h
  obtain ⟨other, hother⟩ : ∃ other, space.Resolves site ref other :=
    exists_resolves_of_not_endless hends
  cases h.symm.trans hother.resolveRef_eq
  exact hother

theorem resolveRef_eq_error_iff {site : Site} {ref : TypeRef} {fault : Fault} :
    space.resolveRef site ref = .error fault ↔
      fault = .aliasCycle ∧ site.imports.ReachesCircle ref := by
  rw [← Imports.endless_iff_reachesCircle]
  constructor
  · intro h
    by_cases hendless : site.imports.Endless ref
    · rw [resolveRef_of_endless hendless] at h
      exact ⟨(Except.error.inj h).symm, hendless⟩
    · obtain ⟨found, hfound⟩ : ∃ found, space.Resolves site ref found :=
        exists_resolves_of_not_endless hendless
      rw [hfound.resolveRef_eq] at h
      cases h
  · rintro ⟨rfl, hendless⟩
    exact resolveRef_of_endless hendless

end SymbolSpace
end SandboxLint
