import Mathlib.Combinatorics.Pigeonhole
import SandboxLint.Proofs.Corpus.Resolve

/-!
Following aliases. A chase that is longer than the number of a file's aliases has
met one of them twice and therefore never ends, so running out of steps means a
circle and nothing else. What an alias resolves to is what its target resolves to
at the top of the file.
-/

namespace SandboxLint
namespace Imports

/-- A reference is an alias whose target reads as the next reference. -/
def Hop (imports : Imports) (ref next : TypeRef) : Prop :=
  ∃ target, imports.aliasTarget? ref = some target ∧ TypeRef.parse target = some next

/-- A reference from which one can follow aliases for ever. -/
def Endless (imports : Imports) (ref : TypeRef) : Prop :=
  ∃ chase : Nat → TypeRef, chase 0 = ref ∧ ∀ n, imports.Hop (chase n) (chase (n + 1))

def startingWith (ref : TypeRef) (chase : Nat → TypeRef) : Nat → TypeRef
  | 0 => ref
  | n + 1 => chase n

def AliasesEnd (imports : Imports) : Prop :=
  ∀ ref, ¬ imports.Endless ref

theorem Hop.functional {imports : Imports} {ref a b : TypeRef} (ha : imports.Hop ref a)
    (hb : imports.Hop ref b) : b = a := by
  obtain ⟨target, htarget, hparse⟩ := ha
  obtain ⟨target', htarget', hparse'⟩ := hb
  rw [htarget] at htarget'
  cases htarget'
  rw [hparse] at hparse'
  exact (Option.some.inj hparse').symm

theorem Hop.endless {imports : Imports} {ref next : TypeRef} (hop : imports.Hop ref next)
    (h : imports.Endless next) : imports.Endless ref := by
  obtain ⟨chase, hstart, hchase⟩ := h
  refine ⟨startingWith ref chase, rfl, ?_⟩
  intro n
  cases n with
  | zero => simpa [startingWith, hstart] using hop
  | succ n => exact hchase n

theorem Endless.next {imports : Imports} {ref : TypeRef} (h : imports.Endless ref) :
    ∃ next, imports.Hop ref next ∧ imports.Endless next := by
  obtain ⟨chase, rfl, hchase⟩ := h
  exact ⟨chase 1, hchase 0, fun n => chase (n + 1), rfl, fun n => hchase (n + 1)⟩

/-- References that only lead to each other can be followed for ever. -/
theorem endless_of_closed {imports : Imports} (closed : TypeRef → Prop)
    (hclosed : ∀ ref, closed ref → ∃ next, imports.Hop ref next ∧ closed next)
    {ref : TypeRef} (h : closed ref) : imports.Endless ref := by
  choose step hop hstep using hclosed
  let chase : Nat → { ref // closed ref } :=
    Nat.rec ⟨ref, h⟩ fun _ here => ⟨step here.1 here.2, hstep here.1 here.2⟩
  exact ⟨fun n => (chase n).1, rfl, fun n => hop (chase n).1 (chase n).2⟩

theorem followAliases_of_no_alias {imports : Imports} {ref : TypeRef} (fuel : Nat)
    (h : imports.aliasTarget? ref = none) : imports.followAliases fuel ref = .ok (some ref) := by
  rw [followAliases, h]

theorem followAliases_zero {imports : Imports} {ref : TypeRef} {target : String}
    (h : imports.aliasTarget? ref = some target) :
    imports.followAliases 0 ref = .error .aliasCycle := by
  rw [followAliases, h]

theorem followAliases_succ_unread {imports : Imports} {ref : TypeRef} {target : String}
    (fuel : Nat) (h : imports.aliasTarget? ref = some target)
    (hparse : TypeRef.parse target = none) : imports.followAliases (fuel + 1) ref = .ok none := by
  have hstep := followAliases.eq_def imports (fuel + 1) ref
  simpa only [h, hparse] using hstep

theorem followAliases_succ_hop {imports : Imports} {ref next : TypeRef} (fuel : Nat)
    (hop : imports.Hop ref next) :
    imports.followAliases (fuel + 1) ref = imports.followAliases fuel next := by
  obtain ⟨target, htarget, hparse⟩ := hop
  have hstep := followAliases.eq_def imports (fuel + 1) ref
  simpa only [htarget, hparse] using hstep

theorem followAliases_of_endless {imports : Imports} {ref : TypeRef} (h : imports.Endless ref)
    (fuel : Nat) : imports.followAliases fuel ref = .error .aliasCycle := by
  induction fuel generalizing ref with
  | zero =>
      obtain ⟨next, ⟨target, htarget, -⟩, -⟩ := h.next
      exact followAliases_zero htarget
  | succ fuel ih =>
      obtain ⟨next, hop, hnext⟩ := h.next
      rw [followAliases_succ_hop fuel hop]
      exact ih hnext

/-- Following that runs out of steps has seen one alias more than it had steps. -/
theorem trace_of_followAliases_error {imports : Imports} {fuel : Nat} {ref : TypeRef}
    {fault : Fault} (h : imports.followAliases fuel ref = .error fault) :
    ∃ trace : Nat → TypeRef, trace 0 = ref ∧
      (∀ n < fuel, imports.Hop (trace n) (trace (n + 1))) ∧
      ∀ n ≤ fuel, (imports.aliasTarget? (trace n)).isSome := by
  induction fuel generalizing ref with
  | zero =>
      refine ⟨fun _ => ref, rfl, by omega, fun _ _ => ?_⟩
      cases htarget : imports.aliasTarget? ref with
      | none => simp [followAliases_of_no_alias 0 htarget] at h
      | some target => rfl
  | succ fuel ih =>
      cases htarget : imports.aliasTarget? ref with
      | none => simp [followAliases_of_no_alias _ htarget] at h
      | some target =>
          cases hparse : TypeRef.parse target with
          | none => simp [followAliases_succ_unread fuel htarget hparse] at h
          | some next =>
              rw [followAliases_succ_hop fuel ⟨target, htarget, hparse⟩] at h
              obtain ⟨trace, hstart, hops, halias⟩ := ih h
              -- The trace of the rest, one hop later.
              refine ⟨startingWith ref trace, rfl, ?_, ?_⟩
              · intro n hn
                cases n with
                | zero => exact ⟨target, htarget, hparse.trans (congrArg some hstart.symm)⟩
                | succ n => exact hops n (by omega)
              · intro n hn
                cases n with
                | zero => simp [startingWith, htarget]
                | succ n => exact halias n (by omega)

theorem qualifier_of_alias {imports : Imports} {ref : TypeRef}
    (h : (imports.aliasTarget? ref).isSome) : ref.qualifier = "" := by
  by_cases hq : ref.qualifier = ""
  · exact hq
  · simp [aliasTarget?, hq] at h

theorem Endless.unqualified {imports : Imports} {ref : TypeRef} (h : imports.Endless ref) :
    ref.qualifier = "" := by
  obtain ⟨next, ⟨target, htarget, -⟩, -⟩ := h.next
  exact qualifier_of_alias (Option.isSome_of_eq_some htarget)

theorem name_mem_of_alias {imports : Imports} {ref : TypeRef}
    (h : (imports.aliasTarget? ref).isSome) : ref.name ∈ Assoc.keys imports.aliases := by
  simp only [aliasTarget?, qualifier_of_alias h, beq_self_eq_true, ite_true, Assoc.get?] at h
  obtain ⟨pair, hmem, hname⟩ := List.lookup_isSome_iff.1 h
  rw [beq_iff_eq.1 hname]
  exact List.mem_map_of_mem hmem

theorem aliasesEnd_of_none {imports : Imports} (h : imports.aliases = []) :
    imports.AliasesEnd := by
  intro ref hendless
  obtain ⟨next, ⟨target, htarget, -⟩, -⟩ := hendless.next
  have hname := name_mem_of_alias (Option.isSome_of_eq_some htarget)
  rw [h] at hname
  cases hname

/-- Only the name of an alias decides where it leads. -/
theorem Hop.of_name_eq {imports : Imports} {a b next : TypeRef} (hop : imports.Hop a next)
    (hb : (imports.aliasTarget? b).isSome) (h : a.name = b.name) : imports.Hop b next := by
  obtain ⟨target, htarget, hparse⟩ := hop
  have ha := qualifier_of_alias (Option.isSome_of_eq_some htarget)
  have hsame : imports.aliasTarget? b = imports.aliasTarget? a := by
    simp [aliasTarget?, ha, qualifier_of_alias hb, h]
  exact ⟨target, hsame.trans htarget, hparse⟩

/-- There are no more names than aliases, so on a longer way two references have the same name. -/
theorem exists_name_eq {imports : Imports} {trace : Nat → TypeRef}
    (halias : ∀ n ≤ imports.aliases.length, (imports.aliasTarget? (trace n)).isSome) :
    ∃ i j, i < j ∧ j ≤ imports.aliases.length ∧ (trace i).name = (trace j).name := by
  have hmaps : ∀ n ∈ Finset.range (imports.aliases.length + 1),
      (trace n).name ∈ (Assoc.keys imports.aliases).toFinset := by
    intro n hn
    have hstep := Nat.le_of_lt_succ (Finset.mem_range.1 hn)
    exact List.mem_toFinset.2 (name_mem_of_alias (halias n hstep))
  have hcard : (Assoc.keys imports.aliases).toFinset.card <
      (Finset.range (imports.aliases.length + 1)).card := by
    have hle := List.toFinset_card_le (Assoc.keys imports.aliases)
    simp only [Assoc.keys, List.length_map] at hle
    simp only [Finset.card_range]
    exact Nat.lt_succ_of_le hle
  obtain ⟨a, ha, b, hb, hne, hsame⟩ :=
    Finset.exists_ne_map_eq_of_card_lt_of_maps_to hcard hmaps
  rw [Finset.mem_range] at ha hb
  rcases Nat.lt_or_gt_of_ne hne with hlt | hlt
  · exact ⟨a, b, hlt, by omega, hsame⟩
  · exact ⟨b, a, hlt, by omega, hsame.symm⟩

/-- Following fails exactly where it would never end. -/
theorem followAliases_eq_error_iff {imports : Imports} {ref : TypeRef} {fault : Fault} :
    imports.followAliases imports.aliases.length ref = .error fault ↔
      fault = .aliasCycle ∧ imports.Endless ref := by
  constructor
  · intro h
    obtain ⟨trace, hstart, hops, halias⟩ := trace_of_followAliases_error h
    obtain ⟨i, j, hij, hj, hname⟩ := exists_name_eq halias
    -- the references up to the later of the two lead to one another
    have hendless : imports.Endless ref := by
      refine endless_of_closed (fun r => ∃ n ≤ j, trace n = r) ?_ ⟨0, Nat.zero_le _, hstart⟩
      rintro _ ⟨n, hn, rfl⟩
      rcases Nat.lt_or_eq_of_le hn with hlt | rfl
      · exact ⟨trace (n + 1), hops n (by omega), n + 1, hlt, rfl⟩
      · exact ⟨trace (i + 1), (hops i (by omega)).of_name_eq (halias n hj) hname, i + 1, hij, rfl⟩
    rw [followAliases_of_endless hendless] at h
    exact ⟨(Except.error.inj h).symm, hendless⟩
  · rintro ⟨rfl, h⟩
    exact followAliases_of_endless h _

theorem followAliases_succ {imports : Imports} {fuel : Nat} {ref : TypeRef}
    {found : Option TypeRef} (h : imports.followAliases fuel ref = .ok found) :
    imports.followAliases (fuel + 1) ref = .ok found := by
  induction fuel generalizing ref with
  | zero =>
      cases htarget : imports.aliasTarget? ref with
      | none => rwa [followAliases_of_no_alias _ htarget] at h ⊢
      | some target => simp [followAliases_zero htarget] at h
  | succ fuel ih =>
      cases htarget : imports.aliasTarget? ref with
      | none => rwa [followAliases_of_no_alias _ htarget] at h ⊢
      | some target =>
          cases hparse : TypeRef.parse target with
          | none =>
              rw [followAliases_succ_unread _ htarget hparse] at h ⊢
              exact h
          | some next =>
              rw [followAliases_succ_hop _ ⟨target, htarget, hparse⟩] at h ⊢
              exact ih h

/-- Following an alias is following its target, with as many steps at hand. -/
theorem followAliases_hop {imports : Imports} {ref next : TypeRef} (hop : imports.Hop ref next) :
    imports.followAliases imports.aliases.length ref =
      imports.followAliases imports.aliases.length next := by
  by_cases hendless : imports.Endless next
  · rw [followAliases_of_endless hendless, followAliases_of_endless (hop.endless hendless)]
  · cases hfuel : imports.aliases.length with
    | zero =>
        obtain ⟨target, htarget, -⟩ := hop
        have hname := name_mem_of_alias (Option.isSome_of_eq_some htarget)
        rw [List.eq_nil_of_length_eq_zero hfuel] at hname
        cases hname
    | succ fuel =>
        rw [followAliases_succ_hop fuel hop]
        cases hfound : imports.followAliases fuel next with
        | ok found => exact (followAliases_succ hfound).symm
        | error fault =>
            have hall : imports.followAliases imports.aliases.length ref = .error fault := by
              rw [hfuel, followAliases_succ_hop fuel hop, hfound]
            obtain ⟨-, hloop⟩ := followAliases_eq_error_iff.1 hall
            obtain ⟨next', hop', hnext'⟩ := hloop.next
            exact absurd (hop.functional hop' ▸ hnext') hendless

end Imports

namespace TypeTable

/-- A reference that is an alias resolves as the alias's target does at the top of the file. -/
theorem resolveRef_of_alias {table : TypeTable} {bases? : Option BaseTable} {site : Site}
    {ref : TypeRef} {target : String} (h : site.imports.aliasTarget? ref = some target) :
    table.resolveRef bases? site ref =
      table.resolveText bases? { imports := site.imports } target := by
  cases hparse : TypeRef.parse target with
  | none =>
      have hname := Imports.name_mem_of_alias (Option.isSome_of_eq_some h)
      have hfound : site.imports.followAliases site.imports.aliases.length ref = .ok none := by
        cases hfuel : site.imports.aliases.length with
        | zero =>
            rw [List.eq_nil_of_length_eq_zero hfuel] at hname
            cases hname
        | succ fuel => exact Imports.followAliases_succ_unread fuel h hparse
      simp [resolveRef, h, hfound, resolveText, hparse]
  | some next =>
      have hop : site.imports.Hop ref next := ⟨target, h, hparse⟩
      simp only [resolveRef, h, resolveText, hparse, Imports.followAliases_hop hop]
      cases htarget : site.imports.aliasTarget? next with
      | none => simp [Imports.followAliases_of_no_alias _ htarget]
      | some target' => rfl

end TypeTable
end SandboxLint
