import Mathlib.Data.List.Basic
import SandboxLint.Corpus.TypeTable
import SandboxLint.Proofs.Assoc

/-!
The types of a corpus and their fragments. Every type of a table is the merge of
all fragments of its qualified name, in the order of their files, and a qualified
name stands for one type only.
-/

namespace SandboxLint

/-- What comes in the order of its paths stays so when it is sorted. -/
theorem mergeSort_of_ordered {α : Type} {path : α → String} {xs : List α}
    (h : (xs.map path).Pairwise (· < ·)) :
    (xs.mergeSort fun a b => decide (path a ≤ path b)) = xs := by
  refine List.mergeSort_of_pairwise ((List.pairwise_map.1 h).imp ?_)
  intro a b hlt
  exact decide_eq_true (String.not_lt.1 (String.lt_asymm hlt))

namespace TypeTable

def ofFragments (fragments : List Fragment) : TypeTable :=
  (Assoc.groups (fragments.map fun f => (f.qualifiedName, f))).filterMap fun (_, group) =>
    group.head?.map fun first => .merge first group

/-- Outlines in the order of their paths are taken as they come. -/
theorem ofOutlines_of_ordered {outlines : List Outline}
    (h : (outlines.map (·.path)).Pairwise (· < ·)) :
    ofOutlines outlines = ofFragments (outlines.flatMap (·.types)) := by
  rw [ofOutlines, mergeSort_of_ordered h]
  rfl

/-- The fragments of a qualified name in the order in which they are merged. -/
def fragmentsNamed (outlines : List Outline) (qualified : String) : List Fragment :=
  ((outlines.mergeSort fun a b => decide (a.path ≤ b.path)).flatMap (·.types)).filter
    (·.qualifiedName == qualified)

theorem fragmentsNamed_of_ordered {outlines : List Outline}
    (h : (outlines.map (·.path)).Pairwise (· < ·)) (qualified : String) :
    fragmentsNamed outlines qualified =
      (outlines.flatMap (·.types)).filter (·.qualifiedName == qualified) := by
  rw [fragmentsNamed, mergeSort_of_ordered h]

theorem mem_fragmentsNamed {outlines : List Outline} {qualified : String} {fragment : Fragment} :
    fragment ∈ fragmentsNamed outlines qualified ↔
      (∃ outline ∈ outlines, fragment ∈ outline.types) ∧ fragment.qualifiedName = qualified := by
  simp [fragmentsNamed]

theorem valuesOf_fragments (fragments : List Fragment) (qualified : String) :
    Assoc.valuesOf (fragments.map fun f => (f.qualifiedName, f)) qualified =
      fragments.filter (·.qualifiedName == qualified) := by
  simp [Assoc.valuesOf, List.filter_map, Function.comp_def]

theorem name_of_group {fragments : List Fragment} {name : String} {group : List Fragment}
    {decl : TypeDecl}
    (hmem : (name, group) ∈ Assoc.groups (fragments.map fun f => (f.qualifiedName, f)))
    (hmerge : group.head?.map (TypeDecl.merge · group) = some decl) :
    decl.qualifiedName = name := by
  obtain ⟨first, hhead, rfl⟩ := Option.map_eq_some_iff.1 hmerge
  rw [Assoc.mem_groups_iff, valuesOf_fragments] at hmem
  have hfirst : first ∈ fragments.filter (·.qualifiedName == name) := by
    rw [← hmem.1]
    exact List.mem_of_head? hhead
  exact beq_iff_eq.1 (List.mem_filter.1 hfirst).2

/-- Leaving out fragments by their qualified names leaves out the types of these names. -/
theorem ofFragments_filter (keep : String → Bool) (fragments : List Fragment) :
    ofFragments (fragments.filter (keep ·.qualifiedName)) =
      (ofFragments fragments).filter (keep ·.qualifiedName) := by
  have hpairs : (fragments.filter (keep ·.qualifiedName)).map (fun f => (f.qualifiedName, f)) =
      (fragments.map fun f => (f.qualifiedName, f)).filter (keep ·.1) := by
    rw [List.filter_map]
    rfl
  rw [ofFragments, ofFragments, hpairs, Assoc.groups_filter, List.filterMap_filter,
    List.filter_filterMap]
  refine List.filterMap_congr fun pair hpair => ?_
  obtain ⟨name, group⟩ := pair
  cases hmerge : group.head?.map (TypeDecl.merge · group) with
  | none => simp [hmerge]
  | some decl =>
      rw [← name_of_group hpair hmerge]
      by_cases hkeep : keep decl.qualifiedName = true <;> simp [hmerge, hkeep, Option.filter]

/-- A type of a table is the merge of the fragments of its name. -/
theorem mem_ofOutlines_iff {outlines : List Outline} {decl : TypeDecl} :
    decl ∈ ofOutlines outlines ↔
      ∃ first rest, fragmentsNamed outlines decl.qualifiedName = first :: rest ∧
        decl = .merge first (first :: rest) := by
  simp only [ofOutlines, List.mem_filterMap, Prod.exists]
  constructor
  · rintro ⟨name, group, hmem, hmerge⟩
    have hname := name_of_group hmem hmerge
    obtain ⟨first, hhead, rfl⟩ := Option.map_eq_some_iff.1 hmerge
    obtain ⟨rest, rfl⟩ := List.head?_eq_some_iff.1 hhead
    rw [Assoc.mem_groups_iff, valuesOf_fragments] at hmem
    exact ⟨first, rest, by rw [hname]; exact hmem.1.symm, rfl⟩
  · rintro ⟨first, rest, hgroup, hdecl⟩
    refine ⟨decl.qualifiedName, first :: rest, ?_, by simp [hdecl]⟩
    rw [Assoc.mem_groups_iff, valuesOf_fragments]
    exact ⟨hgroup.symm, by simp⟩

theorem eq_of_qualifiedName_eq {outlines : List Outline} {a b : TypeDecl}
    (ha : a ∈ ofOutlines outlines) (hb : b ∈ ofOutlines outlines)
    (h : a.qualifiedName = b.qualifiedName) : a = b := by
  obtain ⟨first, rest, hfragments, hmerge⟩ := mem_ofOutlines_iff.1 ha
  obtain ⟨first', rest', hfragments', hmerge'⟩ := mem_ofOutlines_iff.1 hb
  rw [h, hfragments'] at hfragments
  cases hfragments
  rw [hmerge, hmerge']

theorem nodup_qualifiedNames (outlines : List Outline) :
    ((ofOutlines outlines).map (·.qualifiedName)).Nodup := by
  rw [List.nodup_iff_pairwise_ne, List.pairwise_map, ofOutlines]
  have hkeys := Assoc.nodup_keys_groups
    (((outlines.mergeSort fun a b => decide (a.path ≤ b.path)).flatMap (·.types)).map
      fun f => (f.qualifiedName, f))
  rw [Assoc.keys, List.nodup_iff_pairwise_ne, List.pairwise_map] at hkeys
  refine List.pairwise_filterMap.2 (hkeys.imp_of_mem ?_)
  rintro ⟨name, group⟩ ⟨name', group'⟩ hmem hmem' hne decl hdecl decl' hdecl'
  rw [name_of_group hmem hdecl, name_of_group hmem' hdecl']
  exact hne

theorem find?_eq_some_iff {outlines : List Outline} {qualified : String} {decl : TypeDecl} :
    (ofOutlines outlines).find? qualified = some decl ↔
      decl ∈ ofOutlines outlines ∧ decl.qualifiedName = qualified := by
  constructor
  · intro h
    exact ⟨List.mem_of_find?_eq_some h, by simpa using List.find?_some h⟩
  · rintro ⟨hmem, hname⟩
    obtain ⟨found, hfound⟩ : ∃ found, (ofOutlines outlines).find? qualified = some found :=
      Option.isSome_iff_exists.1 (List.find?_isSome.2 ⟨decl, hmem, by simpa using hname⟩)
    have hsame : found.qualifiedName = qualified := by simpa using List.find?_some hfound
    rw [hfound, eq_of_qualifiedName_eq (List.mem_of_find?_eq_some hfound) hmem
      (hsame.trans hname.symm)]

/-- A table knows exactly the names that some outline declares. -/
theorem isSome_find?_iff {outlines : List Outline} {qualified : String} :
    ((ofOutlines outlines).find? qualified).isSome ↔
      ∃ outline ∈ outlines, ∃ fragment ∈ outline.types, fragment.qualifiedName = qualified := by
  rw [Option.isSome_iff_exists]
  simp only [find?_eq_some_iff, mem_ofOutlines_iff]
  constructor
  · rintro ⟨decl, ⟨first, rest, hfragments, -⟩, rfl⟩
    have hfirst : first ∈ fragmentsNamed outlines decl.qualifiedName := by simp [hfragments]
    obtain ⟨⟨outline, houtline, hmem⟩, hname⟩ := mem_fragmentsNamed.1 hfirst
    exact ⟨outline, houtline, first, hmem, hname⟩
  · rintro ⟨outline, houtline, fragment, hmem, hname⟩
    have hfragment : fragment ∈ fragmentsNamed outlines qualified :=
      mem_fragmentsNamed.2 ⟨⟨outline, houtline, hmem⟩, hname⟩
    obtain ⟨first, rest, hfragments⟩ := List.exists_cons_of_ne_nil (List.ne_nil_of_mem hfragment)
    have hfirst : first.qualifiedName = qualified :=
      (mem_fragmentsNamed.1 (hfragments ▸ List.mem_cons_self)).2
    refine ⟨.merge first (first :: rest), ⟨first, rest, ?_, rfl⟩, hfirst⟩
    exact (congrArg (fragmentsNamed outlines) hfirst).trans hfragments

end TypeTable
end SandboxLint
