import Mathlib.Data.List.Nodup
import SandboxLint.Sink
import SandboxLint.Text.Order

/-!
Sorting by a comparison that is total and transitive. Leaving elements out before or
after sorting makes no difference, and where the comparison tells the elements apart
the order in which they came makes none. Diagnostics are told apart by all but their
severity.
-/

namespace SandboxLint
namespace Sorting

variable {α : Type} {le : α → α → Bool}

/-- Sorting puts a first element in front of exactly those that it may stand before. -/
theorem mergeSort_cut (trans : ∀ a b c, le a b = true → le b c = true → le a c = true)
    (total : ∀ a b, (le a b || le b a) = true) (a : α) (xs : List α) :
    ∃ before after, (a :: xs).mergeSort le = before ++ a :: after ∧
      xs.mergeSort le = before ++ after ∧ (∀ b ∈ before, le a b = false) ∧
        ∀ b ∈ after, le a b = true := by
  obtain ⟨before, after, hcons, hrest, hbefore⟩ := List.mergeSort_cons trans total a xs
  refine ⟨before, after, hcons, hrest, fun b hb => by simpa using hbefore b hb, fun b hb => ?_⟩
  have hsorted : (before ++ a :: after).Pairwise (le · ·) :=
    hcons ▸ List.pairwise_mergeSort trans total _
  exact (List.pairwise_cons.1 (List.pairwise_append.1 hsorted).2.1).1 b hb

/-- A list that a test cuts in two is cut at one place only. -/
theorem append_inj_of_test {p : α → Bool} {before after before' after' : List α}
    (h : before ++ after = before' ++ after') (hbefore : ∀ a ∈ before, p a = true)
    (hafter : ∀ a ∈ after, p a = false) (hbefore' : ∀ a ∈ before', p a = true)
    (hafter' : ∀ a ∈ after', p a = false) : before = before' ∧ after = after' := by
  have hcut : ∀ front back : List α, (∀ a ∈ front, p a = true) → (∀ a ∈ back, p a = false) →
      (front ++ back).filter p = front := by
    intro front back hfront hback
    rw [List.filter_append, List.filter_eq_self.2 hfront, List.filter_eq_nil_iff.2, List.append_nil]
    intro a ha
    simp [hback a ha]
  have hfronts : before = before' := by
    rw [← hcut before after hbefore hafter, h, hcut before' after' hbefore' hafter']
  subst hfronts
  exact ⟨rfl, List.append_cancel_left h⟩

/-- Leaving out before sorting is leaving out after sorting. -/
theorem mergeSort_filter (trans : ∀ a b c, le a b = true → le b c = true → le a c = true)
    (total : ∀ a b, (le a b || le b a) = true) (p : α → Bool) (xs : List α) :
    (xs.filter p).mergeSort le = (xs.mergeSort le).filter p := by
  induction xs with
  | nil => simp
  | cons a xs ih =>
      obtain ⟨before, after, hcons, hrest, hbefore, hafter⟩ := mergeSort_cut trans total a xs
      rw [hcons, List.filter_append]
      by_cases hp : p a = true
      · obtain ⟨before', after', hcons', hrest', hbefore', hafter'⟩ :=
          mergeSort_cut trans total a (xs.filter p)
        have hsame : before' ++ after' = before.filter p ++ after.filter p := by
          rw [← hrest', ih, hrest, List.filter_append]
        obtain ⟨rfl, rfl⟩ := append_inj_of_test (p := fun b => !le a b) hsame
          (fun b hb => by simp [hbefore' b hb]) (fun b hb => by simp [hafter' b hb])
          (fun b hb => by simp [hbefore b (List.mem_filter.1 hb).1])
          (fun b hb => by simp [hafter b (List.mem_filter.1 hb).1])
        rw [List.filter_cons_of_pos hp, List.filter_cons_of_pos hp, hcons']
      · rw [List.filter_cons_of_neg hp, List.filter_cons_of_neg hp, ih, hrest, List.filter_append]

/-- Where the comparison tells elements apart, sorting forgets the order in which they came. -/
theorem mergeSort_eq_of_perm (trans : ∀ a b c, le a b = true → le b c = true → le a c = true)
    (total : ∀ a b, (le a b || le b a) = true) {xs ys : List α} (h : xs.Perm ys)
    (apart : ∀ a ∈ xs, ∀ b ∈ xs, le a b = true → le b a = true → a = b) :
    xs.mergeSort le = ys.mergeSort le := by
  have hperm : (xs.mergeSort le).Perm (ys.mergeSort le) :=
    (List.mergeSort_perm xs le).trans (h.trans (List.mergeSort_perm ys le).symm)
  refine hperm.eq_of_pairwise (fun a b ha hb => ?_) (List.pairwise_mergeSort trans total xs)
    (List.pairwise_mergeSort trans total ys)
  exact apart a (List.mem_mergeSort.1 ha) b (h.mem_iff.2 (List.mem_mergeSort.1 hb))

/-- Comparisons that agree on the elements of a list sort it alike. -/
theorem mergeSort_congr (le le' : α → α → Bool)
    (trans : ∀ a b c, le a b = true → le b c = true → le a c = true)
    (total : ∀ a b, (le a b || le b a) = true)
    (trans' : ∀ a b c, le' a b = true → le' b c = true → le' a c = true)
    (total' : ∀ a b, (le' a b || le' b a) = true) {xs : List α}
    (h : ∀ a ∈ xs, ∀ b ∈ xs, le a b = le' a b) : xs.mergeSort le = xs.mergeSort le' := by
  induction xs with
  | nil => rw [List.mergeSort_nil, List.mergeSort_nil]
  | cons a xs ih =>
      have hrest : xs.mergeSort le = xs.mergeSort le' :=
        ih fun b hb c hc => h b (List.mem_cons_of_mem _ hb) c (List.mem_cons_of_mem _ hc)
      obtain ⟨before, after, hsorted, hparts, hbefore, hafter⟩ := mergeSort_cut trans total a xs
      obtain ⟨before', after', hsorted', hparts', hbefore', hafter'⟩ :=
        mergeSort_cut trans' total' a xs
      have hagree : ∀ b ∈ before' ++ after', le a b = le' a b := by
        intro b hb
        rw [← hparts', List.mem_mergeSort] at hb
        exact h a List.mem_cons_self b (List.mem_cons_of_mem _ hb)
      have hsame : before ++ after = before' ++ after' := by rw [← hparts, hrest, hparts']
      obtain ⟨rfl, rfl⟩ := append_inj_of_test (p := fun b => !le a b) hsame
        (fun b hb => by simp [hbefore b hb]) (fun b hb => by simp [hafter b hb])
        (fun b hb => by simp [hagree b (List.mem_append_left _ hb), hbefore' b hb])
        (fun b hb => by simp [hagree b (List.mem_append_right _ hb), hafter' b hb])
      rw [hsorted, hsorted']

theorem key_le_trans (key : α → String) (a b c : α) (hab : decide (key a ≤ key b) = true)
    (hbc : decide (key b ≤ key c) = true) : decide (key a ≤ key c) = true :=
  decide_eq_true (String.le_trans (of_decide_eq_true hab) (of_decide_eq_true hbc))

theorem key_le_total (key : α → String) (a b : α) :
    (decide (key a ≤ key b) || decide (key b ≤ key a)) = true := by
  simpa using String.le_total (key a) (key b)

/-- Where keys stand once, sorting by them forgets the order in which the elements came. -/
theorem mergeSort_key_eq_of_perm {key : α → String} {xs ys : List α} (h : xs.Perm ys)
    (hkeys : (xs.map key).Nodup) :
    (xs.mergeSort fun a b => decide (key a ≤ key b)) =
      ys.mergeSort fun a b => decide (key a ≤ key b) := by
  refine mergeSort_eq_of_perm (key_le_trans key) (key_le_total key) h ?_
  intro a ha b hb hab hba
  have hsame : key a = key b := String.le_antisymm (of_decide_eq_true hab) (of_decide_eq_true hba)
  exact List.inj_on_of_nodup_map hkeys ha hb hsame

theorem strict_mergeSort_key {key : α → String} {xs : List α} (hkeys : (xs.map key).Nodup) :
    ((xs.mergeSort fun a b => decide (key a ≤ key b)).map key).Pairwise (· < ·) := by
  have hsorted := List.pairwise_mergeSort (key_le_trans key) (key_le_total key) xs
  have hnodup : ((xs.mergeSort fun a b => decide (key a ≤ key b)).map key).Nodup :=
    ((List.mergeSort_perm xs _).map key).nodup_iff.2 hkeys
  rw [List.nodup_iff_pairwise_ne, List.pairwise_map] at hnodup
  rw [List.pairwise_map]
  refine (hsorted.and hnodup).imp fun h => ?_
  exact String.not_le.1 fun hle => h.2 (String.le_antisymm (of_decide_eq_true h.1) hle)

end Sorting

namespace Text

theorem sorted_eq_of_perm {xs ys : List String} (h : xs.Perm ys) : sorted xs = sorted ys := by
  refine Sorting.mergeSort_eq_of_perm ?_ ?_ h ?_
  · simpa using fun a b c => String.le_trans
  · simpa using String.le_total
  · simpa using fun a _ b _ => String.le_antisymm

theorem nodup_eraseDups (xs : List String) : xs.eraseDups.Nodup := by
  induction hlength : xs.length using Nat.strongRecOn generalizing xs with
  | _ length ih =>
      cases xs with
      | nil => simp
      | cons first rest =>
          have hshorter : (rest.filter fun x => !x == first).length < length := by
            have hle := List.length_filter_le (fun x => !x == first) rest
            rw [List.length_cons] at hlength
            omega
          rw [List.eraseDups_cons, List.nodup_cons, List.mem_eraseDups]
          exact ⟨by simp, ih _ hshorter _ rfl⟩

/-- The texts in order, each once, depend only on which texts there are. -/
theorem sortedSet_eq_of_mem_iff {xs ys : List String} (h : ∀ text, text ∈ xs ↔ text ∈ ys) :
    sortedSet xs = sortedSet ys := by
  refine sorted_eq_of_perm ?_
  refine (List.perm_ext_iff_of_nodup (nodup_eraseDups xs) (nodup_eraseDups ys)).2 ?_
  simpa using h

theorem sorted_filter (keep : String → Bool) (xs : List String) :
    sorted (xs.filter keep) = (sorted xs).filter keep :=
  Sorting.mergeSort_filter (Sorting.key_le_trans id) (Sorting.key_le_total id) keep xs

theorem sortedSet_filter (keep : String → Bool) (xs : List String) :
    sortedSet (xs.filter keep) = (sortedSet xs).filter keep := by
  rw [sortedSet, sortedSet, ← sorted_filter]
  refine sorted_eq_of_perm ?_
  refine (List.perm_ext_iff_of_nodup (nodup_eraseDups _) ((nodup_eraseDups xs).filter keep)).2 ?_
  simp

end Text

namespace Diagnostic

/-- The order of diagnostics is lexicographic. -/
theorem ordered_iff (a b : Diagnostic) : a.ordered b = true ↔
    a.path < b.path ∨ a.path = b.path ∧
      (a.line < b.line ∨ a.line = b.line ∧
        (a.column < b.column ∨ a.column = b.column ∧
          (a.code < b.code ∨ a.code = b.code ∧ a.message ≤ b.message))) := by
  by_cases h₁ : a.path = b.path
  · by_cases h₂ : a.line = b.line
    · by_cases h₃ : a.column = b.column
      · by_cases h₄ : a.code = b.code
        · simp [ordered, h₁, h₂, h₃, h₄]
        · simp [ordered, h₁, h₂, h₃, h₄]
      · simp [ordered, h₁, h₂, h₃]
    · simp [ordered, h₁, h₂]
  · simp [ordered, h₁]

theorem ordered_trans (a b c : Diagnostic) (hab : a.ordered b = true) (hbc : b.ordered c = true) :
    a.ordered c = true := by
  rw [ordered_iff] at hab hbc ⊢
  have hpaths : a.path < b.path → b.path < c.path → a.path < c.path := String.lt_trans
  have hmessages : a.message ≤ b.message → b.message ≤ c.message → a.message ≤ c.message :=
    String.le_trans
  grind

theorem ordered_total (a b : Diagnostic) : (a.ordered b || b.ordered a) = true := by
  rw [Bool.or_eq_true, ordered_iff, ordered_iff]
  have hpaths : a.path < b.path ∨ a.path = b.path ∨ b.path < a.path := by
    by_cases hlt : a.path < b.path
    · exact .inl hlt
    · by_cases hgt : b.path < a.path
      · exact .inr (.inr hgt)
      · exact .inr (.inl (String.le_antisymm (String.not_lt.1 hgt) (String.not_lt.1 hlt)))
  have hmessages := String.le_total a.message b.message
  grind

/-- Diagnostics that the order does not tell apart differ in their severity at most. -/
theorem eq_of_ordered {a b : Diagnostic} (hab : a.ordered b = true) (hba : b.ordered a = true)
    (hseverity : a.code = b.code → a.severity = b.severity) : a = b := by
  rw [ordered_iff] at hab hba
  have hpaths : a.path < b.path → ¬ b.path < a.path := String.lt_asymm
  have hirrefl : ¬ b.path < b.path := String.lt_irrefl b.path
  have hmessages : a.message ≤ b.message → b.message ≤ a.message → a.message = b.message :=
    String.le_antisymm
  cases a
  cases b
  simp only [mk.injEq] at *
  grind

end Diagnostic
end SandboxLint
