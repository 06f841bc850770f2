import Mathlib.Data.List.DropRight
import Mathlib.Data.List.TakeWhile
import SandboxLint.Text.Blank
import SandboxLint.Text.Split

/-!
What is left of a text when something is cut off. What stands before or behind a
separator is found where the separator does not stand in it, what belongs to the
class that is cut off at an end goes, and the rest stays as a run of neighbours.
-/

namespace SandboxLint
namespace Text

section Class

variable {p : Char → Bool} {cs ending : List Char}

/-- A text whose last character does not satisfy `p`. -/
def EndsOutside (p : Char → Bool) (cs : List Char) : Prop :=
  ∃ front c, cs = front ++ [c] ∧ p c = false

theorem EndsOutside.append (h : EndsOutside p ending) (front : List Char) :
    EndsOutside p (front ++ ending) := by
  obtain ⟨middle, c, rfl, hc⟩ := h
  exact ⟨front ++ middle, c, (List.append_assoc ..).symm, hc⟩

/-- A text goes on ending outside a class if what is added ends so too, or is nothing. -/
theorem EndsOutside.add (h : EndsOutside p cs) (hending : ending = [] ∨ EndsOutside p ending) :
    EndsOutside p (cs ++ ending) := by
  obtain rfl | hending := hending
  · rwa [List.append_nil]
  · exact hending.append cs

theorem EndsOutside.dropEndWhile_eq (h : EndsOutside p cs) : dropEndWhile p cs = cs := by
  obtain ⟨front, c, rfl, hc⟩ := h
  exact List.rdropWhile_concat_neg p front c (by simp [hc])

theorem dropEndWhile_append (hending : ∀ c ∈ ending, p c = true) :
    dropEndWhile p (cs ++ ending) = dropEndWhile p cs := by
  have hreverse : ∀ c ∈ ending.reverse, p c = true :=
    fun c hc => hending c (List.mem_reverse.1 hc)
  rw [dropEndWhile, List.reverse_append, List.dropWhile_append_of_pos hreverse]
  rfl

theorem EndsOutside.dropEndWhile_append (h : EndsOutside p cs)
    (hending : ∀ c ∈ ending, p c = true) : dropEndWhile p (cs ++ ending) = cs := by
  rw [Text.dropEndWhile_append hending, h.dropEndWhile_eq]

theorem dropEndWhile_isPrefix (p : Char → Bool) (cs : List Char) : dropEndWhile p cs <+: cs := by
  rw [dropEndWhile, ← List.reverse_suffix, List.reverse_reverse]
  exact List.dropWhile_suffix p

theorem trim_isInfix (cs : List Char) : trim cs <:+: cs :=
  (dropEndWhile_isPrefix isBlank _).isInfix.trans (List.dropWhile_suffix isBlank).isInfix

/-- A text that neither begins nor ends with a blank. -/
def Trimmed (cs : List Char) : Prop :=
  (∃ c rest, cs = c :: rest ∧ isBlank c = false) ∧ EndsOutside isBlank cs

/-- Blanks around a text are trimmed off, and no more than them. -/
theorem Trimmed.trim_blanks {before after : List Char} (h : Trimmed cs)
    (hbefore : ∀ c ∈ before, isBlank c = true) (hafter : ∀ c ∈ after, isBlank c = true) :
    trim (before ++ cs ++ after) = cs := by
  obtain ⟨⟨c, rest, hcs, hc⟩, hlast⟩ := h
  have hkept : (cs ++ after).dropWhile isBlank = cs ++ after := by
    rw [hcs, List.cons_append, List.dropWhile_cons_of_neg (by simp [hc])]
  rw [trim, dropAroundWhile, List.append_assoc, List.dropWhile_append_of_pos hbefore, hkept,
    hlast.dropEndWhile_append hafter]

theorem Trimmed.trim_eq (h : Trimmed cs) : trim cs = cs := by
  have hnone : ∀ c ∈ ([] : List Char), isBlank c = true := fun c hc => nomatch hc
  simpa using h.trim_blanks hnone hnone

end Class

section Separator

variable {c : Char} {cs before after front ending : List Char}

theorem ne_of_notMem (h : c ∉ cs) : ∀ a ∈ cs, (a != c) = true :=
  fun _ ha => bne_iff_ne.2 fun heq => h (heq ▸ ha)

theorem ne_of_notMem_reverse (h : c ∉ cs) : ∀ a ∈ cs.reverse, (a != c) = true :=
  fun a ha => ne_of_notMem h a (List.mem_reverse.1 ha)

theorem beforeFirst_of_notMem (h : c ∉ cs) : beforeFirst c cs = cs :=
  List.takeWhile_eq_self_iff.2 (ne_of_notMem h)

theorem afterFirst_of_notMem (h : c ∉ cs) : afterFirst c cs = [] := by
  rw [afterFirst, List.dropWhile_eq_nil_iff.2 (ne_of_notMem h), List.drop_nil]

theorem beforeFirst_append_of_notMem (h : c ∉ front) (rest : List Char) :
    beforeFirst c (front ++ rest) = front ++ beforeFirst c rest :=
  List.takeWhile_append_of_pos (ne_of_notMem h)

theorem beforeFirst_append (after : List Char) (h : c ∉ before) :
    beforeFirst c (before ++ c :: after) = before := by
  rw [beforeFirst_append_of_notMem h]
  simp [beforeFirst]

theorem afterFirst_append (after : List Char) (h : c ∉ before) :
    afterFirst c (before ++ c :: after) = after := by
  rw [afterFirst, List.dropWhile_append_of_pos (ne_of_notMem h)]
  simp

theorem afterLast_of_notMem (h : c ∉ cs) : afterLast c cs = cs := by
  rw [afterLast, List.takeWhile_eq_self_iff.2 (ne_of_notMem_reverse h), List.reverse_reverse]

theorem afterLast_append (front : List Char) (h : c ∉ ending) :
    afterLast c (front ++ c :: ending) = ending := by
  simp [afterLast, List.takeWhile_append_of_pos (ne_of_notMem_reverse h)]

/-- A text with a character in it is cut where the character stands last. -/
theorem exists_cut_at_last (h : c ∈ cs) :
    ∃ front ending, cs = front ++ c :: ending ∧ c ∉ ending := by
  obtain ⟨ending, front, hreverse, hending⟩ := List.eq_append_cons_of_mem (List.mem_reverse.2 h)
  refine ⟨front.reverse, ending.reverse, ?_, mt List.mem_reverse.1 hending⟩
  simpa using congrArg List.reverse hreverse

theorem beforeLast_of_notMem (h : c ∉ cs) : beforeLast c cs = [] := by
  rw [beforeLast, List.dropWhile_eq_nil_iff.2 (ne_of_notMem_reverse h)]
  rfl

theorem beforeLast_append (front : List Char) (h : c ∉ ending) :
    beforeLast c (front ++ c :: ending) = front := by
  simp [beforeLast, List.dropWhile_append_of_pos (ne_of_notMem_reverse h)]

theorem afterLast_append_of_notMem (front : List Char) (h : c ∉ ending) :
    afterLast c (front ++ ending) = afterLast c front ++ ending := by
  rw [afterLast, List.reverse_append, List.takeWhile_append_of_pos (ne_of_notMem_reverse h),
    List.reverse_append, List.reverse_reverse, afterLast]

theorem afterLast_suffix (c : Char) (cs : List Char) : afterLast c cs <:+ cs := by
  rw [afterLast, ← List.reverse_prefix, List.reverse_reverse]
  exact List.takeWhile_prefix _

/-- What ends a text behind some separator is no longer than what stands behind the first one. -/
theorem length_le_of_cut (hbefore : c ∉ before)
    (h : front ++ c :: ending = before ++ c :: after) : ending.length ≤ after.length := by
  cases List.append_eq_append_iff.1 h with
  | inl hlonger =>
      obtain ⟨middle, rfl, hrest⟩ := hlonger
      cases middle with
      | nil =>
          cases hrest
          exact Nat.le_refl _
      | cons d middle =>
          obtain ⟨rfl, -⟩ := List.cons.inj hrest
          exact absurd (List.mem_append_right front List.mem_cons_self) hbefore
  | inr hshorter =>
      obtain ⟨middle, -, hrest⟩ := hshorter
      have hlength := congrArg List.length hrest
      simp only [List.length_append, List.length_cons] at hlength
      omega

end Separator

section Ending

variable {ending cs : List Char}

/-- An ending that is not empty is dropped from every text that has it. -/
theorem dropEnding_eq_self_iff (hsome : ending ≠ []) :
    dropEnding ending cs = cs ↔ ending.isSuffixOf cs = false := by
  rw [dropEnding]
  split
  · next hends =>
      have hlength : (cs.take (cs.length - ending.length)).length < cs.length := by
        have hcover := (List.isSuffixOf_iff_suffix.1 hends).length_le
        have hpositive := List.length_pos_of_ne_nil hsome
        rw [List.length_take]
        omega
      rw [hends]
      exact iff_of_false (fun heq => hlength.ne (congrArg List.length heq)) Bool.noConfusion
  · next hends => exact iff_of_true rfl (Bool.eq_false_iff.2 hends)

end Ending

section Scope

variable {cs : List Char}

theorem afterScopeFrom_suffix (part cs : List Char) : afterScopeFrom part cs <:+ part ++ cs := by
  fun_induction afterScopeFrom part cs with
  | case1 part rest ih =>
      refine ih.trans ⟨part ++ [':', ':'], ?_⟩
      simp
  | case2 part c rest _ ih => simpa using ih
  | case3 part => simp

theorem afterScope_suffix (cs : List Char) : afterScope cs <:+ cs :=
  afterScopeFrom_suffix [] cs

theorem afterScopeFrom_append (part rest : List Char) (h : ':' ∉ cs) :
    afterScopeFrom part (cs ++ rest) = afterScopeFrom (part ++ cs) rest := by
  induction cs generalizing part with
  | nil => rw [List.nil_append, List.append_nil]
  | cons c cs ih =>
      rw [List.mem_cons, not_or] at h
      have hstep : afterScopeFrom part (c :: (cs ++ rest)) =
          afterScopeFrom (part ++ [c]) (cs ++ rest) := by
        rw [afterScopeFrom]
        exact fun _ hcolon _ => h.1 hcolon.symm
      rw [List.cons_append, hstep, ih _ h.2, List.append_assoc, List.singleton_append]

theorem afterScope_of_notMem (h : ':' ∉ cs) : afterScope cs = cs := by
  have hall := afterScopeFrom_append [] [] h
  rwa [List.append_nil] at hall

theorem afterScope_append (rest : List Char) (h : ':' ∉ cs) :
    afterScope (cs ++ ':' :: ':' :: rest) = afterScope rest := by
  rw [afterScope, afterScopeFrom_append _ _ h, afterScopeFrom]
  rfl

end Scope

end Text
end SandboxLint
