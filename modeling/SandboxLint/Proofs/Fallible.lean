import Mathlib.Data.List.Forall2

/-!
Computations that may fail, one for each element of a list. Together they have a
result exactly when each of them has one, and the results stand in order.
-/

namespace SandboxLint
namespace Fallible

variable {ε α β γ : Type}

theorem bind_eq_ok {x : Except ε α} {f : α → Except ε β} {b : β} :
    (x >>= f) = .ok b ↔ ∃ a, x = .ok a ∧ f a = .ok b := by
  cases x with
  | ok a => simp [bind, Except.bind]
  | error e => simp [bind, Except.bind]

theorem bind_eq_error {x : Except ε α} {f : α → Except ε β} {e : ε} :
    (x >>= f) = .error e ↔ x = .error e ∨ ∃ a, x = .ok a ∧ f a = .error e := by
  cases x with
  | ok a => simp [bind, Except.bind]
  | error e' => simp [bind, Except.bind]

theorem isOk_iff {x : Except ε α} : (∃ a, x = .ok a) ↔ ¬ ∃ e, x = .error e := by
  cases x <;> simp

theorem bind_isOk {x : Except ε α} {f : α → Except ε β} (hx : ∃ a, x = .ok a)
    (hf : ∀ a, ∃ b, f a = .ok b) : ∃ b, (x >>= f) = .ok b := by
  obtain ⟨a, rfl⟩ := hx
  exact hf a

theorem map_isOk {x : Except ε α} (hx : ∃ a, x = .ok a) (f : α → β) : ∃ b, f <$> x = .ok b := by
  obtain ⟨a, rfl⟩ := hx
  exact ⟨f a, rfl⟩

theorem mapM_eq_ok {f : α → Except ε β} {xs : List α} {ys : List β} :
    xs.mapM f = .ok ys ↔ List.Forall₂ (fun x y => f x = .ok y) xs ys := by
  induction xs generalizing ys with
  | nil => simp [pure, Except.pure, eq_comm]
  | cons x xs ih =>
      rw [List.mapM_cons, bind_eq_ok]
      constructor
      · rintro ⟨y, hy, hrest⟩
        obtain ⟨rest, hxs, heq⟩ := bind_eq_ok.1 hrest
        cases heq
        exact .cons hy (ih.1 hxs)
      · intro h
        cases h with
        | cons hy hrest => exact ⟨_, hy, bind_eq_ok.2 ⟨_, ih.2 hrest, rfl⟩⟩

theorem mapM_isOk_iff {f : α → Except ε β} {xs : List α} :
    (∃ ys, xs.mapM f = .ok ys) ↔ ∀ x ∈ xs, ∃ y, f x = .ok y := by
  simp only [mapM_eq_ok]
  induction xs with
  | nil => simp
  | cons x xs ih =>
      rw [List.forall_mem_cons, ← ih]
      constructor
      · rintro ⟨ys, h⟩
        cases h with
        | cons hy hrest => exact ⟨⟨_, hy⟩, ⟨_, hrest⟩⟩
      · rintro ⟨⟨y, hy⟩, ⟨ys, hrest⟩⟩
        exact ⟨y :: ys, .cons hy hrest⟩

theorem mapM_congr {f g : α → Except ε β} {xs : List α} (h : ∀ x ∈ xs, f x = g x) :
    xs.mapM f = xs.mapM g := by
  induction xs with
  | nil => rfl
  | cons x xs ih =>
      obtain ⟨hx, hrest⟩ := List.forall_mem_cons.1 h
      rw [List.mapM_cons, List.mapM_cons, hx, ih hrest]

theorem mem_of_mapM {f : α → Except ε β} {xs : List α} {ys : List β}
    (h : xs.mapM f = .ok ys) {y : β} : y ∈ ys ↔ ∃ x ∈ xs, f x = .ok y := by
  have hall := mapM_eq_ok.1 h
  clear h
  induction hall with
  | nil => simp
  | cons hy _ ih =>
      simp only [List.mem_cons, exists_eq_or_imp, hy, Except.ok.injEq, ih]
      exact or_congr_left eq_comm

/-- Results of which a part is known without running anything have that part in order. -/
theorem map_of_mapM {f : α → Except ε β} {g : α → γ} {k : β → γ} {xs : List α} {ys : List β}
    (h : xs.mapM f = .ok ys) (hf : ∀ x y, f x = .ok y → k y = g x) : ys.map k = xs.map g := by
  have hall := mapM_eq_ok.1 h
  clear h
  induction hall with
  | nil => rfl
  | cons hy _ ih => rw [List.map_cons, List.map_cons, hf _ _ hy, ih]

theorem exists_of_mem_of_mapM {f : α → Except ε β} {xs : List α} {ys : List β}
    (h : xs.mapM f = .ok ys) {x : α} (hx : x ∈ xs) : ∃ y ∈ ys, f x = .ok y := by
  obtain ⟨y, hy⟩ := mapM_isOk_iff.1 ⟨ys, h⟩ x hx
  exact ⟨y, (mem_of_mapM h).2 ⟨x, hx, hy⟩, hy⟩

/-- The first element of a list that fails does so with an error. -/
def FirstFails (fails : α → ε → Prop) (xs : List α) (e : ε) : Prop :=
  ∃ before x after, xs = before ++ x :: after ∧ (∀ b ∈ before, ∀ e, ¬ fails b e) ∧ fails x e

theorem firstFails_cons {fails : α → ε → Prop} {x : α} {xs : List α} {e : ε} :
    FirstFails fails (x :: xs) e ↔
      fails x e ∨ (∀ e, ¬ fails x e) ∧ FirstFails fails xs e := by
  constructor
  · rintro ⟨before, failing, after, hcut, hbefore, hfails⟩
    cases before with
    | nil =>
        cases hcut
        exact .inl hfails
    | cons first before =>
        cases hcut
        obtain ⟨hfirst, hbefore⟩ := List.forall_mem_cons.1 hbefore
        exact .inr ⟨hfirst, before, failing, after, rfl, hbefore, hfails⟩
  · rintro (hfails | ⟨hfirst, before, failing, after, rfl, hbefore, hfails⟩)
    · exact ⟨[], x, xs, rfl, List.forall_mem_nil _, hfails⟩
    · exact ⟨x :: before, failing, after, rfl, List.forall_mem_cons.2 ⟨hfirst, hbefore⟩, hfails⟩

theorem firstFails_congr {p q : α → ε → Prop} {xs : List α} {e : ε}
    (h : ∀ x ∈ xs, ∀ e, p x e ↔ q x e) : FirstFails p xs e ↔ FirstFails q xs e := by
  induction xs with
  | nil => simp [FirstFails]
  | cons x xs ih =>
      obtain ⟨hx, hxs⟩ := List.forall_mem_cons.1 h
      rw [firstFails_cons, firstFails_cons, ih hxs]
      simp only [hx]

theorem exists_firstFails_iff {fails : α → ε → Prop} {xs : List α} :
    (∃ e, FirstFails fails xs e) ↔ ∃ x ∈ xs, ∃ e, fails x e := by
  induction xs with
  | nil => simp [FirstFails]
  | cons x xs ih =>
      rw [List.exists_mem_cons_iff, ← ih]
      by_cases hx : ∃ e, fails x e
      · obtain ⟨e, he⟩ := hx
        exact ⟨fun _ => .inl ⟨e, he⟩, fun _ => ⟨e, firstFails_cons.2 (.inl he)⟩⟩
      · simp only [firstFails_cons, not_exists.1 hx, not_false_eq_true, implies_true, true_and,
          false_or, exists_false]

/-- Computations in a row fail as the first of them does that fails. -/
theorem mapM_eq_error {f : α → Except ε β} {xs : List α} {e : ε} :
    xs.mapM f = .error e ↔ FirstFails (fun x e => f x = .error e) xs e := by
  induction xs with
  | nil => simp [FirstFails, pure, Except.pure]
  | cons x xs ih =>
      rw [List.mapM_cons, firstFails_cons, bind_eq_error, ← ih]
      refine or_congr_right ?_
      cases hx : f x with
      | error e' => simp
      | ok y =>
          simp only [Except.ok.injEq, exists_eq_left', bind_eq_error, reduceCtorEq,
            not_false_eq_true, implies_true, true_and, or_iff_left_iff_imp]
          rintro ⟨ys, -, hys⟩
          cases hys

end Fallible
end SandboxLint
