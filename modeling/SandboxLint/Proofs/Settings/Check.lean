import Mathlib.Data.List.Basic
import SandboxLint.Settings.Check

/-!
Laws of checks. A check of several parts has a value exactly when each part has one, so
what a passed check gives is told part by part.
-/

namespace SandboxLint

namespace Checked

variable {α β : Type}

theorem map_eq_valid {f : α → β} {x : Checked α} {b : β} :
    f <$> x = .valid b ↔ ∃ a, x = .valid a ∧ f a = b := by
  cases x <;> simp [Functor.map, Checked.map]

theorem seq_eq_valid {f : Checked (α → β)} {x : Checked α} {b : β} :
    f <*> x = .valid b ↔ ∃ g a, f = .valid g ∧ x = .valid a ∧ g a = b := by
  cases f <;> cases x <;> simp [Seq.seq, both]

theorem inside_eq_valid {part : String} {x : Checked α} {a : α} :
    x.inside part = .valid a ↔ x = .valid a := by
  cases x <;> simp [inside]

theorem all_eq_valid {outcomes : List (Checked α)} {values : List α} :
    all outcomes = .valid values ↔ outcomes = values.map .valid := by
  induction outcomes generalizing values with
  | nil => cases values <;> simp [all]
  | cons first rest ih =>
      change Checked.map List.cons first <*> all rest = .valid values ↔ _
      rw [seq_eq_valid]
      constructor
      · rintro ⟨put, others, hput, hothers, rfl⟩
        obtain ⟨value, hvalue, rfl⟩ := map_eq_valid.1 hput
        rw [hvalue, ih.1 hothers, List.map_cons]
      · intro h
        obtain ⟨value, others, rfl, rfl, rfl⟩ := List.map_eq_cons_iff.1 h.symm
        exact ⟨_, others, rfl, ih.2 rfl, rfl⟩

end Checked

namespace Check

variable {α : Type}

/-- A part that is there is valid as its check finds it. -/
theorem part_of_get? {pairs : Mapping} {key : String} {default a : α} {check : Check α}
    {value : Value} (hget : pairs.get? key = some value) (hvalue : check value = .valid a) :
    part pairs key default check = .valid a := by
  rw [part, hget]
  exact Checked.inside_eq_valid.2 hvalue

/-- A valid part is the default or comes from a value that passes the check. -/
theorem part_eq_valid {pairs : Mapping} {key : String} {default a : α} {check : Check α}
    (h : part pairs key default check = .valid a) :
    a = default ∨ ∃ value, check value = .valid a := by
  rw [part] at h
  split at h
  · next value _ => exact .inr ⟨value, Checked.inside_eq_valid.1 h⟩
  · cases h
    exact .inl rfl

theorem exists_of_sectionOf {name : String} {parts : Mapping → Checked α} {value : Value} {a : α}
    (h : sectionOf name parts value = .valid a) : ∃ pairs, parts pairs = .valid a := by
  cases value with
  | mapping pairs => exact ⟨pairs, h⟩
  | _ => cases h

/-- What is written as null when there is nothing is read as written. -/
theorem nullable_elim {check : Check α} {write : α → Value}
    (hread : ∀ a, check (write a) = .valid a) (hsome : ∀ a, write a ≠ .null)
    (value : Option α) :
    nullable check (value.elim .null write) = .valid value := by
  cases value with
  | none => rfl
  | some a =>
      have hchecked : nullable check (write a) = (check (write a)).map some := by
        rw [nullable]
        exact hsome a
      rw [Option.elim, hchecked, hread]
      rfl

/-- Values that are written and read one by one are read as a list. -/
theorem listOf_map {item : Check α} {write : α → Value} {values : List α}
    (h : ∀ a ∈ values, item (write a) = .valid a) :
    listOf item (.list (values.map write)) = .valid values := by
  rw [listOf, Checked.all_eq_valid]
  refine List.ext_getElem (by simp) fun i hi _ => ?_
  simp only [List.length_map, List.length_zipIdx] at hi
  simp [h _ (List.getElem_mem hi), Checked.inside]

/-- Each value of a list that passes comes from a value that passes by itself. -/
theorem exists_of_mem_of_listOf {item : Check α} {value : Value} {values : List α}
    (h : listOf item value = .valid values) {a : α} (ha : a ∈ values) :
    ∃ written, item written = .valid a := by
  cases value with
  | list items =>
      have hmem : Checked.valid a ∈ values.map Checked.valid := List.mem_map_of_mem ha
      rw [← Checked.all_eq_valid.1 h] at hmem
      obtain ⟨⟨written, i⟩, -, hvalid⟩ := List.mem_map.1 hmem
      exact ⟨written, Checked.inside_eq_valid.1 hvalid⟩
  | _ => cases h

theorem listOf_text (texts : List String) :
    listOf text (Value.texts texts) = .valid texts :=
  listOf_map fun _ _ => rfl

theorem listOf_integer (numbers : List Int) :
    listOf integer (.list (numbers.map .int)) = .valid numbers :=
  listOf_map fun _ _ => rfl

theorem natural_int (n : Nat) : natural (.int n) = .valid n := by
  have hpositive : ¬ (n : Int) < 0 := by omega
  simp only [natural, integer, if_neg hpositive, Int.toNat_natCast]

end Check
end SandboxLint
