import Mathlib.Data.List.Basic
import Mathlib.Data.List.Induction
import SandboxLint.Proofs.Assoc

/-!
Values in the order in which they were first seen. Whatever takes in one value after the other
and puts a new one behind the known ones ends with each value once, in this order; so do lists
whose repetitions are dropped and the keys of associations.
-/

namespace SandboxLint

variable {α β κ : Type} [BEq κ]

/-- The values that were seen, each before those that were first seen later. -/
structure FirstSeen (seen known : List κ) : Prop where
  mem_iff : ∀ value, value ∈ known ↔ value ∈ seen
  ordered : known.Pairwise fun a b => seen.idxOf a < seen.idxOf b

theorem FirstSeen.nil : FirstSeen ([] : List κ) [] :=
  ⟨fun _ => Iff.rfl, .nil⟩

variable [LawfulBEq κ]

namespace FirstSeen

variable {seen known : List κ} {value : κ}

theorem ordered_concat (h : FirstSeen seen known) (value : κ) :
    known.Pairwise fun a b => (seen ++ [value]).idxOf a < (seen ++ [value]).idxOf b := by
  refine h.ordered.imp_of_mem fun ha hb hlt => ?_
  rw [List.idxOf_append_of_mem ((h.mem_iff _).1 ha), List.idxOf_append_of_mem ((h.mem_iff _).1 hb)]
  exact hlt

theorem again (h : FirstSeen seen known) (hvalue : value ∈ known) :
    FirstSeen (seen ++ [value]) known := by
  refine ⟨fun a => ?_, h.ordered_concat value⟩
  rw [h.mem_iff, List.mem_append, List.mem_singleton]
  exact ⟨.inl, fun ha => ha.elim id fun ha => ha ▸ (h.mem_iff value).1 hvalue⟩

theorem new (h : FirstSeen seen known) (hvalue : value ∉ known) :
    FirstSeen (seen ++ [value]) (known ++ [value]) := by
  refine ⟨fun a => by rw [List.mem_append, h.mem_iff, List.mem_append], ?_⟩
  refine List.pairwise_append.2
    ⟨h.ordered_concat value, List.pairwise_singleton _ _, fun a ha b hb => ?_⟩
  have hseen := (h.mem_iff a).1 ha
  rw [List.mem_singleton.1 hb, List.idxOf_append_of_mem hseen,
    List.idxOf_append_of_notMem (mt (h.mem_iff value).2 hvalue)]
  exact Nat.lt_add_right _ (List.idxOf_lt_length_of_mem hseen)

theorem eraseDups (seen : List κ) : FirstSeen seen seen.eraseDups := by
  induction seen using List.reverseRecOn with
  | nil => exact .nil
  | append_singleton seen value ih =>
      rw [List.eraseDups_append]
      by_cases hvalue : value ∈ seen
      · have hnone : [value].removeAll seen = [] := by simp [List.removeAll, hvalue]
        rw [hnone, List.eraseDups_nil, List.append_nil]
        exact ih.again ((ih.mem_iff value).2 hvalue)
      · have hone : [value].removeAll seen = [value] := by simp [List.removeAll, hvalue]
        rw [hone]
        exact ih.new (mt (ih.mem_iff value).1 hvalue)

end FirstSeen

namespace Assoc

/-- Where every step puts a key behind the others unless it is known, the keys end in the order
in which they were first seen. -/
theorem firstSeen_keys_foldl {step : Assoc κ α → κ × β → Assoc κ α}
    (hstep : ∀ acc pair, keys (step acc pair) =
      if pair.1 ∈ keys acc then keys acc else keys acc ++ [pair.1])
    (pairs : List (κ × β)) : FirstSeen (keys pairs) (keys (pairs.foldl step [])) := by
  induction pairs using List.reverseRecOn with
  | nil => exact .nil
  | append_singleton pairs pair ih =>
      have hkeys : keys (pairs ++ [pair]) = keys pairs ++ [pair.1] := List.map_append
      rw [hkeys, List.foldl_append, List.foldl_cons, List.foldl_nil, hstep]
      split
      · next hknown => exact ih.again hknown
      · next hnew => exact ih.new hnew

theorem firstSeen_keys_groups (pairs : List (κ × α)) :
    FirstSeen (keys pairs) (keys (groups pairs)) :=
  firstSeen_keys_foldl (fun _ _ => keys_alter _ _ _) pairs

theorem firstSeen_keys_ofFirstPairs (pairs : List (κ × α)) :
    FirstSeen (keys pairs) (keys (ofFirstPairs pairs)) := by
  refine firstSeen_keys_foldl (fun acc pair => ?_) pairs
  obtain ⟨key, value⟩ := pair
  show keys (acc.putNew key value) = _
  have hcontains : acc.contains key = true ↔ key ∈ keys acc := by simp [contains, keys]
  by_cases hknown : key ∈ keys acc
  · rw [if_pos hknown, putNew, if_pos (hcontains.2 hknown)]
  · rw [if_neg hknown, putNew, if_neg (mt hcontains.1 hknown)]
    exact List.map_append

end Assoc
end SandboxLint
