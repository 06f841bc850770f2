import SandboxLint.Assoc

/-!
Looking up in ordered associations. Changing one key leaves the values of all
others and the places of all keys as they are, and grouping by key keeps for each
key exactly its own values, in order.
-/

namespace SandboxLint
namespace Assoc

variable {κ α : Type} [BEq κ] [LawfulBEq κ]

theorem get?_alter_self (pairs : Assoc κ α) (key : κ) (f : Option α → α) :
    (pairs.alter key f).get? key = some (f (pairs.get? key)) := by
  induction pairs with
  | nil => simp [alter, get?]
  | cons pair rest ih =>
      obtain ⟨k, v⟩ := pair
      by_cases h : k = key
      · subst h
        simp [alter, get?]
      · have hne : (key == k) = false := by simpa using Ne.symm h
        simp only [get?] at ih ⊢
        simp [alter, h, List.lookup_cons, hne, ih]

theorem get?_alter_of_ne (pairs : Assoc κ α) {key other : κ} (f : Option α → α)
    (h : other ≠ key) : (pairs.alter key f).get? other = pairs.get? other := by
  have hne : (other == key) = false := by simpa using h
  induction pairs with
  | nil => simp [alter, get?, List.lookup_cons, hne]
  | cons pair rest ih =>
      obtain ⟨k, v⟩ := pair
      by_cases hk : k = key
      · subst hk
        simp [alter, get?, List.lookup_cons, hne]
      · simp only [get?] at ih ⊢
        simp only [alter, beq_iff_eq, hk, ite_false, List.lookup_cons, ih]

/-- Changing the value of a key into itself changes nothing. -/
theorem alter_of_get? {pairs : Assoc κ α} {key : κ} {value : α} {f : Option α → α}
    (h : pairs.get? key = some value) (hf : f (some value) = value) :
    pairs.alter key f = pairs := by
  induction pairs with
  | nil => cases h
  | cons pair rest ih =>
      obtain ⟨k, v⟩ := pair
      by_cases hk : k = key
      · subst hk
        obtain rfl : v = value := by simpa [get?] using h
        simp [alter, hf]
      · have hne : (key == k) = false := by simpa using Ne.symm hk
        simp only [get?, List.lookup_cons, hne] at h ih
        simp [alter, hk, ih h]

theorem get?_put_self (pairs : Assoc κ α) (key : κ) (value : α) :
    (pairs.put key value).get? key = some value :=
  get?_alter_self pairs key _

theorem get?_put_of_ne (pairs : Assoc κ α) {key other : κ} (value : α) (h : other ≠ key) :
    (pairs.put key value).get? other = pairs.get? other :=
  get?_alter_of_ne pairs _ h

theorem keys_alter (pairs : Assoc κ α) (key : κ) (f : Option α → α) :
    keys (pairs.alter key f) = if key ∈ keys pairs then keys pairs else keys pairs ++ [key] := by
  induction pairs with
  | nil => simp [alter, keys]
  | cons pair rest ih =>
      obtain ⟨k, v⟩ := pair
      by_cases hk : k = key
      · subst hk
        simp [alter, keys]
      · simp only [keys] at ih
        by_cases hmem : key ∈ keys rest
        · simp_all [alter, keys]
        · simp_all [alter, keys, Ne.symm hk]

theorem nodup_keys_alter {pairs : Assoc κ α} (key : κ) (f : Option α → α)
    (h : (keys pairs).Nodup) : (keys (pairs.alter key f)).Nodup := by
  rw [keys_alter]
  split
  · exact h
  · next hnew =>
      refine List.nodup_append.2 ⟨h, by simp, ?_⟩
      intro a ha b hb
      rw [List.mem_singleton.1 hb]
      exact fun heq => hnew (heq ▸ ha)

/-- Where keys stand once, looking up finds exactly the pairs. -/
theorem get?_eq_some_iff_mem {pairs : Assoc κ α} (h : (keys pairs).Nodup) {key : κ} {value : α} :
    pairs.get? key = some value ↔ (key, value) ∈ pairs := by
  induction pairs with
  | nil => simp [get?]
  | cons pair rest ih =>
      obtain ⟨k, v⟩ := pair
      have hsplit : k ∉ keys rest ∧ (keys rest).Nodup := List.nodup_cons.1 h
      have hrest := ih hsplit.2
      by_cases hk : key = k
      · subst hk
        have habsent : (key, value) ∉ rest :=
          fun hmem => hsplit.1 (List.mem_map.2 ⟨_, hmem, rfl⟩)
        simp [get?, habsent, eq_comm]
      · simp only [get?] at hrest ⊢
        have hne : (key == k) = false := by simpa using hk
        simp [List.lookup_cons, hne, hrest, hk]

theorem mem_of_get? {pairs : Assoc κ α} {key : κ} {value : α} (h : pairs.get? key = some value) :
    (key, value) ∈ pairs := by
  induction pairs with
  | nil => cases h
  | cons pair rest ih =>
      obtain ⟨k, v⟩ := pair
      simp only [get?, List.lookup_cons] at h ih
      split at h
      · next hk =>
          cases h
          rw [beq_iff_eq.1 hk]
          exact List.mem_cons_self
      · exact List.mem_cons_of_mem _ (ih h)

omit [LawfulBEq κ] in
theorem mem_of_mem_ofFirstPairs {pairs : List (κ × α)} {pair : κ × α}
    (h : pair ∈ ofFirstPairs pairs) : pair ∈ pairs := by
  have hfold : ∀ start : Assoc κ α,
      pair ∈ pairs.foldl (fun acc p => putNew acc p.1 p.2) start →
        pair ∈ start ∨ pair ∈ pairs := by
    clear h
    induction pairs with
    | nil => exact fun _ h => .inl h
    | cons first rest ih =>
        intro start h
        cases ih _ h with
        | inl hput =>
            simp only [putNew] at hput
            split at hput
            · exact .inl hput
            · cases List.mem_append.1 hput with
              | inl hstart => exact .inl hstart
              | inr hnew => exact .inr (List.mem_singleton.1 hnew ▸ List.mem_cons_self)
        | inr hrest => exact .inr (List.mem_cons_of_mem _ hrest)
  exact (hfold [] h).resolve_left List.not_mem_nil

/-- The value of a key is the first that the pairs give it. -/
theorem get?_ofFirstPairs (pairs : List (κ × α)) (key : κ) :
    (ofFirstPairs pairs).get? key = get? pairs key := by
  have hfold : ∀ start : Assoc κ α,
      get? (pairs.foldl (fun acc p => putNew acc p.1 p.2) start) key =
        (start.get? key).or (get? pairs key) := by
    induction pairs with
    | nil => exact fun start => Option.or_none.symm
    | cons first rest ih =>
        intro start
        have hcons : get? ([first] ++ rest) key = (get? [first] key).or (get? rest key) :=
          List.lookup_append
        rw [List.foldl_cons, ih, ← List.singleton_append, hcons, ← Option.or_assoc]
        refine congrArg (Option.or · _) ?_
        rw [putNew]
        split
        · next hknown =>
            -- A known key keeps its value, and to other keys this pair gives none.
            obtain ⟨pair, hmem, hpair⟩ := List.any_eq_true.1 hknown
            by_cases hkey : key = first.1
            · have hsame : (key == pair.1) = true := by
                rw [hkey, beq_iff_eq.1 hpair, beq_self_eq_true]
              have hsome : (start.get? key).isSome = true :=
                List.lookup_isSome_iff.2 ⟨pair, hmem, hsame⟩
              rw [Option.or_of_isSome hsome]
            · have hnone : get? [first] key = none := by
                simpa [get?, List.lookup_cons] using hkey
              rw [hnone, Option.or_none]
        · exact List.lookup_append
  exact (hfold []).trans Option.none_or

theorem mem_of_mem_put {pairs : Assoc κ α} {key : κ} {value : α} {pair : κ × α}
    (h : pair ∈ pairs.put key value) : pair ∈ pairs ∨ pair = (key, value) := by
  induction pairs with
  | nil => exact .inr (List.mem_singleton.1 h)
  | cons first rest ih =>
      obtain ⟨k, v⟩ := first
      simp only [put, alter] at h ih
      split at h
      · next hk =>
          cases List.mem_cons.1 h with
          | inl hsame => exact .inr (hsame.trans (by rw [beq_iff_eq.1 hk]))
          | inr hrest => exact .inl (List.mem_cons_of_mem _ hrest)
      · cases List.mem_cons.1 h with
        | inl hsame => exact .inl (hsame ▸ List.mem_cons_self)
        | inr hrest => exact (ih hrest).imp_left (List.mem_cons_of_mem _)

theorem mem_of_mem_ofPairs {pairs : List (κ × α)} {pair : κ × α} (h : pair ∈ ofPairs pairs) :
    pair ∈ pairs := by
  have hfold : ∀ start : Assoc κ α,
      pair ∈ pairs.foldl (fun acc p => put acc p.1 p.2) start → pair ∈ start ∨ pair ∈ pairs := by
    clear h
    induction pairs with
    | nil => exact fun _ h => .inl h
    | cons first rest ih =>
        intro start h
        cases ih _ h with
        | inl hput =>
            cases mem_of_mem_put hput with
            | inl hstart => exact .inl hstart
            | inr hfirst => exact .inr (hfirst ▸ List.mem_cons_self)
        | inr hrest => exact .inr (List.mem_cons_of_mem _ hrest)
  exact (hfold [] h).resolve_left List.not_mem_nil

/-- A key that is not among the first pairs is looked for behind them. -/
theorem alter_append {front : Assoc κ α} {key : κ} (back : Assoc κ α) (f : Option α → α)
    (h : key ∉ keys front) : alter (front ++ back) key f = front ++ back.alter key f := by
  induction front with
  | nil => rfl
  | cons first rest ih =>
      obtain ⟨k, v⟩ := first
      obtain ⟨hne, hrest⟩ : key ≠ k ∧ key ∉ keys rest := by simpa [keys] using h
      have hk : (k == key) = false := by simpa using Ne.symm hne
      simp [alter, hk, ih hrest]

theorem alter_of_new {pairs : Assoc κ α} {key : κ} (f : Option α → α) (h : key ∉ keys pairs) :
    pairs.alter key f = pairs ++ [(key, f none)] := by
  simpa [alter] using alter_append [] f h

theorem put_of_new {pairs : Assoc κ α} {key : κ} (value : α) (h : key ∉ keys pairs) :
    pairs.put key value = pairs ++ [(key, value)] :=
  alter_of_new _ h

/-- Putting pairs of different keys one after the other gives the pairs. -/
theorem ofPairs_of_nodup {pairs : List (κ × α)} (h : (keys pairs).Nodup) :
    ofPairs pairs = pairs := by
  have hfold : ∀ start : Assoc κ α, (keys (start ++ pairs)).Nodup →
      pairs.foldl (fun acc p => put acc p.1 p.2) start = start ++ pairs := by
    clear h
    induction pairs with
    | nil => simp
    | cons first rest ih =>
        intro start hnodup
        obtain ⟨k, v⟩ := first
        have hnew : k ∉ keys start := by
          simp only [keys, List.map_append, List.map_cons, List.nodup_append] at hnodup
          exact fun hmem => hnodup.2.2 k hmem k List.mem_cons_self rfl
        have hnext := ih (start ++ [(k, v)]) (by simpa using hnodup)
        simp only [List.foldl_cons, put_of_new v hnew, hnext, List.append_assoc,
          List.singleton_append]
  exact hfold [] h

/-- Every key of the pairs has a value in the end, and stands once. -/
theorem keys_ofPairs (pairs : List (κ × α)) :
    (keys (ofPairs pairs)).Nodup ∧ ∀ key, key ∈ keys (ofPairs pairs) ↔ key ∈ keys pairs := by
  have hfold : ∀ start : Assoc κ α, (keys start).Nodup →
      (keys (pairs.foldl (fun acc p => put acc p.1 p.2) start)).Nodup ∧
        ∀ key, key ∈ keys (pairs.foldl (fun acc p => put acc p.1 p.2) start) ↔
          key ∈ keys start ∨ key ∈ keys pairs := by
    induction pairs with
    | nil => exact fun start h => ⟨h, by simp [keys]⟩
    | cons first rest ih =>
        intro start h
        obtain ⟨hnodup, hmem⟩ := ih _ (nodup_keys_alter first.1 (fun _ => first.2) h)
        refine ⟨hnodup, fun key => (hmem key).trans ?_⟩
        rw [keys_alter]
        split <;> simp_all [keys] <;> grind
  obtain ⟨hnodup, hmem⟩ := hfold [] (by simp [keys])
  exact ⟨hnodup, fun key => (hmem key).trans (or_iff_right List.not_mem_nil)⟩

/-- Where all pairs of a key have one value, it is the value of the key. -/
theorem get?_ofPairs_of_unique {pairs : List (κ × α)} {key : κ} {value : α}
    (hmem : (key, value) ∈ pairs) (hunique : ∀ other, (key, other) ∈ pairs → other = value) :
    (ofPairs pairs).get? key = some value := by
  obtain ⟨hnodup, hkeys⟩ := keys_ofPairs pairs
  obtain ⟨⟨_, other⟩, hpair, rfl⟩ := List.mem_map.1 ((hkeys key).2 (List.mem_map_of_mem hmem))
  rw [← hunique other (mem_of_mem_ofPairs hpair)]
  exact (get?_eq_some_iff_mem hnodup).2 hpair

/-- Changing a key and then leaving out keys changes the key if it stays. -/
theorem filter_alter (keep : κ → Bool) (pairs : Assoc κ α) (key : κ) (f : Option α → α) :
    (pairs.alter key f).filter (keep ·.1) =
      if keep key then alter (pairs.filter (keep ·.1)) key f else pairs.filter (keep ·.1) := by
  induction pairs with
  | nil => by_cases hkeep : keep key = true <;> simp [alter, hkeep]
  | cons first rest ih =>
      obtain ⟨k, v⟩ := first
      by_cases hk : k = key
      · subst hk
        by_cases hkeep : keep k = true <;> simp [alter, hkeep]
      · by_cases hkeep : keep key = true <;> by_cases hkeep' : keep k = true <;>
          simp_all [alter]

/-- Leaving out keys before or after pairs are taken in makes no difference. -/
theorem foldl_alter_filter {β : Type} (keep : κ → Bool) (f : β → Option α → α)
    (pairs : List (κ × β)) (start : Assoc κ α) :
    (pairs.filter (keep ·.1)).foldl (fun acc p => alter acc p.1 (f p.2)) (start.filter (keep ·.1)) =
      (pairs.foldl (fun acc p => alter acc p.1 (f p.2)) start).filter (keep ·.1) := by
  induction pairs generalizing start with
  | nil => rfl
  | cons first rest ih =>
      rw [List.foldl_cons, ← ih, filter_alter]
      by_cases hkeep : keep first.1 = true <;> simp [hkeep]

theorem ofPairs_filter (keep : κ → Bool) (pairs : List (κ × α)) :
    ofPairs (pairs.filter (keep ·.1)) = (ofPairs pairs).filter (keep ·.1) :=
  foldl_alter_filter keep (fun value _ => value) pairs []

theorem groups_filter (keep : κ → Bool) (pairs : List (κ × α)) :
    groups (pairs.filter (keep ·.1)) = (groups pairs).filter (keep ·.1) :=
  foldl_alter_filter keep (fun value old => old.getD [] ++ [value]) pairs []

theorem get?_filter {keep : κ → Bool} {key : κ} (hkeep : keep key = true) (pairs : Assoc κ α) :
    get? (pairs.filter (keep ·.1)) key = get? pairs key := by
  induction pairs with
  | nil => rfl
  | cons first rest ih =>
      obtain ⟨k, v⟩ := first
      simp only [get?] at ih ⊢
      by_cases hk : key = k
      · subst hk
        simp [hkeep]
      · have hne : (key == k) = false := by simpa using hk
        by_cases hkeep' : keep k = true <;> simp [hkeep', List.lookup_cons, hne, ih]

/-- The values that pairs give a key, in order. -/
def valuesOf (pairs : List (κ × α)) (key : κ) : List α :=
  (pairs.filter (·.1 == key)).map (·.2)

private theorem groupsFrom_get? (pairs : List (κ × α)) (start : Assoc κ (List α)) (key : κ) :
    (pairs.foldl (fun acc (k, v) => alter acc k fun old => old.getD [] ++ [v]) start).get? key =
      if valuesOf pairs key = [] then start.get? key
      else some ((start.get? key).getD [] ++ valuesOf pairs key) := by
  induction pairs generalizing start with
  | nil => simp [valuesOf]
  | cons pair rest ih =>
      obtain ⟨k, v⟩ := pair
      rw [List.foldl_cons, ih]
      by_cases hk : k = key
      · subst hk
        have hcons : valuesOf ((k, v) :: rest) k = v :: valuesOf rest k := by simp [valuesOf]
        rw [get?_alter_self, hcons]
        by_cases hnil : valuesOf rest k = []
        · simp [hnil]
        · simp [hnil]
      · rw [get?_alter_of_ne _ _ (Ne.symm hk)]
        have hsame : valuesOf ((k, v) :: rest) key = valuesOf rest key := by simp [valuesOf, hk]
        rw [hsame]

/-- The group of a key holds the values that pairs give it. -/
theorem getD_groups (pairs : List (κ × α)) (key : κ) :
    ((groups pairs).get? key).getD [] = valuesOf pairs key := by
  rw [groups, groupsFrom_get?]
  split
  · next hnil => simp [get?, hnil]
  · simp [get?]

theorem nodup_keys_groups (pairs : List (κ × α)) : (keys (groups pairs)).Nodup := by
  have hfold : ∀ start : Assoc κ (List α), (keys start).Nodup →
      (keys (pairs.foldl (fun acc (k, v) => alter acc k fun old => old.getD [] ++ [v])
        start)).Nodup := by
    induction pairs with
    | nil => exact fun _ h => h
    | cons pair rest ih => exact fun start h => ih _ (nodup_keys_alter _ _ h)
  exact hfold [] (by simp [keys])

/-- A group is there exactly for a key with values, and holds all of them. -/
theorem mem_groups_iff (pairs : List (κ × α)) (key : κ) (group : List α) :
    (key, group) ∈ groups pairs ↔ group = valuesOf pairs key ∧ group ≠ [] := by
  rw [← get?_eq_some_iff_mem (nodup_keys_groups pairs), groups, groupsFrom_get?]
  by_cases hnil : valuesOf pairs key = []
  · simp_all [get?]
  · simp only [hnil, ite_false, get?, List.lookup_nil, Option.getD_none, List.nil_append,
      Option.some.injEq]
    constructor
    · rintro rfl
      exact ⟨rfl, hnil⟩
    · exact fun h => h.1.symm

theorem isSome_get?_groups_iff {pairs : List (κ × α)} {key : κ} :
    ((groups pairs).get? key).isSome = true ↔ ∃ pair ∈ pairs, pair.1 = key := by
  have hvalues : valuesOf pairs key ≠ [] ↔ ∃ pair ∈ pairs, pair.1 = key := by simp [valuesOf]
  rw [← hvalues, groups, groupsFrom_get?]
  by_cases hnil : valuesOf pairs key = [] <;> simp [hnil, get?]

end Assoc
end SandboxLint
