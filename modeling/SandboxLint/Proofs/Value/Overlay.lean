import SandboxLint.Proofs.Assoc
import SandboxLint.Value.Basic

/-!
Reading merged documents. A path of keys leads through the mappings of a document to a
value. What it leads to in a merged document is told path by path from the two documents
alone, and merging the same document in again changes nothing.
-/

namespace SandboxLint
namespace Value

/-- The value that a path of keys leads to, one mapping after the other. -/
def at? : Value → List String → Option Value
  | value, [] => some value
  | .mapping pairs, key :: path =>
      match Assoc.get? pairs key with
      | some value => value.at? path
      | none => none
  | _, _ :: _ => none

def isMapping : Value → Bool
  | .mapping _ => true
  | _ => false

/-- A path that comes upon something else than a mapping before its end. -/
def Blocks (value : Value) (path : List String) : Prop :=
  ∃ front leaf, front <+: path ∧ front ≠ path ∧ value.at? front = some leaf ∧
    leaf.isMapping = false

mutual

/-- Whether every key stands once in a mapping and in those inside it, as in all documents that are
read. -/
def keyed : Value → Bool
  | .mapping pairs => decide (Assoc.keys pairs).Nodup && keyedPairs pairs
  | _ => true

/-- Whether the values of pairs are keyed. -/
def keyedPairs : List (String × Value) → Bool
  | [] => true
  | pair :: rest => keyedPair pair && keyedPairs rest

/-- Whether the value of a pair is keyed. -/
def keyedPair : String × Value → Bool
  | (_, value) => keyed value

end

/-- What holds of every value that is no mapping, and of a mapping when it holds of the values in
it, holds of all values. -/
@[elab_as_elim]
theorem mappingInduction {P : Value → Prop} (leaf : ∀ value, value.isMapping = false → P value)
    (mapping : ∀ pairs, (∀ pair ∈ pairs, P pair.2) → P (.mapping pairs)) : ∀ value, P value
  | .null | .bool _ | .int _ | .number _ | .text _ | .list _ => leaf _ rfl
  | .mapping pairs => mapping pairs fun pair hpair => by
      have hsmaller := List.sizeOf_lt_of_mem hpair
      obtain ⟨key, value⟩ := pair
      exact mappingInduction leaf mapping value
termination_by value => sizeOf value
decreasing_by simp_all; omega

theorem keyed_mapping {pairs : List (String × Value)} : keyed (.mapping pairs) = true ↔
    (Assoc.keys pairs).Nodup ∧ ∀ pair ∈ pairs, pair.2.keyed = true := by
  have hpairs : ∀ pairs : List (String × Value), keyedPairs pairs = true ↔
      ∀ pair ∈ pairs, pair.2.keyed = true := by
    intro pairs
    induction pairs with
    | nil => simp [keyedPairs]
    | cons pair rest ih =>
        obtain ⟨key, value⟩ := pair
        rw [keyedPairs, Bool.and_eq_true, keyedPair, ih, List.forall_mem_cons]
  rw [keyed, Bool.and_eq_true, decide_eq_true_eq, hpairs]

theorem exists_mapping {value : Value} (h : value.isMapping = true) :
    ∃ pairs, value = .mapping pairs := by
  cases value <;> first | exact ⟨_, rfl⟩ | cases h

theorem at?_nil (value : Value) : value.at? [] = some value := by
  cases value <;> rfl

theorem at?_mapping_cons (pairs : Mapping) (key : String) (path : List String) :
    (mapping pairs).at? (key :: path) = (Assoc.get? pairs key).bind (·.at? path) := by
  rw [at?]
  cases Assoc.get? pairs key <;> rfl

theorem at?_leaf_cons {leaf : Value} (h : leaf.isMapping = false) (key : String)
    (path : List String) : leaf.at? (key :: path) = none := by
  cases leaf <;> first | rfl | cases h

theorem overlay_leaf (base : Value) {leaf : Value} (h : leaf.isMapping = false) :
    overlay base leaf = leaf := by
  cases leaf <;> first | rfl | cases h

theorem overlay_mapping_of_leaf {base : Value} (h : base.isMapping = false) (pairs : Mapping) :
    overlay base (.mapping pairs) = .mapping pairs := by
  cases base <;> first | rfl | cases h

theorem overlay_mapping (old pairs : Mapping) :
    overlay (.mapping old) (.mapping pairs) = .mapping (mergePairs old pairs) :=
  rfl

theorem overlay_null (value : Value) : overlay .null value = value := by
  cases value <;> rfl

/-- No path is blocked at its beginning. -/
theorem not_blocks_nil (value : Value) : ¬ value.Blocks [] := by
  rintro ⟨front, leaf, hfront, hproper, -⟩
  exact hproper (List.prefix_nil.1 hfront)

theorem blocks_leaf_cons {leaf : Value} (h : leaf.isMapping = false) (key : String)
    (path : List String) : leaf.Blocks (key :: path) :=
  ⟨[], leaf, List.nil_prefix, by simp, leaf.at?_nil, h⟩

/-- Behind the first key of a path it is the value of this key that blocks. -/
theorem blocks_mapping_cons {pairs : Mapping} {key : String} {path : List String} :
    (mapping pairs).Blocks (key :: path) ↔
      ∃ value, pairs.get? key = some value ∧ value.Blocks path := by
  constructor
  · rintro ⟨front, leaf, hfront, hproper, hleaf, hkind⟩
    cases front with
    | nil =>
        rw [at?_nil] at hleaf
        cases hleaf
        cases hkind
    | cons first front =>
        obtain ⟨rfl, hrest⟩ := List.cons_prefix_cons.1 hfront
        rw [at?_mapping_cons, Option.bind_eq_some_iff] at hleaf
        obtain ⟨value, hvalue, hleaf⟩ := hleaf
        exact ⟨value, hvalue, front, leaf, hrest, by simpa using hproper, hleaf, hkind⟩
  · rintro ⟨value, hvalue, front, leaf, hfront, hproper, hleaf, hkind⟩
    refine ⟨key :: front, leaf, List.cons_prefix_cons.2 ⟨rfl, hfront⟩, by simpa using hproper, ?_,
      hkind⟩
    rw [at?_mapping_cons, hvalue]
    exact hleaf

/-- Where keys stand once, a key that is laid over has its value laid over the old one, and another
keeps its own. -/
theorem get?_mergePairs {pairs : List (String × Value)} (h : (Assoc.keys pairs).Nodup)
    (base : Mapping) (key : String) :
    Assoc.get? (mergePairs base pairs) key =
      match Assoc.get? pairs key with
      | some value => some (overlay ((base.get? key).getD .null) value)
      | none => base.get? key := by
  induction pairs generalizing base with
  | nil => rfl
  | cons pair rest ih =>
      obtain ⟨first, value⟩ := pair
      obtain ⟨hnew, hrest⟩ : first ∉ Assoc.keys rest ∧ (Assoc.keys rest).Nodup :=
        List.nodup_cons.1 h
      rw [mergePairs, ih hrest, mergePair]
      by_cases hkey : key = first
      · subst hkey
        have hnone : Assoc.get? rest key = none := by
          rw [Assoc.get?, List.lookup_eq_none_iff]
          intro pair hpair
          simpa using fun h => hnew (List.mem_map.2 ⟨pair, hpair, h.symm⟩)
        have hsome : Assoc.get? ((key, value) :: rest) key = some value := by simp [Assoc.get?]
        rw [hnone, hsome, Assoc.get?_alter_self]
      · have hother : Assoc.get? ((first, value) :: rest) key = Assoc.get? rest key := by
          have hne : (key == first) = false := by simpa using hkey
          simp [Assoc.get?, List.lookup_cons, hne]
        rw [hother, Assoc.get?_alter_of_ne _ _ hkey]

/-- A path that is blocked leads nowhere. -/
theorem at?_of_blocks {value : Value} {path : List String} (h : value.Blocks path) :
    value.at? path = none := by
  induction path generalizing value with
  | nil => exact absurd h value.not_blocks_nil
  | cons key path ih =>
      cases hvalue : value.isMapping with
      | false => exact at?_leaf_cons hvalue key path
      | true =>
          obtain ⟨pairs, rfl⟩ := exists_mapping hvalue
          obtain ⟨next, hnext, hblocks⟩ := blocks_mapping_cons.1 h
          rw [at?_mapping_cons, hnext]
          exact ih hblocks

/-- Null holds nothing, and so may stand for a value that is not there. -/
theorem at?_getD_null (value? : Option Value) (path : List String) :
    ((value?.getD .null).at? path).getD .null = (value?.bind (·.at? path)).getD .null := by
  cases value? with
  | some value => rfl
  | none => cases path <;> rfl

/-- A path leads in an overlay to what it leads to in the upper value, laid over what it leads to in
the lower one; where the upper value has nothing, to what the lower one has unless the upper one
blocks the path. -/
theorem at?_overlay (base : Value) {upper : Value} (h : upper.keyed = true) (path : List String) :
    (∀ value, upper.at? path = some value →
      (overlay base upper).at? path = some (overlay ((base.at? path).getD .null) value)) ∧
    (upper.Blocks path → (overlay base upper).at? path = none) ∧
    (upper.at? path = none → ¬ upper.Blocks path →
      (overlay base upper).at? path = base.at? path) := by
  induction path generalizing base upper with
  | nil => simp [at?_nil, not_blocks_nil]
  | cons key path ih =>
      cases hupper : upper.isMapping with
      | false =>
          rw [overlay_leaf base hupper, at?_leaf_cons hupper]
          simp [blocks_leaf_cons hupper]
      | true =>
          obtain ⟨pairs, rfl⟩ := exists_mapping hupper
          cases hbase : base.isMapping with
          | false =>
              rw [overlay_mapping_of_leaf hbase, at?_leaf_cons hbase]
              exact ⟨fun value hvalue => by rw [hvalue, Option.getD_none, overlay_null],
                at?_of_blocks, fun hnone _ => hnone⟩
          | true =>
              obtain ⟨old, rfl⟩ := exists_mapping hbase
              obtain ⟨hkeys, hvalues⟩ := keyed_mapping.1 h
              rw [overlay_mapping]
              simp only [at?_mapping_cons, blocks_mapping_cons, get?_mergePairs hkeys]
              cases hvalue : Assoc.get? pairs key with
              | none => simp
              | some value =>
                  obtain ⟨hfound, hblocked, hlower⟩ :=
                    ih ((Assoc.get? old key).getD .null) (hvalues _ (Assoc.mem_of_get? hvalue))
                  simp only [Option.bind_some, Option.some.injEq, exists_eq_left', ← at?_getD_null]
                  refine ⟨hfound, hblocked, fun hnone hfree => ?_⟩
                  -- A lower value that is missing reads as null, which has nothing below it.
                  rw [hlower hnone hfree]
                  cases path with
                  | nil => simp [at?_nil] at hnone
                  | cons => cases Assoc.get? old key <;> rfl

/-- Pairs change nothing in a mapping whose values have taken theirs in. -/
theorem mergePairs_settled {base : Mapping} {pairs : List (String × Value)}
    (h : ∀ pair ∈ pairs, ∃ value, base.get? pair.1 = some value ∧ overlay value pair.2 = value) :
    mergePairs base pairs = base := by
  induction pairs with
  | nil => rfl
  | cons pair rest ih =>
      obtain ⟨⟨value, hvalue, hsettled⟩, hrest⟩ := List.forall_mem_cons.1 h
      rw [mergePairs, mergePair, Assoc.alter_of_get? hvalue hsettled, ih hrest]

/-- What is laid over a value is in it: laying it over once more changes nothing. -/
theorem overlay_overlay (base : Value) {upper : Value} (h : upper.keyed = true) :
    overlay (overlay base upper) upper = overlay base upper := by
  induction upper using mappingInduction generalizing base with
  | leaf upper hleaf => rw [overlay_leaf _ hleaf, overlay_leaf _ hleaf]
  | mapping pairs ih =>
      obtain ⟨hkeys, hvalues⟩ := keyed_mapping.1 h
      have hget : ∀ pair ∈ pairs, Assoc.get? pairs pair.1 = some pair.2 :=
        fun pair hpair => (Assoc.get?_eq_some_iff_mem hkeys).2 hpair
      cases hbase : base.isMapping with
      | false =>
          rw [overlay_mapping_of_leaf hbase, overlay_mapping, mergePairs_settled]
          intro pair hpair
          have hagain := ih pair hpair .null (hvalues pair hpair)
          rw [overlay_null] at hagain
          exact ⟨pair.2, hget pair hpair, hagain⟩
      | true =>
          obtain ⟨old, rfl⟩ := exists_mapping hbase
          rw [overlay_mapping, overlay_mapping, mergePairs_settled]
          intro pair hpair
          have hnow := get?_mergePairs hkeys old pair.1
          rw [hget pair hpair] at hnow
          exact ⟨_, hnow, ih pair hpair _ (hvalues pair hpair)⟩

/-- Laying one pair over a keyed mapping leaves it keyed when the value that comes of it is. -/
theorem keyed_mergePair {base : Mapping} {key : String} {value : Value}
    (hbase : (mapping base).keyed = true)
    (hvalue : (overlay ((base.get? key).getD .null) value).keyed = true) :
    (mapping (mergePair base (key, value))).keyed = true := by
  obtain ⟨hkeys, hvalues⟩ := keyed_mapping.1 hbase
  have hkeys' := Assoc.nodup_keys_alter key (fun old => overlay (old.getD .null) value) hkeys
  refine keyed_mapping.2 ⟨hkeys', fun pair hpair => ?_⟩
  have hget := (Assoc.get?_eq_some_iff_mem hkeys').2 hpair
  by_cases hkey : pair.1 = key
  · rw [hkey, Assoc.get?_alter_self, Option.some.injEq] at hget
    exact hget ▸ hvalue
  · rw [Assoc.get?_alter_of_ne _ _ hkey] at hget
    exact hvalues pair (Assoc.mem_of_get? hget)

/-- Merging keyed values gives keyed values. -/
theorem keyed_overlay {base upper : Value} (hbase : base.keyed = true)
    (hupper : upper.keyed = true) :
    (overlay base upper).keyed = true := by
  induction upper using mappingInduction generalizing base with
  | leaf upper hleaf => rwa [overlay_leaf _ hleaf]
  | mapping pairs ih =>
      cases hkind : base.isMapping with
      | false => rwa [overlay_mapping_of_leaf hkind]
      | true =>
          obtain ⟨old, rfl⟩ := exists_mapping hkind
          have hvalues := (keyed_mapping.1 hupper).2
          rw [overlay_mapping]
          clear hupper hkind
          induction pairs generalizing old with
          | nil => exact hbase
          | cons pair rest ihrest =>
              obtain ⟨hpair, hrest⟩ := List.forall_mem_cons.1 hvalues
              obtain ⟨ihpair, ihs⟩ := List.forall_mem_cons.1 ih
              refine ihrest ihs _ (keyed_mergePair hbase (ihpair ?_ hpair)) hrest
              cases hold : Assoc.get? old pair.1 with
              | none => rfl
              | some value => exact (keyed_mapping.1 hbase).2 _ (Assoc.mem_of_get? hold)

end Value

namespace Mapping

/-- The value that a path of keys leads to in a mapping. -/
def at? (pairs : Mapping) (path : List String) : Option Value :=
  (Value.mapping pairs).at? path

/-- A path that comes upon something else than a mapping before its end. -/
def Blocks (pairs : Mapping) (path : List String) : Prop :=
  (Value.mapping pairs).Blocks path

/-- One mapping overrides another leaf by leaf: what a path leads to in both together is the leaf
that it leads to in the upper one, nothing behind such a leaf, what the lower one has where the
upper one says nothing, and where both have a mapping these two together. Overriding by the same
mapping again changes nothing. -/
theorem merge_leaf_by_leaf (base : Mapping) {override : Mapping}
    (hkeyed : (Value.mapping override).keyed = true) :
    (∀ path,
      (∀ leaf, override.at? path = some leaf → leaf.isMapping = false →
        (merge base override).at? path = some leaf) ∧
      (override.Blocks path → (merge base override).at? path = none) ∧
      (override.at? path = none → ¬ override.Blocks path →
        (merge base override).at? path = base.at? path) ∧
      ∀ new, override.at? path = some (.mapping new) →
        (∀ old, base.at? path = some (.mapping old) →
          (merge base override).at? path = some (.mapping (merge old new))) ∧
        ((∀ old, base.at? path ≠ some (.mapping old)) →
          (merge base override).at? path = some (.mapping new))) ∧
    merge (merge base override) override = merge base override := by
  refine ⟨fun path => ?_, Value.mapping.inj (Value.overlay_overlay (.mapping base) hkeyed)⟩
  obtain ⟨hfound, hblocked, hlower⟩ := Value.at?_overlay (.mapping base) hkeyed path
  refine ⟨fun leaf hleaf hkind => ?_, hblocked, hlower, fun new hnew => ⟨fun old hold => ?_,
    fun hnone => ?_⟩⟩
  · exact (hfound leaf hleaf).trans (congrArg some (Value.overlay_leaf _ hkind))
  · have hboth := hfound _ hnew
    rwa [show (Value.mapping base).at? path = some (.mapping old) from hold] at hboth
  · refine (hfound _ hnew).trans (congrArg some (Value.overlay_mapping_of_leaf ?_ new))
    cases hold : (Value.mapping base).at? path with
    | none => rfl
    | some value =>
        rw [Option.getD_some, Bool.eq_false_iff]
        intro hkind
        obtain ⟨old, rfl⟩ := Value.exists_mapping hkind
        exact hnone old hold

/-- Settings shared by all projects. -/
def sharedPairs : Mapping :=
  [("analysis", .mapping [("max_workers", .int 2), ("marker_import", .text "Shared")]),
    ("output", .text "plain"), ("logging", .mapping [("level", .text "INFO")])]

/-- A project's own settings. -/
def projectPairs : Mapping :=
  [("analysis", .mapping [("max_workers", .int 3), ("base_type", .text "Base")]),
    ("output", .mapping [("tool_name", .text "lint")]), ("logging", .null)]

/-- A number is replaced, a name stays, two mappings are merged and one takes the place of a text,
and nothing is left below a value in place of a mapping. -/
theorem merge_leaf_by_leaf_project :
    (Value.mapping projectPairs).keyed = true ∧
    (merge sharedPairs projectPairs).at? ["analysis", "max_workers"] = some (.int 3) ∧
    (merge sharedPairs projectPairs).at? ["analysis", "marker_import"] = some (.text "Shared") ∧
    (merge sharedPairs projectPairs).at? ["analysis"] = some (.mapping
      [("max_workers", .int 3), ("marker_import", .text "Shared"), ("base_type", .text "Base")]) ∧
    (merge sharedPairs projectPairs).at? ["output"] =
      some (.mapping [("tool_name", .text "lint")]) ∧
    (merge sharedPairs projectPairs).at? ["logging", "level"] = none ∧
    merge (merge sharedPairs projectPairs) projectPairs = merge sharedPairs projectPairs := by
  have hkeyed : (Value.mapping projectPairs).keyed = true := by decide
  obtain ⟨hpaths, hagain⟩ := merge_leaf_by_leaf sharedPairs hkeyed
  have hfree : ¬ projectPairs.Blocks ["analysis", "marker_import"] := by
    intro h
    obtain ⟨analysis, hanalysis, hrest⟩ := Value.blocks_mapping_cons.1 h
    cases hanalysis
    obtain ⟨marker, hmarker, -⟩ := Value.blocks_mapping_cons.1 hrest
    cases hmarker
  have htext : ∀ old, sharedPairs.at? ["output"] ≠ some (.mapping old) := by
    rintro old ⟨⟩
  have hboth := ((hpaths ["analysis"]).2.2.2 _ rfl).1 _ rfl
  exact ⟨hkeyed, (hpaths _).1 _ rfl rfl, (hpaths _).2.2.1 rfl hfree, hboth.trans rfl,
    ((hpaths _).2.2.2 _ rfl).2 htext,
    (hpaths _).2.1 ⟨["logging"], .null, ⟨_, rfl⟩, by decide, rfl, rfl⟩, hagain⟩

end Mapping
end SandboxLint
