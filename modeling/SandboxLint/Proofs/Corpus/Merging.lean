import SandboxLint.Proofs.Corpus.Sketch
import SandboxLint.Proofs.FirstSeen
import SandboxLint.Proofs.Sorting

/-!
How declarations are merged into types. The outlines of different files may come in any order:
they are taken by path, and a type says what its parts say in that order. Methods of a name add
up, of fields of a name the first stays, and what is only a set is the union over the parts.
-/

namespace SandboxLint

theorem Assoc.get?_map_key {α κ : Type} [BEq κ] [LawfulBEq κ] (key : α → κ) (xs : List α)
    (name : κ) : Assoc.get? (xs.map fun x => (key x, x)) name = xs.find? (key · == name) := by
  induction xs with
  | nil => rfl
  | cons x xs ih =>
      rw [get?] at ih ⊢
      by_cases hx : key x = name
      · simp [hx]
      · rw [List.map_cons, List.lookup_cons, List.find?_cons, ih, beq_false_of_ne hx,
          beq_false_of_ne (Ne.symm hx)]

/-- A type says what the parts say that it is merged from. What it can say only once, its place
among them, is what the first part says. -/
structure TypeDecl.Merges (decl : TypeDecl) (first : Fragment) (parts : List Fragment) : Prop where
  name : decl.name = first.name
  qualifiedName : decl.qualifiedName = first.qualifiedName
  namespaceName : decl.namespaceName = first.namespaceName
  kind : decl.kind = first.kind
  path : decl.path = first.path
  span : decl.span = first.span
  outerType : decl.outerType = first.outerType
  typeParameterCount : decl.typeParameterCount = first.typeParameterCount
  methods : ∀ name group, decl.methods.get? name = some group ↔
    group = (parts.flatMap fun part => part.methods.filter (·.name == name)) ∧ group ≠ []
  methodNames : FirstSeen ((parts.flatMap (·.methods)).map (·.name)) decl.methods.keys
  fields : ∀ name, decl.fields.get? name = (parts.flatMap (·.fields)).find? (·.name == name)
  fieldNames : FirstSeen ((parts.flatMap (·.fields)).map (·.name)) decl.fields.keys
  baseNames : FirstSeen (parts.flatMap (·.baseNames)) decl.baseNames
  attributes : ∀ name, name ∈ decl.attributes ↔ ∃ part ∈ parts, name ∈ part.attributes
  declaringFiles : ∀ path, path ∈ decl.declaringFiles ↔ ∃ part ∈ parts, part.path = path
  ambiguous : decl.ambiguous = true ↔
    2 ≤ parts.length ∧ ∃ part ∈ parts, part.isPartial = false

theorem TypeDecl.merges_merge (first : Fragment) (parts : List Fragment) :
    (merge first parts).Merges first parts where
  name := rfl
  qualifiedName := rfl
  namespaceName := rfl
  kind := rfl
  path := rfl
  span := rfl
  outerType := rfl
  typeParameterCount := rfl
  methods name group := by
    have hvalues : Assoc.valuesOf ((parts.flatMap (·.methods)).map fun m => (m.name, m)) name =
        parts.flatMap fun part => part.methods.filter (·.name == name) := by
      rw [Assoc.valuesOf, List.filter_map, List.map_map, List.filter_flatMap]
      exact List.map_id' _
    rw [← hvalues, ← Assoc.mem_groups_iff]
    exact Assoc.get?_eq_some_iff_mem (Assoc.nodup_keys_groups _)
  methodNames := by
    have hkeys := Assoc.firstSeen_keys_groups ((parts.flatMap (·.methods)).map fun m => (m.name, m))
    rwa [Assoc.keys, List.map_map] at hkeys
  fields name := by
    rw [merge, Assoc.get?_ofFirstPairs]
    exact Assoc.get?_map_key (fun f : FieldDecl => f.name) _ name
  fieldNames := by
    have hkeys :=
      Assoc.firstSeen_keys_ofFirstPairs ((parts.flatMap (·.fields)).map fun f => (f.name, f))
    rwa [Assoc.keys, List.map_map] at hkeys
  baseNames := .eraseDups _
  attributes name := by simp [merge]
  declaringFiles path := by simp [merge]
  ambiguous := by simp [merge, Nat.succ_le_iff]

namespace TypeTable

variable {outlines : List Outline}

theorem ofOutlines_eq_of_perm (hpaths : (outlines.map (·.path)).Nodup)
    {other : List Outline} (h : other.Perm outlines) : ofOutlines other = ofOutlines outlines := by
  rw [ofOutlines, ofOutlines, Sorting.mergeSort_key_eq_of_perm h.symm hpaths]

/-- Every name of a fragment gives a type, and the types stand where their names were first
seen. -/
theorem firstSeen_qualifiedNames (fragments : List Fragment) :
    FirstSeen (fragments.map (·.qualifiedName))
      ((ofFragments fragments).map (·.qualifiedName)) := by
  have hkeys := Assoc.firstSeen_keys_groups (fragments.map fun f => (f.qualifiedName, f))
  rw [Assoc.keys, List.map_map] at hkeys
  have hnames : (ofFragments fragments).map (·.qualifiedName) =
      Assoc.keys (Assoc.groups (fragments.map fun f => (f.qualifiedName, f))) := by
    rw [ofFragments, List.map_filterMap, Assoc.keys]
    -- No group is empty, so no key is passed over.
    refine (List.filterMap_congr fun pair hpair => ?_).trans (congrFun List.filterMap_eq_map _)
    obtain ⟨name, group⟩ := pair
    obtain ⟨first, rest, rfl⟩ := List.exists_cons_of_ne_nil ((Assoc.mem_groups_iff _ _ _).1 hpair).2
    exact congrArg some (name_of_group hpair rfl)
  exact hnames ▸ hkeys

/-- An outline that is made of a file whose places stand in the order of the source lists the
types of the file in that order. -/
theorem types_inSourceOrder (file : SourceFile) (marker : String)
    (hplaces : file.root.places.Pairwise fun a b => a.start ≤ b.start) :
    (Outline.ofFile file marker).types.Pairwise fun a b =>
      a.node.start ≤ b.node.start := by
  rw [Outline.ofFile, List.pairwise_map]
  exact hplaces.filter _

/-- Whatever order the outlines come in, the table is the same. Its types are those that the
fragments name, in the order in which the names are first seen when the files are taken by path
and each file from top to bottom, and every type is merged from its own fragments in this order. -/
theorem declarations_merged (hpaths : (outlines.map (·.path)).Nodup) :
    (∀ other : List Outline, other.Perm outlines → ofOutlines other = ofOutlines outlines) ∧
    (∀ (file : SourceFile) (marker : String),
      (file.root.places.Pairwise fun a b => a.start ≤ b.start) →
      (Outline.ofFile file marker).types.Pairwise fun a b => a.node.start ≤ b.node.start) ∧
    (∃ sorted : List Outline, sorted.Perm outlines ∧ (sorted.map (·.path)).Pairwise (· < ·)) ∧
    ∀ sorted : List Outline, sorted.Perm outlines → (sorted.map (·.path)).Pairwise (· < ·) →
      FirstSeen ((sorted.flatMap (·.types)).map (·.qualifiedName))
        ((ofOutlines outlines).map (·.qualifiedName)) ∧
      ∀ decl ∈ ofOutlines outlines, ∃ first rest,
        (sorted.flatMap (·.types)).filter (·.qualifiedName == decl.qualifiedName) =
          first :: rest ∧ decl.Merges first (first :: rest) := by
  refine ⟨fun other h => ofOutlines_eq_of_perm hpaths h, types_inSourceOrder, ?_, ?_⟩
  · exact ⟨_, List.mergeSort_perm outlines _, Sorting.strict_mergeSort_key hpaths⟩
  · intro sorted hperm hordered
    have htable : ofOutlines outlines = ofFragments (sorted.flatMap (·.types)) := by
      rw [← ofOutlines_eq_of_perm hpaths hperm, ofOutlines_of_ordered hordered]
    refine ⟨htable ▸ firstSeen_qualifiedNames _, fun decl hdecl => ?_⟩
    rw [← ofOutlines_eq_of_perm hpaths hperm] at hdecl
    obtain ⟨first, rest, hfragments, hmerge⟩ := mem_ofOutlines_iff.1 hdecl
    rw [fragmentsNamed_of_ordered hordered] at hfragments
    exact ⟨first, rest, hfragments, hmerge ▸ TypeDecl.merges_merge first _⟩

def doorOutlines : List Outline :=
  [Sketch.file "B.cs"
      [Sketch.classDecl ["partial"] "Door" ["Lock"]
        [Sketch.fieldDecl "float" "width", Sketch.methodDecl [] "Play" []]],
    Sketch.file "A.cs"
      [Sketch.classDecl ["partial"] "Door" ["Frame", "Frame"]
        [Sketch.fieldDecl "int" "width", Sketch.methodDecl [] "Play" []]]].map (.ofFile · "")

theorem declarations_merged_door : (doorOutlines.map (·.path)).Nodup ∧
    ofOutlines doorOutlines.reverse = ofOutlines doorOutlines ∧
    ∃ door ∈ ofOutlines doorOutlines, door.qualifiedName = "Door" ∧
      (door.methods.get? "Play").map (·.map (·.path)) = some ["A.cs", "B.cs"] ∧
      (door.fields.get? "width").map (·.path) = some "A.cs" ∧
      (∀ name, name ∈ door.baseNames ↔ name ∈ ["Frame", "Frame", "Lock"]) ∧
      door.ambiguous = false := by
  have hpaths : (doorOutlines.map (·.path)).Nodup := by decide
  obtain ⟨hsame, -, -, hmerged⟩ := declarations_merged hpaths
  obtain ⟨hnames, hparts⟩ :=
    hmerged doorOutlines.reverse (List.reverse_perm _) (by decide)
  have hdoor : "Door" ∈ (ofOutlines doorOutlines).map (·.qualifiedName) :=
    (hnames.mem_iff "Door").2 (by decide)
  obtain ⟨door, hmem, hname⟩ := List.mem_map.1 hdoor
  obtain ⟨first, rest, hgroup, hmerges⟩ := hparts door hmem
  rw [hname] at hgroup
  refine ⟨hpaths, hsame _ (List.reverse_perm _), door, hmem, hname, ?_, ?_, ?_, ?_⟩
  · rw [(hmerges.methods "Play" _).2 ⟨rfl, by rw [← hgroup]; decide⟩, ← hgroup]
    decide
  · rw [hmerges.fields, ← hgroup]
    decide
  · intro name
    have hbases : (first :: rest).flatMap (·.baseNames) = ["Frame", "Frame", "Lock"] := by
      rw [← hgroup]
      decide
    rw [hmerges.baseNames.mem_iff, hbases]
  · rw [Bool.eq_false_iff, ne_eq, hmerges.ambiguous, ← hgroup]
    decide

end TypeTable
end SandboxLint
