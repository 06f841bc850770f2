import SandboxLint.Proofs.Syntax.Places
import SandboxLint.Syntax.Walk

/-!
Walks with a stack visit what recursive walks visit. What a walk still has to hand out are the
places below its stack, from the top down, so in the end it has handed out the recursive
pre-order. A place has one path of child numbers to it from the root, and pre-order is the
lexicographic order of these paths.
-/

namespace SandboxLint
namespace Node

theorem places_eq (node : Node) : node.places = node :: node.children.flatMap (·.places) := by
  obtain ⟨⟨info, children⟩, above⟩ := node
  rw [places, placesIn, placesInAll_eq_flatMap, Node.children, List.flatMap_map]
  rfl

/-- A place taken off a stack leaves the places below it to visit first, then the rest. -/
theorem flatMap_places_pushAll (node : Node) (rest : List Node) :
    node :: (pushAll node.children.reverse rest).flatMap (·.places) =
      (node :: rest).flatMap (·.places) := by
  rw [pushAll, List.reverse_reverse, List.flatMap_append, List.flatMap_cons, places_eq node,
    List.cons_append]

/-- What is left to a walk are the places below its stack, from the top down. -/
theorem walkFrom_eq (kinds? : Option (List String)) (stack : List Node) :
    walkFrom kinds? stack = (stack.flatMap (·.places)).filter (isAsked kinds?) := by
  induction stack using walkFrom.induct kinds? with
  | case1 => rw [walkFrom, List.flatMap_nil, List.filter_nil]
  | case2 node rest hasked ih =>
      rw [walkFrom, if_pos hasked, ih, ← flatMap_places_pushAll, List.filter_cons_of_pos hasked]
  | case3 node rest hasked ih =>
      rw [walkFrom, if_neg hasked, ih, ← flatMap_places_pushAll, List.filter_cons_of_neg hasked]

theorem walk_eq (node : Node) (kinds? : Option (List String)) :
    node.walk kinds? = node.places.filter (isAsked kinds?) := by
  rw [walk, walkFrom_eq, List.flatMap_singleton]

theorem walk_none (node : Node) : node.walk none = node.places := by
  rw [walk_eq]
  exact List.filter_eq_self.2 fun _ _ => rfl

theorem walk_some (node : Node) (kinds : List String) :
    node.walk (some kinds) = node.descendants kinds :=
  walk_eq node (some kinds)

/-- The place that child numbers lead to, one level down with each. -/
def at? (root : Node) : List Nat → Option Node
  | [] => some root
  | i :: path => root.children[i]?.bind (·.at? path)

mutual

/-- The paths in a tree, in pre-order. -/
def pathsIn : Tree → List (List Nat)
  | .node _ children => [] :: pathsInAll 0 children

/-- The paths into several siblings, the first of which has the number `i`. -/
def pathsInAll (i : Nat) : List Tree → List (List Nat)
  | [] => []
  | tree :: trees => (pathsIn tree).map (i :: ·) ++ pathsInAll (i + 1) trees

end

theorem mem_pathsInAll {i j : Nat} {path : List Nat} {trees : List Tree} :
    j :: path ∈ pathsInAll i trees ↔
      ∃ k tree, j = i + k ∧ trees[k]? = some tree ∧ path ∈ pathsIn tree := by
  induction trees generalizing i with
  | nil => simp [pathsInAll]
  | cons first rest ih =>
      rw [pathsInAll, List.mem_append, ih]
      constructor
      · rintro (hfirst | ⟨k, tree, rfl, htree, hpath⟩)
        · obtain ⟨inner, hinner, heq⟩ := List.mem_map.1 hfirst
          cases heq
          exact ⟨0, first, rfl, rfl, hinner⟩
        · exact ⟨k + 1, tree, by omega, htree, hpath⟩
      · rintro ⟨k, tree, rfl, htree, hpath⟩
        cases k with
        | zero =>
            cases htree
            exact .inl (List.mem_map_of_mem hpath)
        | succ k => exact .inr ⟨k, tree, by omega, htree, hpath⟩

theorem nil_notMem_pathsInAll {i : Nat} {trees : List Tree} : [] ∉ pathsInAll i trees := by
  induction trees generalizing i with
  | nil => simp [pathsInAll]
  | cons tree rest ih =>
      rw [pathsInAll, List.mem_append, not_or]
      exact ⟨by simp, ih⟩

/-- A path comes before another if it leads to a place above the other's or further left. -/
def Precedes (path other : List Nat) : Prop :=
  List.Lex (· < ·) path other

mutual

/-- Pre-order is the order of the paths. -/
theorem pathsIn_ordered (tree : Tree) : (pathsIn tree).Pairwise Precedes := by
  match tree with
  | .node info children =>
      rw [pathsIn, List.pairwise_cons]
      refine ⟨fun path hpath => ?_, pathsInAll_ordered 0 children⟩
      cases path with
      | nil => exact absurd hpath nil_notMem_pathsInAll
      | cons i rest => exact .nil

theorem pathsInAll_ordered (i : Nat) (trees : List Tree) :
    (pathsInAll i trees).Pairwise Precedes := by
  match trees with
  | [] => exact .nil
  | tree :: rest =>
      rw [pathsInAll, List.pairwise_append, List.pairwise_map]
      refine ⟨(pathsIn_ordered tree).imp .cons, pathsInAll_ordered (i + 1) rest, ?_⟩
      intro left hleft right hright
      obtain ⟨inner, -, rfl⟩ := List.mem_map.1 hleft
      cases right with
      | nil => exact absurd hright nil_notMem_pathsInAll
      | cons j path =>
          obtain ⟨k, -, rfl, -⟩ := mem_pathsInAll.1 hright
          exact .rel (by omega)

end

theorem at?_cons (info : NodeInfo) (children above : List Tree) (i : Nat) (path : List Nat) :
    at? ⟨.node info children, above⟩ (i :: path) =
      children[i]?.bind fun child => at? ⟨child, .node info children :: above⟩ path := by
  rw [at?, Node.children, List.getElem?_map, Option.bind_map]
  rfl

mutual

/-- The paths of a tree lead to its places, one after the other. -/
theorem map_at?_pathsIn (above : List Tree) (tree : Tree) :
    (pathsIn tree).map (at? ⟨tree, above⟩) = (placesIn above tree).map some := by
  match tree with
  | .node info children =>
      rw [pathsIn, placesIn, List.map_cons, List.map_cons]
      exact congrArg _ (map_at?_pathsInAll above info [] children)

theorem map_at?_pathsInAll (above : List Tree) (info : NodeInfo) (before trees : List Tree) :
    (pathsInAll before.length trees).map (at? ⟨.node info (before ++ trees), above⟩) =
      (placesInAll (.node info (before ++ trees) :: above) trees).map some := by
  match trees with
  | [] => rfl
  | tree :: rest =>
      have hrest := map_at?_pathsInAll above info (before ++ [tree]) rest
      rw [List.length_append, List.length_singleton, List.append_assoc, List.singleton_append]
        at hrest
      rw [pathsInAll, placesInAll, List.map_append, List.map_append, hrest, List.map_map,
        ← map_at?_pathsIn _ tree]
      congr 2
      funext path
      simp [at?_cons]

end

theorem mem_pathsIn_iff {path : List Nat} {tree : Tree} (above : List Tree) :
    path ∈ pathsIn tree ↔ ∃ place, at? ⟨tree, above⟩ path = some place := by
  induction path generalizing tree above with
  | nil =>
      obtain ⟨info, children⟩ := tree
      simp [pathsIn, at?]
  | cons i path ih =>
      obtain ⟨info, children⟩ := tree
      rw [pathsIn, List.mem_cons, mem_pathsInAll, at?_cons]
      constructor
      · rintro (h | ⟨k, child, rfl, hchild, hpath⟩)
        · cases h
        · obtain ⟨place, hplace⟩ := (ih (.node info children :: above)).1 hpath
          exact ⟨place, by rw [Nat.zero_add, hchild, Option.bind_some, hplace]⟩
      · rintro ⟨place, hplace⟩
        obtain ⟨child, hchild, hrest⟩ := Option.bind_eq_some_iff.1 hplace
        exact .inr ⟨i, child, (Nat.zero_add i).symm, hchild, (ih _).2 ⟨place, hrest⟩⟩

/-- A list holds the places that stand at certain paths below a root, each once and in the order
of their paths. -/
def Lists (root : Node) (found : List Node) (wanted : List Nat → Node → Prop) : Prop :=
  ∃ paths : List (List Nat), paths.Pairwise Precedes ∧ paths.map root.at? = found.map some ∧
    ∀ path, path ∈ paths ↔ ∃ place, root.at? path = some place ∧ wanted path place

theorem lists_places (root : Node) : root.Lists root.places fun _ _ => True := by
  refine ⟨pathsIn root.tree, pathsIn_ordered root.tree, map_at?_pathsIn root.above root.tree, ?_⟩
  intro path
  rw [mem_pathsIn_iff root.above]
  simp only [and_true]

theorem lists_below (root : Node) :
    root.Lists (root.children.flatMap (·.places)) fun path _ => path ≠ [] := by
  obtain ⟨⟨info, children⟩, above⟩ := root
  have hplaces : (Node.children ⟨.node info children, above⟩).flatMap (·.places) =
      placesInAll (.node info children :: above) children := by
    rw [placesInAll_eq_flatMap, Node.children, List.flatMap_map]
    rfl
  refine ⟨pathsInAll 0 children, pathsInAll_ordered 0 children, ?_, fun path => ?_⟩
  · rw [hplaces]
    exact map_at?_pathsInAll above info [] children
  · have hall : path ∈ pathsIn (.node info children) ↔
        ∃ place, at? ⟨.node info children, above⟩ path = some place := mem_pathsIn_iff above
    rw [pathsIn, List.mem_cons] at hall
    cases path with
    | nil => simp [nil_notMem_pathsInAll]
    | cons i rest => simpa using hall

/-- Leaving out places leaves out the paths to them. -/
theorem Lists.filter {root : Node} {found : List Node} {wanted more : List Nat → Node → Prop}
    (h : root.Lists found wanted) (keep : Node → Bool)
    (hkeep : ∀ path place, root.at? path = some place → wanted path place →
      (keep place = true ↔ more path place)) :
    root.Lists (found.filter keep) fun path place => wanted path place ∧ more path place := by
  obtain ⟨paths, hordered, hmap, hmem⟩ := h
  refine ⟨paths.filter fun path => (root.at? path).any keep, hordered.filter _, ?_, fun path => ?_⟩
  · calc (paths.filter fun path => (root.at? path).any keep).map root.at?
        = (paths.map root.at?).filter (·.any keep) := by
          rw [List.filter_map]
          rfl
      _ = (found.filter keep).map some := by
          rw [hmap, List.filter_map]
          rfl
  · rw [List.mem_filter, hmem]
    constructor
    · rintro ⟨⟨place, hplace, hwanted⟩, hany⟩
      rw [hplace, Option.any_some] at hany
      exact ⟨place, hplace, hwanted, (hkeep path place hplace hwanted).1 hany⟩
    · rintro ⟨place, hplace, hwanted, hmore⟩
      refine ⟨⟨place, hplace, hwanted⟩, ?_⟩
      rw [hplace, Option.any_some]
      exact (hkeep path place hplace hwanted).2 hmore

theorem mem_places_of_at? {root place : Node} {path : List Nat}
    (h : root.at? path = some place) : place ∈ root.places := by
  induction path generalizing root with
  | nil =>
      cases h
      exact mem_places_self _
  | cons i path ih =>
      obtain ⟨child, hchild, hrest⟩ := Option.bind_eq_some_iff.1 h
      have hmem := mem_places_of_child (mem_places_self root) (List.mem_of_getElem? hchild)
      exact mem_places_trans hmem (ih hrest)

def isWrapper (node : Node) : Bool :=
  Kind.wrappers.contains node.kind

/-- The paths from a container that lead through wrappers only, and the places at their ends. -/
inductive ThroughWrappers : Node → List Nat → Node → Prop
  | child {container place : Node} {i : Nat} (at_i : container.children[i]? = some place) :
      ThroughWrappers container [i] place
  | wrapped {container wrapper place : Node} {i : Nat} {path : List Nat}
      (at_i : container.children[i]? = some wrapper) (isWrapper : wrapper.isWrapper = true)
      (rest : ThroughWrappers wrapper path place) : ThroughWrappers container (i :: path) place

/-- A place is a member of a container: a named place that is no wrapper itself, and that one comes
to from the container through wrappers only. -/
structure MemberAt (container : Node) (path : List Nat) (place : Node) : Prop where
  through : ThroughWrappers container path place
  named : place.named = true
  unwrapping : place.isWrapper = false

theorem mem_placesInAll_of_at? {root place : Node} {i : Nat} {path : List Nat}
    (h : root.at? (i :: path) = some place) :
    place ∈ placesInAll (root.tree :: root.above) root.tree.children := by
  obtain ⟨child, hchild, hrest⟩ := Option.bind_eq_some_iff.1 h
  obtain ⟨tree, htree, rfl⟩ := List.mem_map.1 (List.mem_of_getElem? hchild)
  exact mem_placesInAll.2 ⟨tree, htree, mem_places_of_at? hrest⟩

/-- What stands below a container with nothing but wrappers in between is a member of it. -/
theorem standsBelow_iff {container place : Node} {path : List Nat} (hpath : path ≠ [])
    (h : container.at? path = some place) :
    standsBelow (container.tree :: container.above) place = true ↔
      container.MemberAt path place := by
  obtain ⟨i, path, rfl⟩ := List.exists_cons_of_ne_nil hpath
  induction path generalizing container i with
  | nil =>
      obtain ⟨child, hchild, hself⟩ := Option.bind_eq_some_iff.1 h
      cases hself
      obtain ⟨tree, -, rfl⟩ := List.mem_map.1 (List.mem_of_getElem? hchild)
      rw [standsBelow_self, Bool.and_eq_true, Bool.not_eq_true']
      exact ⟨fun ⟨hnamed, hwrapper⟩ => ⟨.child hchild, hnamed, hwrapper⟩,
        fun hmember => ⟨hmember.named, hmember.unwrapping⟩⟩
  | cons j path ih =>
      obtain ⟨child, hchild, hrest⟩ := Option.bind_eq_some_iff.1 h
      have hbelow := mem_placesInAll_of_at? hrest
      have hinner := ih j (by simp) hrest
      obtain ⟨tree, -, rfl⟩ := List.mem_map.1 (List.mem_of_getElem? hchild)
      -- The child is a container in its turn, once it is known to be a wrapper.
      rw [standsBelow_around _ tree hbelow, Bool.and_eq_true, hinner]
      constructor
      · rintro ⟨hwrapper, hmember⟩
        exact ⟨.wrapped hchild hwrapper hmember.through, hmember.named, hmember.unwrapping⟩
      · intro hmember
        cases hmember.through with
        | wrapped hat hwrapper hthrough =>
            rw [hchild] at hat
            cases hat
            exact ⟨hwrapper, hthrough, hmember.named, hmember.unwrapping⟩

/-- The members of a container in the order in which they are found. -/
theorem lists_flattenMembers (container : Node) :
    container.Lists container.flattenMembers container.MemberAt := by
  have hkeep := container.lists_below.filter (standsBelow (container.tree :: container.above))
    fun path place hplace hpath => standsBelow_iff hpath hplace
  rw [flattenMembers_eq]
  obtain ⟨paths, hordered, hmap, hmem⟩ := hkeep
  refine ⟨paths, hordered, hmap, fun path => (hmem path).trans ?_⟩
  refine exists_congr fun place => and_congr_right fun _ => ⟨And.right, fun hmember => ?_⟩
  refine ⟨?_, hmember⟩
  cases hmember.through <;> simp

/-- The nodes at and below a place are numbered in pre-order. -/
def Numbered (root : Node) : Prop :=
  (root.places.map (·.id)).Pairwise (· < ·)

instance (root : Node) : Decidable root.Numbered :=
  inferInstanceAs (Decidable ((root.places.map (·.id)).Pairwise (· < ·)))

/-- A walk with a stack is exact: it hands out the recursive pre-order, of which the places of
some kinds are the descendants that everything else asks for. So it comes to every place at or
below its start that is asked for once, and to no other, in the order of their paths. Members are
found in that order too, each once: they are the named places but wrappers that one comes to from
the container through wrappers only. Where nodes are numbered in pre-order, their numbers grow. -/
theorem walk_exact (node : Node) :
    node.walk none = node.places ∧ (∀ kinds, node.walk (some kinds) = node.descendants kinds) ∧
      (∀ kinds?, node.Lists (node.walk kinds?) fun _ place => isAsked kinds? place = true) ∧
      node.Lists node.flattenMembers node.MemberAt ∧
      (node.Numbered → (node.flattenMembers.map (·.id)).Pairwise (· < ·) ∧
        ∀ kinds?, ((node.walk kinds?).map (·.id)).Pairwise (· < ·)) := by
  have hmembers : node.flattenMembers.Sublist node.places := by
    rw [flattenMembers_eq, places_eq]
    exact List.filter_sublist.trans (List.sublist_cons_self ..)
  have hwalk : ∀ kinds?, (node.walk kinds?).Sublist node.places := by
    intro kinds?
    rw [walk_eq]
    exact List.filter_sublist
  refine ⟨node.walk_none, node.walk_some, fun kinds? => ?_, node.lists_flattenMembers,
    fun hnumbered => ⟨hnumbered.sublist (hmembers.map _), fun kinds? =>
      hnumbered.sublist ((hwalk kinds?).map _)⟩⟩
  have hkeep := node.lists_places.filter (isAsked kinds?) fun _ _ _ _ => Iff.rfl
  simpa only [walk_eq, true_and] using hkeep

/-- The body of a class with a region in it, and a condition inside the region. -/
def regionBody : Tree :=
  let part (id : Nat) (kind : String) (named : Bool) : List Tree → Tree :=
    .node { (default : NodeInfo) with id, kind, named }
  part 0 "declaration_list" true
    [part 1 "\x7b" false [], part 2 "field_declaration" true [],
      part 3 "preproc_region" true
        [part 4 "#region" false [], part 5 "method_declaration" true [],
          part 6 "preproc_if" true [part 7 "property_declaration" true []]],
      part 8 "\x7d" false []]

/-- The members inside the region and the condition come in order with the one before it. -/
theorem walk_exact_region :
    (ofTree regionBody).Numbered ∧
      (ofTree regionBody).flattenMembers.map (·.id) = [2, 5, 7] ∧
      ((ofTree regionBody).flattenMembers.map (·.id)).Pairwise (· < ·) := by
  have hnumbered : (ofTree regionBody).Numbered := by decide
  obtain ⟨-, -, -, -, hordered⟩ := walk_exact (ofTree regionBody)
  exact ⟨hnumbered, by decide, (hordered hnumbered).1⟩

/-- Every node at or below a place that has an error or missing node below it reports an error. -/
def FlagsErrors (root : Node) : Prop :=
  ∀ place ∈ root.places, ∀ child ∈ place.children, ∀ below ∈ child.places,
    below.tree.isError = true → place.info.hasError = true

instance (root : Node) : Decidable root.FlagsErrors :=
  inferInstanceAs (Decidable (∀ place ∈ root.places, ∀ child ∈ place.children,
    ∀ below ∈ child.places, below.tree.isError = true → place.info.hasError = true))

theorem FlagsErrors.child {root child : Node} (h : root.FlagsErrors)
    (hchild : child ∈ root.children) : child.FlagsErrors :=
  fun place hplace =>
    h place (mem_places_trans (mem_places_of_child (mem_places_self root) hchild) hplace)

/-- There is nothing to count below a place that reports no error. -/
theorem FlagsErrors.countP_below {root : Node} (h : root.FlagsErrors)
    (hsound : ¬ root.info.hasError = true) :
    (root.children.flatMap (·.places)).countP (·.tree.isError) = 0 := by
  refine List.countP_eq_zero.2 fun below hbelow herror => hsound ?_
  obtain ⟨child, hchild, hplace⟩ := List.mem_flatMap.1 hbelow
  exact h root (mem_places_self root) child hchild below hplace herror

theorem countP_errors_cons (node : Node) (rest : List Node) :
    ((node :: rest).flatMap (·.places)).countP (·.tree.isError) =
      node.tree.isError.toNat + (node.children.flatMap (·.places)).countP (·.tree.isError) +
        (rest.flatMap (·.places)).countP (·.tree.isError) := by
  rw [List.flatMap_cons, places_eq node, List.cons_append, List.countP_cons, List.countP_append]
  cases node.tree.isError with
  | false => simp
  | true =>
      simp only [Bool.toNat_true, if_true]
      omega

/-- A count is complete when it takes in what stands below the stack. The order in which the walk
comes to siblings does not matter for it. -/
theorem countErrors_eq (found : Nat) (stack : List Node)
    (hstack : ∀ node ∈ stack, node.FlagsErrors) :
    countErrors found stack = found + (stack.flatMap (·.places)).countP (·.tree.isError) := by
  induction found, stack using countErrors.induct with
  | case1 found => rw [countErrors, List.flatMap_nil, List.countP_nil, Nat.add_zero]
  | case2 found node rest total hflag ih =>
      obtain ⟨hnode, hrest⟩ := List.forall_mem_cons.1 hstack
      have hpending : ∀ place ∈ pushAll node.children rest, place.FlagsErrors := by
        intro place hplace
        cases List.mem_append.1 hplace with
        | inl hchild => exact hnode.child (List.mem_reverse.1 hchild)
        | inr hin => exact hrest place hin
      -- Siblings are stacked last first, which a count does not see.
      have hperm : ((pushAll node.children rest).flatMap (·.places)).Perm
          (node.children.flatMap (·.places) ++ rest.flatMap (·.places)) := by
        rw [pushAll, List.flatMap_append]
        exact ((List.reverse_perm _).flatMap_right _).append_right _
      rw [countErrors, if_pos hflag, ih hpending, hperm.countP_eq, List.countP_append,
        countP_errors_cons]
      omega
  | case3 found node rest total hflag ih =>
      obtain ⟨hnode, hrest⟩ := List.forall_mem_cons.1 hstack
      rw [countErrors, if_neg hflag, ih hrest, countP_errors_cons, hnode.countP_below hflag]
      omega

/-- Looking only below nodes that report an error misses no error or missing node, in a tree whose
nodes report what error recovery left below them. -/
theorem errorCount_exact {root : Node} (h : root.FlagsErrors) :
    root.errorCount = (root.walk none).countP (·.tree.isError) := by
  rw [errorCount, countErrors_eq 0 [root] (List.forall_mem_singleton.2 h), walk_none,
    List.flatMap_singleton, Nat.zero_add]

/-- A file with a sound class, an error inside an error, and a sign that is missing. -/
def tornFile : Tree :=
  let leaf (kind : String) (missing hasError : Bool) : Tree :=
    .node { (default : NodeInfo) with kind, missing, hasError } []
  .node { (default : NodeInfo) with kind := "compilation_unit", named := true, hasError := true }
    [.node { (default : NodeInfo) with kind := "class_declaration", named := true }
        [leaf "class" false false, leaf "identifier" false false],
      .node { (default : NodeInfo) with kind := "ERROR", named := true, hasError := true }
        [leaf "identifier" false false, leaf "ERROR" false true],
      leaf ";" true true]

/-- The class is passed over, and all three errors are counted. -/
theorem errorCount_exact_torn :
    (ofTree tornFile).FlagsErrors ∧ (ofTree tornFile).errorCount = 3 := by
  have hflags : (ofTree tornFile).FlagsErrors := by decide
  refine ⟨hflags, (errorCount_exact hflags).trans ?_⟩
  rw [walk_none]
  decide

end Node
end SandboxLint
