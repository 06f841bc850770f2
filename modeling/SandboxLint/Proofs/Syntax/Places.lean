import SandboxLint.Syntax.Parameter
import SandboxLint.Syntax.Variable

/-!
The places below a place. They are closed under going down, so whatever the accessors
of a node hand out is again a place below the same root, and the texts that they read
are texts of such places.
-/

namespace SandboxLint
namespace Node

theorem mem_placesIn_self (above : List Tree) (tree : Tree) :
    (⟨tree, above⟩ : Node) ∈ placesIn above tree := by
  cases tree with
  | node info children =>
      rw [placesIn]
      exact List.mem_cons_self

theorem mem_places_self (node : Node) : node ∈ node.places :=
  mem_placesIn_self node.above node.tree

theorem mem_placesInAll {above : List Tree} {trees : List Tree} {node : Node} :
    node ∈ placesInAll above trees ↔ ∃ tree ∈ trees, node ∈ placesIn above tree := by
  induction trees with
  | nil => simp [placesInAll]
  | cons tree rest ih => simp [placesInAll, ih]

mutual

/-- The places below a place of a tree are places of the tree. -/
theorem mem_placesIn_trans (above : List Tree) (tree : Tree) {node place : Node}
    (hnode : node ∈ placesIn above tree) (hplace : place ∈ node.places) :
    place ∈ placesIn above tree := by
  match tree with
  | .node info children =>
      rw [placesIn, List.mem_cons] at hnode
      cases hnode with
      | inl hself =>
          subst hself
          exact hplace
      | inr hbelow =>
          rw [placesIn, List.mem_cons]
          exact .inr (mem_placesInAll_trans _ children hbelow hplace)

theorem mem_placesInAll_trans (above : List Tree) (trees : List Tree) {node place : Node}
    (hnode : node ∈ placesInAll above trees) (hplace : place ∈ node.places) :
    place ∈ placesInAll above trees := by
  match trees with
  | [] => cases hnode
  | tree :: rest =>
      rw [placesInAll, List.mem_append] at hnode ⊢
      cases hnode with
      | inl hfirst => exact .inl (mem_placesIn_trans above tree hfirst hplace)
      | inr hrest => exact .inr (mem_placesInAll_trans above rest hrest hplace)

end

variable {root node : Node}

theorem mem_places_trans (hnode : node ∈ root.places) {place : Node}
    (hplace : place ∈ node.places) : place ∈ root.places :=
  mem_placesIn_trans root.above root.tree hnode hplace

theorem mem_places_of_child (hnode : node ∈ root.places) {child : Node}
    (hchild : child ∈ node.children) : child ∈ root.places := by
  refine mem_places_trans hnode ?_
  obtain ⟨⟨info, children⟩, above⟩ := node
  obtain ⟨tree, htree, rfl⟩ := List.mem_map.1 hchild
  rw [places, placesIn, List.mem_cons]
  exact .inr (mem_placesInAll.2 ⟨tree, htree, mem_placesIn_self _ tree⟩)

theorem mem_places_of_child? (hnode : node ∈ root.places) {field : String} {child : Node}
    (hchild : node.child? field = some child) : child ∈ root.places :=
  mem_places_of_child hnode (List.mem_of_find?_eq_some hchild)

theorem mem_places_of_childOfKind? (hnode : node ∈ root.places) {kind : String} {child : Node}
    (hchild : node.childOfKind? kind = some child) : child ∈ root.places :=
  mem_places_of_child hnode (List.mem_of_find?_eq_some hchild)

theorem mem_places_of_namedChild (hnode : node ∈ root.places) {child : Node}
    (hchild : child ∈ node.namedChildren) : child ∈ root.places :=
  mem_places_of_child hnode (List.mem_filter.1 hchild).1

theorem mem_places_of_descendant (hnode : node ∈ root.places) {kinds : List String} {place : Node}
    (hplace : place ∈ node.descendants kinds) : place ∈ root.places :=
  mem_places_trans hnode (List.mem_filter.1 hplace).1

theorem mem_places_of_or (hnode : node ∈ root.places) {field kind : String} {child : Node}
    (hchild : (node.child? field).or (node.childOfKind? kind) = some child) :
    child ∈ root.places := by
  cases hfield : node.child? field with
  | some found =>
      rw [hfield, Option.some_or] at hchild
      cases hchild
      exact mem_places_of_child? hnode hfield
  | none =>
      rw [hfield, Option.none_or] at hchild
      exact mem_places_of_childOfKind? hnode hchild

theorem parent_of_child {child : Node} (h : child ∈ node.children) : child.parent = some node := by
  obtain ⟨tree, -, rfl⟩ := List.mem_map.1 h
  rfl

theorem parent_of_child? {field : String} {child : Node} (h : node.child? field = some child) :
    child.parent = some node :=
  parent_of_child (List.mem_of_find?_eq_some h)

theorem mem_ancestors_of_parent {around : Node} (h : node.parent = some around) :
    around ∈ node.ancestors := by
  rw [parent] at h
  split at h
  · cases h
  · next tree above habove =>
      cases h
      rw [ancestors, habove, ancestorsOf]
      exact List.mem_cons_self

/-- A text is empty or that of a place below a root. -/
def Writes (root : Node) (text : String) : Prop :=
  text = "" ∨ ∃ place ∈ root.places, place.text = text

theorem writes_text (hnode : node ∈ root.places) : root.Writes node.text :=
  .inr ⟨node, hnode, rfl⟩

theorem writes_textOf {node? : Option Node} (h : ∀ node, node? = some node → node ∈ root.places) :
    root.Writes (textOf node?) := by
  cases node? with
  | none => exact .inl rfl
  | some node => exact writes_text (h node rfl)

theorem writes_child? (hnode : node ∈ root.places) (field : String) :
    root.Writes (textOf (node.child? field)) :=
  writes_textOf fun _ hchild => mem_places_of_child? hnode hchild

end Node

namespace Declarator

theorem initializerIn_mem {root : Node} {parts : List Node}
    (hparts : ∀ part ∈ parts, part ∈ root.places) (afterEquals : Bool) {value : Node}
    (h : initializerIn afterEquals parts = some value) : value ∈ root.places := by
  induction parts generalizing afterEquals with
  | nil => cases h
  | cons part rest ih =>
      have hpart := hparts part List.mem_cons_self
      have hrest : ∀ other ∈ rest, other ∈ root.places :=
        fun other hother => hparts other (List.mem_cons_of_mem _ hother)
      rw [initializerIn] at h
      split at h
      · exact Node.mem_places_of_namedChild hpart (List.mem_of_head? h)
      · split at h
        · exact ih hrest true h
        · split at h
          · cases h
            exact hpart
          · exact ih hrest afterEquals h

theorem initializer_mem {root declaration : Node} (hdeclaration : declaration ∈ root.places)
    {declarator : Declarator} (h : declarator ∈ declaration.declarators) {value : Node}
    (hvalue : declarator.initializer = some value) : value ∈ root.places := by
  obtain ⟨part, hpart, hread⟩ := List.mem_filterMap.1 h
  have hplace := Node.mem_places_of_namedChild hdeclaration (List.mem_filter.1 hpart).1
  obtain ⟨name, -, rfl⟩ := Option.map_eq_some_iff.1 hread
  exact initializerIn_mem (fun _ hchild => Node.mem_places_of_child hplace hchild) false hvalue

end Declarator

namespace Parameter

theorem mem_of_mem_groups {children group : List Node} {token : Node}
    (hgroup : group ∈ groups children) (htoken : token ∈ group) : token ∈ children := by
  induction children generalizing group with
  | nil =>
      rw [groups, List.mem_singleton] at hgroup
      rw [hgroup] at htoken
      cases htoken
  | cons child rest ih =>
      rw [groups] at hgroup
      split at hgroup
      · exact List.mem_cons_of_mem _ (ih hgroup htoken)
      · split at hgroup
        · cases List.mem_cons.1 hgroup with
          | inl hnil =>
              rw [hnil] at htoken
              cases htoken
          | inr hmore => exact List.mem_cons_of_mem _ (ih hmore htoken)
        · split at hgroup
          · next first more hgroups =>
              cases List.mem_cons.1 hgroup with
              | inl hfirst =>
                  rw [hfirst] at htoken
                  cases List.mem_cons.1 htoken with
                  | inl hsame => exact hsame ▸ List.mem_cons_self
                  | inr hin =>
                      exact List.mem_cons_of_mem _
                        (ih (hgroups ▸ List.mem_cons_self) hin)
              | inr hmore =>
                  exact List.mem_cons_of_mem _
                    (ih (hgroups ▸ List.mem_cons_of_mem _ hmore) htoken)
          · rw [List.mem_singleton.1 hgroup, List.mem_singleton] at htoken
            exact htoken ▸ List.mem_cons_self

theorem typeText_of_ofTokens {root first : Node} {tokens : List Node} {p : Parameter}
    (htokens : ∀ token ∈ tokens, token ∈ root.places) (h : ofTokens first tokens = some p) :
    root.Writes p.typeText := by
  simp only [ofTokens] at h
  split at h
  · cases h
  · cases h
    refine Node.writes_textOf fun token htoken => htokens token ?_
    have hmem := List.mem_of_mem_drop (List.mem_of_head? htoken)
    exact (List.mem_filter.1 (List.mem_reverse.1 hmem)).1

theorem typeText_of_ofNode {owner : Node} {p : Parameter} (h : ofNode owner = some p) :
    p.typeText = Node.textOf (owner.child? "type") := by
  obtain ⟨-, hread⟩ := (Option.ite_none_left_eq_some (p := _ = true)).1 h
  rw [← Option.some.inj hread]

theorem typeText_of_ofGroup {root : Node} {group : List Node} {p : Parameter}
    (hgroup : ∀ token ∈ group, token ∈ root.places) (h : ofGroup group = some p) :
    root.Writes p.typeText := by
  match group with
  | [] => cases h
  | [one] =>
      rw [ofGroup] at h
      split at h
      · rw [typeText_of_ofNode h]
        exact Node.writes_child? (hgroup one List.mem_cons_self) "type"
      · exact typeText_of_ofTokens hgroup h
  | first :: second :: rest => exact typeText_of_ofTokens hgroup h

end Parameter

namespace Node

/-- Whether a place is no wrapper itself and has nothing but wrappers between it and the places
`above`. -/
def standsBelow (above : List Tree) (node : Node) : Bool :=
  node.named && !Kind.wrappers.contains node.kind &&
    (node.above.take (node.above.length - above.length)).all (Kind.wrappers.contains ·.info.kind)

mutual

theorem above_of_mem_placesIn (above : List Tree) (tree : Tree) {node : Node}
    (h : node ∈ placesIn above tree) : ∃ between, node.above = between ++ above := by
  match tree with
  | .node info children =>
      rw [placesIn, List.mem_cons] at h
      cases h with
      | inl hself => exact ⟨[], by rw [hself]; rfl⟩
      | inr hbelow =>
          obtain ⟨between, hbetween⟩ := above_of_mem_placesInAll _ children hbelow
          exact ⟨between ++ [.node info children], by rw [hbetween, List.append_cons]⟩

theorem above_of_mem_placesInAll (above : List Tree) (trees : List Tree) {node : Node}
    (h : node ∈ placesInAll above trees) : ∃ between, node.above = between ++ above := by
  match trees with
  | [] => cases h
  | tree :: rest =>
      rw [placesInAll, List.mem_append] at h
      cases h with
      | inl hfirst => exact above_of_mem_placesIn above tree hfirst
      | inr hrest => exact above_of_mem_placesInAll above rest hrest

end

/-- What stands below a tree stands below what is around the tree if the tree is a wrapper. -/
theorem standsBelow_around (above : List Tree) (tree : Tree) {trees : List Tree} {node : Node}
    (h : node ∈ placesInAll (tree :: above) trees) : standsBelow above node =
      (Kind.wrappers.contains tree.info.kind && standsBelow (tree :: above) node) := by
  obtain ⟨between, hbetween⟩ := above_of_mem_placesInAll _ trees h
  have hnear : node.above.take (node.above.length - (tree :: above).length) = between := by
    rw [hbetween, List.length_append, Nat.add_sub_cancel, List.take_left]
  have hfar : node.above.take (node.above.length - above.length) = between ++ [tree] := by
    rw [hbetween, List.append_cons, List.length_append, Nat.add_sub_cancel, List.take_left]
  rw [standsBelow, standsBelow, hnear, hfar, List.all_append, List.all_cons, List.all_nil,
    Bool.and_true, ← Bool.and_assoc]
  exact Bool.and_comm _ _

theorem standsBelow_self (above : List Tree) (tree : Tree) : standsBelow above ⟨tree, above⟩ =
    (tree.info.named && !Kind.wrappers.contains tree.info.kind) := by
  rw [standsBelow, Nat.sub_self, List.take_zero, List.all_nil, Bool.and_true]
  rfl

mutual

theorem membersIn_eq (above : List Tree) (tree : Tree) :
    membersIn above tree = (placesIn above tree).filter (standsBelow above) := by
  match tree with
  | .node info children =>
      rw [membersIn, placesIn, membersInAll_eq _ children, List.filter_cons, standsBelow_self]
      rw [List.filter_congr fun _ => standsBelow_around above (.node info children)]
      by_cases hwrapper : Kind.wrappers.contains info.kind = true
      · simp only [Tree.info, hwrapper, Bool.not_true, Bool.and_false, Bool.true_and,
          Bool.false_eq_true, if_true, if_false]
      · have hnone (nodes : List Node) : nodes.filter (fun _ => false) = [] :=
          List.filter_eq_nil_iff.2 fun _ _ => Bool.false_ne_true
        simp only [Tree.info, hwrapper, Bool.not_false, Bool.and_true, Bool.false_and,
          Bool.false_eq_true, if_false, hnone]

theorem membersInAll_eq (above : List Tree) (trees : List Tree) :
    membersInAll above trees = (placesInAll above trees).filter (standsBelow above) := by
  match trees with
  | [] => rfl
  | tree :: rest =>
      rw [membersInAll, placesInAll, List.filter_append, membersIn_eq above tree,
        membersInAll_eq above rest]

end

theorem placesInAll_eq_flatMap (above : List Tree) (trees : List Tree) :
    placesInAll above trees = trees.flatMap (placesIn above) := by
  induction trees with
  | nil => rfl
  | cons tree rest ih => rw [placesInAll, List.flatMap_cons, ih]

/-- The members in a container are the named places below it that have nothing but wrappers
around them there, in the order of the source. -/
theorem flattenMembers_eq (container : Node) :
    container.flattenMembers = (container.children.flatMap (·.places)).filter
      (standsBelow (container.tree :: container.above)) := by
  rw [children, List.flatMap_map]
  exact (membersInAll_eq _ _).trans (congrArg _ (placesInAll_eq_flatMap _ _))

theorem typeMembers_eq {type body : Node} (h : type.child? "body" = some body) :
    type.typeMembers =
      (body.children.flatMap (·.places)).filter (standsBelow (body.tree :: body.above)) := by
  rw [typeMembers, h]
  exact body.flattenMembers_eq

variable {root node : Node}

/-- The members of a type declaration are places below it. -/
theorem mem_places_of_typeMember (hnode : node ∈ root.places) {member : Node}
    (hmember : member ∈ node.typeMembers) : member ∈ root.places := by
  rw [typeMembers] at hmember
  split at hmember
  · next body hbody =>
      refine mem_places_trans (mem_places_of_child? hnode hbody) ?_
      obtain ⟨⟨info, children⟩, above⟩ := body
      rw [places, placesIn, List.mem_cons]
      rw [flattenMembers, membersInAll_eq] at hmember
      exact .inr (List.mem_filter.1 hmember).1
  · cases hmember

/-- The base types of a declaration are places below it. -/
theorem mem_places_of_baseType (hnode : node ∈ root.places) {base : Node}
    (hbase : base ∈ node.baseTypes) : base ∈ root.places := by
  rw [baseTypes] at hbase
  split at hbase
  · cases hbase
  · next list hlist =>
      obtain ⟨child, hchild, hread⟩ := List.mem_filterMap.1 hbase
      have hplace := mem_places_of_namedChild (mem_places_of_childOfKind? hnode hlist) hchild
      split at hread
      · cases htype : child.child? "type" with
        | some type =>
            rw [htype, Option.some_or] at hread
            cases hread
            exact mem_places_of_child? hplace htype
        | none =>
            rw [htype, Option.none_or] at hread
            exact mem_places_of_namedChild hplace (List.mem_of_head? hread)
      · split at hread
        · cases hread
        · cases hread
          exact hplace

theorem writes_declaredName (hnode : node ∈ root.places) : root.Writes node.declaredName := by
  rw [declaredName]
  split
  · next name hname => exact writes_text (mem_places_of_child? hnode hname)
  · exact writes_textOf fun _ hchild => mem_places_of_childOfKind? hnode hchild

end Node

/-- The type of a parameter is written below the place that has it. -/
theorem Node.typeText_of_parameter {root node : Node} (hnode : node ∈ root.places) {p : Parameter}
    (h : p ∈ node.parameters) : root.Writes p.typeText := by
  rw [parameters] at h
  split at h
  · cases h
  · next list hlist =>
      have hplace : list ∈ root.places := mem_places_of_or hnode hlist
      split at h
      · rw [List.mem_singleton.1 h]
        exact .inl rfl
      · obtain ⟨group, hgroup, hread⟩ := List.mem_filterMap.1 h
        refine Parameter.typeText_of_ofGroup (fun token htoken => ?_) hread
        exact mem_places_of_child hplace (Parameter.mem_of_mem_groups hgroup htoken)

end SandboxLint
