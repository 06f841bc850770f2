import SandboxLint.Syntax.Tree

/-!
Walks over trees with an explicit stack. A walk takes the place on top of the stack
and puts what has to be visited below it on top of the rest. It ends because every
turn takes one node out of the trees on the stack. A stack stands here with its top
first.
-/

namespace SandboxLint

/-- Puts items on a stack one after the other, so that the last of them comes off first. -/
def pushAll {α : Type} (items stack : List α) : List α :=
  items.reverse ++ stack

namespace Tree

mutual

def size : Tree → Nat
  | .node _ children => sizeAll children + 1

def sizeAll : List Tree → Nat
  | [] => 0
  | tree :: trees => size tree + sizeAll trees

end

theorem sizeAll_append (front back : List Tree) :
    sizeAll (front ++ back) = sizeAll front + sizeAll back := by
  induction front with
  | nil => simp [sizeAll]
  | cons tree rest ih => simp only [List.cons_append, sizeAll, ih, Nat.add_assoc]

theorem sizeAll_reverse (trees : List Tree) : sizeAll trees.reverse = sizeAll trees := by
  induction trees with
  | nil => rfl
  | cons tree rest ih =>
      simp only [List.reverse_cons, sizeAll_append, sizeAll, ih]
      omega

end Tree

namespace Node

/-- The number of nodes in the trees at some places. -/
def sizeOfPlaces (stack : List Node) : Nat :=
  Tree.sizeAll (stack.map (·.tree))

theorem sizeOfPlaces_cons (node : Node) (rest : List Node) :
    sizeOfPlaces (node :: rest) = sizeOfPlaces node.children + 1 + sizeOfPlaces rest := by
  obtain ⟨⟨info, children⟩, above⟩ := node
  simp [sizeOfPlaces, Node.children, Tree.sizeAll, Tree.size, Tree.children, Function.comp_def]

theorem sizeOfPlaces_pushAll (items stack : List Node) :
    sizeOfPlaces (pushAll items stack) = sizeOfPlaces items + sizeOfPlaces stack := by
  simp [sizeOfPlaces, pushAll, Tree.sizeAll_append, Tree.sizeAll_reverse]

theorem sizeOfPlaces_reverse (places : List Node) :
    sizeOfPlaces places.reverse = sizeOfPlaces places := by
  simp [sizeOfPlaces, Tree.sizeAll_reverse]

/-- Whether a place is of a kind that is asked for; without kinds every place is. -/
def isAsked (kinds? : Option (List String)) (node : Node) : Bool :=
  kinds?.all (·.contains node.kind)

/-- The places asked for that a walk hands out from a stack. -/
def walkFrom (kinds? : Option (List String)) : List Node → List Node
  | [] => []
  | node :: rest =>
      -- the first child comes off the stack first
      let more := walkFrom kinds? (pushAll node.children.reverse rest)
      if isAsked kinds? node then node :: more else more
termination_by stack => sizeOfPlaces stack
decreasing_by
  rw [sizeOfPlaces_pushAll, sizeOfPlaces_reverse, sizeOfPlaces_cons]
  omega

/-- The place itself and the places below it, as a walk comes to them, of some kinds or all. -/
def walk (node : Node) (kinds? : Option (List String)) : List Node :=
  walkFrom kinds? [node]

/-- Adds the error and missing nodes that a walk finds from a stack to those found so far. -/
def countErrors (found : Nat) : List Node → Nat
  | [] => found
  | node :: rest =>
      let found := found + node.tree.isError.toNat
      -- below a node without errors there is nothing to find
      if node.info.hasError then countErrors found (pushAll node.children rest)
      else countErrors found rest
termination_by stack => sizeOfPlaces stack
decreasing_by
  · rw [sizeOfPlaces_pushAll, sizeOfPlaces_cons]
    omega
  · rw [sizeOfPlaces_cons]
    omega

/-- The number of error and missing nodes that error recovery left at a place and below it. -/
def errorCount (root : Node) : Nat :=
  countErrors 0 [root]

end Node
end SandboxLint
