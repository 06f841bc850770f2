import SandboxLint.Source.Span

/-!
Concrete syntax trees. A tree is a node's facts together with its children in
source order; a `Node` is a place in a tree, that is a subtree with the
subtrees around it. Walks are recursive pre-order, so a place comes before the
places below it and siblings come in order.
-/

namespace SandboxLint

/-- What the grammar says about one node: its number in pre-order, its kind, the field it fills
in its parent, its byte range and text, and whether it is named, was inserted by error
recovery, or has an error somewhere below. -/
structure NodeInfo where
  id : Nat
  kind : String
  field : Option String
  start : Nat
  stop : Nat
  named : Bool
  missing : Bool
  hasError : Bool
  text : String
  deriving DecidableEq, Repr, Inhabited

inductive Tree where
  | node (info : NodeInfo) (children : List Tree)
  deriving Repr

namespace Tree

instance : Inhabited Tree := ⟨.node default []⟩

def info : Tree → NodeInfo
  | .node info _ => info

def children : Tree → List Tree
  | .node _ children => children

def kind (tree : Tree) : String :=
  tree.info.kind

/-- One row of a flat pre-order listing of a tree: the parent's number (none for the root) and
the node's own facts without its text. -/
structure Row where
  parent : Option Nat
  kind : String
  field : Option String
  start : Nat
  stop : Nat
  named : Bool
  missing : Bool
  hasError : Bool

/-- Puts a finished subtree in front of the children that wait for node `parent`. -/
def adopt (parent : Nat) (child : Tree) (waiting : Array (List Tree)) : Array (List Tree) :=
  waiting.modify parent (child :: ·)

/-- Builds the subtree of row `id` from the children that wait for it and hands it to its
parent. -/
def assemble (source : Source) (id : Nat) (row : Row) (waiting : Array (List Tree)) :
    Tree × Array (List Tree) :=
  let info : NodeInfo :=
    { id, kind := row.kind, field := row.field, start := row.start, stop := row.stop
      named := row.named, missing := row.missing, hasError := row.hasError
      text := source.slice row.start row.stop }
  let tree := Tree.node info ((waiting[id]?).getD [])
  match row.parent with
  | some parent => (tree, adopt parent tree waiting)
  | none => (tree, waiting)

/-- The tree of a flat pre-order listing. -/
def ofRows (source : Source) (rows : List Row) : Option Tree :=
  let numbered := rows.zipIdx
  let waiting : Array (List Tree) := Array.replicate rows.length []
  -- from the end, so every subtree is finished before its parent is built
  let (tree, _) := numbered.foldr
    (fun (row, id) (acc : Option Tree × Array (List Tree)) =>
      let (tree, waiting) := assemble source id row acc.2
      (some tree, waiting))
    (none, waiting)
  tree

end Tree

/-- A place in a tree: a subtree and the subtrees that contain it, nearest first. -/
structure Node where
  tree : Tree
  above : List Tree

namespace Node

instance : Inhabited Node := ⟨⟨default, []⟩⟩

def ofTree (tree : Tree) : Node :=
  ⟨tree, []⟩

def info (node : Node) : NodeInfo := node.tree.info
def id (node : Node) : Nat := node.info.id
def kind (node : Node) : String := node.info.kind
def text (node : Node) : String := node.info.text
def start (node : Node) : Nat := node.info.start
def stop (node : Node) : Nat := node.info.stop
def named (node : Node) : Bool := node.info.named

def children (node : Node) : List Node :=
  node.tree.children.map (⟨·, node.tree :: node.above⟩)

/-- The named places right below, in order. -/
def namedChildren (node : Node) : List Node :=
  node.children.filter (·.named)

def parent (node : Node) : Option Node :=
  match node.above with
  | [] => none
  | tree :: above => some ⟨tree, above⟩

/-- The places above the places `above`, nearest first. -/
def ancestorsOf : List Tree → List Node
  | [] => []
  | tree :: above => ⟨tree, above⟩ :: ancestorsOf above

def ancestors (node : Node) : List Node :=
  ancestorsOf node.above

/-- The first child that fills a field. -/
def child? (node : Node) (field : String) : Option Node :=
  node.children.find? (·.info.field == some field)

def childOfKind? (node : Node) (kind : String) : Option Node :=
  node.children.find? (·.kind == kind)

mutual

/-- The places of a tree that stands below `above`, in pre-order. -/
def placesIn (above : List Tree) : Tree → List Node
  | .node info children =>
      ⟨.node info children, above⟩ :: placesInAll (.node info children :: above) children

/-- The places of several trees that stand below `above`, tree by tree. -/
def placesInAll (above : List Tree) : List Tree → List Node
  | [] => []
  | tree :: trees => placesIn above tree ++ placesInAll above trees

end

/-- The place itself and all places below it, in pre-order. -/
def places (node : Node) : List Node :=
  placesIn node.above node.tree

/-- The places among `places` whose kind is one of `kinds`. -/
def descendants (node : Node) (kinds : List String) : List Node :=
  node.places.filter fun place => kinds.contains place.kind

/-- The nearest place above whose kind is one of `kinds`. -/
def enclosing (node : Node) (kinds : List String) : Option Node :=
  node.ancestors.find? fun place => kinds.contains place.kind

/-- Whether two places have the same byte range and kind. -/
def sameAs (a b : Node) : Bool :=
  a.start == b.start && a.stop == b.stop && a.kind == b.kind

/-- Whether an optional place is present and the same as another. -/
def isSame (a : Option Node) (b : Node) : Bool :=
  match a with
  | some a => a.sameAs b
  | none => false

/-- The text of an optional place, empty when absent. -/
def textOf (node : Option Node) : String :=
  match node with
  | some node => node.text
  | none => ""

def span (node : Node) (source : Source) : Span :=
  source.span node.start node.stop

end Node

namespace Tree

/-- Whether the root is an error node or was inserted by error recovery. -/
def isError (tree : Tree) : Bool :=
  tree.kind == "ERROR" || tree.info.missing

end Tree
end SandboxLint
