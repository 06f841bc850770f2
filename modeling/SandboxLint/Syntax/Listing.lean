import SandboxLint.Syntax.Tree
import SandboxLint.Value.Basic

/-!
Listings: syntax trees as documents, in which a parser hands them over. A listing has
the names in use under `k` and the nodes in pre-order under `n`. A node is a row of
numbers: its parent, its kind and its byte range, the flags (1 for a named node, 2
for a missing one, 4 for one with errors), and last the field it fills, if any. Kinds
and fields are numbers of names.
-/

namespace SandboxLint
namespace Tree

/-- The number that a cell of a row holds. -/
def cellNumber (cells : List Value) (i : Nat) : Int :=
  match cells[i]? with
  | some (.int n) => n
  | _ => 0

def listedName (names : Array String) (number : Int) : String :=
  (names[number.toNat]?).getD ""

def rowOf (names : Array String) (cells : List Value) : Row :=
  let parent := cellNumber cells 0
  let flags := (cellNumber cells 4).toNat
  { parent := if parent < 0 then none else some parent.toNat
    kind := listedName names (cellNumber cells 1)
    field := if cells.length > 5 then some (listedName names (cellNumber cells 5)) else none
    start := (cellNumber cells 2).toNat
    stop := (cellNumber cells 3).toNat
    named := flags % 2 == 1
    missing := flags / 2 % 2 == 1
    hasError := flags / 4 % 2 == 1 }

/-- The items of a list, none for any other value. -/
def itemsOf : Option Value → List Value
  | some (.list items) => items
  | _ => []

/-- The tree of a listing of a source; a listing without nodes has none. -/
def ofListing? (source : Source) (listing : Value) : Option Tree :=
  match listing with
  | .mapping pairs =>
      let names := (itemsOf (Assoc.get? pairs "k")).map fun
        | .text name => name
        | _ => ""
      let rows := (itemsOf (Assoc.get? pairs "n")).map fun row => itemsOf (some row)
      ofRows source (rows.map (rowOf names.toArray))
  | _ => none

end Tree
end SandboxLint
