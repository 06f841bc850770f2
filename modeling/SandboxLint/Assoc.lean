/-!
Ordered associations: lists of pairs in which every key stands where it was first
put. Putting a known key again changes its value and not its place.
-/

namespace SandboxLint

/-- Pairs of keys and values, in the order in which the keys came. -/
abbrev Assoc (κ α : Type) := List (κ × α)

namespace Assoc

variable {κ α : Type} [BEq κ]

def get? (pairs : Assoc κ α) (key : κ) : Option α :=
  List.lookup key pairs

def contains (pairs : Assoc κ α) (key : κ) : Bool :=
  pairs.any fun (k, _) => k == key

def keys (pairs : Assoc κ α) : List κ :=
  pairs.map (·.1)

def values (pairs : Assoc κ α) : List α :=
  pairs.map (·.2)

/-- Gives a key the value that `f` makes of the one it has, in place, or at the end when new. -/
def alter (pairs : Assoc κ α) (key : κ) (f : Option α → α) : Assoc κ α :=
  match pairs with
  | [] => [(key, f none)]
  | (k, v) :: rest => if k == key then (k, f (some v)) :: rest else (k, v) :: alter rest key f

/-- Gives a key a value: in place when known, else at the end. -/
def put (pairs : Assoc κ α) (key : κ) (value : α) : Assoc κ α :=
  pairs.alter key fun _ => value

/-- Gives a key a value unless it has one. -/
def putNew (pairs : Assoc κ α) (key : κ) (value : α) : Assoc κ α :=
  if pairs.contains key then pairs else pairs ++ [(key, value)]

def ofPairs (pairs : List (κ × α)) : Assoc κ α :=
  pairs.foldl (fun acc (k, v) => put acc k v) []

/-- The association in which the first value of each key stays. -/
def ofFirstPairs (pairs : List (κ × α)) : Assoc κ α :=
  pairs.foldl (fun acc (k, v) => putNew acc k v) []

/-- Values grouped by key, groups in the order of their first members. -/
def groups (pairs : List (κ × α)) : Assoc κ (List α) :=
  pairs.foldl (fun acc (k, v) => alter acc k fun old => old.getD [] ++ [v]) []

end Assoc
end SandboxLint
