import SandboxLint.Text.Blank
import SandboxLint.Text.Split

/-!
Types as they are written. A type text such as
`global::System.Collections.Generic.List<int>[]` is reduced to its simple name,
the qualifier in front of it and the number of bracket groups behind it;
arguments in angle brackets and marks of nullability are left out.
-/

namespace SandboxLint
namespace TypeName

/-- What may stand behind the name in a type text: brackets, commas, question marks, spaces. -/
def isTrailer (c : Char) : Bool :=
  c == '[' || c == ']' || c == '?' || c == ',' || c == ' '

/-- The simple name in a type text, over characters. -/
def simpleChars (cs : List Char) : List Char :=
  let name := Text.beforeFirst '<' (Text.trim cs)
  let name := Text.dropEndWhile isTrailer (Text.afterScope name)
  Text.trim (Text.afterLast '.' (Text.beforeFirst '[' name))

/-- The simple name in a type text: `global::A.List<int>[]` gives `List`. -/
def simple (text : String) : String :=
  String.ofList (simpleChars text.toList)

/-- The simple name of an attribute without the ending `Attribute`. -/
def ofAttribute (text : String) : String :=
  String.ofList (Text.dropEnding "Attribute".toList (simpleChars text.toList))

end TypeName

/-- A type as referred to: its simple name, how many times it is an array, and the qualifier
written in front of it. -/
structure TypeRef where
  name : String
  arrayRank : Nat := 0
  qualifier : String := ""
  deriving DecidableEq, Repr, Inhabited

namespace TypeRef

/-- What is left, in reverse, of a reversed text that ends in a bracket group: everything before
the last `[` without blanks at its end. -/
def withoutGroup (rev : List Char) : List Char :=
  ((rev.dropWhile (· != '[')).drop 1).dropWhile Text.isBlank

theorem withoutGroup_length_lt {rev : List Char} (h : rev.contains '[' = true) :
    (withoutGroup rev).length < rev.length := by
  have hblank : ∀ cs : List Char, (cs.dropWhile Text.isBlank).length ≤ cs.length :=
    fun cs => (List.dropWhile_sublist _).length_le
  induction rev with
  | nil => simp at h
  | cons c rest ih =>
      by_cases hc : c = '['
      · subst hc
        have := hblank rest
        simp [withoutGroup]
        omega
      · have hrest : rest.contains '[' = true := by
          simpa [Ne.symm hc] using h
        have := ih hrest
        have heq : withoutGroup (c :: rest) = withoutGroup rest := by
          simp [withoutGroup, hc]
        rw [heq, List.length_cons]
        omega

/-- Peels bracket groups off a reversed text, counting them. -/
@[semireducible]
def peelGroups (rev : List Char) (rank : Nat) : List Char × Nat :=
  if h : rev.head? = some ']' ∧ rev.contains '[' = true then
    peelGroups (withoutGroup rev) (rank + 1)
  else (rev, rank)
termination_by rev.length
decreasing_by exact withoutGroup_length_lt h.2

/-- A type text without blanks and question marks around it. -/
def core (cs : List Char) : List Char :=
  Text.trim (Text.dropEndWhile (· == '?') (Text.trim cs))

/-- Reads a type text, over characters; nothing when no name is left. -/
def parseChars (cs : List Char) : Option TypeRef :=
  let raw := core cs
  if raw.isEmpty then none
  else
    let (rev, rank) := peelGroups raw.reverse 0
    let base := Text.afterScope (Text.beforeFirst '<' rev.reverse)
    let name := TypeName.simpleChars base
    if name.isEmpty then none
    else
      some
        { name := String.ofList name
          arrayRank := rank
          qualifier := String.ofList (Text.beforeLast '.' base) }

/-- Reads a type text; nothing when no name is left. -/
def parse (text : String) : Option TypeRef :=
  parseChars text.toList

def isArray (ref : TypeRef) : Bool :=
  0 < ref.arrayRank

/-- Whether the reference is the keyword that leaves the type to inference. -/
def isImplicit (ref : TypeRef) : Bool :=
  ref.name == "var" && !ref.isArray

def element (ref : TypeRef) : Option TypeRef :=
  if ref.isArray then some { ref with arrayRank := ref.arrayRank - 1 } else none

end TypeRef
end SandboxLint
