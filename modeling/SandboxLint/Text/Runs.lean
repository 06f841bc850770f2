/-!
Classes of characters given by runs of code points. A class is the increasing list
of the code points at which membership changes, beginning with the first
member: a code point belongs to it when an odd number of changes lie at or below it.
-/

namespace SandboxLint.Text

/-- Membership in a class given by its changes. -/
def inRuns (changes : List Nat) (code : Nat) : Bool :=
  (changes.takeWhile (· ≤ code)).length % 2 == 1

end SandboxLint.Text
