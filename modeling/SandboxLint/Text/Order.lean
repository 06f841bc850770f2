/-!
Lists of texts in order of their code points.
-/

namespace SandboxLint.Text

def sorted (texts : List String) : List String :=
  texts.mergeSort fun a b => decide (a ≤ b)

/-- The texts in order, each once. -/
def sortedSet (texts : List String) : List String :=
  sorted texts.eraseDups

end SandboxLint.Text
