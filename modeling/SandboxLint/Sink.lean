import SandboxLint.Assoc
import SandboxLint.Diagnostic

/-!
The sink of a run: the diagnostics delivered so far with running counts. A run
fails exactly when an error was delivered; warnings never fail it.
-/

namespace SandboxLint

/-- Delivered diagnostics and their counts. -/
structure Sink where
  items : List Diagnostic := []
  errorCount : Nat := 0
  warningCount : Nat := 0
  deriving DecidableEq, Repr, Inhabited

namespace Sink

def add (sink : Sink) (d : Diagnostic) : Sink :=
  { items := sink.items ++ [d]
    errorCount := if d.isError then sink.errorCount + 1 else sink.errorCount
    warningCount := if d.isError then sink.warningCount else sink.warningCount + 1 }

def extend (sink : Sink) (ds : List Diagnostic) : Sink :=
  ds.foldl add sink

def size (sink : Sink) : Nat :=
  sink.items.length

def failed (sink : Sink) : Bool :=
  0 < sink.errorCount

/-- All diagnostics in order; those that the order does not tell apart stay as delivered. -/
def sorted (sink : Sink) : List Diagnostic :=
  sink.items.mergeSort Diagnostic.ordered

/-- The diagnostics of each file, files and diagnostics in order. -/
def byFile (sink : Sink) : Assoc String (List Diagnostic) :=
  .groups (sink.sorted.map fun d => (d.path, d))

end Sink
end SandboxLint
