import SandboxLint.Corpus.Basic
import SandboxLint.Text.Order

/-!
The call graph from helper files to the entry-point files that call a static
method declared in them. A file that cannot be scanned to its end adds no edge.
-/

namespace SandboxLint

/-- For each helper file the entry files that call into it. -/
abbrev CallGraph := Assoc String (List String)

namespace CallGraph

/-- The helper file of an invocation in the file at `entry`, if it calls a static method declared
in another file. -/
def helperOf (entry : String) (symbol? : Option Symbol) : Option String :=
  symbol?.bind fun symbol =>
    if symbol.kind == .method && symbol.isStatic && symbol.path != entry then some symbol.path
    else none

/-- The helper files that the invocations in a file lead to, one for each that leads to one. -/
def scan (corpus : Corpus) (entry : String) : Except Fault (List String) :=
  match corpus.model? entry with
  | none => .ok []
  | some model => do
      let calls := model.unit.file.root.descendants ["invocation_expression"]
      let symbols ← calls.mapM model.invocation
      return symbols.filterMap (helperOf entry)

def addEdges (graph : CallGraph) (entry : String) (helpers : List String) : CallGraph :=
  helpers.foldl
    (fun graph helper =>
      Assoc.alter graph helper fun callers =>
        let callers := callers.getD []
        if callers.contains entry then callers else callers ++ [entry])
    graph

/-- Scans an entry file into the graph, with the number of invocations that led to a helper. -/
def addEntry (graph : CallGraph) (corpus : Corpus) (entry : String) :
    Except Fault (CallGraph × Nat) := do
  let helpers ← scan corpus entry
  return (graph.addEdges entry helpers, helpers.length)

/-- The graph over entry files; the first that cannot be scanned fails it. -/
def build (corpus : Corpus) (entries : List String) : Except Fault CallGraph :=
  (Text.sorted entries).foldlM (fun graph entry => (·.1) <$> addEntry graph corpus entry) []

/-- The graph over entry files, with those that cannot be scanned reported. -/
def buildTolerant (corpus : Corpus) (entries : List String) : CallGraph × List (String × Fault) :=
  let results := (Text.sorted entries).map fun entry => (entry, scan corpus entry)
  let graph := results.foldl
    (fun graph (entry, result) =>
      match result with
      | .ok helpers => addEdges graph entry helpers
      | .error _ => graph)
    []
  (graph, Corpus.faultsOf results)

def callersOf (graph : CallGraph) (helper : String) : List String :=
  (Assoc.get? graph helper).getD []

def helperFiles (graph : CallGraph) : List String :=
  Text.sortedSet (Assoc.keys graph)

end CallGraph
end SandboxLint
