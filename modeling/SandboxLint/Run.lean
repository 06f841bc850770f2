import SandboxLint.Rule.Catalog
import SandboxLint.Sink
import SandboxLint.Text.Order

/-!
A lint run over files. All files are outlined and taken together as a corpus; then
the structural and semantic rules run on each entry file, the call graph is built,
and the call-graph rules run on the helper files it reaches. What goes wrong with
one file becomes one error of that file, with code 0 at its beginning, and the run
goes on.
-/

namespace SandboxLint

/-- A file as it was handed over. -/
inductive Loaded where
  | unreadable (path reason : String)
  | unparsable (path resolved reason : String)
  | parsed (file : SourceFile)

namespace Loaded

/-- The path under which a file that is left out is listed. -/
def skipped? : Loaded → Option String
  | .unreadable path _ => some path
  | .unparsable _ resolved _ => some resolved
  | .parsed _ => none

def file? : Loaded → Option SourceFile
  | .parsed file => some file
  | _ => none

end Loaded

structure LintResult where
  diagnostics : List Diagnostic := []
  filesChecked : Nat := 0
  entryFiles : List String := []
  helperFiles : List String := []
  skippedFiles : List String := []
  errorCount : Nat := 0
  warningCount : Nat := 0
  deriving DecidableEq, Repr, Inhabited

namespace LintResult

def failed (result : LintResult) : Bool :=
  0 < result.errorCount

def exitCode (result : LintResult) : Nat :=
  if result.failed then 1 else 0

end LintResult

inductive RunError where
  | noReadableFiles (count : Nat)
  | fault (fault : Fault)
  deriving DecidableEq, Repr

namespace Run

/-- The words before the failure of a file. -/
def failurePreamble : String :=
  "Internal error: unexpected failure while processing file: "

/-- The error of a file that could not be processed. -/
def failureDiagnostic (path : String) (failure : Failure) : Diagnostic :=
  { path
    line := 1
    column := 1
    severity := .error
    code := LintCode.fileFailure
    message := failurePreamble ++ failure.report }

/-- Runs rules on a file one after the other. -/
def runRules (input : RuleInput) : List Rule → List Diagnostic
  | [] => []
  | rule :: rest =>
      match rule.run input with
      | .ok found => found ++ runRules input rest
      -- the rules behind it are not run
      | .error failure => [failureDiagnostic input.unit.path failure]

/-- Runs rules on the files at some paths of a corpus. -/
def runOn (corpus : Corpus) (graph : Option CallGraph) (rules : List Rule) (paths : List String) :
    List Diagnostic :=
  paths.flatMap fun path =>
    match corpus.space.file? path with
    | some unit => runRules (.ofCorpus corpus unit graph) rules
    | none => []

/-- The errors of files whose processing came upon a fault. -/
def faultDiagnostics (faults : List (String × Fault)) : List Diagnostic :=
  faults.map fun (path, fault) => failureDiagnostic path (.fault fault)

/-- What the rules find in a corpus, with the entry files and the helper files. -/
structure Findings where
  diagnostics : List Diagnostic
  entryFiles : List String
  helperFiles : List String

/-- Evaluates a registry over a corpus. -/
def evaluate (registry : Registry) (corpus : Corpus) : Findings :=
  let disabled := corpus.space.analysis.disabledRules
  let entries := corpus.space.entryFiles
  -- without entry files nothing is evaluated
  if entries.isEmpty then { diagnostics := [], entryFiles := [], helperFiles := [] }
  else
    let entryRules := registry.ofFamily .structural disabled ++ registry.ofFamily .semantic disabled
    let (graph, faults) := CallGraph.buildTolerant corpus entries
    let helpers := graph.helperFiles
    { diagnostics :=
        runOn corpus none entryRules entries ++ faultDiagnostics faults ++
          runOn corpus (some graph) (registry.ofFamily .callGraph disabled) helpers
      entryFiles := entries
      helperFiles := helpers }

/-- The registry that a run evaluates: the given one, or the catalog in place of an empty one. -/
def effectiveRegistry (registry : Registry) : Registry :=
  if registry.size == 0 then .catalog else registry

def check (analysis : AnalysisSettings) (registry : Registry) (files : List Loaded) :
    Except RunError LintResult :=
  let parsed := files.filterMap (·.file?)
  let skipped := Text.sorted (files.filterMap (·.skipped?))
  if parsed.isEmpty && !files.isEmpty then .error (.noReadableFiles files.length)
  else
    let units := parsed.map fun file => OutlinedFile.ofFile file analysis.markerImport
    match Corpus.buildTolerant analysis units with
    | .error fault => .error (.fault fault)
    | .ok (corpus, faults) =>
        let findings := evaluate (effectiveRegistry registry) corpus
        let sink := ({} : Sink).extend (faultDiagnostics faults ++ findings.diagnostics)
        .ok
          { diagnostics := sink.sorted
            filesChecked := corpus.space.files.length
            entryFiles := findings.entryFiles
            helperFiles := findings.helperFiles
            skippedFiles := skipped
            errorCount := sink.errorCount
            warningCount := sink.warningCount }

end Run
end SandboxLint
