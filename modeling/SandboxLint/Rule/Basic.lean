import SandboxLint.CallGraph
import SandboxLint.Diagnostic
import SandboxLint.EntryPoint

/-!
Rules: what a rule is given, what it finds, and how it can fail. A rule that fails
reports nothing, whatever it had found before.
-/

namespace SandboxLint

/-- What a rule needs, and therefore when it runs: on entry files from the tree alone, on entry
files with the corpus, or on helper files with the call graph. -/
inductive RuleFamily where
  | structural
  | semantic
  | callGraph
  deriving DecidableEq, Repr, Inhabited

namespace RuleFamily

def label : RuleFamily → String
  | .structural => "structural"
  | .semantic => "semantic"
  | .callGraph => "call_graph"

def all : List RuleFamily := [.structural, .semantic, .callGraph]

def ofLabel? (label : String) : Option RuleFamily :=
  all.find? (·.label == label)

end RuleFamily

inductive RuleCategory where
  | language
  | api
  | semantic
  deriving DecidableEq, Repr, Inhabited

namespace RuleCategory

def label : RuleCategory → String
  | .language => "language"
  | .api => "api"
  | .semantic => "semantic"

def all : List RuleCategory := [.language, .api, .semantic]

def ofLabel? (label : String) : Option RuleCategory :=
  all.find? (·.label == label)

end RuleCategory

/-- Why a file could not be processed to its end. -/
inductive Failure where
  | fault (fault : Fault)
  | missingCorpus
  | raised (kind text : String)
  deriving DecidableEq, Repr

namespace Failure

def kind : Failure → String
  | .fault .aliasCycle => "RecursionError"
  | .fault .basesPending => "AttributeError"
  | .missingCorpus => "ValueError"
  | .raised kind _ => kind

/-- What a failure says beside its kind. -/
def text : Failure → String
  | .fault _ => ""
  | .missingCorpus => "rule requires a compilation context"
  | .raised _ text => text

/-- A failure in one line. -/
def report (failure : Failure) : String :=
  -- endless recursion has no text of its own
  if failure.kind == "RecursionError" then failure.kind
  else failure.kind ++ ": " ++ failure.text

end Failure

/-- What rules are given about a file. -/
structure RuleInput where
  unit : OutlinedFile
  entryTypes : List Node
  analysis : AnalysisSettings
  corpus : Option Corpus := none
  graph : Option CallGraph := none

namespace RuleInput

variable (input : RuleInput)

def root : Node :=
  input.unit.file.root

def find (kinds : List String) : List Node :=
  input.root.descendants kinds

/-- The direct members of the entry types of some kinds, type by type. -/
def entryMembers (kinds : List String) : List Node :=
  input.entryTypes.flatMap fun type => type.typeMembers.filter fun m => kinds.contains m.kind

/-- The model of the file in a corpus. -/
def modelIn (corpus : Corpus) : Model :=
  { space := corpus.space
    unit := input.unit
    scopes := (corpus.scopes.get? input.unit.path).getD [] }

/-- The model of the file; without a corpus there is none. -/
def model : Except Failure (Corpus × Model) :=
  match input.corpus with
  | some corpus => .ok (corpus, input.modelIn corpus)
  | none => .error .missingCorpus

/-- The resolution of one place; a fault leaves only that place unknown. -/
def resolved {α : Type} (result : Except Fault (Option α)) : Option α :=
  match result with
  | .ok found => found
  | .error _ => none

/-- The input of the file at a path of a corpus. -/
def ofCorpus (corpus : Corpus) (unit : OutlinedFile) (graph : Option CallGraph) : RuleInput :=
  { unit
    entryTypes := corpus.space.entryNodes unit
    analysis := corpus.space.analysis
    corpus := some corpus
    graph }

end RuleInput

/-- An offending place with what is said about it. -/
abbrev Finding := Node × String

structure Rule where
  code : Int
  name : String
  family : RuleFamily
  severity : Severity
  category : RuleCategory
  summary : String
  evaluate : RuleInput → Except Failure (List Finding)

namespace Rule

/-- A finding as a diagnostic of the rule. -/
def diagnostic (rule : Rule) (input : RuleInput) (finding : Finding) : Diagnostic :=
  let span := input.unit.file.span finding.1
  { path := input.unit.path
    line := span.line
    column := span.column
    severity := rule.severity
    code := rule.code
    message := finding.2 }

def run (rule : Rule) (input : RuleInput) : Except Failure (List Diagnostic) :=
  (List.map (rule.diagnostic input)) <$> rule.evaluate input

end Rule
end SandboxLint
