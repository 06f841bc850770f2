import SandboxLint.Command.Outcome
import SandboxLint.Proofs.Run.Disabling
import SandboxLint.Proofs.Run.Findings

/-!
The two forms of a report. The running counts of a sink are those of what it holds in
every schedule, so the exit code, the summary line and the document all say the same
about the diagnostics that are listed. Nothing is printed only where there is nothing to
say, and then the exit code is the one that nothing would have.
-/

namespace SandboxLint

namespace Run

variable {analysis : AnalysisSettings} {registry : Registry} {files : List Loaded}
  {result : LintResult}

/-- The counts of a result are those of its diagnostics, in whatever schedule they came. -/
theorem Finishes.counted (h : Finishes analysis registry files result) :
    result.errorCount = result.diagnostics.countP (·.severity = .error) ∧
      result.warningCount = result.diagnostics.countP (·.severity = .warning) := by
  obtain @⟨_, _, _, _, _, _, gated, -, parsing, -, indexing, checking, scanning, gating⟩ := h
  have hempty : ({} : Sink).Counted := ⟨rfl, rfl⟩
  obtain ⟨herrors, hwarnings⟩ : gated.sink.Counted :=
    gating.counted <| scanning.counted <| checking.counted <| indexing.counted <|
      parsing.counted hempty
  have hsorted : gated.sink.sorted.Perm gated.sink.items := List.mergeSort_perm _ _
  simp only [herrors, hwarnings, hsorted.countP_eq]
  constructor
  · exact List.countP_congr fun d _ => by simp [Diagnostic.isError]
  · refine List.countP_congr fun d _ => ?_
    cases hseverity : d.severity <;> simp [Diagnostic.isError, hseverity]

/-- A run that finishes with the catalog, in whatever schedule, is the run in order. -/
theorem Finishes.check_eq (h : Finishes analysis .catalog files result) :
    check analysis .catalog files = .ok result := by
  have hregistered : (effectiveRegistry .catalog).Registered := Registry.registered_catalog
  have hpure : ∀ rule ∈ (effectiveRegistry .catalog).rules, rule.Pure :=
    fun rule hrule => Rule.pure_of_mem_catalog hrule
  obtain ⟨corpus, faults, hgiven, hcorpus⟩ : ∃ corpus faults,
      (files = [] ∨ ∃ file, Loaded.parsed file ∈ files) ∧
        Corpus.buildTolerant analysis (units analysis files) = .ok (corpus, faults) := by
    obtain ⟨hgiven, -, hcorpus, -⟩ := h
    exact ⟨_, _, hgiven, hcorpus⟩
  rw [h.eq_resultOf hregistered hpure hcorpus]
  exact check_eq_ok_iff.2 ⟨hgiven, corpus, faults, hcorpus, rfl⟩

end Run

namespace Command

variable {place : Workplace} {options : CheckOptions} {settings : Settings} {result : LintResult}

/-- A check comes to a result: its settings can be loaded and its log be opened, its sources be
read, and the run over them finishes in some schedule. -/
structure Completes (place : Workplace) (options : CheckOptions) (settings : Settings)
    (result : LintResult) : Prop where
  loads : settingsFor place options = .ok settings
  logs : (({ disk := place.disk } : Log).configure
    (if options.verbose then Log.simpleSettings .debug .console else settings.logging)).2 = none
  runs : ∃ files, Lint.loadDirectory place.disk place.parser settings
      (Path.parse options.directory) options.excludeTests = .ok files ∧
    Run.Finishes settings.analysis .catalog files result

theorem Completes.exists_finishes (h : Completes place options settings result) :
    ∃ files, Run.Finishes settings.analysis .catalog files result :=
  h.runs.imp fun _ hruns => hruns.2

/-- What a check that comes to a result prints and ends with is the report of the result. -/
theorem Completes.report (h : Completes place options settings result) :
    let outcome := checkOutcome place options
    let report := resultOutcome settings options.asJson place.disk.working result
    outcome.exitCode = report.exitCode ∧ outcome.stdout = report.stdout ∧
      outcome.crash = report.crash := by
  obtain ⟨files, hload, hfinishes⟩ := h.runs
  have hcheck : Lint.checkLoaded settings .catalog files = .ok result := by
    rw [Lint.checkLoaded, hfinishes.check_eq]
    rfl
  simp only [checkOutcome, h.loads]
  split
  · next fault hfault =>
      have hnone := h.logs
      rw [hfault] at hnone
      cases hnone
  · simp only [loggedOutcome, lintOutcome, hload, hcheck]
    exact ⟨rfl, rfl, rfl⟩

section Door

/-- The door throws, and that is reported as an error. -/
theorem exists_thrown_door (skipped : List String) :
    ∃ d ∈ (Run.resultOf .catalog Lint.doorCorpus skipped).diagnostics,
      d.severity = .error ∧ d.code = 2 := by
  have hfound : ∃ finding, Run.Found Lint.doorCorpus Lint.doorUnit none
      (.language 2 "throw" "throw statements and expressions" Rule.throwing) finding :=
    ⟨_, .head _, .tail _ (.head _), _, rfl, .head _⟩
  obtain ⟨finding, hfound⟩ := hfound
  refine ⟨_, hfound.mem_diagnostics Lint.door_mem_entryFiles rfl ?_ skipped, rfl, rfl⟩
  exact List.mem_append_left _ ((Registry.ofFamily_perm _ _ _).mem_iff.2 (.tail _ (.head _)))

end Door

end Command
end SandboxLint
