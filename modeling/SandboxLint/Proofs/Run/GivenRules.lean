import SandboxLint.Proofs.Command.Modes
import SandboxLint.Proofs.Run.Schedule

/-!
Which rules a run evaluates. A registry changes as rules are registered and cleared away;
a run over files evaluates the rules that it holds, except that one that holds none stands
for the catalog. Which of the two it is follows from the changes behind the last clearing.
-/

namespace SandboxLint

namespace Registry

/-- A rule with a code that may be given is registered behind the last clearing. -/
def Holding (changes : List Change) : Prop :=
  ∃ before rule rest, changes = before ++ .register rule :: rest ∧
    LintCode.Assignable rule.code ∧ .clear ∉ rest

theorem holding_cons {change : Change} {rest : List Change} : Holding (change :: rest) ↔
    (∃ rule, change = .register rule ∧ LintCode.Assignable rule.code ∧ .clear ∉ rest) ∨
      Holding rest := by
  constructor
  · rintro ⟨before, rule, behind, hchanges, hrule⟩
    cases before with
    | nil =>
        obtain ⟨rfl, rfl⟩ := List.cons.inj hchanges
        exact .inl ⟨rule, rfl, hrule⟩
    | cons first before => exact .inr ⟨before, rule, behind, (List.cons.inj hchanges).2, hrule⟩
  · rintro (⟨rule, rfl, hrule⟩ | ⟨before, rule, behind, rfl, hrule⟩)
    · exact ⟨[], rule, rest, rfl, hrule⟩
    · exact ⟨change :: before, rule, behind, rfl, hrule⟩

/-- Behind a registration there are no rules exactly when there were none before and the rule was
refused for its code. -/
theorem apply_register_eq_nil_iff {registry : Registry} {rule : Rule} :
    (registry.apply (.register rule)).rules = [] ↔
      registry.rules = [] ∧ ¬ LintCode.Assignable rule.code := by
  cases hnext : registry.register rule with
  | ok next =>
      obtain ⟨-, hcode, rfl⟩ := register_eq_ok_iff.1 hnext
      simp [apply, hnext, hcode]
  | error error =>
      simp only [apply, hnext]
      refine ⟨fun hrules => ⟨hrules, ?_⟩, And.left⟩
      have hfree : ¬ registry.contains rule.code = true := by simp [contains_iff, hrules]
      exact (register_isError_iff.1 ⟨error, hnext⟩).resolve_left hfree

/-- Changes leave a registry with rules exactly when it has some and is never cleared, or one with a
code that may be given is registered behind the last clearing. -/
theorem foldl_apply_ne_nil_iff (changes : List Change) (start : Registry) :
    (changes.foldl apply start).rules ≠ [] ↔
      start.rules ≠ [] ∧ .clear ∉ changes ∨ Holding changes := by
  induction changes generalizing start with
  | nil => simp [Holding]
  | cons change rest ih =>
      rw [List.foldl_cons, ih, holding_cons]
      cases change with
      | clear => simp [apply]
      | register rule =>
          have hrules : (start.apply (.register rule)).rules ≠ [] ↔
              start.rules ≠ [] ∨ LintCode.Assignable rule.code := by
            rw [Ne, apply_register_eq_nil_iff, not_and_or, not_not]
          have hclear : Change.clear ∉ Change.register rule :: rest ↔ .clear ∉ rest := by simp
          simp only [hrules, hclear, Change.register.injEq, exists_eq_left']
          tauto

theorem after_ne_nil_iff (changes : List Change) :
    (after changes).rules ≠ [] ↔ Holding changes := by
  simp [after, foldl_apply_ne_nil_iff]

end Registry

namespace Run

/-- A diagnostic of a file that could not be processed, or of a rule of a registry. -/
def Attributed (registry : Registry) (d : Diagnostic) : Prop :=
  d.code = LintCode.fileFailure ∨ ∃ rule ∈ registry.rules, d.code = rule.code

theorem effectiveRegistry_of_rules {registry : Registry} (h : registry.rules ≠ []) :
    effectiveRegistry registry = registry := by
  simp [effectiveRegistry, Registry.size, h]

theorem attributed_of_check {analysis : AnalysisSettings} {registry : Registry}
    {files : List Loaded} {result : LintResult} (h : check analysis registry files = .ok result)
    {d : Diagnostic} (hd : d ∈ result.diagnostics) : Attributed (effectiveRegistry registry) d := by
  obtain ⟨-, corpus, faults, -, rfl⟩ := check_eq_ok_iff.1 h
  have hdelivered := (diagnostics_perm_delivered _ corpus _).mem_iff.1 hd
  exact (graded_of_mem_delivered hdelivered).imp And.left
    fun ⟨rule, hrule, hcode, _⟩ => ⟨rule, hrule, hcode⟩

theorem check_of_no_rules {registry : Registry} (h : registry.rules = [])
    (analysis : AnalysisSettings) (files : List Loaded) :
    check analysis registry files = check analysis .catalog files := by
  have hregistry : effectiveRegistry registry = effectiveRegistry .catalog := by
    rw [effectiveRegistry, Registry.size, h]
    rfl
  rw [check, check, hregistry]

end Run

namespace Lint

/-- A result of a run with a registry, over files that were named or found below a directory. -/
inductive Gives (settings : Settings) (registry : Registry) (result : LintResult) : Prop
  | files {disk : Disk} {parser : Parser} {paths : List Path}
      (run : checkFiles disk parser settings registry paths = .ok result)
  | directory {disk : Disk} {parser : Parser} {root : Path} {excludeTests : Bool}
      (run : checkDirectory disk parser settings registry root excludeTests = .ok result)

variable {settings : Settings} {registry : Registry} {result : LintResult}

/-- In both forms the files are run together once they are loaded. -/
theorem Gives.exists_check (h : Gives settings registry result) :
    ∃ files, Run.check settings.analysis registry files = .ok result := by
  cases h with
  | files run => exact ⟨_, (checkFiles_eq_ok_iff.1 run).2⟩
  | directory run =>
      rw [checkDirectory] at run
      split at run
      · exact ⟨_, checkLoaded_eq_ok_iff.1 run⟩
      · cases run

/-- Only what a registry makes of loaded files counts in both forms. -/
theorem Gives.of_checkLoaded {other : Registry} (h : Gives settings registry result)
    (hsame : ∀ files, checkLoaded settings registry files = checkLoaded settings other files) :
    Gives settings other result := by
  cases h with
  | files run =>
      simp only [checkFiles, hsame] at run
      exact .files run
  | directory run =>
      simp only [checkDirectory, hsame] at run
      exact .directory run

/-- A registry without rules stands for the catalog. -/
theorem gives_of_no_rules (h : registry.rules = []) :
    Gives settings registry result ↔ Gives settings .catalog result := by
  have hsame : ∀ files, checkLoaded settings registry files =
      checkLoaded settings .catalog files := by
    intro files
    rw [checkLoaded, checkLoaded, Run.check_of_no_rules h]
  exact ⟨fun hgives => hgives.of_checkLoaded hsame,
    fun hgives => hgives.of_checkLoaded fun files => (hsame files).symm⟩

/-- The door throws, and a registry without rules has no rule against that. -/
theorem exists_unattributed_door (h : registry.rules = []) : ∃ result, Gives {} registry result ∧
    ∃ d ∈ result.diagnostics, ¬ Run.Attributed registry d := by
  have hrun : checkFiles doorDisk doorParser {} .catalog [doorPath] =
      .ok (Run.resultOf .catalog doorCorpus []) :=
    checkFiles_door (by decide) []
  obtain ⟨d, hd, -, hcode⟩ := Command.exists_thrown_door []
  refine ⟨_, (gives_of_no_rules h).2 (.files hrun), d, hd, ?_⟩
  simp [Run.Attributed, h, hcode, LintCode.fileFailure]

/-- Every diagnostic of every run with a registry is of a file that could not be processed or of a
rule of the registry, exactly when a rule was registered behind the last clearing: a registry that
holds none is run as the catalog. -/
theorem gives_attributed_iff (changes : List Registry.Change) :
    ((∀ settings result, Gives settings (.after changes) result →
        ∀ d ∈ result.diagnostics, Run.Attributed (.after changes) d) ↔
      Registry.Holding changes) ∧
    (¬ Registry.Holding changes → ∀ settings result,
      Gives settings (.after changes) result ↔ Gives settings .catalog result) := by
  rw [← Registry.after_ne_nil_iff]
  refine ⟨⟨fun hall hnone => ?_, fun hrules settings result hgives d hd => ?_⟩,
    fun hnone _ _ => gives_of_no_rules (not_not.1 hnone)⟩
  · obtain ⟨result, hgives, d, hd, hother⟩ := exists_unattributed_door hnone
    exact hother (hall _ result hgives d hd)
  · obtain ⟨files, hcheck⟩ := hgives.exists_check
    have hattributed := Run.attributed_of_check hcheck hd
    rwa [Run.effectiveRegistry_of_rules hrules] at hattributed

end Lint
end SandboxLint
