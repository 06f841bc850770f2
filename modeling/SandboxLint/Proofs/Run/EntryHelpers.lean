import SandboxLint.Proofs.CallGraph.Scanning
import SandboxLint.Proofs.Corpus.ReferenceIndex
import SandboxLint.Proofs.EntryPoint
import SandboxLint.Proofs.Run.Parts
import SandboxLint.Proofs.Text.Utf8

/-!
Entry files among the helper files. The call graph leaves out the calls of a file into
itself and no others, so an entry file stands among the helper files exactly when another
entry file calls into it; and then the rules for entry files and those of the call graph
both report on it.
-/

namespace SandboxLint

theorem CallGraph.Calls.ne {corpus : Corpus} {entry helper : String}
    (h : Calls corpus entry helper) : helper ≠ entry := by
  obtain ⟨model, -, -, call, -, symbol, -, -, -, -, hother⟩ := calls_iff.1 h
  exact hother

namespace Run

/-- A diagnostic with the code of a rule for entry files. -/
def Direct (registry : Registry) (d : Diagnostic) : Prop :=
  ∃ rule ∈ registry.rules, rule.family ≠ .callGraph ∧ d.code = rule.code

/-- A diagnostic with the code of a rule of the call graph. -/
def Gated (registry : Registry) (d : Diagnostic) : Prop :=
  ∃ rule ∈ registry.rules, rule.family = .callGraph ∧ d.code = rule.code

variable {registry : Registry} {corpus : Corpus} {d : Diagnostic}

theorem direct_of_mem_entryRules {disabled : List Int} {rule : Rule}
    (hrule : rule ∈ entryRules registry disabled) (hcode : d.code = rule.code) :
    Direct registry d :=
  ⟨rule, mem_of_mem_entryRules hrule, family_ne_of_mem_entryRules hrule, hcode⟩

/-- What rules report on some files is about one of these files, and the failure of a rule or
the finding of one. -/
theorem mem_runOn_cases {graph : Option CallGraph} {rules : List Rule} {paths : List String}
    (h : d ∈ runOn corpus graph rules paths) :
    d.path ∈ paths ∧ (d.code = LintCode.fileFailure ∨ ∃ rule ∈ rules, d.code = rule.code) := by
  obtain ⟨path, hpath, hfound⟩ := List.mem_flatMap.1 h
  cases hfile : corpus.space.file? path with
  | none => simp [hfile] at hfound
  | some unit =>
      have hunit : unit.path = path := by simpa using List.find?_some hfile
      simp only [hfile] at hfound
      rw [← hunit] at hpath
      obtain ⟨failure, rfl⟩ | ⟨rule, hrule, finding, rfl⟩ := mem_runRules hfound
      · exact ⟨hpath, .inl rfl⟩
      · exact ⟨hpath, .inr ⟨rule, hrule, rfl⟩⟩

/-- A rule for entry files reports on entry files only, and a rule of the call graph on helper
files only. -/
theorem mem_delivered_cases (h : d ∈ delivered registry corpus) :
    d.code = LintCode.fileFailure ∨
      Direct registry d ∧ d.path ∈ corpus.space.entryFiles ∨
      Gated registry d ∧ d.path ∈ (graphOf corpus).helperFiles := by
  simp only [delivered, List.mem_append] at h
  obtain hindex | (hentry | hscan) | hhelper := h
  · exact .inl (code_of_mem_faultDiagnostics hindex)
  · obtain ⟨hpath, hcode | ⟨rule, hrule, hcode⟩⟩ := mem_runOn_cases hentry
    · exact .inl hcode
    · exact .inr (.inl ⟨direct_of_mem_entryRules hrule hcode, hpath⟩)
  · exact .inl (code_of_mem_faultDiagnostics hscan)
  · obtain ⟨hpath, hcode | ⟨rule, hrule, hcode⟩⟩ := mem_runOn_cases hhelper
    · exact .inl hcode
    · exact .inr (.inr ⟨⟨rule, Registry.mem_of_mem_ofFamily hrule,
        Registry.family_of_mem_ofFamily hrule, hcode⟩, hpath⟩)

/-- An entry file is a helper file exactly when another entry file calls into it. -/
theorem entry_mem_helperFiles_iff {path : String} :
    path ∈ (graphOf corpus).helperFiles ↔ ∃ caller ∈ corpus.space.entryFiles,
      caller ≠ path ∧ CallGraph.Calls corpus caller path := by
  rw [graphOf, CallGraph.mem_helperFiles_buildTolerant]
  refine exists_congr fun caller => and_congr_right fun _ => ?_
  exact ⟨fun hcalls => ⟨hcalls.ne.symm, hcalls⟩, fun hcalls => hcalls.2⟩

theorem Phase.subset_diagnostics {graph : Option CallGraph} {rules : List Rule} {path : String}
    {unit : OutlinedFile} (phase : Phase registry corpus graph rules path)
    (hfile : corpus.space.file? path = some unit) (skipped : List String) :
    runRules (.ofCorpus corpus unit graph) rules ⊆
      (resultOf registry corpus skipped).diagnostics := by
  intro d hd
  have hevaluated := phase.mem_evaluate hfile hd
  rw [evaluate_eq] at hevaluated
  exact (diagnostics_perm_delivered registry corpus skipped).mem_iff.2
    (List.mem_append_right _ hevaluated)

end Run

namespace Lint

/-- Entry files and helper files of a run are disjoint exactly when no entry file calls into
another. A rule for entry files reports on entry files only and a rule of the call graph on helper
files only, so a file that is not in both lists does not get diagnostics of both; but an entry file
that another one calls into gets everything that either kind of rule finds in it. -/
theorem checkFiles_entry_helpers {disk : Disk} {parser : Parser} {settings : Settings}
    {registry : Registry} {paths : List Path} {result : LintResult}
    (hrun : checkFiles disk parser settings registry paths = .ok result) :
    ∃ corpus faults,
      Corpus.buildTolerant settings.analysis
        (Run.units settings.analysis (loadedFrom disk parser paths)) = .ok (corpus, faults) ∧
      (result.entryFiles.Disjoint result.helperFiles ↔
        ∀ caller ∈ result.entryFiles, ∀ entry ∈ result.entryFiles,
          caller ≠ entry → ¬ CallGraph.Calls corpus caller entry) ∧
      (∀ entry ∈ result.entryFiles, entry ∈ result.helperFiles ↔
        ∃ caller ∈ result.entryFiles, caller ≠ entry ∧ CallGraph.Calls corpus caller entry) ∧
      (∀ d ∈ result.diagnostics, d.code = LintCode.fileFailure ∨
        Run.Direct (Run.effectiveRegistry registry) d ∧ d.path ∈ result.entryFiles ∨
        Run.Gated (Run.effectiveRegistry registry) d ∧ d.path ∈ result.helperFiles) ∧
      ∀ entry ∈ result.entryFiles, entry ∈ result.helperFiles →
        ∀ unit, corpus.space.file? entry = some unit →
          Run.runRules (.ofCorpus corpus unit none)
              (Run.entryRules (Run.effectiveRegistry registry) settings.analysis.disabledRules) ⊆
            result.diagnostics ∧
          Run.runRules (.ofCorpus corpus unit (some (Run.graphOf corpus)))
              ((Run.effectiveRegistry registry).ofFamily .callGraph
                settings.analysis.disabledRules) ⊆
            result.diagnostics := by
  obtain ⟨-, hcheck⟩ := checkFiles_eq_ok_iff.1 hrun
  obtain ⟨-, corpus, faults, hcorpus, rfl⟩ := Run.check_eq_ok_iff.1 hcheck
  have hanalysis : corpus.space.analysis = settings.analysis := by
    obtain ⟨space, hspace, rfl, -⟩ := Corpus.buildTolerant_eq_ok_iff.1 hcorpus
    exact (SymbolSpace.built_of_build hspace).analysis_eq
  refine ⟨corpus, faults, hcorpus, ?_, fun _ _ => Run.entry_mem_helperFiles_iff, ?_, ?_⟩
  · constructor
    · intro hdisjoint caller hcaller entry hentry hother hcalls
      exact hdisjoint hentry (Run.entry_mem_helperFiles_iff.2 ⟨caller, hcaller, hother, hcalls⟩)
    · intro hnone entry hentry hhelper
      obtain ⟨caller, hcaller, hother, hcalls⟩ := Run.entry_mem_helperFiles_iff.1 hhelper
      exact hnone caller hcaller entry hentry hother hcalls
  · intro d hd
    exact Run.mem_delivered_cases ((Run.diagnostics_perm_delivered _ _ _).mem_iff.1 hd)
  · intro entry hentry hhelper unit hunit
    rw [← hanalysis]
    exact ⟨Run.Phase.subset_diagnostics (.entry hentry) hunit _,
      Run.Phase.subset_diagnostics (.helper hhelper) hunit _⟩

section Yard

/-- A sandboxed class that calls a static method of another. -/
def alarmText : String :=
  "using UdonSharp; class Alarm : UdonSharpBehaviour { void Ring() { Bell.Strike(); } }"

def bellText : String :=
  "using UdonSharp; class Bell : UdonSharpBehaviour { static void Strike() { } }"

def alarmFile : SourceFile :=
  Sketch.textFile "/Alarm.cs" alarmText
    [Sketch.usingOf "UdonSharp",
      Sketch.classDecl [] "Alarm" ["UdonSharpBehaviour"]
        [Sketch.methodDecl [] "Ring" [Sketch.call (Sketch.access "function" "Bell" "Strike")]]]

def bellFile : SourceFile :=
  Sketch.textFile "/Bell.cs" bellText
    [Sketch.usingOf "UdonSharp",
      Sketch.classDecl [] "Bell" ["UdonSharpBehaviour"]
        [Sketch.methodDecl ["static"] "Strike" []]]

def alarmPath : Path :=
  { root := .slash, parts := ["Alarm.cs"] }

def bellPath : Path :=
  { root := .slash, parts := ["Bell.cs"] }

def yardDisk : Disk :=
  { root := .directory
      [("Alarm.cs", .file (.bytes (Text.encode alarmText.toList))),
        ("Bell.cs", .file (.bytes (Text.encode bellText.toList)))] }

def yardParser : Parser := fun source =>
  if source.text == alarmText then some alarmFile.tree
  else if source.text == bellText then some bellFile.tree
  else none

def yardSpace : SymbolSpace :=
  .inOrder (Sketch.outlined [alarmFile, bellFile])

def alarmUnit : OutlinedFile :=
  .ofFile alarmFile ({} : AnalysisSettings).markerImport

def alarmModel : Model :=
  { space := yardSpace, unit := alarmUnit, scopes := Scope.collect alarmUnit.file.root }

def yardType (name : String) : TypeDecl :=
  (yardSpace.types.find? name).getD default

def strikeCall : Node :=
  ((alarmFile.root.descendants ["invocation_expression"]).head?).getD default

theorem ofDisk_alarm : Loaded.ofDisk yardDisk yardParser alarmPath = .ok (.parsed alarmFile) :=
  ofDisk_top rfl rfl (by decide) (by decide) (by decide) (Text.decodeFile_encode (by decide)) rfl

theorem ofDisk_bell : Loaded.ofDisk yardDisk yardParser bellPath = .ok (.parsed bellFile) :=
  ofDisk_top rfl rfl (by decide) (by decide) (by decide) (Text.decodeFile_encode (by decide)) rfl

theorem flat_yard : yardSpace.bases.Flat := by
  decide

theorem build_yard : SymbolSpace.build {} (Sketch.outlined [alarmFile, bellFile]) = .ok yardSpace :=
  SymbolSpace.build_inOrder (by decide) (by decide) (by decide)

theorem receiverIs_bell : alarmModel.ReceiverIs (Model.depthLimit - 1)
    ((strikeCall.child? "function").bind (·.child? "expression")) (yardType "Bell") := by
  rw [← Option.some_get (show ((strikeCall.child? "function").bind
    (·.child? "expression")).isSome = true by decide)]
  apply Model.ReceiverIs.of_flat flat_yard <;> decide

theorem leadsTo_bell : CallGraph.LeadsTo alarmModel "/Alarm.cs" "/Bell.cs" strikeCall := by
  refine ⟨_, Model.invocationWithin_eq_some_iff.2 ⟨by decide, _, yardType "Bell", _, _,
    rfl, .access (by decide) (by decide) receiverIs_bell
      (BaseTable.findMethods_own rfl), rfl, rfl⟩, ?_⟩
  decide

theorem calls_bell : CallGraph.Calls (.ofSpace yardSpace) "/Alarm.cs" "/Bell.cs" := by
  have hmade : Corpus.MadeOf {} (Sketch.outlined [alarmFile, bellFile]) (.ofSpace yardSpace) :=
    .of_build build_yard
  obtain ⟨found, hfound⟩ := yardSpace.exists_index
    (Imports.aliasesEnd_of_none (show alarmUnit.outline.imports.aliases = [] by decide))
  have hmodel := Corpus.model?_of_index hmade (.head _) hfound
  have honly : alarmUnit.file.root.descendants ["invocation_expression"] = [strikeCall] := rfl
  refine CallGraph.calls_iff.2 ⟨_, hmodel, ?_, strikeCall, ?_, leadsTo_bell⟩
  · intro call hcall
    cases List.mem_singleton.1 (honly ▸ hcall)
    obtain ⟨symbol, hsymbol, -⟩ := leadsTo_bell
    exact ⟨_, hsymbol⟩
  · exact honly ▸ List.mem_singleton_self _

theorem alarm_mem_entryFiles : "/Alarm.cs" ∈ yardSpace.entryFiles :=
  (SymbolSpace.built_of_build build_yard).mem_entryFiles_of_names flat_yard
    (.head _) (by decide) (.head _) (by decide) rfl (by decide)

theorem bell_mem_entryFiles : "/Bell.cs" ∈ yardSpace.entryFiles :=
  (SymbolSpace.built_of_build build_yard).mem_entryFiles_of_names flat_yard
    (.tail _ (.head _)) (by decide) (.head _) (by decide) rfl (by decide)

/-- The bell is an entry file and, since the alarm calls into it, a helper file. -/
theorem checkFiles_entry_helpers_yard : ∃ result,
    checkFiles yardDisk yardParser {} .catalog [alarmPath, bellPath] = .ok result ∧
      "/Bell.cs" ∈ result.entryFiles ∧ "/Bell.cs" ∈ result.helperFiles := by
  have hloaded : loadedFrom yardDisk yardParser [alarmPath, bellPath] =
      [.parsed alarmFile, .parsed bellFile] := by
    simp [loadedFrom, ofDisk_alarm, ofDisk_bell, Except.toOption]
  obtain ⟨faults, hcorpus⟩ : ∃ faults, Corpus.buildTolerant {}
      (Run.units {} (loadedFrom yardDisk yardParser [alarmPath, bellPath])) =
        .ok (.ofSpace yardSpace, faults) := by
    rw [hloaded]
    exact ⟨_, Corpus.buildTolerant_eq_ok_iff.2 ⟨yardSpace, build_yard, rfl, rfl⟩⟩
  have hsome : ∃ file, Loaded.parsed file ∈ loadedFrom yardDisk yardParser [alarmPath, bellPath] :=
    ⟨alarmFile, by simp [hloaded]⟩
  obtain ⟨result, hcheck, hentries⟩ : ∃ result,
      Run.check {} .catalog (loadedFrom yardDisk yardParser [alarmPath, bellPath]) = .ok result ∧
        result.entryFiles = yardSpace.entryFiles :=
    ⟨_, Run.check_eq_ok_iff.2 ⟨.inr hsome, _, _, hcorpus, rfl⟩, rfl⟩
  have hrun : checkFiles yardDisk yardParser {} .catalog [alarmPath, bellPath] = .ok result :=
    checkFiles_eq_ok_iff.2 ⟨by simp [ofDisk_alarm, ofDisk_bell], hcheck⟩
  obtain ⟨corpus, faults, hbuilt, -, hhelpers, -⟩ := checkFiles_entry_helpers hrun
  -- The corpus that the run is about is the one written down here.
  obtain ⟨rfl, -⟩ := Prod.mk.inj (Except.ok.inj (hcorpus.symm.trans hbuilt))
  rw [hentries] at hhelpers
  refine ⟨result, hrun, hentries ▸ bell_mem_entryFiles, (hhelpers _ bell_mem_entryFiles).2 ?_⟩
  exact ⟨"/Alarm.cs", alarm_mem_entryFiles, by decide, calls_bell⟩

end Yard

end Lint
end SandboxLint
