import SandboxLint.Proofs.Run.Sides
import SandboxLint.Proofs.Text.Utf8

/-!
Unrelated files do not interfere. A file that says no name of a type of other files, and
whose types none of these say, is a side of its own: a run over all of them reports about
the other files what a run without it reports.
-/

namespace SandboxLint

def SourceFile.typeNames (file : SourceFile) : List String :=
  (file.root.descendants Kind.typeDeclarations).map (·.declaredName)

/-- A file beside others at another path, where neither says the name of a type of the other. Trees
are made of their sources, and names of types have one part. -/
structure Unrelated (files : List SourceFile) (other : SourceFile) : Prop where
  path : ∀ file ∈ files, file.path ≠ other.path
  grounded : ∀ file ∈ other :: files, file.Grounded
  undotted : ∀ file ∈ other :: files, ∀ name ∈ file.typeNames, '.' ∉ name.toList
  unsaid : ∀ file ∈ files, ∀ name ∈ file.typeNames, ¬ name.toList <:+: other.source.text.toList
  unheard : ∀ file ∈ files, ∀ name ∈ other.typeNames, ¬ name.toList <:+: file.source.text.toList

namespace Unrelated

variable {files : List SourceFile} {other : SourceFile} (h : Unrelated files other)
include h

omit h in
theorem mem_typeNames {file : SourceFile} {marker : String} {fragment : Fragment}
    (hfragment : fragment ∈ (Outline.ofFile file marker).types) :
    fragment.name ∈ file.typeNames := by
  obtain ⟨node, hnode, hkind, rfl⟩ := Outline.mem_types_iff.1 hfragment
  exact List.mem_map.2 ⟨node, List.mem_filter.2 ⟨hnode, hkind⟩, rfl⟩

section Sides

variable {marker : String} {units : List OutlinedFile}
  (hunits : ∀ unit ∈ units, ∃ file ∈ other :: files, unit = .ofFile file marker)
  {unit : OutlinedFile} (hunit : unit ∈ units)
include hunits hunit

omit h in
theorem exists_eq_of_path_ne (hpath : (unit.path != other.path) = true) :
    ∃ file ∈ files, unit = .ofFile file marker := by
  obtain ⟨file, hfile, rfl⟩ := hunits unit hunit
  refine ⟨file, (List.mem_cons.1 hfile).resolve_left fun hsame => ?_, rfl⟩
  simp [hsame, OutlinedFile.ofFile, OutlinedFile.path] at hpath

theorem eq_of_path_eq (hpath : (unit.path != other.path) = false) :
    unit = .ofFile other marker := by
  obtain ⟨file, hfile, rfl⟩ := hunits unit hunit
  cases List.mem_cons.1 hfile with
  | inl hsame => rw [hsame]
  | inr hmem =>
      have hsame : (OutlinedFile.ofFile file marker).path = other.path := by simpa using hpath
      exact absurd hsame (h.path file hmem)

end Sides

/-- Files that do not say each other's types are two sides of what they make up together. -/
theorem apart {marker : String} {units : List OutlinedFile}
    (hunits : ∀ unit ∈ units, ∃ file ∈ other :: files, unit = .ofFile file marker) :
    Apart (OccursIn (files.map (·.source.text))) (OccursIn [other.source.text])
      (· != other.path) units := by
  have houtlined : SymbolSpace.Outlined units := by
    intro unit hunit
    obtain ⟨file, -, rfl⟩ := hunits unit hunit
    exact ⟨file, marker, rfl⟩
  have hundotted : ∀ unit ∈ units, ∀ fragment ∈ unit.outline.types,
      '.' ∉ fragment.name.toList := by
    intro unit hunit fragment hfragment
    obtain ⟨file, hfile, rfl⟩ := hunits unit hunit
    exact h.undotted file hfile _ (mem_typeNames hfragment)
  refine ⟨⟨partClosed_occursIn _, houtlined, hundotted, fun unit hunit hpath => ?_,
    fun unit hunit hpath fragment hfragment => ?_⟩,
    ⟨partClosed_occursIn _, houtlined, hundotted, fun unit hunit hpath => ?_,
      fun unit hunit hpath fragment hfragment => ?_⟩⟩
  · obtain ⟨file, hfile, rfl⟩ := exists_eq_of_path_ne hunits hunit hpath
    exact (h.grounded file (List.mem_cons_of_mem _ hfile)).allNear (List.mem_map_of_mem hfile)
  · obtain rfl := h.eq_of_path_eq hunits hunit hpath
    rintro ⟨text, htext, hinfix⟩
    obtain ⟨file, hfile, rfl⟩ := List.mem_map.1 htext
    exact h.unheard file hfile _ (mem_typeNames hfragment) hinfix
  · obtain rfl := h.eq_of_path_eq hunits hunit (by simpa using hpath)
    exact (h.grounded other List.mem_cons_self).allNear (List.mem_singleton_self _)
  · obtain ⟨file, hfile, rfl⟩ := exists_eq_of_path_ne hunits hunit (by simpa using hpath)
    rintro ⟨text, htext, hinfix⟩
    rw [List.mem_singleton.1 htext] at hinfix
    exact h.unsaid file hfile _ (mem_typeNames hfragment) hinfix

end Unrelated

namespace Run

variable {analysis : AnalysisSettings} {before after : List Loaded} {other : SourceFile}

/-- Leaving out a file of a path of its own leaves the files beside it. -/
theorem units_without (analysis : AnalysisSettings)
    (hpath : ∀ file ∈ (before ++ after).filterMap (·.file?), file.path ≠ other.path) :
    units analysis (before ++ after) =
      SymbolSpace.atHome (· != other.path) (units analysis (before ++ .parsed other :: after)) := by
  have hfiles : (before ++ .parsed other :: after).filterMap (·.file?) =
      before.filterMap (·.file?) ++ other :: after.filterMap (·.file?) := by
    simp [Loaded.file?]
  have hothers : ∀ {loaded : List Loaded}, (∀ file ∈ loaded, file ∈ before ++ after) →
      (loaded.filterMap (·.file?)).filter (fun file => file.path != other.path) =
        loaded.filterMap (·.file?) := by
    intro loaded hmem
    refine List.filter_eq_self.2 fun file hfile => ?_
    obtain ⟨found, hfound, hfile⟩ := List.mem_filterMap.1 hfile
    simpa using hpath file (List.mem_filterMap.2 ⟨found, hmem found hfound, hfile⟩)
  have hkept : (before.filterMap (·.file?) ++ other :: after.filterMap (·.file?)).filter
      (fun file => file.path != other.path) = (before ++ after).filterMap (·.file?) := by
    rw [List.filter_append, List.filter_cons_of_neg (by simp), List.filterMap_append,
      hothers fun file hfile => List.mem_append_left _ hfile,
      hothers fun file hfile => List.mem_append_right _ hfile]
  rw [units, units, SymbolSpace.atHome, hfiles, List.filter_map, ← hkept]
  rfl

theorem exists_source_of_mem_byPath {unit : OutlinedFile}
    (h : unit ∈ SymbolSpace.byPath (units analysis (before ++ .parsed other :: after))) :
    ∃ file ∈ other :: (before ++ after).filterMap (·.file?),
      unit = .ofFile file analysis.markerImport := by
  obtain ⟨file, hfile, rfl⟩ := List.mem_map.1 (SymbolSpace.mem_of_mem_byPath h)
  refine ⟨file, ?_, rfl⟩
  simpa [Loaded.file?, or_left_comm] using hfile

/-- A file that is unrelated to others changes nothing that a run says about them. -/
theorem check_unrelated {registry : Registry} {without within : LintResult}
    (hunrelated : Unrelated ((before ++ after).filterMap (·.file?)) other)
    (hrules : ∀ rule ∈ (effectiveRegistry registry).rules,
      rule ∈ Registry.catalogRules ∨ rule.ReadsFile)
    (hwithout : check analysis registry (before ++ after) = .ok without)
    (hwithin : check analysis registry (before ++ .parsed other :: after) = .ok within) :
    ∃ corpus faults corpus' faults',
      Corpus.buildTolerant analysis (units analysis (before ++ after)) = .ok (corpus, faults) ∧
      Corpus.buildTolerant analysis (units analysis (before ++ .parsed other :: after)) =
        .ok (corpus', faults') ∧
      without.diagnostics = within.diagnostics.filter (·.path != other.path) ∧
      without.entryFiles = within.entryFiles.filter (· != other.path) ∧
      without.helperFiles = within.helperFiles.filter (· != other.path) ∧
      (∀ unit ∈ corpus.space.files,
        corpus.space.classify unit = corpus'.space.classify unit) ∧
      ∀ path, path ≠ other.path →
        (graphOf corpus).callersOf path = (graphOf corpus').callersOf path := by
  obtain ⟨-, corpus, faults, hcorpus, rfl⟩ := check_eq_ok_iff.1 hwithout
  obtain ⟨-, corpus', faults', hcorpus', rfl⟩ := check_eq_ok_iff.1 hwithin
  obtain ⟨part, hpart, rfl, -⟩ := Corpus.buildTolerant_eq_ok_iff.1 hcorpus
  obtain ⟨space, hspace, rfl, -⟩ := Corpus.buildTolerant_eq_ok_iff.1 hcorpus'
  rw [units_without analysis hunrelated.path] at hpart
  have built := SymbolSpace.built_of_build hspace
  have built' := SymbolSpace.built_of_build hpart
  have apart := hunrelated.apart fun unit (hunit : unit ∈ space.files) =>
    exists_source_of_mem_byPath (built.files_eq ▸ hunit)
  refine ⟨_, _, _, _, hcorpus, hcorpus', ?_, apart.entryFiles_part built built',
    apart.helperFiles_part built built', fun unit hunit => ?_, fun path hpath => ?_⟩
  · exact diagnostics_of_filter (apart.delivered_part built built' hrules) _ _
  · have hfiles : unit ∈ SymbolSpace.atHome (· != other.path) space.files :=
      Side.files_of_part built built' ▸ hunit
    obtain ⟨hunit, hhome⟩ := List.mem_filter.1 hfiles
    exact apart.classify_eq built built' hunit hhome
  · exact apart.callersOf_part built built' (by simpa using hpath)

end Run

namespace Lint

variable {disk : Disk} {parser : Parser} {before after : List Path} {path : Path}
  {other : SourceFile}

theorem loadedFrom_within (hother : Loaded.ofDisk disk parser path = .ok (.parsed other)) :
    loadedFrom disk parser (before ++ path :: after) =
      loadedFrom disk parser before ++ .parsed other :: loadedFrom disk parser after := by
  simp [loadedFrom, hother, Except.toOption]

/-- Unrelated files do not interfere: where some files and one more say no name of each other's
types and a run over them is complete with and without that one, it reports the same about each of
them, in the same order, finds the same entry files and helper files among them, and gives each of
them the same callers. -/
theorem checkFiles_unrelated {settings : Settings} {registry : Registry}
    {without within : LintResult}
    (hother : Loaded.ofDisk disk parser path = .ok (.parsed other))
    (hunrelated : Unrelated ((loadedFrom disk parser (before ++ after)).filterMap (·.file?)) other)
    (hrules : ∀ rule ∈ (Run.effectiveRegistry registry).rules,
      rule ∈ Registry.catalogRules ∨ rule.ReadsFile)
    (hwithout : checkFiles disk parser settings registry (before ++ after) = .ok without)
    (hwithin : checkFiles disk parser settings registry (before ++ path :: after) = .ok within) :
    without.diagnostics = within.diagnostics.filter (·.path != other.path) ∧
      without.entryFiles = within.entryFiles.filter (· != other.path) ∧
      without.helperFiles = within.helperFiles.filter (· != other.path) ∧
      ∃ corpus faults corpus' faults',
        Corpus.buildTolerant settings.analysis
          (Run.units settings.analysis (loadedFrom disk parser (before ++ after))) =
            .ok (corpus, faults) ∧
        Corpus.buildTolerant settings.analysis
          (Run.units settings.analysis (loadedFrom disk parser (before ++ path :: after))) =
            .ok (corpus', faults') ∧
        (∀ unit ∈ corpus.space.files,
          corpus.space.classify unit = corpus'.space.classify unit) ∧
        ∀ file, file ≠ other.path →
          (Run.graphOf corpus).callersOf file = (Run.graphOf corpus').callersOf file := by
  obtain ⟨-, hwithout⟩ := checkFiles_eq_ok_iff.1 hwithout
  obtain ⟨-, hwithin⟩ := checkFiles_eq_ok_iff.1 hwithin
  have hfiles : loadedFrom disk parser (before ++ after) =
      loadedFrom disk parser before ++ loadedFrom disk parser after := by
    simp [loadedFrom]
  rw [hfiles] at hunrelated hwithout ⊢
  rw [loadedFrom_within hother] at hwithin ⊢
  obtain ⟨corpus, faults, corpus', faults', hcorpus, hcorpus', hdiagnostics, hentries, hhelpers,
    hclassified, hcallers⟩ := Run.check_unrelated hunrelated hrules hwithout hwithin
  exact ⟨hdiagnostics, hentries, hhelpers, corpus, faults, corpus', faults', hcorpus, hcorpus',
    hclassified, hcallers⟩

section Street

def gateText : String :=
  "using UdonSharp; class Gate : UdonSharpBehaviour { void Open() { throw; } }"

def lampText : String :=
  "using UdonSharp; class Lamp : UdonSharpBehaviour { void Light() { throw; } }"

/-- A file with one sandboxed class that throws. -/
def throwingFile (path text type method : String) : SourceFile :=
  Sketch.textFile path text
    [Sketch.usingOf "UdonSharp",
      Sketch.classDecl [] type ["UdonSharpBehaviour"]
        [Sketch.methodDecl [] method [Sketch.group "throw_statement" none []]]]

def gateFile : SourceFile :=
  throwingFile "/Gate.cs" gateText "Gate" "Open"

def lampFile : SourceFile :=
  throwingFile "/Lamp.cs" lampText "Lamp" "Light"

def gatePath : Path :=
  { root := .slash, parts := ["Gate.cs"] }

def lampPath : Path :=
  { root := .slash, parts := ["Lamp.cs"] }

/-- A disk with the two files. -/
def streetDisk : Disk :=
  { root := .directory
      [("Gate.cs", .file (.bytes (Text.encode gateText.toList))),
        ("Lamp.cs", .file (.bytes (Text.encode lampText.toList)))] }

/-- A parser that knows the two texts. -/
def streetParser : Parser := fun source =>
  if source.text == gateText then some gateFile.tree
  else if source.text == lampText then some lampFile.tree
  else none

theorem ofDisk_gate : Loaded.ofDisk streetDisk streetParser gatePath = .ok (.parsed gateFile) :=
  ofDisk_top rfl rfl (by decide) (by decide) (by decide) (Text.decodeFile_encode (by decide)) rfl

theorem ofDisk_lamp : Loaded.ofDisk streetDisk streetParser lampPath = .ok (.parsed lampFile) :=
  ofDisk_top rfl rfl (by decide) (by decide) (by decide) (Text.decodeFile_encode (by decide)) rfl

theorem unrelated_street : Unrelated [gateFile] lampFile where
  path := by decide
  grounded := by
    unfold SourceFile.Grounded
    decide
  undotted := by decide
  unsaid := by decide +kernel
  unheard := by decide +kernel

/-- The gate is reported in the same way, whether the lamp stands beside it or not. -/
theorem checkFiles_unrelated_street :
    ∃ without within,
      checkFiles streetDisk streetParser {} .catalog [gatePath] = .ok without ∧
      checkFiles streetDisk streetParser {} .catalog [gatePath, lampPath] = .ok within ∧
      without.diagnostics = within.diagnostics.filter (·.path != "/Lamp.cs") ∧
      without.entryFiles = within.entryFiles.filter (· != "/Lamp.cs") := by
  have hgate : loadedFrom streetDisk streetParser [gatePath] = [.parsed gateFile] := by
    simp [loadedFrom, ofDisk_gate, Except.toOption]
  have hboth : loadedFrom streetDisk streetParser [gatePath, lampPath] =
      [.parsed gateFile, .parsed lampFile] := by
    simp [loadedFrom, ofDisk_gate, ofDisk_lamp, Except.toOption]
  obtain ⟨without, hwithout⟩ : ∃ result,
      Run.check {} .catalog (loadedFrom streetDisk streetParser [gatePath]) = .ok result := by
    rw [hgate]
    exact exists_check ⟨gateFile, List.mem_cons_self⟩ rfl (by decide) (by decide)
  obtain ⟨within, hwithin⟩ : ∃ result,
      Run.check {} .catalog (loadedFrom streetDisk streetParser [gatePath, lampPath]) =
        .ok result := by
    rw [hboth]
    exact exists_check ⟨gateFile, List.mem_cons_self⟩ rfl (by decide) (by decide)
  have hrun : checkFiles streetDisk streetParser {} .catalog ([gatePath] ++ []) = .ok without :=
    checkFiles_eq_ok_iff.2 ⟨by simp [ofDisk_gate], hwithout⟩
  have hrun' : checkFiles streetDisk streetParser {} .catalog ([gatePath] ++ lampPath :: []) =
      .ok within :=
    checkFiles_eq_ok_iff.2 ⟨by simp [ofDisk_gate, ofDisk_lamp], hwithin⟩
  have hunrelated : Unrelated ((loadedFrom streetDisk streetParser ([gatePath] ++ [])).filterMap
      (·.file?)) lampFile := by
    rw [List.append_nil, hgate]
    exact unrelated_street
  have hrules : ∀ rule ∈ (Run.effectiveRegistry .catalog).rules,
      rule ∈ Registry.catalogRules ∨ rule.ReadsFile := fun rule hrule => .inl hrule
  obtain ⟨hdiagnostics, hentries, -⟩ :=
    checkFiles_unrelated ofDisk_lamp hunrelated hrules hrun hrun'
  exact ⟨without, within, hrun, hrun', hdiagnostics, hentries⟩

end Street

end Lint

end SandboxLint
