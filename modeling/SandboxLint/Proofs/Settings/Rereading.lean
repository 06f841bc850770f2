import SandboxLint.Proofs.FileTree
import SandboxLint.Proofs.Path
import SandboxLint.Proofs.Settings.Check
import SandboxLint.Proofs.Text.Split
import SandboxLint.Settings.Load

/-!
Settings that are read twice. What was read from the merged document is written out and read
again, section by section. Every check takes what it gave, and gives it again but for one:
the ending of an attribute name is taken off at each reading.
-/

namespace SandboxLint

namespace Home

theorem tidy_of_expand? {home : Home} {path expanded : Path} (htidy : path.Tidy)
    (h : home.expand? path = some expanded) : expanded.Tidy := by
  unfold expand? at h
  split at h
  · next first rest _ hparts =>
      split at h
      · split at h
        · next directory _ =>
            split at h
            · cases h
            · cases h
              refine Path.tidy_join (Path.tidy_parse directory) ⟨?_, ?_⟩
              · exact fun part hpart => htidy.plain part (by simp [hparts, hpart])
              · exact fun part hpart => htidy.notDot part (by simp [hparts, hpart])
        · cases h
      · cases h
        exact htidy
  · cases h
    exact htidy

theorem expand?_of_isAbsolute (home : Home) {path : Path} (h : path.isAbsolute = true) :
    home.expand? path = some path := by
  obtain ⟨root, parts⟩ := path
  cases root with
  | relative => cases h
  | slash => rfl
  | doubleSlash => rfl

end Home

theorem LogLevel.check_label (level : LogLevel) :
    Check.oneOf (LogLevel.all.map (·.label)) LogLevel.ofLabel? (.text level.label) =
      .valid level := by
  cases level <;> rfl

theorem LogFormat.check_label (format : LogFormat) :
    Check.oneOf (LogFormat.all.map (·.label)) LogFormat.ofLabel? (.text format.label) =
      .valid format := by
  cases format <;> rfl

namespace LogOutputSettings

variable {home : Home}

/-- A destination is a stream's name or the text of an absolute path as reading gives it. -/
theorem destinationOf_eq_valid {value : Value} {destination : String}
    (h : destinationOf home value = .valid destination) :
    (destination = "stderr" ∨ destination = "stdout") ∨
      ∃ path : Path, path.isAbsolute = true ∧ path.Tidy ∧ path.toText = destination := by
  cases value with
  | text written =>
      simp only [destinationOf, Check.text] at h
      split at h
      · next hstream =>
          cases h
          exact .inl (by simpa using hstream)
      · split at h
        · next path hexpanded =>
            split at h
            · next habsolute =>
                cases h
                have htidy := Home.tidy_of_expand? (Path.tidy_parse written) hexpanded
                exact .inr ⟨path, habsolute, htidy, rfl⟩
            · cases h
        · cases h
  | _ => cases h

/-- The text of an absolute path begins with a slash, as no stream's name does. -/
theorem head?_toText_of_isAbsolute {path : Path} (h : path.isAbsolute = true) :
    path.toText.toList.head? = some '/' := by
  obtain ⟨root, parts⟩ := path
  cases root with
  | relative => cases h
  | slash => simp [Path.toText, PathRoot.label]
  | doubleSlash => simp [Path.toText, PathRoot.label]

/-- An output whose destination is read from its own text. -/
def Settled (home : Home) (s : LogOutputSettings) : Prop :=
  destinationOf home (.text s.destination) = .valid s.destination

/-- A destination that was read stays when it is read again: its tilde is gone and its path is
tidy. -/
theorem destinationOf_text {value : Value} {destination : String}
    (h : destinationOf home value = .valid destination) :
    destinationOf home (.text destination) = .valid destination := by
  obtain (rfl | rfl) | ⟨path, habsolute, htidy, rfl⟩ := destinationOf_eq_valid h
  · rfl
  · rfl
  · have hhead := head?_toText_of_isAbsolute habsolute
    have hstderr : path.toText ≠ "stderr" := fun heq => by simp [heq] at hhead
    have hstdout : path.toText ≠ "stdout" := fun heq => by simp [heq] at hhead
    simp [destinationOf, Check.text, hstderr, hstdout, Path.parse_toText htidy,
      Home.expand?_of_isAbsolute home habsolute, habsolute]

theorem settled_of_check {value : Value} {s : LogOutputSettings} (h : check home value = .valid s) :
    Settled home s := by
  obtain ⟨pairs, hparts⟩ := Check.exists_of_sectionOf h
  obtain ⟨_, level, hrest, -, rfl⟩ := Checked.seq_eq_valid.1 hparts
  obtain ⟨_, destination, hformat, hdestination, rfl⟩ := Checked.seq_eq_valid.1 hrest
  obtain ⟨format, -, rfl⟩ := Checked.map_eq_valid.1 hformat
  obtain rfl | ⟨written, hwritten⟩ := Check.part_eq_valid hdestination
  · rfl
  · exact destinationOf_text hwritten

theorem toValue_eq (s : LogOutputSettings) : s.toValue = .mapping
    [("format", .text s.format.label), ("destination", .text s.destination),
      ("level", s.level.elim .null fun level => .text level.label)] := by
  rw [toValue]
  cases s.level <;> rfl

theorem check_toValue {s : LogOutputSettings} (h : Settled home s) :
    check home s.toValue = .valid s := by
  have hlevel := Check.nullable_elim LogLevel.check_label (fun _ => Value.noConfusion) s.level
  rw [toValue_eq, check, Check.sectionOf, parts, Check.part_of_get? rfl (LogFormat.check_label _),
    Check.part_of_get? rfl h, Check.part_of_get? rfl hlevel]
  rfl

end LogOutputSettings

namespace LoggingSettings

variable {home : Home}

theorem settled_of_check {value : Value} {s : LoggingSettings} (h : check home value = .valid s) :
    ∀ output ∈ s.outputs, output.Settled home := by
  obtain ⟨pairs, hparts⟩ := Check.exists_of_sectionOf h
  obtain ⟨_, outputs, hlevel, houtputs, rfl⟩ := Checked.seq_eq_valid.1 hparts
  obtain ⟨level, -, rfl⟩ := Checked.map_eq_valid.1 hlevel
  intro output houtput
  obtain rfl | ⟨written, hwritten⟩ := Check.part_eq_valid houtputs
  · cases List.mem_singleton.1 houtput
    rfl
  · obtain ⟨item, hitem⟩ := Check.exists_of_mem_of_listOf hwritten houtput
    exact LogOutputSettings.settled_of_check hitem

theorem check_toValue {s : LoggingSettings} (h : ∀ output ∈ s.outputs, output.Settled home) :
    check home s.toValue = .valid s := by
  have houtputs : Check.listOf (LogOutputSettings.check home)
      (.list (s.outputs.map (·.toValue))) = .valid s.outputs :=
    Check.listOf_map fun output houtput => LogOutputSettings.check_toValue (h output houtput)
  rw [toValue, check, Check.sectionOf, parts, Check.part_of_get? rfl (LogLevel.check_label _),
    Check.part_of_get? rfl houtputs]
  rfl

end LoggingSettings

namespace AnalysisSettings

/-- An attribute name without the ending `Attribute`. -/
def shortName (name : String) : String :=
  String.ofList (Text.dropEnding "Attribute".toList name.toList)

/-- The settings with the names of the serializable attributes shortened. -/
def shortened (s : AnalysisSettings) : AnalysisSettings :=
  { s with serializableAttributes := s.serializableAttributes.map shortName }

theorem shortName_eq_self_iff {name : String} :
    shortName name = name ↔ Text.endsWith name "Attribute" = false := by
  rw [shortName, ← String.toList_inj, String.toList_ofList]
  exact Text.dropEnding_eq_self_iff (by decide)

theorem shortened_eq_self_iff {s : AnalysisSettings} :
    s.shortened = s ↔
      ∀ name ∈ s.serializableAttributes, Text.endsWith name "Attribute" = false := by
  have hnames : s.shortened = s ↔
      s.serializableAttributes.map shortName = s.serializableAttributes.map id := by
    rw [List.map_id]
    exact ⟨congrArg serializableAttributes, fun h => congrArg (fun names =>
      { s with serializableAttributes := names }) h⟩
  rw [hnames, List.map_inj_left]
  exact forall₂_congr fun _ _ => shortName_eq_self_iff

theorem attributeNames_texts (names : List String) :
    attributeNames (.texts names) = .valid (names.map shortName) := by
  rw [attributeNames, Check.listOf_text]
  rfl

theorem check_toValue (s : AnalysisSettings) : check s.toValue = .valid s.shortened := by
  rw [toValue, check, Check.sectionOf, parts, Check.part_of_get? rfl (attributeNames_texts _),
    Check.part_of_get? rfl (Check.natural_int _), Check.part_of_get? rfl (Check.natural_int _),
    Check.part_of_get? rfl (Check.listOf_text _), Check.part_of_get? rfl (Check.listOf_integer _)]
  rfl

end AnalysisSettings

namespace DiscoverySettings

theorem toValue_eq (s : DiscoverySettings) : s.toValue = .mapping
    [("extensions", .texts s.extensions), ("excluded_dirs", s.excludedDirs.elim .null .texts)] := by
  rw [toValue]
  cases s.excludedDirs <;> rfl

theorem check_toValue (s : DiscoverySettings) : check s.toValue = .valid s := by
  have hdirs := Check.nullable_elim Check.listOf_text (fun _ => Value.noConfusion) s.excludedDirs
  rw [toValue_eq, check, Check.sectionOf, parts, Check.part_of_get? rfl (Check.listOf_text _),
    Check.part_of_get? rfl hdirs]
  rfl

end DiscoverySettings

theorem OutputSettings.check_toValue (s : OutputSettings) : check s.toValue = .valid s :=
  rfl

namespace Settings

variable {home : Home}

def shortened (s : Settings) : Settings :=
  { s with analysis := s.analysis.shortened }

theorem settled_of_parts {pairs : Mapping} {s : Settings} (h : parts home pairs = .valid s) :
    ∀ output ∈ s.logging.outputs, output.Settled home := by
  obtain ⟨_, output, hthree, -, rfl⟩ := Checked.seq_eq_valid.1 h
  obtain ⟨_, discovery, htwo, -, rfl⟩ := Checked.seq_eq_valid.1 hthree
  obtain ⟨_, analysis, hone, -, rfl⟩ := Checked.seq_eq_valid.1 htwo
  obtain ⟨logging, hlogging, rfl⟩ := Checked.map_eq_valid.1 hone
  obtain rfl | ⟨value, hvalue⟩ := Check.part_eq_valid hlogging
  · intro output houtput
    cases List.mem_singleton.1 houtput
    rfl
  · exact LoggingSettings.settled_of_check hvalue

/-- What is read from settings as they are written. -/
theorem check_toValue {s : Settings} (h : ∀ output ∈ s.logging.outputs, output.Settled home) :
    check home s.toValue = .valid s.shortened := by
  rw [toValue, check, Check.sectionOf, parts,
    Check.part_of_get? rfl (LoggingSettings.check_toValue h),
    Check.part_of_get? rfl (AnalysisSettings.check_toValue s.analysis),
    Check.part_of_get? rfl (DiscoverySettings.check_toValue s.discovery),
    Check.part_of_get? rfl (OutputSettings.check_toValue s.output)]
  rfl

theorem parts_of_checkStrict {pairs : Mapping} {s : Settings}
    (h : checkStrict home pairs = .valid s) : parts home pairs = .valid s := by
  obtain ⟨_, _, hparts, -, rfl⟩ := Checked.seq_eq_valid.1 h
  obtain ⟨s, hs, rfl⟩ := Checked.map_eq_valid.1 hparts
  exact hs

theorem shortened_eq_self_iff {s : Settings} :
    s.shortened = s ↔
      ∀ name ∈ s.analysis.serializableAttributes, Text.endsWith name "Attribute" = false := by
  rw [← AnalysisSettings.shortened_eq_self_iff]
  exact ⟨congrArg analysis, fun h => congrArg (fun analysis => { s with analysis }) h⟩

theorem load_of_checkStrict {sources : SettingsSources} {document : Mapping} {accepted : Settings}
    (hmerged : merged sources = .ok document)
    (haccepted : checkStrict (Environment.home sources.environment) document = .valid accepted) :
    load sources =
      orFirstIssue (check (Environment.home sources.environment) accepted.toValue) := by
  rw [load, hmerged]
  simp only [haccepted, bind, Except.bind, orFirstIssue]

/-- Reading accepted settings once more succeeds and leaves all of them but the names of the
serializable attributes, each of which loses the ending `Attribute` once more. So the settings are
loaded as the merged document was accepted exactly when no name still ended so. -/
theorem load_eq_reread {sources : SettingsSources} {document : Mapping} {accepted : Settings}
    (hmerged : merged sources = .ok document)
    (haccepted : checkStrict (Environment.home sources.environment) document = .valid accepted) :
    check (Environment.home sources.environment) accepted.toValue = .valid accepted.shortened ∧
      load sources = .ok accepted.shortened ∧
      (load sources = .ok accepted ↔
        ∀ name ∈ accepted.analysis.serializableAttributes,
          Text.endsWith name "Attribute" = false) := by
  have hreread := check_toValue (settled_of_parts (parts_of_checkStrict haccepted))
  have hload : load sources = .ok accepted.shortened := by
    rw [load_of_checkStrict hmerged haccepted, hreread]
    rfl
  refine ⟨hreread, hload, ?_⟩
  rw [hload, Except.ok.injEq, shortened_eq_self_iff]

/-! One section given directly, on an empty disk. -/

/-- Sources without files that name an attribute with the ending twice, and a log file in the
user's home directory. -/
def saveSources : SettingsSources where
  disk := { root := .directory [] }
  projectRoot := some ⟨.slash, []⟩
  globalFile := ⟨.slash, ["config.yaml"]⟩
  direct := [
    ("analysis", .mapping [("serializable_attributes", .texts ["SaveAttributeAttribute"])]),
    ("logging", .mapping [("outputs", .list [.mapping [("destination", .text "~/lint.log")]])])]

/-- The settings that these sources are accepted as. -/
def saveSettings : Settings where
  analysis := { serializableAttributes := ["SaveAttribute"] }
  logging := { outputs := [{ destination := "/root/lint.log" }] }

theorem readFile_save (name : String) (hnull : Path.hasNull ⟨.slash, [name]⟩ = false)
    (hdots : name ≠ "..") (hshort : name.utf8ByteSize ≤ Disk.nameLimit) :
    readFile saveSources.disk ⟨.slash, [name]⟩ = .ok [] := by
  have hroot : saveSources.disk.root = .directory [] := rfl
  have hentry := Disk.entry_top hroot (show List.lookup name [] = none from rfl) (by simp) hnull
    hdots hshort
  simp only [readFile, Disk.lookup, hentry, Option.elim]

theorem merged_save : merged saveSources = .ok saveSources.direct := by
  have hproject : projectMapping saveSources = .ok [] :=
    readFile_save projectFileName (by decide) (by decide) (by decide)
  have hshared : readFile saveSources.disk saveSources.globalFile = .ok [] :=
    readFile_save "config.yaml" (by decide) (by decide) (by decide)
  rw [merged, hproject, hshared]
  rfl

/-- The attribute is accepted by the name that it is declared by, and loaded by another. -/
theorem load_eq_reread_save : merged saveSources = .ok saveSources.direct ∧
    checkStrict (Environment.home saveSources.environment) saveSources.direct =
      .valid saveSettings ∧
    load saveSources =
      .ok { saveSettings with analysis := { serializableAttributes := ["Save"] } } ∧
    load saveSources ≠ .ok saveSettings := by
  have haccepted : checkStrict (Environment.home saveSources.environment) saveSources.direct =
      .valid saveSettings := by
    rfl
  obtain ⟨-, hload, hsame⟩ := load_eq_reread merged_save haccepted
  refine ⟨merged_save, haccepted, hload, fun hloaded => ?_⟩
  have hending := hsame.1 hloaded "SaveAttribute" (by decide)
  exact absurd hending (by decide)

end Settings
end SandboxLint
