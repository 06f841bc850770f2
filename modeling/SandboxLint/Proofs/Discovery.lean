import Mathlib.Data.List.Flatten
import Mathlib.Data.List.Lex
import Mathlib.Data.List.Sort
import Mathlib.Data.String.Basic
import SandboxLint.Discovery
import SandboxLint.Proofs.Fallible
import SandboxLint.Proofs.FileTree
import SandboxLint.Proofs.Text.Split

/-!
Discovery in a tree without links. What is found below a directory depends on the tree
below it only, not on the place of the directory: the files behind directories of which
none is pruned, each once, with an ending that is asked for. The parts of the
places order them.
-/

namespace SandboxLint

namespace Text

theorem lower_eq_empty_iff {text : String} : lower text = "" ↔ text = "" := by
  rw [lower, ← String.toList_inj, String.toList_ofList, ← String.toList_inj]
  cases text.toList with
  | nil => simp [lowerFrom]
  | cons c rest =>
      simp only [lowerFrom, String.toList_empty, List.append_eq_nil_iff, reduceCtorEq, iff_false,
        not_and]
      split
      · simp
      · split <;> simp

end Text

/-- A name ends in what stands behind its last dot, when there is something on both sides. -/
theorem Path.suffixOf_eq_iff {name suffix : String} (hsuffix : suffix ≠ "") :
    suffixOf name = suffix ↔ ∃ stem ending, name = stem ++ "." ++ ending ∧ suffix = "." ++ ending ∧
      stem ≠ "" ∧ ending ≠ "" ∧ '.' ∉ ending.toList := by
  have hdotted : ∀ stem ending : String,
      (stem ++ "." ++ ending).toList = stem.toList ++ '.' :: ending.toList := by simp
  constructor
  · intro h
    rw [suffixOf] at h
    split at h
    · next htest =>
        simp only [Bool.and_eq_true, List.contains_iff_mem, Bool.not_eq_true',
          List.isEmpty_eq_false_iff, decide_eq_true_eq] at htest
        obtain ⟨⟨hdot, hending⟩, hlength⟩ := htest
        obtain ⟨stem, ending, hcut, hundotted⟩ := Text.exists_cut_at_last hdot
        rw [hcut, Text.afterLast_append _ hundotted] at h hending hlength
        have hstem : stem ≠ [] := by
          rintro rfl
          simp at hlength
        refine ⟨String.ofList stem, String.ofList ending, ?_, ?_, ?_, ?_, ?_⟩
        · rw [← String.toList_inj, hdotted, hcut, String.toList_ofList, String.toList_ofList]
        · rw [← h, ← String.toList_inj]
          simp
        · simpa using hstem
        · simpa using hending
        · simpa using hundotted
    · exact absurd h.symm hsuffix
  · rintro ⟨stem, ending, rfl, rfl, hstem, hending, hundotted⟩
    have hlast := Text.afterLast_append stem.toList hundotted
    have hlength : 0 < stem.toList.length := List.length_pos_iff.2 (by simpa using hstem)
    rw [suffixOf, hdotted, hlast, if_pos, ← String.toList_inj]
    · simp
    · simp [hending]
      omega

example : Path.suffixOf ".cs" = "" := by decide

namespace Discovery

section Endings

theorem normalizedExtension_ne_empty (ext : String) : normalizedExtension ext ≠ "" := by
  rw [normalizedExtension]
  split
  · next hdot =>
      refine mt Text.lower_eq_empty_iff.1 ?_
      rintro rfl
      exact absurd hdot (by decide)
  · simp

/-- A name has one of the extensions when it has an ending behind its last dot, with something in
front of the dot, and the ending in lower case is one of them. -/
theorem hasExtension_iff {extensions : List String} {name : String} :
    hasExtension (extensions.map normalizedExtension) name = true ↔
      ∃ stem ending, name = stem ++ "." ++ ending ∧ stem ≠ "" ∧ ending ≠ "" ∧
        '.' ∉ ending.toList ∧
        Text.lower ("." ++ ending) ∈ extensions.map normalizedExtension := by
  rw [hasExtension, List.contains_iff_mem]
  constructor
  · intro h
    have hsome : Path.suffixOf name ≠ "" := by
      intro hnone
      obtain ⟨ext, -, hext⟩ := List.mem_map.1 h
      rw [hnone, Text.lower_eq_empty_iff.2 rfl] at hext
      exact normalizedExtension_ne_empty ext hext
    obtain ⟨stem, ending, hname, hsuffix, hstem, hending, hundotted⟩ :=
      (Path.suffixOf_eq_iff hsome).1 rfl
    exact ⟨stem, ending, hname, hstem, hending, hundotted, hsuffix ▸ h⟩
  · rintro ⟨stem, ending, hname, hstem, hending, hundotted, h⟩
    have hsuffix : Path.suffixOf name = "." ++ ending :=
      (Path.suffixOf_eq_iff (by simp)).2 ⟨stem, ending, hname, rfl, hstem, hending, hundotted⟩
    rwa [hsuffix]

end Endings

section Walk

variable {leadsToDirectory : List String → Bool} {pruned here rel : List String} {tree : FileTree}

theorem filesInEntries_eq_flatMap (entries : List (String × FileTree)) :
    filesInEntries leadsToDirectory pruned here entries =
      entries.flatMap (filesInEntry leadsToDirectory pruned here) := by
  induction entries with
  | nil => simp [filesInEntries]
  | cons entry entries ih => rw [filesInEntries, ih, List.flatMap_cons]

/-- The files below a directory in which links are files, as parts behind it. -/
def below (pruned : List String) (tree : FileTree) : List (List String) :=
  filesIn (fun _ => false) pruned [] tree

/-- The files that an entry of a plain directory contributes, as parts behind the directory. -/
def belowEntry (pruned : List String) (entry : String × FileTree) : List (List String) :=
  if entry.2.isDirectory then
    if entry.1 ∈ pruned then [] else (below pruned entry.2).map (entry.1 :: ·)
  else [[entry.1]]

theorem filesInEntry_of_plain {entry : String × FileTree} (h : entry.2.Plain) :
    filesInEntry leadsToDirectory pruned here entry =
      if entry.2.isDirectory then
        if entry.1 ∈ pruned then []
        else filesIn leadsToDirectory pruned (here ++ [entry.1]) entry.2
      else [here ++ [entry.1]] := by
  obtain ⟨name, tree⟩ := entry
  cases h with
  | file => simp [filesInEntry, FileTree.isDirectory]
  | device => simp [filesInEntry, FileTree.isDirectory]
  | directory => simp [filesInEntry, filesIn, FileTree.isDirectory]

/-- Where a plain directory stands makes no difference to what is found below it. -/
theorem filesIn_of_plain (h : tree.Plain) (leadsToDirectory : List String → Bool)
    (pruned here : List String) :
    filesIn leadsToDirectory pruned here tree = (below pruned tree).map (here ++ ·) := by
  rw [below]
  induction h generalizing leadsToDirectory here with
  | file => simp [filesIn]
  | device => simp [filesIn]
  | @directory entries _ _ inner ih =>
      simp only [filesIn, filesInEntries_eq_flatMap, List.map_flatMap]
      refine List.flatMap_congr fun entry hentry => ?_
      rw [filesInEntry_of_plain (inner entry hentry), filesInEntry_of_plain (inner entry hentry),
        ih entry hentry leadsToDirectory, ih entry hentry (fun _ => false) ([] ++ [entry.1])]
      split
      · split <;> simp
      · simp

theorem below_directory {entries : List (String × FileTree)}
    (inner : ∀ entry ∈ entries, entry.2.Plain) :
    below pruned (.directory entries) = entries.flatMap (belowEntry pruned) := by
  rw [below, filesIn, filesInEntries_eq_flatMap]
  refine List.flatMap_congr fun entry hentry => ?_
  rw [filesInEntry_of_plain (inner entry hentry), filesIn_of_plain (inner entry hentry)]
  rfl

/-- What an entry contributes begins with its name. -/
theorem cons_of_mem_belowEntry {entry : String × FileTree} (h : rel ∈ belowEntry pruned entry) :
    ∃ rest, rel = entry.1 :: rest := by
  rw [belowEntry] at h
  split at h
  · split at h
    · cases h
    · obtain ⟨rest, -, hrest⟩ := List.mem_map.1 h
      exact ⟨rest, hrest.symm⟩
  · exact ⟨[], List.mem_singleton.1 h⟩

/-- An entry contributes the files behind directories that are not pruned, itself included, if
what stands below it does so. -/
theorem mem_belowEntry_iff {entry : String × FileTree}
    (hbelow : ∀ rest, rest ∈ below pruned entry.2 ↔
      rest ≠ [] ∧ entry.2.HasFile rest ∧ ∀ dir ∈ rest.dropLast, dir ∉ pruned) :
    rel ∈ belowEntry pruned entry ↔
      ∃ rest, rel = entry.1 :: rest ∧ entry.2.HasFile rest ∧
        ∀ dir ∈ rel.dropLast, dir ∉ pruned := by
  obtain ⟨name, tree⟩ := entry
  cases hdirectory : tree.isDirectory with
  | false =>
      simp only [belowEntry, hdirectory, FileTree.hasFile_iff_of_not_isDirectory hdirectory,
        Bool.false_eq_true, if_false, List.mem_singleton]
      constructor
      · rintro rfl
        exact ⟨[], rfl, rfl, by simp⟩
      · rintro ⟨rest, rfl, rfl, -⟩
        rfl
  | true =>
      -- A file below a directory stands behind the name of the directory.
      have hdrop : ∀ rest, tree.HasFile rest →
          ((∀ dir ∈ (name :: rest).dropLast, dir ∉ pruned) ↔
            name ∉ pruned ∧ ∀ dir ∈ rest.dropLast, dir ∉ pruned) := fun rest hfile => by
        rw [List.dropLast_cons_of_ne_nil (hfile.ne_nil hdirectory), List.forall_mem_cons]
      simp only [belowEntry, hdirectory, if_true]
      constructor
      · intro hrel
        split at hrel
        · cases hrel
        · next hkept =>
            obtain ⟨rest, hrest, rfl⟩ := List.mem_map.1 hrel
            obtain ⟨-, hfile, hdirs⟩ := (hbelow rest).1 hrest
            exact ⟨rest, rfl, hfile, (hdrop rest hfile).2 ⟨hkept, hdirs⟩⟩
      · rintro ⟨rest, rfl, hfile, hdirs⟩
        obtain ⟨hkept, hdirs⟩ := (hdrop rest hfile).1 hdirs
        rw [if_neg hkept]
        exact List.mem_map_of_mem ((hbelow rest).2 ⟨hfile.ne_nil hdirectory, hfile, hdirs⟩)

/-- Exactly the files behind directories that are not pruned are found. -/
theorem mem_below_iff (h : tree.Plain) : rel ∈ below pruned tree ↔
    rel ≠ [] ∧ tree.HasFile rel ∧ ∀ dir ∈ rel.dropLast, dir ∉ pruned := by
  induction h generalizing rel with
  | file =>
      rw [FileTree.hasFile_iff_of_not_isDirectory rfl]
      simp +contextual [below, filesIn]
  | device =>
      rw [FileTree.hasFile_iff_of_not_isDirectory rfl]
      simp +contextual [below, filesIn]
  | @directory entries distinct _ inner ih =>
      rw [below_directory inner, List.mem_flatMap, FileTree.hasFile_directory_iff distinct]
      constructor
      · rintro ⟨entry, hentry, hrel⟩
        obtain ⟨rest, rfl, hfile, hdirs⟩ :=
          (mem_belowEntry_iff fun rest => ih entry hentry).1 hrel
        exact ⟨List.cons_ne_nil _ _, ⟨entry, hentry, rest, rfl, hfile⟩, hdirs⟩
      · rintro ⟨-, ⟨entry, hentry, rest, rfl, hfile⟩, hdirs⟩
        exact ⟨entry, hentry,
          (mem_belowEntry_iff fun rest => ih entry hentry).2 ⟨rest, rfl, hfile, hdirs⟩⟩

theorem nodup_below (h : tree.Plain) : (below pruned tree).Nodup := by
  induction h with
  | file => simp [below, filesIn]
  | device => simp [below, filesIn]
  | @directory entries distinct _ inner ih =>
      rw [below_directory inner, List.nodup_flatMap]
      refine ⟨fun entry hentry => ?_, (List.pairwise_map.1 distinct).imp fun hnames => ?_⟩
      · rw [belowEntry]
        split
        · split
          · exact List.nodup_nil
          · exact (ih entry hentry).map List.cons_injective
        · exact List.nodup_singleton _
      · intro rel hrel hrel'
        obtain ⟨rest, rfl⟩ := cons_of_mem_belowEntry hrel
        obtain ⟨rest', hrest⟩ := cons_of_mem_belowEntry hrel'
        exact hnames (List.cons.inj hrest).1

end Walk

section Order

/-- The order of places is that of their parts, the first that differ deciding. -/
theorem partsOrdered_eq (as bs : List String) : partsOrdered as bs = decide (as ≤ bs) := by
  fun_induction partsOrdered as bs with
  | case1 bs =>
      rw [eq_comm, decide_eq_true_eq, ← not_lt]
      exact List.not_lex_nil
  | case2 a as =>
      rw [eq_comm, decide_eq_false_iff_not, not_le]
      exact List.Lex.nil
  | case3 a as b bs heq ih =>
      cases beq_iff_eq.1 heq
      rw [ih, decide_eq_decide, ← not_lt, ← not_lt]
      exact not_congr List.lex_cons_iff.symm
  | case4 a as b bs hne =>
      have hne : a ≠ b := by simpa using hne
      rw [decide_eq_decide]
      constructor
      · intro hlt
        exact le_of_lt (List.Lex.rel hlt)
      · intro hle
        by_contra hlt
        have hgt : b < a := lt_of_le_of_ne (not_lt.1 hlt) hne.symm
        exact absurd (List.Lex.rel hgt) (not_lt.2 hle)

theorem partsOrdered_append (here as bs : List String) :
    partsOrdered (here ++ as) (here ++ bs) = partsOrdered as bs := by
  induction here with
  | nil => rfl
  | cons part here ih => simpa [partsOrdered] using ih

end Order

/-- A source file below a directory, at the parts behind it: a file with an ending that is asked
for, and no name on the way to it that is pruned. -/
structure IsSource (settings : DiscoverySettings) (excludeTests : Bool) (tree : FileTree)
    (parts : List String) : Prop where
  file : tree.HasFile parts
  ending : ∃ stem ending, parts.getLast? = some (stem ++ "." ++ ending) ∧ stem ≠ "" ∧
    ending ≠ "" ∧ '.' ∉ ending.toList ∧
    Text.lower ("." ++ ending) ∈ settings.extensions.map normalizedExtension
  hardcoded : ∀ dir ∈ parts.dropLast, dir ∉ hardcodedDirs
  configured : ∀ dir ∈ parts.dropLast, dir ∉ settings.excludedDirs.getD defaultPrunableDirs
  tests : excludeTests = true → ∀ dir ∈ parts.dropLast, dir ∉ testScriptDirs

section Sources

variable {settings : DiscoverySettings} {excludeTests : Bool} {tree : FileTree}
  {parts : List String}

theorem isSource_true_iff : IsSource settings true tree parts ↔
    IsSource settings false tree parts ∧ ∀ dir ∈ parts.dropLast, dir ∉ testScriptDirs :=
  ⟨fun h => ⟨⟨h.file, h.ending, h.hardcoded, h.configured, nofun⟩, h.tests rfl⟩,
    fun ⟨h, htests⟩ => ⟨h.file, h.ending, h.hardcoded, h.configured, fun _ => htests⟩⟩

/-- The files below a directory in which links are files that have one of the extensions. -/
def wanted (settings : DiscoverySettings) (excludeTests : Bool) (tree : FileTree) :
    List (List String) :=
  (below (prunedDirs settings excludeTests) tree).filter fun parts =>
    hasExtension (settings.extensions.map normalizedExtension) (parts.getLast?.getD "")

/-- The places of the sources below a directory, as parts behind it, in order. -/
def sourcesBelow (settings : DiscoverySettings) (excludeTests : Bool) (tree : FileTree) :
    List (List String) :=
  (wanted settings excludeTests tree).mergeSort partsOrdered

theorem mem_sourcesBelow_iff (h : tree.Plain) :
    parts ∈ sourcesBelow settings excludeTests tree ↔
      IsSource settings excludeTests tree parts := by
  rw [sourcesBelow, List.mem_mergeSort, wanted, List.mem_filter, mem_below_iff h, hasExtension_iff]
  simp only [prunedDirs, List.mem_append, not_or]
  constructor
  · rintro ⟨⟨hsome, hfile, hdirs⟩, hending⟩
    have hlast : parts.getLast? = some (parts.getLast?.getD "") := by
      rw [List.getLast?_eq_some_getLast hsome]
      rfl
    refine ⟨hfile, ?_, fun dir hdir => (hdirs dir hdir).1.1,
      fun dir hdir => (hdirs dir hdir).1.2, ?_⟩
    · obtain ⟨stem, ending, hname, hending⟩ := hending
      exact ⟨stem, ending, hname ▸ hlast, hending⟩
    · rintro rfl
      exact fun dir hdir => (hdirs dir hdir).2
  · rintro ⟨hfile, ⟨stem, ending, hlast, hending⟩, hhard, hconfigured, htests⟩
    have hsome : parts ≠ [] := by
      rintro rfl
      cases hlast
    refine ⟨⟨hsome, hfile, fun dir hdir => ⟨⟨hhard dir hdir, hconfigured dir hdir⟩, ?_⟩⟩,
      stem, ending, by rw [hlast]; rfl, hending⟩
    split
    · next hexclude => exact htests hexclude dir hdir
    · exact List.not_mem_nil

theorem strict_sourcesBelow (h : tree.Plain) :
    (sourcesBelow settings excludeTests tree).Pairwise (· < ·) := by
  have hsorted : (sourcesBelow settings excludeTests tree).Pairwise (partsOrdered · ·) :=
    List.pairwise_mergeSort (by simpa [partsOrdered_eq] using fun _ _ _ => le_trans)
      (by simpa [partsOrdered_eq] using le_total) _
  have hnodup : (sourcesBelow settings excludeTests tree).Nodup :=
    (List.mergeSort_perm _ _).nodup_iff.2 ((nodup_below h).filter _)
  simp only [partsOrdered_eq, decide_eq_true_eq] at hsorted
  exact (hsorted.and hnodup).imp fun h => lt_of_le_of_ne h.1 h.2

theorem sourcesBelow_true (h : tree.Plain) :
    sourcesBelow settings true tree = (sourcesBelow settings false tree).filter fun parts =>
      ∀ dir ∈ parts.dropLast, dir ∉ testScriptDirs := by
  refine (strict_sourcesBelow h).eq_of_mem_iff ((strict_sourcesBelow h).filter _) fun parts => ?_
  rw [List.mem_filter, mem_sourcesBelow_iff h, mem_sourcesBelow_iff h, isSource_true_iff,
    decide_eq_true_eq]

theorem resolvedFiles_eq {disk : Disk} {here : List String} (h : tree.Plain)
    (hfound : disk.root.find? here = some tree) (hdots : ".." ∉ here) :
    resolvedFiles disk settings excludeTests ⟨.slash, here⟩ tree =
      .ok ((wanted settings excludeTests tree).map fun parts => ⟨.slash, here ++ parts⟩) := by
  -- The extension of a file is told by the parts behind the directory.
  have hnames : ∀ parts ∈ below (prunedDirs settings excludeTests) tree,
      (here ++ parts).getLast? = parts.getLast? := fun parts hparts =>
    List.getLast?_append_of_ne_nil _ ((mem_below_iff h).1 hparts).1
  have hwanted : ((below (prunedDirs settings excludeTests) tree).map (here ++ ·)).filter
      (fun parts => hasExtension (settings.extensions.map normalizedExtension)
        (parts.getLast?.getD "")) = (wanted settings excludeTests tree).map (here ++ ·) := by
    rw [List.filter_map]
    refine congrArg _ (List.filter_congr fun parts hparts => ?_)
    simp only [Function.comp_apply, hnames parts hparts]
  simp only [resolvedFiles, filesIn_of_plain h, hwanted]
  rw [Fallible.mapM_eq_ok, List.forall₂_map_left_iff, List.forall₂_map_right_iff, List.forall₂_same]
  intro parts hparts
  obtain ⟨entry, hentry, hfile⟩ := ((mem_below_iff h).1 (List.mem_filter.1 hparts).1).2.1
  obtain ⟨hplain, hdown⟩ := h.of_find? hentry
  have hbehind : disk.root.find? (here ++ parts) = some entry := by
    rw [FileTree.find?_append, hfound]
    exact hentry
  refine Disk.resolve_of_find? hbehind ?_ (by simpa using ⟨hdots, hdown⟩)
  rintro target rfl
  cases hplain

theorem sources_eq {disk : Disk} {root : Path} {entries : List (String × FileTree)}
    (h : (FileTree.directory entries).Plain)
    (hlookup : disk.lookup root = .ok (some (.directory entries))) :
    ∃ here, disk.resolve root = .ok ⟨.slash, here⟩ ∧
      disk.root.find? here = some (.directory entries) ∧
      sources disk root settings excludeTests =
        .ok ((sourcesBelow settings excludeTests (.directory entries)).map
          fun parts => ⟨.slash, here ++ parts⟩) := by
  obtain ⟨here, hresolve, hfound, hdots⟩ := Disk.resolve_of_lookup hlookup nofun
  refine ⟨here, hresolve, hfound, ?_⟩
  simp only [sources, hlookup, hresolve, resolvedFiles_eq h hfound hdots, sourcesBelow]
  rw [List.map_mergeSort]
  intro parts _ parts' _
  exact (partsOrdered_append here parts parts').symm

/-- Discovery is exact in trees without links. What is found below a directory is told by the tree
and the settings: the source files, by increasing parts and so each once, with those behind
directories of tests left out if they are to be. Wherever the directory stands, and whichever path
leads to it, the files are found at these parts behind the place that the path resolves to. -/
theorem sources_exact {entries : List (String × FileTree)}
    (hplain : (FileTree.directory entries).Plain) (settings : DiscoverySettings) :
    ∃ found : Bool → List (List String),
      (∀ excludeTests,
        (found excludeTests).Pairwise (· < ·) ∧
        (∀ parts, parts ∈ found excludeTests ↔
          IsSource settings excludeTests (.directory entries) parts) ∧
        ∀ (disk : Disk) (root : Path), disk.lookup root = .ok (some (.directory entries)) →
          ∃ here, disk.resolve root = .ok ⟨.slash, here⟩ ∧
            disk.root.find? here = some (.directory entries) ∧
            sources disk root settings excludeTests =
              .ok ((found excludeTests).map fun parts => ⟨.slash, here ++ parts⟩)) ∧
      found true = (found false).filter fun parts =>
        ∀ dir ∈ parts.dropLast, dir ∉ testScriptDirs :=
  ⟨fun excludeTests => sourcesBelow settings excludeTests (.directory entries),
    fun _ => ⟨strict_sourcesBelow hplain, fun _ => mem_sourcesBelow_iff hplain,
      fun _ _ hlookup => sources_eq hplain hlookup⟩,
    sourcesBelow_true hplain⟩

/-- A project with a script, one of a test, and one that was generated. -/
def lampProject : List (String × FileTree) :=
  [("Lamp.v2.CS", .file (.bytes [])), ("Tests", .directory [("Lamp.cs", .file (.bytes []))]),
    ("Library", .directory [("Lamp.cs", .file (.bytes []))])]

/-- The project in a directory that is named like one of tests. -/
def lampDisk : Disk :=
  { root := .directory [("Tests", .directory lampProject)] }

theorem plain_lampProject : (FileTree.directory lampProject).Plain := by
  have hscript : (FileTree.directory [("Lamp.cs", .file (.bytes []))]).Plain :=
    .directory (by decide) (by decide) (by simpa using .file)
  refine .directory (by decide) (by decide) ?_
  simpa [lampProject] using ⟨.file, hscript⟩

theorem lookup_lampDisk :
    lampDisk.lookup ⟨.slash, ["Tests"]⟩ = .ok (some (.directory lampProject)) := by
  have hfound : List.lookup "Tests" [("Tests", FileTree.directory lampProject)] =
      some (.directory lampProject) := rfl
  have hroot : lampDisk.root = .directory [("Tests", .directory lampProject)] := rfl
  have hentry := Disk.entry_top hroot hfound nofun (by decide) (by decide) (by decide)
  rw [Disk.lookup, hentry]
  rfl

/-- The root may be named like a directory of tests, and a directory of tests below it is left out
on demand. -/
theorem sources_exact_lamp :
    (FileTree.directory lampProject).Plain ∧
    lampDisk.lookup ⟨.slash, ["Tests"]⟩ = .ok (some (.directory lampProject)) ∧
    ∃ (found : Bool → List (List String)) (here : List String),
      (∀ excludeTests, sources lampDisk ⟨.slash, ["Tests"]⟩ {} excludeTests =
        .ok ((found excludeTests).map fun parts => ⟨.slash, here ++ parts⟩)) ∧
      ["Lamp.v2.CS"] ∈ found true ∧ ["Tests", "Lamp.cs"] ∈ found false ∧
      ["Tests", "Lamp.cs"] ∉ found true ∧ ["Library", "Lamp.cs"] ∉ found false := by
  obtain ⟨found, hfound, -⟩ := sources_exact plain_lampProject {}
  have hmem := fun excludeTests => (hfound excludeTests).2.1
  obtain ⟨here, hresolve, -⟩ := (hfound false).2.2 lampDisk ⟨.slash, ["Tests"]⟩ lookup_lampDisk
  refine ⟨plain_lampProject, lookup_lampDisk, found, here, fun excludeTests => ?_,
    (hmem true _).2 ?_, (hmem false _).2 ?_, fun h => ?_, fun h => ?_⟩
  · obtain ⟨here', hresolve', -, hsources⟩ := (hfound excludeTests).2.2 _ _ lookup_lampDisk
    obtain rfl : here = here' := by simpa [hresolve] using hresolve'
    exact hsources
  · exact ⟨⟨_, rfl, rfl⟩, ⟨"Lamp.v2", "CS", by decide, by decide, by decide, by decide,
      by decide +kernel⟩, by decide, by decide, by decide⟩
  · exact ⟨⟨_, rfl, rfl⟩, ⟨"Lamp", "cs", by decide, by decide, by decide, by decide,
      by decide +kernel⟩, by decide, by decide, nofun⟩
  · exact ((hmem true _).1 h).tests rfl "Tests" (by decide) (by decide)
  · exact ((hmem false _).1 h).configured "Library" (by decide) (by decide)

end Sources

end Discovery
end SandboxLint
