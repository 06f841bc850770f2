import SandboxLint.Proofs.Corpus.Sketch

/-!
Base lists of types with several parts. All base names are read at the first part,
whichever part they stand in, so the bases are those meant where the names are
written as long as parts that stand elsewhere name nothing new and nothing else.
-/

namespace SandboxLint
namespace TypeTable

/-- Outside all types, a base graph changes nothing that could be resolved before it was there. -/
theorem resolvePlain_of_pending {table : TypeTable} (bases : BaseTable) (site : Site)
    {ref : TypeRef} {found : Option TypeDecl} (h : table.resolvePlain none site ref = .ok found) :
    table.resolvePlain (some bases) { site with enclosing := [] } ref = .ok found := by
  obtain ⟨top, htop⟩ : ∃ top : Site, top = { site with enclosing := [] } := ⟨_, rfl⟩
  have himports : top.imports = site.imports := by rw [htop]
  have htypes : top.enclosing = [] := by rw [htop]
  rw [← htop]
  by_cases hplain : site.imports.expandQualifier ref.qualifier = ""
  · rw [resolvePlain_of_plain (himports ▸ hplain), plainMeaning_of_no_enclosing ref.name htypes,
      eq_resolveVisible_of_pending hplain h, htop]
    rfl
  · rw [resolvePlain_of_qualified none hplain] at h
    rw [resolvePlain_of_qualified _ (himports ▸ hplain), htop]
    exact h

theorem resolveText_of_pending {table : TypeTable} (bases : BaseTable) {site : Site}
    {text : String} {found : Option TypeDecl} (h : table.resolveText none site text = .ok found) :
    table.resolveText (some bases) { site with enclosing := [] } text = .ok found := by
  cases hparse : TypeRef.parse text with
  | none => simpa only [resolveText, hparse] using h
  | some ref =>
      cases htarget : site.imports.aliasTarget? ref with
      | none =>
          simp only [resolveText, hparse, resolveRef, htarget] at h ⊢
          exact resolvePlain_of_pending bases _ h
      | some target =>
          simp only [resolveText, hparse, resolveRef, htarget] at h ⊢
          cases hfollow : site.imports.followAliases site.imports.aliases.length ref with
          | error fault => simp [hfollow] at h
          | ok next? =>
              simp only [hfollow] at h ⊢
              cases next? with
              | none => exact h
              | some next => exact resolvePlain_of_pending bases { imports := site.imports } h

end TypeTable

namespace SymbolSpace

/-- The declarations that make up a type, the first one giving it its place. -/
def partsOf (space : SymbolSpace) (decl : TypeDecl) : List Fragment :=
  TypeTable.fragmentsNamed (space.files.map (·.outline)) decl.qualifiedName

/-- The top of the namespace in which a part of a type stands. -/
def partSite (space : SymbolSpace) (part : Fragment) : Site :=
  { imports := space.imports part.path, namespaceName := part.namespaceName }

/-- The top of the namespace in which a type stands first. -/
def firstSite (space : SymbolSpace) (decl : TypeDecl) : Site :=
  { imports := space.imports decl.path, namespaceName := decl.namespaceName }

/-- A type other than `decl` is what a base name of one of its parts means, each part read at a
site of its own. -/
def MeansBase (space : SymbolSpace) (site : Fragment → Site) (decl base : TypeDecl) : Prop :=
  base.qualifiedName ≠ decl.qualifiedName ∧ ∃ part ∈ space.partsOf decl,
    ∃ name ∈ part.baseNames, space.resolveText (site part) name = .ok (some base)

variable {analysis : AnalysisSettings} {files : List OutlinedFile} {space : SymbolSpace}

/-- The base names of a type are those of its parts. -/
theorem Built.mem_baseNames_iff (built : Built analysis files space) {decl : TypeDecl}
    (hdecl : decl ∈ space.types) {name : String} :
    name ∈ decl.baseNames ↔ ∃ part ∈ space.partsOf decl, name ∈ part.baseNames := by
  rw [built.types_eq] at hdecl
  obtain ⟨first, rest, hparts, hmerge⟩ := TypeTable.mem_ofOutlines_iff.1 hdecl
  rw [partsOf, hparts, hmerge]
  simp only [TypeDecl.merge, List.mem_eraseDups, List.mem_flatMap]

/-- A base name means at the first part what it was resolved to. -/
theorem Built.resolveText_baseSite_iff (built : Built analysis files space) {decl base : TypeDecl}
    (hdecl : decl ∈ space.types) {name : String} (hname : name ∈ decl.baseNames) :
    space.types.resolveText none (space.types.baseSite space.imports decl) name =
        .ok (some base) ↔
      space.resolveText (space.firstSite decl) name = .ok (some base) := by
  obtain ⟨found, hfound⟩ := TypeTable.resolveBases_isOk_iff.1
    ⟨_, built.resolveBases_eq hdecl⟩ name hname
  have hlater := TypeTable.resolveText_of_pending space.bases hfound
  rw [hfound, resolveText]
  exact hlater ▸ Iff.rfl

theorem Built.mem_basesOf_iff_meansBase (built : Built analysis files space)
    {decl base : TypeDecl} (hdecl : decl ∈ space.types) :
    base ∈ space.basesOf decl ↔ space.MeansBase (fun _ => space.firstSite decl) decl base := by
  rw [built.mem_basesOf_iff hdecl, MeansBase]
  refine and_congr_right fun _ => ⟨?_, ?_⟩
  · rintro ⟨name, hname, hbase⟩
    obtain ⟨part, hpart, hpartName⟩ := (built.mem_baseNames_iff hdecl).1 hname
    exact ⟨part, hpart, name, hpartName, (built.resolveText_baseSite_iff hdecl hname).1 hbase⟩
  · rintro ⟨part, hpart, name, hpartName, hbase⟩
    have hname := (built.mem_baseNames_iff hdecl).2 ⟨part, hpart, hpartName⟩
    exact ⟨name, hname, (built.resolveText_baseSite_iff hdecl hname).2 hbase⟩

/-- The bases of a type are read at its first part. They are those meant where the base names are
written exactly when, for every part that stands elsewhere, what its base names mean there are
bases, and what they mean at the first part is meant somewhere. -/
theorem basesOf_where_written_iff (hbuild : build analysis files = .ok space) {decl : TypeDecl}
    (hdecl : decl ∈ space.types) :
    (∀ base, base ∈ space.basesOf decl ↔
      space.MeansBase (fun _ => space.firstSite decl) decl base) ∧
    ((∀ base, base ∈ space.basesOf decl ↔ space.MeansBase space.partSite decl base) ↔
      ∀ part ∈ space.partsOf decl, space.partSite part ≠ space.firstSite decl →
        ∀ name ∈ part.baseNames, ∀ base, base.qualifiedName ≠ decl.qualifiedName →
          (space.resolveText (space.partSite part) name = .ok (some base) →
            base ∈ space.basesOf decl) ∧
          (space.resolveText (space.firstSite decl) name = .ok (some base) →
            space.MeansBase space.partSite decl base)) := by
  have hfirst : ∀ base, base ∈ space.basesOf decl ↔
      space.MeansBase (fun _ => space.firstSite decl) decl base :=
    fun base => (built_of_build hbuild).mem_basesOf_iff_meansBase hdecl
  refine ⟨hfirst, ?_, ?_⟩
  · intro hsame part hpart _ name hname base hother
    constructor
    · exact fun hbase => (hsame base).2 ⟨hother, part, hpart, name, hname, hbase⟩
    · exact fun hbase => (hsame base).1 ((hfirst base).2 ⟨hother, part, hpart, name, hname, hbase⟩)
  · intro hparts base
    constructor
    · intro hbase
      obtain ⟨hother, part, hpart, name, hname, hread⟩ := (hfirst base).1 hbase
      by_cases hsite : space.partSite part = space.firstSite decl
      · exact ⟨hother, part, hpart, name, hname, hsite ▸ hread⟩
      · exact (hparts part hpart hsite name hname base hother).2 hread
    · rintro ⟨hother, part, hpart, name, hname, hread⟩
      by_cases hsite : space.partSite part = space.firstSite decl
      · exact (hfirst base).2 ⟨hother, part, hpart, name, hname, hsite ▸ hread⟩
      · exact (hparts part hpart hsite name hname base hother).1 hread

/-- A type in two files of which only the second, which also names the base, imports the
namespace of the base. -/
def splitPlayer : List OutlinedFile :=
  Sketch.outlined
    [Sketch.file "A.cs" [Sketch.classDecl ["partial"] "Player" [] []],
      Sketch.file "B.cs"
        [Sketch.usingOf "Game", Sketch.classDecl ["partial"] "Player" ["Actor"] []],
      Sketch.file "C.cs"
        [Sketch.namespaceDecl "Game" [Sketch.classDecl [] "Actor" ["UdonSharpBehaviour"] []]]]

/-- The base that is named in the second file is lost. -/
theorem basesOf_splitPlayer : ∃ space player, build {} splitPlayer = .ok space ∧
    player ∈ space.types ∧ player.name = "Player" ∧
      ¬ ∀ base, base ∈ space.basesOf player ↔ space.MeansBase space.partSite player base := by
  have hrun : ((buildInOrder {} splitPlayer).toOption.any fun space =>
      space.types.any fun player => player.name == "Player" && (space.basesOf player).isEmpty &&
        space.files.any fun unit => unit.outline.types.any fun part =>
          part.qualifiedName == player.qualifiedName &&
            space.partSite part != space.firstSite player && part.baseNames.any fun name =>
            (space.resolveText (space.partSite part) name).toOption.any fun found =>
              found.any (·.qualifiedName != player.qualifiedName)) = true := by
    decide
  obtain ⟨space, hbuild, hrun⟩ :=
    exists_build_of_any (by decide) (by decide) hrun
  obtain ⟨player, hplayer, hrun⟩ := List.any_eq_true.1 hrun
  simp only [Bool.and_eq_true, beq_iff_eq, List.any_eq_true, List.isEmpty_iff,
    Option.any_eq_true, bne_iff_ne] at hrun
  obtain ⟨⟨hname, hnone⟩, unit, hunit, part, hpart, ⟨hsame, hsite⟩, name, hbase, found, hfound,
    base, rfl, hother⟩ := hrun
  have hmem : part ∈ space.partsOf player :=
    TypeTable.mem_fragmentsNamed.2 ⟨⟨_, List.mem_map_of_mem hunit, hpart⟩, hsame⟩
  have hread : space.resolveText (space.partSite part) name = .ok (some base) := by
    cases hresult : space.resolveText (space.partSite part) name with
    | ok found => simpa [hresult, Except.toOption] using hfound
    | error fault => simp [hresult, Except.toOption] at hfound
  refine ⟨space, player, hbuild, hplayer, hname, ?_⟩
  rw [(basesOf_where_written_iff hbuild hplayer).2]
  intro hparts
  have hkept := (hparts part hmem hsite name hbase base hother).1 hread
  rw [hnone] at hkept
  cases hkept

end SymbolSpace
end SandboxLint
