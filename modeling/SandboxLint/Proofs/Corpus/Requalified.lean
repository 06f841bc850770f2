import SandboxLint.Proofs.Corpus.Alias
import SandboxLint.Proofs.Corpus.Qualifier
import SandboxLint.Proofs.Corpus.Sketch

/-!
Types of members seen from elsewhere. A reference that is known where it is written
is requalified by all that stands before the name of its target, and from any site
at which no alias has the head of that qualifier it leads back to the target. Types
without a qualifier, and references that were unknown, are looked up anew at the
site, so what they mean there is up to the site.
-/

namespace SandboxLint

theorem eq_singleton_iff_of_nodup {α : Type} {xs : List α} {x : α} (hnodup : xs.Nodup) :
    xs = [x] ↔ x ∈ xs ∧ ∀ y ∈ xs, y = x := by
  constructor
  · rintro rfl
    simp
  · rintro ⟨hx, h⟩
    by_contra hne
    obtain rfl | ⟨y, hy, hother⟩ := (hnodup.ne_singleton_iff x).1 hne
    · cases hx
    · exact hother (h y hy)

namespace TypeTable

theorem unique_eq_some_iff_of_nodup {decls : List TypeDecl} {decl : TypeDecl}
    (hnodup : decls.Nodup) (hclear : decl.ambiguous = false) :
    unique decls = some decl ↔ decl ∈ decls ∧ ∀ other ∈ decls, other = decl := by
  rw [unique_eq_some_iff, eq_singleton_iff_of_nodup hnodup]
  exact and_iff_left hclear

/-- In a table in which names tell types apart, a full name leads to its type. -/
theorem resolveQualified_qualifiedName {table : TypeTable} (site : Site) {target : TypeDecl}
    (hnames : (table.map (·.qualifiedName)).Nodup) (htarget : table.Outcome target) :
    resolveQualified site (table.named target.name) target.qualifiedName = some target := by
  have hexact : (table.named target.name).filter
      (·.qualifiedName == target.qualifiedName) = [target] := by
    refine (eq_singleton_iff_of_nodup ((hnames.of_map _).filter _ |>.filter _)).2 ⟨?_, ?_⟩
    · exact List.mem_filter.2 ⟨mem_named.2 ⟨htarget.1, rfl⟩, beq_self_eq_true _⟩
    · intro other hother
      obtain ⟨hmem, hname⟩ := List.mem_filter.1 hother
      exact List.inj_on_of_nodup_map hnames (mem_named.1 hmem).1 htarget.1 (beq_iff_eq.1 hname)
  simp only [resolveQualified, hexact]
  exact unique_eq_some_iff.2 ⟨rfl, htarget.2⟩

/-- What a full name leads to has it as its qualified name, or ends in it. -/
theorem qualifiedName_of_resolveQualified {site : Site} {candidates : List TypeDecl}
    {full : String} {target : TypeDecl}
    (h : resolveQualified site candidates full = some target) :
    target.qualifiedName = full ∨ ∃ front, target.qualifiedName = front ++ "." ++ full := by
  simp only [resolveQualified] at h
  split at h
  · obtain ⟨-, hsuits, -⟩ := mem_of_unique_filter h
    obtain ⟨front, hfront⟩ := List.isSuffixOf_iff_suffix.1 (Bool.and_eq_true_iff.1 hsuits).1
    refine .inr ⟨String.ofList front, ?_⟩
    rw [← String.toList_inj, ← hfront]
    simp
  · obtain ⟨-, hsuits, -⟩ := mem_of_unique_filter h
    exact .inl (beq_iff_eq.1 hsuits)

/-- A type that a plain name can mean at a site without being nested in the types around it. -/
def Visible (table : TypeTable) (site : Site) (name : String) (decl : TypeDecl) : Prop :=
  decl ∈ table ∧ decl.name = name ∧ decl.outerType = none ∧
    namespaceVisible decl.namespaceName site.namespaceName site.imports.usings = true

/-- A type is the only visible one of its name, or the only one in the site's own namespace. -/
def Foremost (table : TypeTable) (site : Site) (target : TypeDecl) : Prop :=
  table.Visible site target.name target ∧
    ∀ other, table.Visible site target.name other → other = target ∨
      site.namespaceName ≠ "" ∧ target.namespaceName = site.namespaceName ∧
        other.namespaceName ≠ site.namespaceName

theorem mem_visibleTypes {table : TypeTable} {site : Site} {name : String} {decl : TypeDecl} :
    decl ∈ visibleTypes site (table.named name) ↔ table.Visible site name decl := by
  rw [visibleTypes, List.mem_filter, mem_named, Visible, Bool.and_eq_true,
    Option.isNone_iff_eq_none, and_assoc]

theorem mem_ownTypes {table : TypeTable} {site : Site} {name : String} {decl : TypeDecl} :
    decl ∈ ownTypes site (table.named name) ↔
      table.Visible site name decl ∧ decl.namespaceName = site.namespaceName := by
  rw [← filter_visibleTypes, List.mem_filter, mem_visibleTypes, beq_iff_eq]

theorem resolveVisible_eq_some_iff {table : TypeTable} {site : Site} {target : TypeDecl}
    (hnodup : table.Nodup) (hclear : target.ambiguous = false) :
    resolveVisible site (table.named target.name) = some target ↔
      table.Foremost site target := by
  have hown : (ownTypes site (table.named target.name)).Nodup := (hnodup.filter _).filter _
  have hvisible : (visibleTypes site (table.named target.name)).Nodup :=
    (hnodup.filter _).filter _
  rw [resolveVisible_eq]
  split
  · next hdecides =>
      obtain ⟨hnamespace, hsome⟩ := hdecides
      simp only [unique_eq_some_iff_of_nodup hown hclear, mem_ownTypes]
      constructor
      · rintro ⟨⟨htarget, htargetOwn⟩, honly⟩
        refine ⟨htarget, fun other hother => ?_⟩
        by_cases hsame : other.namespaceName = site.namespaceName
        · exact .inl (honly other ⟨hother, hsame⟩)
        · exact .inr ⟨hnamespace, htargetOwn, hsame⟩
      · rintro ⟨-, hothers⟩
        have honly : ∀ other, table.Visible site target.name other ∧
            other.namespaceName = site.namespaceName → other = target := by
          rintro other ⟨hother, hsame⟩
          exact (hothers other hother).resolve_right fun hno => hno.2.2 hsame
        obtain ⟨first, hfirst⟩ := List.exists_mem_of_ne_nil _ hsome
        have hfirst := mem_ownTypes.1 hfirst
        exact ⟨honly first hfirst ▸ hfirst, honly⟩
  · next hdecides =>
      simp only [unique_eq_some_iff_of_nodup hvisible hclear, mem_visibleTypes, Foremost]
      -- A target in the site's own namespace would make that namespace decide.
      refine and_congr_right fun htarget => forall₂_congr fun other _ => (or_iff_left ?_).symm
      rintro ⟨hnamespace, hown, -⟩
      exact hdecides ⟨hnamespace, List.ne_nil_of_mem (mem_ownTypes.2 ⟨htarget, hown⟩)⟩

/-- A type is what its plain name means at a site: the first of that name nested in the types
around or their bases or, where none is, the foremost visible one. -/
inductive PlainlyMeant (table : TypeTable) (bases : BaseTable) (site : Site) (target : TypeDecl) :
    Prop
  | nested (found : table.resolveNested bases site.enclosing target.name = some target)
  | visible (notNested : table.resolveNested bases site.enclosing target.name = none)
      (foremost : table.Foremost site target)

theorem plainMeaning_eq_some_iff {table : TypeTable} {bases : BaseTable} {site : Site}
    {target : TypeDecl} (hnodup : table.Nodup) (htarget : table.Outcome target) :
    table.plainMeaning bases site target.name = some target ↔
      table.PlainlyMeant bases site target := by
  have hknown : (table.named target.name).isEmpty = false :=
    List.isEmpty_eq_false_iff.2 (List.ne_nil_of_mem (mem_named.2 ⟨htarget.1, rfl⟩))
  rw [plainMeaning, hknown]
  cases hnested : table.resolveNested bases site.enclosing target.name with
  | none =>
      simp only [Bool.false_eq_true, if_false, resolveVisible_eq_some_iff hnodup htarget.2]
      constructor
      · exact .visible hnested
      · rintro (hfound | ⟨-, hforemost⟩)
        · rw [hnested] at hfound
          cases hfound
        · exact hforemost
  | some nested =>
      simp only [Bool.false_eq_true, if_false]
      constructor
      · intro h
        have hsame : nested = target := by
          by_cases hambiguous : nested.ambiguous = true
          · simp [hambiguous] at h
          · simpa [hambiguous] using h
        exact .nested (hsame ▸ hnested)
      · rintro (hfound | ⟨hnone, -⟩)
        · rw [hnested] at hfound
          cases hfound
          simp [htarget.2]
        · rw [hnested] at hnone
          cases hnone

end TypeTable

namespace SymbolSpace

/-- The inside of a type as the file at a path sees it. -/
def inside (space : SymbolSpace) (owner : TypeDecl) (path : String) : Site :=
  { imports := space.imports path
    namespaceName := owner.namespaceName
    enclosing := owner.qualifiedName :: space.types.outerNames owner }

/-- From a site, the reference to a type by all that stands before its name leads back to it: no
alias touches the qualifier, or one that stands for nothing takes its head away and the rest still
leads there; or there is no qualifier, and the name is an alias for the type or plainly means it. -/
inductive KeepsMeaning (space : SymbolSpace) (site : Site) (target : TypeDecl) : Prop
  | qualified (full : target.qualifier ≠ "")
      (kept : site.imports.expandQualifier target.qualifier = target.qualifier)
  | shortened {head rest : String} (undotted : '.' ∉ head.toList)
      (cut : target.qualifier = head ++ "." ++ rest)
      (nothing : site.imports.aliases.get? head = some "") (left : rest ≠ "")
      (meant : TypeTable.resolveQualified site (space.types.named target.name)
        (rest ++ "." ++ target.name) = some target)
  | renamed {text : String} (bare : target.qualifier = "")
      (named : site.imports.aliases.get? target.name = some text)
      (meant : space.resolveText { imports := site.imports } text = .ok (some target))
  | plain (noAlias : site.imports.aliasTarget? target.ref = none)
      (bare : site.imports.expandQualifier target.qualifier = "")
      (meant : space.types.PlainlyMeant space.bases site target)

variable {analysis : AnalysisSettings} {files : List OutlinedFile} {space : SymbolSpace}

theorem Built.qualifier_cases (built : Built analysis files space) (houtlined : Outlined files)
    {decl : TypeDecl} (hdecl : decl ∈ space.types) :
    decl.qualifier = "" ∨ decl.qualifiedName = decl.qualifier ++ "." ++ decl.name := by
  rw [built.types_eq, built.files_eq] at hdecl
  exact TypeDecl.qualifier_cases (houtlined.byPath.qualifiedName_eq hdecl)

/-- Looked up by an expanded qualifier, a type is found if the qualifier is its own, or an ending
of it because the alias at its head stands for nothing. -/
theorem Built.resolveQualified_iff (built : Built analysis files space)
    (houtlined : Outlined files) {site : Site} {target : TypeDecl}
    (htarget : space.types.Outcome target)
    (hsome : site.imports.expandQualifier target.qualifier ≠ "") :
    TypeTable.resolveQualified site (space.types.named target.name)
        (site.imports.expandQualifier target.qualifier ++ "." ++ target.name) = some target ↔
      space.KeepsMeaning site target := by
  have hfull : target.qualifier ≠ "" := by
    intro hbare
    rw [hbare, Imports.expandQualifier_empty] at hsome
    exact hsome rfl
  have hname := (built.qualifier_cases houtlined htarget.1).resolve_left hfull
  constructor
  · intro h
    by_cases hkept : site.imports.expandQualifier target.qualifier = target.qualifier
    · exact .qualified hfull hkept
    · cases TypeTable.qualifiedName_of_resolveQualified h with
      | inl hsame =>
          rw [hname, String.append_left_inj, String.append_left_inj] at hsame
          exact absurd hsame.symm hkept
      | inr hending =>
          -- Only an alias that shortens the qualifier leaves a proper ending of it.
          obtain ⟨front, hfront⟩ := hending
          have hqualifier : target.qualifier =
              front ++ "." ++ site.imports.expandQualifier target.qualifier := by
            rw [hname, ← String.append_assoc, ← String.append_assoc, String.append_left_inj,
              String.append_left_inj] at hfront
            exact hfront
          obtain ⟨head, rest, hhead, hcut, hnothing, hrest⟩ :=
            Imports.expandQualifier_of_ending hsome hqualifier
          rw [hrest] at hsome h
          exact .shortened hhead hcut hnothing hsome h
  · rintro (⟨-, hkept⟩ | ⟨hhead, hcut, hnothing, -, hmeant⟩ | ⟨hbare, -⟩ | ⟨-, hbare, -⟩)
    · rw [hkept, ← hname]
      exact TypeTable.resolveQualified_qualifiedName site built.nodup_qualifiedNames htarget
    · rw [hcut, Imports.expandQualifier_of_nothing hhead hnothing]
      exact hmeant
    · exact absurd hbare hfull
    · exact absurd hbare hsome

/-- The requalified reference to a type leads back to it exactly where its meaning is kept. -/
theorem Built.resolveRef_ref_iff (built : Built analysis files space)
    (houtlined : Outlined files) (site : Site) {target : TypeDecl}
    (htarget : space.types.Outcome target) (rank : Nat) :
    space.resolveRef site (target.ref rank) = .ok (some target) ↔
      space.KeepsMeaning site target := by
  cases halias : site.imports.aliasTarget? (target.ref rank) with
  | some text =>
      -- An alias is read before anything else, and only for an unqualified name.
      have hbare : target.qualifier = "" :=
        Imports.qualifier_of_alias (Option.isSome_of_eq_some halias)
      have hnamed : site.imports.aliases.get? target.name = some text := by
        rw [← halias]
        exact (if_pos (beq_iff_eq.2 hbare)).symm
      rw [resolveRef, TypeTable.resolveRef_of_alias halias]
      constructor
      · exact .renamed hbare hnamed
      · rintro (⟨hfull, -⟩ | ⟨-, hcut, -⟩ | ⟨-, hnamed', hmeant⟩ | ⟨hnone, -⟩)
        · exact absurd hbare hfull
        · have hlist := congrArg String.toList (hbare.symm.trans hcut)
          simp at hlist
        · rw [hnamed] at hnamed'
          cases hnamed'
          exact hmeant
        · cases halias.symm.trans hnone
  | none =>
      have hplain : space.resolveRef site (target.ref rank) =
          space.types.resolvePlain (some space.bases) site (target.ref rank) := by
        simp only [resolveRef, TypeTable.resolveRef, halias]
      rw [hplain]
      by_cases hexpand : site.imports.expandQualifier target.qualifier = ""
      · have hbare : site.imports.expandQualifier (target.ref rank).qualifier = "" := hexpand
        rw [TypeTable.resolvePlain_of_plain hbare, Except.ok.injEq]
        refine (TypeTable.plainMeaning_eq_some_iff (built.nodup_qualifiedNames.of_map _)
          htarget).trans ⟨.plain halias hexpand, ?_⟩
        rintro (⟨hfull, hkept⟩ | ⟨hhead, hcut, hnothing, hleft, -⟩ | ⟨hbare, hnamed, -⟩ |
          ⟨-, -, hmeant⟩)
        · exact absurd (hkept.symm.trans hexpand) hfull
        · rw [hcut, Imports.expandQualifier_of_nothing hhead hnothing] at hexpand
          exact absurd hexpand hleft
        · have hsome : site.imports.aliasTarget? (target.ref rank) = some _ :=
            (if_pos (beq_iff_eq.2 hbare)).trans hnamed
          cases halias.symm.trans hsome
        · exact hmeant
      · have hfull : site.imports.expandQualifier (target.ref rank).qualifier ≠ "" := hexpand
        rw [TypeTable.resolvePlain_of_qualified _ hfull, Except.ok.injEq]
        exact built.resolveQualified_iff houtlined htarget hexpand

/-- Where aliases end, every reference resolves to something or nothing. -/
theorem resolveRef_isOk {site : Site} (h : site.imports.AliasesEnd) (ref : TypeRef) :
    ∃ found, space.resolveRef site ref = .ok found := by
  simp only [resolveRef, TypeTable.resolveRef]
  split
  · exact space.types.resolvePlain_isOk space.bases site ref
  · split
    · next fault hfollow =>
        exact absurd (Imports.followAliases_eq_error_iff.1 hfollow).2 (h ref)
    · exact ⟨none, rfl⟩
    · exact space.types.resolvePlain_isOk space.bases _ _

/-- In a corpus whose aliases end, the type of a member is known or unknown where it is written,
its requalified reference resolves from every site, and it means the same there exactly when a
type that is unknown where it is written is unknown at the site too, or the site keeps the meaning
of the type that it is. -/
theorem resolveRef_canonicalRef_iff {sources : List SourceFile}
    (hbuild : build analysis (sources.map (.ofFile · analysis.markerImport)) = .ok space)
    (haliases : ∀ path, (space.imports path).AliasesEnd) (owner : TypeDecl) (ref : TypeRef)
    (declaring path namespaceName : String) (enclosing : List String) :
    let site : Site := { imports := space.imports path, namespaceName, enclosing }
    ∃ own canonical here,
      space.resolveRef (space.inside owner declaring) ref = .ok own ∧
      space.canonicalRef (some ref) owner declaring = .ok (some canonical) ∧
      space.resolveRef site canonical = .ok here ∧
      (here = own ↔ (own = none ∧ space.resolveRef site ref = .ok none) ∨
        ∃ target, own = some target ∧ space.KeepsMeaning site target) := by
  intro site
  obtain ⟨own, hown⟩ : ∃ own, space.resolveRef (space.inside owner declaring) ref = .ok own :=
    resolveRef_isOk (haliases declaring) ref
  cases own with
  | none =>
      obtain ⟨here, hhere⟩ : ∃ here, space.resolveRef site ref = .ok here :=
        resolveRef_isOk (haliases path) ref
      have hcanonical : space.canonicalRef (some ref) owner declaring = .ok (some ref) :=
        Fallible.bind_eq_ok.2 ⟨none, hown, rfl⟩
      refine ⟨none, ref, here, hown, hcanonical, hhere, ?_⟩
      simp [hhere]
  | some target =>
      obtain ⟨here, hhere⟩ : ∃ here,
          space.resolveRef site (target.ref ref.arrayRank) = .ok here :=
        resolveRef_isOk (haliases path) _
      have hcanonical : space.canonicalRef (some ref) owner declaring =
          .ok (some (target.ref ref.arrayRank)) :=
        Fallible.bind_eq_ok.2 ⟨some target, hown, rfl⟩
      have hkeeps := (built_of_build hbuild).resolveRef_ref_iff
        (outlined_ofFile sources analysis.markerImport) site
        (TypeTable.outcome_of_resolveRef hown) ref.arrayRank
      refine ⟨some target, _, here, hown, hcanonical, hhere, ?_⟩
      simp [← hkeeps, hhere]

theorem aliasesEnd_of_none (h : ∀ unit ∈ space.files, unit.outline.aliases = []) (path : String) :
    (space.imports path).AliasesEnd := by
  refine Imports.aliasesEnd_of_none ?_
  rw [imports, importsIn]
  split
  · next unit hunit => exact h unit (List.mem_of_find?_eq_some hunit)
  · rfl

/-- A class of a namespace, an owner in the namespace around it, and a user in neither. -/
def nestedNamespaces : List SourceFile :=
  [Sketch.file "Data.cs" [Sketch.namespaceDecl "Game.Core" [Sketch.classDecl [] "Data" [] []]],
    Sketch.file "Owner.cs" [Sketch.namespaceDecl "Game" [Sketch.classDecl [] "Owner" [] []]],
    Sketch.file "User.cs" [Sketch.classDecl [] "User" [] []]]

/-- What the owner names relative to its namespace is the same class for the user. -/
theorem canonicalRef_nestedNamespaces : ∃ space owner target canonical,
    build {} (Sketch.outlined nestedNamespaces) = .ok space ∧ owner ∈ space.types ∧
      space.resolveRef (space.inside owner "Owner.cs") { name := "Data", qualifier := "Core" } =
        .ok (some target) ∧
      space.canonicalRef (some { name := "Data", qualifier := "Core" }) owner "Owner.cs" =
        .ok (some canonical) ∧
      space.resolveRef { imports := space.imports "User.cs", enclosing := ["User"] } canonical =
        .ok (some target) := by
  have hrun : ((buildInOrder {} (Sketch.outlined nestedNamespaces)).toOption.any fun space =>
      (space.files.all fun unit => unit.outline.aliases.isEmpty) &&
        space.types.any fun owner =>
          (space.resolveRef (space.inside owner "Owner.cs")
            { name := "Data", qualifier := "Core" }).toOption.any fun found =>
              found.any fun target => target.qualifier != "" &&
                (space.imports "User.cs").expandQualifier target.qualifier ==
                  target.qualifier) = true := by
    decide
  obtain ⟨space, hbuild, hrun⟩ :=
    exists_build_of_any (by decide) (by decide) hrun
  simp only [Bool.and_eq_true, beq_iff_eq, List.any_eq_true, List.all_eq_true, List.isEmpty_iff,
    Option.any_eq_true, bne_iff_ne] at hrun
  obtain ⟨haliases, owner, howner, found, hfound, target, rfl, hfull, hkept⟩ := hrun
  obtain ⟨own, canonical, here, hown, hcanonical, hhere, hsame⟩ :=
    resolveRef_canonicalRef_iff hbuild (aliasesEnd_of_none haliases) owner
      { name := "Data", qualifier := "Core" } "Owner.cs" "User.cs" "" ["User"]
  rw [hown] at hfound
  cases hfound
  rw [hsame.2 (.inr ⟨target, rfl, .qualified hfull hkept⟩)] at hhere
  exact ⟨space, owner, target, canonical, hbuild, howner, hown, hcanonical, hhere⟩

/-- A reference with a qualifier spells the qualified name of its type, and it leads back to an
unambiguous type from every site in a file without an alias for the first part of the qualifier. -/
theorem resolveRef_ref_of_qualified {sources : List SourceFile}
    (hbuild : build analysis (sources.map (.ofFile · analysis.markerImport)) = .ok space)
    {target : TypeDecl} (htarget : target ∈ space.types) (hclear : target.ambiguous = false)
    (rank : Nat) (hqualified : (target.ref rank).qualifier ≠ "")
    (path namespaceName : String) (enclosing : List String)
    (hunaliased :
      (space.imports path).aliases.get? (Imports.firstPart (target.ref rank).qualifier) = none) :
    (target.ref rank).qualifier ++ "." ++ (target.ref rank).name = target.qualifiedName ∧
      space.resolveRef { imports := space.imports path, namespaceName, enclosing }
        (target.ref rank) = .ok (some target) := by
  have built := built_of_build hbuild
  have houtlined := outlined_ofFile sources analysis.markerImport
  have hname : target.qualifiedName = target.qualifier ++ "." ++ target.name :=
    (built.qualifier_cases houtlined htarget).resolve_left hqualified
  have hkept : (space.imports path).expandQualifier target.qualifier = target.qualifier :=
    Imports.expandQualifier_of_unaliased hunaliased
  refine ⟨hname.symm, ?_⟩
  apply (built.resolveRef_ref_iff houtlined _ ⟨htarget, hclear⟩ rank).2
  exact .qualified hqualified hkept

/-- Items in boxes of two namespaces, the name of one ending in that of the other; one box comes in
two parts, the first in a block namespace and the second in nested ones, and the user's file has an
alias for the inner namespace. -/
def likeNamedBoxes : List SourceFile :=
  [Sketch.file "Box.cs"
      [Sketch.namespaceDecl "Game.Core"
        [Sketch.classDecl ["partial"] "Box" [] [Sketch.classDecl [] "Item" [] []]]],
    Sketch.file "BoxLid.cs"
      [Sketch.namespaceDecl "Game"
        [Sketch.namespaceDecl "Core" [Sketch.classDecl ["partial"] "Box" [] []]]],
    Sketch.file "Core.cs"
      [Sketch.namespaceDecl "Core"
        [Sketch.classDecl [] "Box" [] [Sketch.classDecl [] "Item" [] []]]],
    Sketch.file "User.cs"
      [Sketch.group "using_directive" none
          [Sketch.word "identifier" "Core" none, Sketch.word "=" "=" none,
            Sketch.word "identifier" "Elsewhere" none],
        Sketch.classDecl [] "User" [] []]]

/-- From the user both items are found by their references, the shorter one from a file in which its
qualifier is no alias. -/
theorem resolveRef_likeNamedBoxes : ∃ space item other,
    build {} (Sketch.outlined likeNamedBoxes) = .ok space ∧
      item.qualifiedName = "Game.Core.Box.Item" ∧ other.qualifiedName = "Core.Box.Item" ∧
      (item.ref 1).qualifier ≠ "" ∧ (other.ref 0).qualifier ≠ "" ∧
      space.resolveRef { imports := space.imports "User.cs", enclosing := ["User"] } (item.ref 1) =
        .ok (some item) ∧
      space.resolveRef
          { imports := space.imports "Box.cs"
            namespaceName := "Game.Core"
            enclosing := ["Game.Core.Box"] } (other.ref 0) = .ok (some other) := by
  have hrun : ((buildInOrder {} (Sketch.outlined likeNamedBoxes)).toOption.any fun space =>
      (space.types.any fun item => item.qualifiedName == "Game.Core.Box.Item" && !item.ambiguous &&
        (item.ref 1).qualifier != "" && ((space.imports "User.cs").aliases.get?
          (Imports.firstPart (item.ref 1).qualifier)).isNone) &&
      space.types.any fun other => other.qualifiedName == "Core.Box.Item" && !other.ambiguous &&
        (other.ref 0).qualifier != "" && ((space.imports "Box.cs").aliases.get?
          (Imports.firstPart (other.ref 0).qualifier)).isNone) = true := by
    decide
  obtain ⟨space, hbuild, hrun⟩ :=
    exists_build_of_any (by decide) (by decide) hrun
  simp only [Bool.and_eq_true, beq_iff_eq, List.any_eq_true, Option.isNone_iff_eq_none,
    Bool.not_eq_true', bne_iff_ne] at hrun
  obtain ⟨⟨item, hitem, ⟨⟨hitemName, hitemClear⟩, hitemFull⟩, hitemFree⟩, other, hother,
    ⟨⟨hotherName, hotherClear⟩, hotherFull⟩, hotherFree⟩ := hrun
  refine ⟨space, item, other, hbuild, hitemName, hotherName, hitemFull, hotherFull, ?_, ?_⟩
  · exact (resolveRef_ref_of_qualified hbuild hitem hitemClear 1 hitemFull "User.cs" "" ["User"]
      hitemFree).2
  · exact (resolveRef_ref_of_qualified hbuild hother hotherClear 0 hotherFull "Box.cs" "Game.Core"
      ["Game.Core.Box"] hotherFree).2

end SymbolSpace
end SandboxLint
