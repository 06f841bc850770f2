import Mathlib.Data.List.Find
import Mathlib.Data.List.TakeWhile
import SandboxLint.Proofs.Corpus.Files
import SandboxLint.Proofs.Corpus.ModelAgreement
import SandboxLint.Proofs.Corpus.SymbolSpace

/-!
One side of a corpus: the files at home, all of whose texts are near, where no type that
the other files declare has a near name. The types with near names are then those that
the files at home declare, and the corpus agrees with the corpus of these files alone.
-/

namespace SandboxLint

theorem Text.afterLast_of_ending {qualified name : String} (hundotted : '.' ∉ name.toList)
    (h : qualified = name ∨ ∃ around, qualified = around ++ "." ++ name) :
    Text.afterLast '.' qualified.toList = name.toList := by
  obtain rfl | ⟨around, rfl⟩ := h
  · exact afterLast_of_notMem hundotted
  · have hcut : (around ++ "." ++ name).toList = around.toList ++ '.' :: name.toList := by simp
    rw [hcut]
    exact afterLast_append _ hundotted

/-- Leaving out what contributes nothing that is kept. -/
theorem flatMap_filter_eq {α β : Type} {keep : α → Bool} {keep' : β → Bool} {f : α → List β}
    {xs : List α} (h : ∀ x ∈ xs, ∀ y ∈ f x, keep' y = keep x) :
    (xs.filter keep).flatMap f = (xs.flatMap f).filter keep' := by
  induction xs with
  | nil => rfl
  | cons x rest ih =>
      obtain ⟨hx, hrest⟩ := List.forall_mem_cons.1 h
      rw [List.flatMap_cons, List.filter_append, ← ih hrest]
      cases hkeep : keep x with
      | true =>
          have hall : (f x).filter keep' = f x :=
            List.filter_eq_self.2 fun y hy => (hx y hy).trans hkeep
          rw [List.filter_cons_of_pos hkeep, List.flatMap_cons, hall]
      | false =>
          have hnone : (f x).filter keep' = [] :=
            List.filter_eq_nil_iff.2 fun y hy => by simp [hx y hy, hkeep]
          rw [List.filter_cons_of_neg (by simp [hkeep]), hnone, List.nil_append]

/-- Leaving out outlines all of whose types have names that are left out. -/
theorem TypeTable.ofOutlines_filter {keep keep' : String → Bool} {outlines : List Outline}
    (h : ∀ outline ∈ outlines, ∀ fragment ∈ outline.types,
      keep' fragment.qualifiedName = keep outline.path) :
    ofOutlines (outlines.filter (keep ·.path)) =
      (ofOutlines outlines).filter (keep' ·.qualifiedName) := by
  have hsorted : ((outlines.filter (keep ·.path)).mergeSort fun a b => decide (a.path ≤ b.path)) =
      (outlines.mergeSort fun a b => decide (a.path ≤ b.path)).filter (keep ·.path) :=
    Sorting.mergeSort_filter (Sorting.key_le_trans Outline.path)
      (Sorting.key_le_total Outline.path) _ outlines
  have hkept : ∀ outline ∈ outlines.mergeSort fun a b => decide (a.path ≤ b.path),
      ∀ fragment ∈ outline.types, keep' fragment.qualifiedName = keep outline.path :=
    fun outline houtline => h outline (List.mem_mergeSort.1 houtline)
  show ofFragments _ = (ofFragments _).filter _
  rw [hsorted, flatMap_filter_eq hkept, ofFragments_filter keep']

variable {near : String → Prop} {home : String → Bool}

namespace Outline

variable {file : SourceFile} {marker : String} {fragment : Fragment}

theorem near_parse (hclosed : PartClosed near) (hroot : file.root.AllNear near) {text : String}
    (h : file.root.Writes text) : NearRef near (TypeRef.parse text) :=
  fun _ href => hclosed.of_parse (hclosed.of_writes hroot h) href

theorem mem_places_of_heldMember {node member : Node} (hnode : node ∈ file.root.places)
    (h : member ∈ heldMembers node) : member ∈ file.root.places := by
  rw [heldMembers] at h
  split at h
  · exact Node.mem_places_of_typeMember hnode h
  · cases h

theorem near_fieldDecl (hclosed : PartClosed near) (hroot : file.root.AllNear near)
    {member : Node} (hmember : member ∈ file.root.places) {field : FieldDecl}
    (h : field ∈ fieldDecls file member) : NearRef near field.type ∧ field.path = file.path := by
  rw [fieldDecls] at h
  split at h
  · cases h
  · next declaration hdeclaration =>
      obtain ⟨declarator, -, hfield⟩ := List.mem_map.1 h
      have hplace := Node.mem_places_of_childOfKind? hmember hdeclaration
      simp only [← hfield, and_true]
      exact near_parse hclosed hroot (Node.writes_child? hplace "type")

theorem near_propertyDecl (hclosed : PartClosed near) (hroot : file.root.AllNear near)
    {member : Node} (hmember : member ∈ file.root.places) {field : FieldDecl}
    (h : propertyDecl file member = some field) :
    NearRef near field.type ∧ field.path = file.path := by
  obtain ⟨name, -, hfield⟩ := Option.map_eq_some_iff.1 h
  simp only [← hfield, and_true]
  exact near_parse hclosed hroot (Node.writes_child? hmember "type")

theorem near_memberField (hclosed : PartClosed near) (hroot : file.root.AllNear near)
    {member : Node} (hmember : member ∈ file.root.places) {field : FieldDecl}
    (h : field ∈ memberFields file member) : NearRef near field.type ∧ field.path = file.path := by
  rw [memberFields] at h
  split at h
  · exact near_fieldDecl hclosed hroot hmember h
  · split at h
    · exact near_propertyDecl hclosed hroot hmember (Option.mem_toList.1 h)
    · cases h

theorem near_methodDecl (hclosed : PartClosed near) (hroot : file.root.AllNear near)
    {member : Node} (hmember : member ∈ file.root.places) :
    NearRef near (methodDecl file member).returnType := by
  have hwritten : file.root.Writes (Node.textOf (returnTypeNode member)) := by
    rw [returnTypeNode]
    cases hreturns : member.child? "returns" with
    | some type =>
        rw [Option.some_or]
        exact Node.writes_text (Node.mem_places_of_child? hmember hreturns)
    | none =>
        rw [Option.none_or]
        exact Node.writes_child? hmember "type"
  intro ref href
  simp only [methodDecl, returnType] at href
  split at href
  · cases href
  · exact near_parse hclosed hroot hwritten ref href

/-- A type of a file all of whose texts are near has near parts only, all from that file. -/
structure NearFragment (near : String → Prop) (origin : String) (fragment : Fragment) : Prop where
  name : near fragment.name
  path : fragment.path = origin
  baseNames : ∀ name ∈ fragment.baseNames, near name
  fields : ∀ field ∈ fragment.fields, NearRef near field.type ∧ field.path = origin
  methods : ∀ method ∈ fragment.methods, NearRef near method.returnType ∧ method.path = origin

theorem nearFragment (hclosed : PartClosed near) (hroot : file.root.AllNear near)
    (h : fragment ∈ (ofFile file marker).types) : NearFragment near file.path fragment := by
  obtain ⟨node, hnode, -, hfragment⟩ := mem_types_iff.1 h
  subst hfragment
  refine ⟨hclosed.of_writes hroot (Node.writes_declaredName hnode), rfl, fun name hname => ?_,
    fun field hfield => ?_, fun method hmethod => ?_⟩
  · obtain ⟨base, hbase, rfl⟩ := List.mem_map.1 hname
    exact hroot base (Node.mem_places_of_baseType hnode hbase)
  · obtain ⟨member, hmember, hfield⟩ := List.mem_flatMap.1 hfield
    exact near_memberField hclosed hroot (mem_places_of_heldMember hnode hmember) hfield
  · obtain ⟨member, hmember, rfl⟩ := List.mem_map.1 hmethod
    have hplace := mem_places_of_heldMember hnode (List.mem_filter.1 hmember).1
    exact ⟨near_methodDecl hclosed hroot hplace, rfl⟩

end Outline

/-- Files of which those at home say only what is near, and the others declare no type of a near
name. -/
structure Side (near : String → Prop) (home : String → Bool) (files : List OutlinedFile) :
    Prop where
  closed : PartClosed near
  outlined : SymbolSpace.Outlined files
  undotted : ∀ unit ∈ files, ∀ fragment ∈ unit.outline.types, '.' ∉ fragment.name.toList
  texts : ∀ unit ∈ files, home unit.path = true → unit.file.root.AllNear near
  foreign : ∀ unit ∈ files, home unit.path = false →
    ∀ fragment ∈ unit.outline.types, ¬ near fragment.name

namespace SymbolSpace

def atHome (home : String → Bool) (files : List OutlinedFile) : List OutlinedFile :=
  files.filter (home ·.path)

theorem find?_atHome {path : String} (hhome : home path = true) (files : List OutlinedFile) :
    (atHome home files).find? (·.path == path) = files.find? (·.path == path) := by
  rw [atHome, List.find?_filter]
  refine List.find?_congr fun unit _ => ?_
  by_cases hsame : unit.path = path
  · simp [hsame, hhome]
  · simp [hsame]

/-- Whether one of several files declares a type of a qualified name. -/
def declares (files : List OutlinedFile) (qualified : String) : Bool :=
  files.any fun unit => unit.outline.types.any (·.qualifiedName == qualified)

theorem declares_iff {files : List OutlinedFile} {qualified : String} :
    declares files qualified = true ↔
      ∃ unit ∈ files, ∃ fragment ∈ unit.outline.types, fragment.qualifiedName = qualified := by
  simp [declares]

end SymbolSpace

namespace Side

open SymbolSpace

variable {files : List OutlinedFile} (side : Side near home files)
include side

theorem nearFragment {unit : OutlinedFile} (hunit : unit ∈ files) (hhome : home unit.path = true)
    {fragment : Fragment} (h : fragment ∈ unit.outline.types) :
    Outline.NearFragment near unit.path fragment := by
  have hroot := side.texts unit hunit hhome
  obtain ⟨file, marker, rfl⟩ := side.outlined unit hunit
  exact Outline.nearFragment side.closed hroot h

theorem near_name_iff {unit : OutlinedFile} (hunit : unit ∈ files) {fragment : Fragment}
    (h : fragment ∈ unit.outline.types) : near fragment.name ↔ home unit.path = true := by
  refine ⟨fun hnear => ?_, fun hhome => (side.nearFragment hunit hhome h).name⟩
  by_contra haway
  exact side.foreign unit hunit (by simpa using haway) fragment h hnear

theorem ending {unit : OutlinedFile} (hunit : unit ∈ files) {fragment : Fragment}
    (h : fragment ∈ unit.outline.types) :
    fragment.qualifiedName = fragment.name ∨
      ∃ around, fragment.qualifiedName = around ++ "." ++ fragment.name := by
  obtain ⟨file, marker, rfl⟩ := side.outlined unit hunit
  exact Outline.qualifiedName_of_mem_types h

/-- Fragments of one qualified name stand on one side. -/
theorem home_eq_of_qualifiedName {unit unit' : OutlinedFile} (hunit : unit ∈ files)
    (hunit' : unit' ∈ files) {fragment fragment' : Fragment} (h : fragment ∈ unit.outline.types)
    (h' : fragment' ∈ unit'.outline.types)
    (hname : fragment.qualifiedName = fragment'.qualifiedName) :
    home unit.path = home unit'.path := by
  have hlast := Text.afterLast_of_ending (side.undotted unit hunit fragment h)
    (side.ending hunit h)
  have hlast' := Text.afterLast_of_ending (side.undotted unit' hunit' fragment' h')
    (side.ending hunit' h')
  have hsame : fragment.name = fragment'.name := by
    rw [← String.toList_inj, ← hlast, ← hlast', hname]
  rw [Bool.eq_iff_iff, ← side.near_name_iff hunit h, ← side.near_name_iff hunit' h', hsame]

theorem declares_atHome {unit : OutlinedFile} (hunit : unit ∈ files) {fragment : Fragment}
    (h : fragment ∈ unit.outline.types) :
    declares (atHome home files) fragment.qualifiedName = home unit.path := by
  rw [Bool.eq_iff_iff, declares_iff]
  constructor
  · rintro ⟨other, hother, found, hfound, hname⟩
    obtain ⟨hother, hhome⟩ := List.mem_filter.1 hother
    rw [← side.home_eq_of_qualifiedName hother hunit hfound h hname]
    exact hhome
  · intro hhome
    exact ⟨unit, List.mem_filter.2 ⟨hunit, hhome⟩, fragment, h, rfl⟩

/-- The types of the files at home are those of all files that a file at home declares. -/
theorem typesIn_atHome : typesIn (atHome home files) =
    (typesIn files).filter (declares (atHome home files) ·.qualifiedName) := by
  have hpath : ∀ unit ∈ files, unit.outline.path = unit.path := by
    intro unit hunit
    obtain ⟨file, marker, rfl⟩ := side.outlined unit hunit
    rfl
  have houtlines : (atHome home files).map (·.outline) =
      (files.map (·.outline)).filter (home ·.path) := by
    rw [List.filter_map]
    refine congrArg (List.map _) (List.filter_congr fun unit hunit => ?_)
    exact congrArg home (hpath unit hunit).symm
  have hkept : ∀ outline ∈ files.map (·.outline), ∀ fragment ∈ outline.types,
      declares (atHome home files) fragment.qualifiedName = home outline.path := by
    intro outline houtline fragment hfragment
    obtain ⟨unit, hunit, rfl⟩ := List.mem_map.1 houtline
    rw [hpath unit hunit]
    exact side.declares_atHome hunit hfragment
  rw [typesIn, typesIn, houtlines]
  exact TypeTable.ofOutlines_filter hkept

/-- All fragments of a type stand on one side, and this side tells whether its name is near. -/
theorem exists_fragments {decl : TypeDecl} (hdecl : decl ∈ typesIn files) :
    ∃ first rest, decl = .merge first (first :: rest) ∧
      ∀ fragment ∈ first :: rest, ∃ unit ∈ files, fragment ∈ unit.outline.types ∧
        (near decl.name ↔ home unit.path = true) := by
  obtain ⟨first, rest, hfragments, hmerge⟩ := TypeTable.mem_ofOutlines_iff.1 hdecl
  have hunit : ∀ fragment ∈ first :: rest, ∃ unit ∈ files, fragment ∈ unit.outline.types ∧
      fragment.qualifiedName = decl.qualifiedName := by
    intro fragment hfragment
    rw [← hfragments] at hfragment
    obtain ⟨⟨outline, houtline, hmem⟩, hname⟩ := TypeTable.mem_fragmentsNamed.1 hfragment
    obtain ⟨unit, hunit, rfl⟩ := List.mem_map.1 houtline
    exact ⟨unit, hunit, hmem, hname⟩
  obtain ⟨unit, hmem, hfirst, hname⟩ := hunit first List.mem_cons_self
  refine ⟨first, rest, hmerge, fun fragment hfragment => ?_⟩
  obtain ⟨other, hother, hdeclared, hname'⟩ := hunit fragment hfragment
  refine ⟨other, hother, hdeclared, ?_⟩
  rw [side.home_eq_of_qualifiedName hother hmem hdeclared hfirst (hname'.trans hname.symm),
    ← side.near_name_iff hmem hfirst, hmerge]
  rfl

theorem wellNamed {decl : TypeDecl} (hdecl : decl ∈ typesIn files) : decl.WellNamed := by
  obtain ⟨first, rest, rfl, hunit⟩ := side.exists_fragments hdecl
  obtain ⟨unit, hmem, hfirst, -⟩ := hunit first List.mem_cons_self
  exact ⟨side.undotted unit hmem first hfirst, side.ending hmem hfirst⟩

theorem near_iff_declares {decl : TypeDecl} (hdecl : decl ∈ typesIn files) :
    near decl.name ↔ declares (atHome home files) decl.qualifiedName = true := by
  obtain ⟨first, rest, rfl, hunit⟩ := side.exists_fragments hdecl
  obtain ⟨unit, hmem, hfirst, hnear⟩ := hunit first List.mem_cons_self
  exact hnear.trans (Bool.eq_iff_iff.1 (side.declares_atHome hmem hfirst)).symm

/-- The types of the files at home are the types with near names. -/
theorem mem_typesIn_atHome {decl : TypeDecl} :
    decl ∈ typesIn (atHome home files) ↔ (typesIn files).Own near decl := by
  rw [side.typesIn_atHome, List.mem_filter]
  exact and_congr_right fun hdecl => (side.near_iff_declares hdecl).symm

theorem find?_of_own {decl : TypeDecl} (hown : (typesIn files).Own near decl) :
    (typesIn files).find? decl.qualifiedName = some decl ∧
      (typesIn (atHome home files)).find? decl.qualifiedName = some decl :=
  ⟨TypeTable.find?_eq_some_iff.2 ⟨hown.1, rfl⟩,
    TypeTable.find?_eq_some_iff.2 ⟨side.mem_typesIn_atHome.2 hown, rfl⟩⟩

/-- A name that a file at home declares means the same among all files. -/
theorem common_of_fragment {unit : OutlinedFile} (hunit : unit ∈ files)
    (hhome : home unit.path = true) {fragment : Fragment} (h : fragment ∈ unit.outline.types) :
    TypeTable.Common near (typesIn files) (typesIn (atHome home files))
      fragment.qualifiedName := by
  have hknown : ((typesIn (atHome home files)).find? fragment.qualifiedName).isSome :=
    TypeTable.isSome_find?_iff.2 ⟨unit.outline,
      List.mem_map_of_mem (List.mem_filter.2 ⟨hunit, hhome⟩), fragment, h, rfl⟩
  obtain ⟨decl, hdecl⟩ := Option.isSome_iff_exists.1 hknown
  obtain ⟨hmem, hname⟩ := TypeTable.find?_eq_some_iff.1 hdecl
  have hown := side.mem_typesIn_atHome.1 hmem
  exact ⟨decl, hown, hname ▸ (side.find?_of_own hown).1, hdecl⟩

/-- Among the files at home near names mean what they mean among all files. -/
theorem types_agree :
    TypeTable.Agree near (typesIn files) (typesIn (atHome home files)) where
  closed := side.closed
  wellNamed _ hdecl := side.wellNamed hdecl
  named name hname := by
    rw [side.typesIn_atHome, TypeTable.named, List.filter_filter]
    refine List.filter_congr fun decl hdecl => ?_
    by_cases hsame : decl.name = name
    · simp [hsame, (side.near_iff_declares hdecl).1 (hsame ▸ hname)]
    · simp [hsame]
  nested outer name hname := by
    rw [side.typesIn_atHome, TypeTable.find?, List.find?_filter]
    refine List.find?_congr fun decl hdecl => ?_
    by_cases hsame : decl.qualifiedName = outer ++ "." ++ name
    · have hsuffix := (side.wellNamed hdecl).name_suffix hsame
      have hnear := side.closed _ _ hsuffix.isInfix hname
      simp [hsame, hsame ▸ (side.near_iff_declares hdecl).1 hnear]
    · simp [hsame]
  known _ hown := side.find?_of_own hown
  outer decl hown outer houter := by
    obtain ⟨hdecl, hnear⟩ := hown
    -- The first part writes the outer type, and its file declares it.
    obtain ⟨first, rest, rfl, hunit⟩ := side.exists_fragments hdecl
    obtain ⟨unit, hmem, hfirst, hiff⟩ := hunit first List.mem_cons_self
    have hhome := hiff.1 hnear
    obtain ⟨around, haround, rfl⟩ : ∃ around ∈ unit.outline.types,
        around.qualifiedName = outer := by
      obtain ⟨file, marker, rfl⟩ := side.outlined unit hmem
      exact Outline.outerType_declared hfirst houter
    exact side.common_of_fragment hmem hhome haround

/-- All parts of a type with a near name are near and stand at home. -/
theorem atHome_of_own {decl : TypeDecl} (hown : (typesIn files).Own near decl) :
    decl.AtHome near (home · = true) := by
  obtain ⟨hdecl, hnear⟩ := hown
  obtain ⟨first, rest, rfl, hunit⟩ := side.exists_fragments hdecl
  have hfragment : ∀ fragment ∈ first :: rest, ∃ origin, home origin = true ∧
      Outline.NearFragment near origin fragment := by
    intro fragment hfragment
    obtain ⟨unit, hmem, hdeclared, hiff⟩ := hunit fragment hfragment
    exact ⟨unit.path, hiff.1 hnear, side.nearFragment hmem (hiff.1 hnear) hdeclared⟩
  refine ⟨?_, fun name hname => ?_, fun name field hfield => ?_,
    fun name methods hmethods method hmethod => ?_⟩
  · obtain ⟨origin, hhome, hparts⟩ := hfragment first List.mem_cons_self
    have hpath : (TypeDecl.merge first (first :: rest)).path = origin := hparts.path
    rwa [hpath]
  · obtain ⟨fragment, hmem, hname⟩ := List.mem_flatMap.1 (List.mem_eraseDups.1 hname)
    obtain ⟨origin, -, hparts⟩ := hfragment fragment hmem
    exact hparts.baseNames name hname
  · have hpair := Assoc.mem_of_mem_ofFirstPairs (Assoc.mem_of_get? hfield)
    obtain ⟨found, hfound, hpair⟩ := List.mem_map.1 hpair
    cases hpair
    obtain ⟨fragment, hmem, hfield⟩ := List.mem_flatMap.1 hfound
    obtain ⟨origin, hhome, hparts⟩ := hfragment fragment hmem
    obtain ⟨htype, hpath⟩ := hparts.fields field hfield
    exact ⟨htype, hpath ▸ hhome⟩
  · have hgroup := ((Assoc.mem_groups_iff _ _ _).1 (Assoc.mem_of_get? hmethods)).1
    rw [hgroup] at hmethod
    obtain ⟨pair, hpair, rfl⟩ := List.mem_map.1 hmethod
    obtain ⟨found, hfound, rfl⟩ := List.mem_map.1 (List.mem_filter.1 hpair).1
    obtain ⟨fragment, hmem, hmethod⟩ := List.mem_flatMap.1 hfound
    obtain ⟨origin, hhome, hparts⟩ := hfragment fragment hmem
    obtain ⟨htype, hpath⟩ := hparts.methods found hmethod
    exact ⟨htype, hpath ▸ hhome⟩

/-- A file at home has the same imports among the files at home, and they are near. -/
theorem imports_agree {path : String} (hhome : home path = true) :
    importsIn (atHome home files) path = importsIn files path ∧
      (importsIn files path).AllNear near := by
  refine ⟨by rw [importsIn, importsIn, find?_atHome hhome], ?_⟩
  rw [importsIn]
  split
  · next unit hunit =>
      have hpath : unit.path = path := by simpa using List.find?_some hunit
      have hmem := List.mem_of_find?_eq_some hunit
      have hroot := side.texts unit hmem (hpath ▸ hhome)
      obtain ⟨file, marker, rfl⟩ := side.outlined unit hmem
      exact Outline.allNear_imports side.closed hroot
  · exact nofun

theorem near_baseSite {decl : TypeDecl} (hown : (typesIn files).Own near decl) :
    Site.Near near (typesIn files) (typesIn (atHome home files))
      ((typesIn files).baseSite (importsIn files) decl) where
  imports := (side.imports_agree (side.atHome_of_own hown).path).2
  enclosing _ houter := side.types_agree.common_of_mem_outerNames hown houter

/-- The base list of a type with a near name is read the same among the files at home. -/
theorem resolveBases_eq {decl : TypeDecl} (hown : (typesIn files).Own near decl) :
    (typesIn (atHome home files)).resolveBases (importsIn (atHome home files)) decl =
      (typesIn files).resolveBases (importsIn files) decl := by
  have hparts := side.atHome_of_own hown
  have hsite : (typesIn (atHome home files)).baseSite (importsIn (atHome home files)) decl =
      (typesIn files).baseSite (importsIn files) decl := by
    simp only [TypeTable.baseSite, (side.imports_agree hparts.path).1,
      side.types_agree.outerNames_eq hown]
  have htexts : decl.baseNames.mapM ((typesIn (atHome home files)).resolveText none
        ((typesIn (atHome home files)).baseSite (importsIn (atHome home files)) decl)) =
      decl.baseNames.mapM ((typesIn files).resolveText none
        ((typesIn files).baseSite (importsIn files) decl)) := by
    rw [hsite]
    refine Fallible.mapM_congr fun name hname => ?_
    have hnone : BaseTable.AgreeIfAny near (typesIn files) none none := trivial
    exact side.types_agree.resolveText_eq hnone (side.near_baseSite hown)
      (hparts.baseNames name hname)
  rw [TypeTable.resolveBases, TypeTable.resolveBases]
  exact congrArg (· >>= _) htexts

/-- The bases of a type with a near name have near names. -/
theorem own_of_resolveBases {decl : TypeDecl} (hown : (typesIn files).Own near decl)
    {bases : List TypeDecl}
    (h : (typesIn files).resolveBases (importsIn files) decl = .ok bases) :
    ∀ base ∈ bases, (typesIn files).Own near base := by
  intro base hbase
  obtain ⟨-, name, hname, hfound⟩ := (TypeTable.mem_of_resolveBases h).1 hbase
  exact side.types_agree.own_of_resolveText (side.near_baseSite hown)
    ((side.atHome_of_own hown).baseNames name hname) hfound

end Side
end SandboxLint
