import SandboxLint.EntryPoint
import SandboxLint.Proofs.Corpus.Chain
import SandboxLint.Proofs.Corpus.Declared
import SandboxLint.Proofs.Corpus.Inheritance
import SandboxLint.Proofs.Corpus.PartialTypes

/-!
Entry classes and entry files. What a file counts as its entry classes are class
declarations of its own tree, each of them one of the parts that the type of its name is
merged from. In small corpora the types that inherit the sandboxed base can be told
from their base lists.
-/

namespace SandboxLint
namespace SymbolSpace

variable {analysis : AnalysisSettings} {files : List OutlinedFile} {space : SymbolSpace}
  {unit : OutlinedFile} {type : Node}

/-- The entry classes of a file are the classes whose fragments are of types that inherit the
sandboxed base. -/
theorem mem_entryNodes_iff : type ∈ space.entryNodes unit ↔
    ∃ part ∈ unit.outline.types, space.isEntryFragment part = true ∧ part.node = type := by
  rw [entryNodes, List.mem_map]
  refine exists_congr fun part => ?_
  rw [List.mem_filter, Bool.and_eq_true, List.contains_iff_mem, classify, and_assoc]
  refine and_congr_right fun hpart => ?_
  constructor
  · rintro ⟨⟨hwanted, hclass⟩, rfl⟩
    obtain ⟨other, hother, hname⟩ := List.mem_map.1 hwanted
    have hentry := (List.mem_filter.1 hother).2
    rw [isEntryFragment, Bool.and_eq_true, hname] at hentry
    exact ⟨Bool.and_eq_true_iff.2 ⟨hclass, hentry.2⟩, rfl⟩
  · rintro ⟨hentry, rfl⟩
    refine ⟨⟨?_, (Bool.and_eq_true_iff.1 hentry).1⟩, rfl⟩
    exact List.mem_map_of_mem (List.mem_filter.2 ⟨hpart, hentry⟩)

/-- The class of an entry type is one of the fragments that make up a type of the corpus. -/
theorem Built.fragment_of_entryNode {sources : List SourceFile} {marker : String}
    (built : Built analysis (sources.map (.ofFile · marker)) space)
    (hunit : unit ∈ space.files) (htype : type ∈ space.entryNodes unit) :
    type.kind = "class_declaration" ∧
      Outline.fragment unit.file unit.outline.namespaceName type ∈ unit.outline.types := by
  obtain ⟨part, hmem, hentry, rfl⟩ := mem_entryNodes_iff.1 htype
  rw [built.files_eq] at hunit
  obtain ⟨file, marker, rfl⟩ := (outlined_ofFile sources marker).byPath unit hunit
  obtain ⟨node, -, -, rfl⟩ := Outline.mem_types_iff.1 hmem
  exact ⟨beq_iff_eq.1 (Bool.and_eq_true_iff.1 hentry).1, hmem⟩

/-- A declared type is a type of the corpus, and its fragment is one of its parts. -/
theorem Built.exists_find?_of_fragment (built : Built analysis files space)
    (hunit : unit ∈ space.files) {part : Fragment} (hpart : part ∈ unit.outline.types) :
    ∃ decl ∈ space.types, space.types.find? part.qualifiedName = some decl ∧
      part ∈ space.partsOf decl := by
  have houtline := List.mem_map_of_mem (f := OutlinedFile.outline) hunit
  have hknown : (space.types.find? part.qualifiedName).isSome = true := by
    rw [built.types_eq]
    exact TypeTable.isSome_find?_iff.2 ⟨_, houtline, part, hpart, rfl⟩
  obtain ⟨decl, hdecl⟩ := Option.isSome_iff_exists.1 hknown
  have hname : decl.qualifiedName = part.qualifiedName := by simpa using List.find?_some hdecl
  refine ⟨decl, List.mem_of_find?_eq_some hdecl, hdecl, ?_⟩
  exact TypeTable.mem_fragmentsNamed.2 ⟨⟨_, houtline, hpart⟩, hname.symm⟩

/-- A type whose only base names the sandboxed base and has no bases of its own inherits it. -/
theorem Built.inheritsBase_of_base (built : Built analysis files space) {decl base : TypeDecl}
    (hdecl : decl ∈ space.types) (hbases : space.basesOf decl = [base])
    (hends : space.basesOf base = [])
    (hnames : BaseTable.namesBase analysis.baseType base = true) :
    space.inheritsBase decl = true := by
  have hstep : ∀ next, space.bases.Extends decl next ↔ next = base := fun next => by
    rw [← List.mem_singleton, ← hbases]
    rfl
  have hcircle : space.bases.ReachesNoCircle decl := by
    refine .of_bases fun next hnext => .of_bases fun last hlast => ?_
    obtain rfl := (hstep next).1 hnext
    have hmem : last ∈ space.basesOf next := hlast
    rw [hends] at hmem
    cases hmem
  refine (built.fits_inheritsBase hdecl).2 hcircle ?_
  exact .of_base ((hstep base).2 rfl) (.of_names hnames)

/-- A type without bases in the corpus inherits the sandboxed base exactly when it names it. -/
theorem Built.inheritsBase_of_no_bases (built : Built analysis files space) {decl : TypeDecl}
    (hdecl : decl ∈ space.types) (hends : space.basesOf decl = []) :
    space.inheritsBase decl = BaseTable.namesBase analysis.baseType decl := by
  have hbaseless : ∀ base, ¬ space.bases.Extends decl base := by
    intro base hbase
    have hmem : base ∈ space.basesOf decl := hbase
    rw [hends] at hmem
    cases hmem
  obtain ⟨hyes, hno⟩ := built.fits_inheritsBase hdecl
  -- A no would be right only about a type that reaches a circle, and this one has no base.
  have hcircle : space.bases.ReachesNoCircle decl :=
    .of_bases fun base hbase => absurd hbase (hbaseless base)
  refine Bool.eq_iff_iff.2 ⟨fun hinherits => ?_, fun hnames => hno hcircle (.of_names hnames)⟩
  exact (hyes hinherits).cases.resolve_right fun ⟨base, hbase, _⟩ => hbaseless base hbase

/-- Where no type has bases in the corpus, a type inherits the sandboxed base exactly when it names
it. -/
theorem Built.inheritsBase_of_flat (built : Built analysis files space)
    (hflat : space.bases.Flat) {decl : TypeDecl} (hdecl : decl ∈ space.types) :
    space.inheritsBase decl = BaseTable.namesBase analysis.baseType decl :=
  built.inheritsBase_of_no_bases hdecl (hflat.basesOf_eq decl)

/-- There, the entry classes are those that name the sandboxed base. -/
theorem Built.isEntryFragment_of_flat (built : Built analysis files space)
    (hflat : space.bases.Flat) : space.isEntryFragment = fun fragment =>
      fragment.node.kind == "class_declaration" &&
        (space.types.find? fragment.qualifiedName).any (BaseTable.namesBase analysis.baseType) := by
  funext fragment
  rw [isEntryFragment]
  cases hdecl : space.types.find? fragment.qualifiedName with
  | none => rfl
  | some decl =>
      rw [Option.any_some, Option.any_some,
        built.inheritsBase_of_flat hflat (List.mem_of_find?_eq_some hdecl)]

/-- There, a file with the marker import and a class that names the sandboxed base is an entry
file. -/
theorem Built.mem_entryFiles_of_names (built : Built analysis files space)
    (hflat : space.bases.Flat) {unit : OutlinedFile} (hunit : unit ∈ space.files)
    (hmarker : unit.outline.hasMarkerImport = true) {fragment : Fragment}
    (hfragment : fragment ∈ unit.outline.types)
    (hclass : fragment.node.kind = "class_declaration") {decl : TypeDecl}
    (hdecl : space.types.find? fragment.qualifiedName = some decl)
    (hnames : BaseTable.namesBase analysis.baseType decl = true) :
    unit.path ∈ space.entryFiles := by
  have hentry : (space.classify unit).isEntryPoint = true := by
    simp only [Classification.isEntryPoint, classify, hmarker, Bool.true_and, Bool.not_eq_true',
      List.isEmpty_eq_false_iff]
    refine List.ne_nil_of_mem (List.mem_map_of_mem (List.mem_filter.2 ⟨hfragment, ?_⟩))
    simp [built.isEntryFragment_of_flat hflat, hclass, hdecl, hnames]
  exact List.mem_map_of_mem (List.mem_filter.2 ⟨List.mem_map_of_mem hunit, hentry⟩)

end SymbolSpace
end SandboxLint
