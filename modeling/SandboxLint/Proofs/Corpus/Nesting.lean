import Mathlib.Algebra.GroupWithZero.Nat
import SandboxLint.Corpus.Model
import SandboxLint.Proofs.Corpus.Declared
import SandboxLint.Proofs.Corpus.Merging

/-!
How types nest. A qualified name is made of the names around a declaration from outside in, so
the name of what is around is a shorter list of the same names, whatever the names are and
wherever namespaces stand. Going from type to outer type therefore comes to an end, in whichever
files the types are declared.
-/

namespace SandboxLint

/-- A joined text has the characters of its parts and a sign between any two of them. -/
theorem length_intercalate_dot {parts : List String} (h : parts ≠ []) :
    (".".intercalate parts).length + 1 = (parts.map (·.length + 1)).sum := by
  induction parts with
  | nil => exact absurd rfl h
  | cons part rest ih =>
      cases rest with
      | nil => simp
      | cons next rest =>
          have hdot : ".".length = 1 := rfl
          rw [String.intercalate_cons_cons, String.length_append, String.length_append, hdot,
            List.map_cons, List.sum_cons, ← ih (by simp)]
          omega

theorem sum_succ_of_sublist {front parts : List String} (h : front.Sublist parts) :
    (front.map (·.length + 1)).sum + parts.length ≤
      (parts.map (·.length + 1)).sum + front.length := by
  induction h with
  | slnil => simp
  | cons part _ ih =>
      simp only [List.map_cons, List.sum_cons, List.length_cons]
      omega
  | cons_cons part _ ih =>
      simp only [List.map_cons, List.sum_cons, List.length_cons]
      omega

/-- More parts make a longer text, even if they are empty. -/
theorem length_intercalate_lt {front parts : List String} (hfront : front ≠ [])
    (h : front.Sublist parts) (hmore : front.length < parts.length) :
    (".".intercalate front).length < (".".intercalate parts).length := by
  have hparts : parts ≠ [] := by
    rintro rfl
    simp at hmore
  have hshort := length_intercalate_dot hfront
  have hlong := length_intercalate_dot hparts
  have hsum := sum_succ_of_sublist h
  omega

namespace Node

variable {file : String}

/-- The names of a declaration and of the types around it, from outside in. -/
def typePath (node : Node) : List String :=
  ((node :: node.ancestors.filter fun p => Kind.typeDeclarations.contains p.kind).map
    declaredName).reverse

/-- The names of the namespaces around a place that have one, from outside in. -/
def spacePath (node : Node) (file : String) : List String :=
  (file :: ((node.ancestors.filter (·.kind == "namespace_declaration")).map
    namespaceName).reverse).filter (· != "")

theorem typePath_ne_nil (node : Node) : node.typePath ≠ [] := by
  simp [typePath]

theorem spacePath_eq_nil_of_namespaceOf {node : Node} (h : node.namespaceOf file = "") :
    node.spacePath file = [] := by
  by_contra hne
  have hlength := length_intercalate_dot hne
  have hempty : ".".intercalate (node.spacePath file) = "" := h
  obtain ⟨first, rest, hparts⟩ := List.exists_cons_of_ne_nil hne
  have hfirst : first ≠ "" := by
    have hmem : first ∈ node.spacePath file := hparts ▸ List.mem_cons_self
    exact bne_iff_ne.1 (List.mem_filter.1 hmem).2
  rw [hempty, hparts, List.map_cons, List.sum_cons, String.length_empty] at hlength
  have hzero : first.length = 0 := by omega
  exact hfirst (String.length_eq_zero_iff.1 hzero)

/-- A qualified name is joined from the names of namespaces and types around a declaration. -/
theorem qualifiedName_eq_intercalate (node : Node) (file : String) :
    node.qualifiedName file = ".".intercalate (node.spacePath file ++ node.typePath) := by
  have hnames : node.qualifiedName file = ".".intercalate
      (if node.namespaceOf file == "" then node.typePath
        else node.namespaceOf file :: node.typePath) := rfl
  rw [hnames]
  by_cases hspace : node.namespaceOf file = ""
  · rw [if_pos (beq_iff_eq.2 hspace), spacePath_eq_nil_of_namespaceOf hspace, List.nil_append]
  · have hne : node.spacePath file ≠ [] := by
      intro hnil
      refine hspace ?_
      rw [namespaceOf, dotted]
      exact (congrArg _ hnil).trans String.intercalate_nil
    rw [if_neg (by simpa using hspace), String.intercalate_cons_of_ne_nil node.typePath_ne_nil,
      String.intercalate_append_of_ne_nil hne node.typePath_ne_nil]
    rfl

theorem ancestorsOf_eq_append {above : List Tree} {between after : List Node} {around : Node}
    (h : ancestorsOf above = between ++ around :: after) : after = around.ancestors := by
  induction above generalizing between with
  | nil => simp [ancestorsOf] at h
  | cons tree above ih =>
      rw [ancestorsOf] at h
      cases between with
      | nil =>
          cases h
          rfl
      | cons first between => exact ih (List.cons.inj h).2

/-- The nearest type around a place: between the two there is none. -/
theorem exists_between_of_enclosing {node around : Node}
    (h : node.enclosing Kind.typeDeclarations = some around) :
    ∃ between, node.ancestors = between ++ around :: around.ancestors ∧
      Kind.typeDeclarations.contains around.kind = true ∧
      ∀ p ∈ between, ¬ Kind.typeDeclarations.contains p.kind = true := by
  obtain ⟨hkind, between, after, hsplit, hnone⟩ := List.find?_eq_some_iff_append.1 h
  refine ⟨between, ?_, hkind, fun p hp => by simpa using hnone p hp⟩
  rw [hsplit, ancestorsOf_eq_append hsplit]

theorem typePath_of_enclosing {node around : Node}
    (h : node.enclosing Kind.typeDeclarations = some around) :
    node.typePath = around.typePath ++ [node.declaredName] := by
  obtain ⟨between, hsplit, hkind, hnone⟩ := exists_between_of_enclosing h
  rw [typePath, hsplit, List.filter_append, List.filter_eq_nil_iff.2 hnone, List.nil_append,
    List.filter_cons, if_pos hkind, List.map_cons, List.reverse_cons]
  rfl

theorem spacePath_of_enclosing {node around : Node}
    (h : node.enclosing Kind.typeDeclarations = some around) :
    (around.spacePath file).Sublist (node.spacePath file) := by
  obtain ⟨between, hsplit, -, -⟩ := exists_between_of_enclosing h
  refine List.Sublist.filter _ (.cons_cons _ (List.Sublist.reverse (List.Sublist.map _ ?_)))
  rw [hsplit]
  exact List.Sublist.filter _ ((List.sublist_cons_self ..).trans (List.sublist_append_right ..))

/-- The qualified name of the type around a place is shorter than that of what is declared
there. -/
theorem qualifiedName_length_lt {node around : Node}
    (h : node.enclosing Kind.typeDeclarations = some around) :
    (around.qualifiedName file).length < (node.qualifiedName file).length := by
  rw [qualifiedName_eq_intercalate, qualifiedName_eq_intercalate, typePath_of_enclosing h,
    ← List.append_assoc]
  have hspace : (around.spacePath file).Sublist (node.spacePath file) := spacePath_of_enclosing h
  refine length_intercalate_lt (by simp [typePath_ne_nil])
    ((hspace.append (.refl _)).trans (List.sublist_append_left ..)) ?_
  have hlength := hspace.length_le
  simp only [List.length_append, List.length_singleton]
  omega

end Node

namespace TypeTable

/-- Going from a type to the type around it, as long as there is one, ends with the names met on
the way. -/
inductive Climbs (table : TypeTable) : Option String → List String → Prop
  | top : Climbs table none []
  | hop {outer : String} {names : List String}
      (rest : Climbs table ((table.find? outer).bind (·.outerType)) names) :
      Climbs table (some outer) (outer :: names)

/-- One name is that of the type around the type of another name. -/
def Around (table : TypeTable) (outer inner : String) : Prop :=
  ∃ decl ∈ table, decl.qualifiedName = inner ∧ decl.outerType = some outer

variable {table : TypeTable}

theorem around_of_find? {name outer : String}
    (h : (table.find? name).bind (·.outerType) = some outer) : table.Around outer name := by
  obtain ⟨decl, hfound, houter⟩ := Option.bind_eq_some_iff.1 h
  exact ⟨decl, List.mem_of_find?_eq_some hfound, by simpa using List.find?_some hfound, houter⟩

/-- Where every hop shortens the name, as many hops as the first name has characters are enough to
come to the end. -/
theorem climbs_outerNamesFrom
    (hshorter : ∀ outer inner, table.Around outer inner → outer.length < inner.length)
    (fuel : Nat) (outer? : Option String) (h : ∀ outer, outer? = some outer → outer.length < fuel) :
    table.Climbs outer? (table.outerNamesFrom fuel outer?) := by
  induction fuel generalizing outer? with
  | zero =>
      cases outer? with
      | none => exact .top
      | some outer => exact absurd (h outer rfl) (Nat.not_lt_zero _)
  | succ fuel ih =>
      cases outer? with
      | none => exact .top
      | some outer =>
          refine .hop (ih _ fun next hnext => ?_)
          have hhop := hshorter next outer (around_of_find? hnext)
          have hfuel := h outer rfl
          omega

end TypeTable

namespace SymbolSpace

/-- A type of a file is a type of the table, and the file is one of those that declare it. -/
theorem Outlined.exists_find?_of_declaration {units : List OutlinedFile} (h : Outlined units)
    {unit : OutlinedFile} (hunit : unit ∈ units) {node : Node}
    (hnode : node ∈ unit.file.root.places)
    (hkind : Kind.typeDeclarations.contains node.kind = true) :
    ∃ decl, (typesIn units).find? (node.qualifiedName unit.outline.namespaceName) = some decl ∧
      unit.path ∈ decl.declaringFiles := by
  obtain ⟨file, marker, rfl⟩ := h unit hunit
  have hfragment : Outline.fragment file file.root.fileNamespace node ∈
      (OutlinedFile.ofFile file marker).outline.types :=
    Outline.mem_types_iff.2 ⟨node, hnode, hkind, rfl⟩
  have houtline := List.mem_map_of_mem (f := (·.outline)) hunit
  obtain ⟨decl, hdecl⟩ := Option.isSome_iff_exists.1
    (TypeTable.isSome_find?_iff.2 ⟨_, houtline, _, hfragment, rfl⟩)
  refine ⟨decl, hdecl, ?_⟩
  obtain ⟨hmem, hname⟩ := TypeTable.find?_eq_some_iff.1 hdecl
  obtain ⟨first, rest, hfragments, hmerge⟩ := TypeTable.mem_ofOutlines_iff.1 hmem
  rw [hmerge]
  refine ((TypeDecl.merges_merge first (first :: rest)).declaringFiles _).2
    ⟨Outline.fragment file file.root.fileNamespace node, ?_, rfl⟩
  rw [← hfragments]
  exact TypeTable.mem_fragmentsNamed.2 ⟨⟨_, houtline, hfragment⟩, hname.symm⟩

theorem Outlined.length_lt_of_around {units : List OutlinedFile} (h : Outlined units)
    {outer inner : String} (haround : (typesIn units).Around outer inner) :
    outer.length < inner.length := by
  obtain ⟨decl, hdecl, rfl, houter⟩ := haround
  obtain ⟨file, marker, first, rest, hfirst, -, rfl⟩ := h.declared hdecl
  obtain ⟨node, -, -, rfl⟩ := Outline.mem_types_iff.1 hfirst
  obtain ⟨around, haround, rfl⟩ := Option.map_eq_some_iff.1 houter
  exact Node.qualifiedName_length_lt haround

/-- Nesting has an end. In a corpus of any trees the outer type of a type is itself in the table
and has a shorter name, so nesting is well-founded, and going outwards from a type ends, with the
names that the table computes. The types around a place of a file are in the table and are
declared by that file, whatever other files declare parts of them. -/
theorem nesting_wellFounded (files : List SourceFile) (marker : String) :
    let units := byPath (files.map (.ofFile · marker))
    (∀ decl ∈ typesIn units,
      (∀ outer, decl.outerType = some outer →
        ((typesIn units).find? outer).isSome ∧ outer.length < decl.qualifiedName.length) ∧
      (typesIn units).Climbs decl.outerType ((typesIn units).outerNames decl)) ∧
    WellFounded (typesIn units).Around ∧
    ∀ unit ∈ units, ∀ model : Model, model.unit = unit →
      ∀ node ∈ unit.file.root.places, ∀ name ∈ model.enclosingNames node,
        ∃ decl, (typesIn units).find? name = some decl ∧ unit.path ∈ decl.declaringFiles := by
  intro units
  have houtlined : Outlined units := (outlined_ofFile files marker).byPath
  have hshorter : ∀ outer inner, (typesIn units).Around outer inner →
      outer.length < inner.length := fun _ _ => houtlined.length_lt_of_around
  refine ⟨fun decl hdecl => ⟨fun outer houter => ⟨?_, ?_⟩, ?_⟩, ?_, ?_⟩
  · exact houtlined.isSome_find?_outerType hdecl houter
  · exact hshorter outer _ ⟨decl, hdecl, rfl, houter⟩
  · refine TypeTable.climbs_outerNamesFrom hshorter _ _ fun outer houter => ?_
    exact Nat.lt_succ_of_lt (hshorter outer _ ⟨decl, hdecl, rfl, houter⟩)
  · exact Subrelation.wf (hshorter _ _) (measure String.length).wf
  · rintro unit hunit model rfl node hnode name hname
    obtain ⟨around, haround, rfl⟩ := List.mem_map.1 hname
    obtain ⟨hancestor, hkind⟩ := List.mem_filter.1 haround
    exact houtlined.exists_find?_of_declaration hunit
      (Node.mem_places_of_ancestor hnode hancestor) hkind

end SymbolSpace
end SandboxLint
