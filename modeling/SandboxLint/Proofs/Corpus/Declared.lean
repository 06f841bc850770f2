import SandboxLint.Corpus.SymbolSpace
import SandboxLint.Proofs.Corpus.TypeTable

/-!
What the trees of a corpus say about its types. The declarations around a declared
type are declared by the same file, so the outer type of a type is always known,
and a qualified name ends in the name of its type.
-/

namespace SandboxLint
namespace Node

mutual

theorem ancestors_of_mem_placesIn (above : List Tree) (tree : Tree) {node around : Node}
    (hnode : node ∈ placesIn above tree) (haround : around ∈ node.ancestors) :
    around ∈ placesIn above tree ∨ around ∈ ancestorsOf above := by
  match tree with
  | .node info children =>
      rw [placesIn, List.mem_cons] at hnode ⊢
      cases hnode with
      | inl hself =>
          subst hself
          exact .inr haround
      | inr hbelow =>
          cases ancestors_of_mem_placesInAll _ children hbelow haround with
          | inl hin => exact .inl (.inr hin)
          | inr hup =>
              rw [ancestorsOf, List.mem_cons] at hup
              cases hup with
              | inl hself => exact .inl (.inl hself)
              | inr habove => exact .inr habove

theorem ancestors_of_mem_placesInAll (above : List Tree) (trees : List Tree)
    {node around : Node} (hnode : node ∈ placesInAll above trees)
    (haround : around ∈ node.ancestors) :
    around ∈ placesInAll above trees ∨ around ∈ ancestorsOf above := by
  match trees with
  | [] => cases hnode
  | tree :: rest =>
      rw [placesInAll, List.mem_append] at hnode ⊢
      cases hnode with
      | inl hfirst =>
          cases ancestors_of_mem_placesIn above tree hfirst haround with
          | inl hin => exact .inl (.inl hin)
          | inr hup => exact .inr hup
      | inr hrest =>
          cases ancestors_of_mem_placesInAll above rest hrest haround with
          | inl hin => exact .inl (.inr hin)
          | inr hup => exact .inr hup

end

theorem mem_places_of_ancestor {tree : Tree} {node around : Node}
    (hnode : node ∈ (ofTree tree).places) (haround : around ∈ node.ancestors) :
    around ∈ (ofTree tree).places := by
  cases ancestors_of_mem_placesIn [] tree hnode haround with
  | inl hin => exact hin
  | inr hup => cases hup

/-- A qualified name is the declared name, or ends in it behind a dot. -/
theorem qualifiedName_eq (node : Node) (file : String) :
    node.qualifiedName file = node.declaredName ∨
      ∃ around, node.qualifiedName file = around ++ "." ++ node.declaredName := by
  simp only [qualifiedName, List.map_cons, List.reverse_cons]
  generalize (List.map declaredName
    (node.ancestors.filter fun p => Kind.typeDeclarations.contains p.kind)).reverse = outer
  generalize hparts : (if node.namespaceOf file == "" then outer ++ [node.declaredName]
    else node.namespaceOf file :: (outer ++ [node.declaredName])) = parts
  obtain ⟨front, rfl⟩ : ∃ front, parts = front ++ [node.declaredName] := by
    subst hparts
    split
    · exact ⟨outer, rfl⟩
    · exact ⟨node.namespaceOf file :: outer, rfl⟩
  cases front with
  | nil => exact .inl (by simp)
  | cons part rest =>
      refine .inr ⟨".".intercalate (part :: rest), ?_⟩
      rw [String.intercalate_append_of_ne_nil (by simp) (by simp), String.intercalate_singleton]

end Node

namespace Outline

variable {file : SourceFile} {marker : String}

theorem mem_types_iff {fragment : Fragment} :
    fragment ∈ (ofFile file marker).types ↔
      ∃ node ∈ file.root.places, Kind.typeDeclarations.contains node.kind = true ∧
        Outline.fragment file file.root.fileNamespace node = fragment := by
  simp [ofFile, Node.descendants, and_assoc]

/-- The type around a declared type is declared in the same file. -/
theorem outerType_declared {fragment : Fragment} {outer : String}
    (hfragment : fragment ∈ (ofFile file marker).types) (houter : fragment.outerType = some outer) :
    ∃ around ∈ (ofFile file marker).types, around.qualifiedName = outer := by
  obtain ⟨node, hnode, -, rfl⟩ := mem_types_iff.1 hfragment
  obtain ⟨around, hfound, rfl⟩ := Option.map_eq_some_iff.1 houter
  have hplace := Node.mem_places_of_ancestor hnode (List.mem_of_find?_eq_some hfound)
  have hkind := List.find?_some hfound
  exact ⟨_, mem_types_iff.2 ⟨around, hplace, hkind, rfl⟩, rfl⟩

theorem qualifiedName_of_mem_types {fragment : Fragment}
    (hfragment : fragment ∈ (ofFile file marker).types) :
    fragment.qualifiedName = fragment.name ∨
      ∃ around, fragment.qualifiedName = around ++ "." ++ fragment.name := by
  obtain ⟨node, -, -, rfl⟩ := mem_types_iff.1 hfragment
  exact Node.qualifiedName_eq node _

end Outline

namespace SymbolSpace

theorem mem_of_mem_byPath {files : List OutlinedFile} {unit : OutlinedFile}
    (h : unit ∈ byPath files) : unit ∈ files := by
  obtain ⟨pair, hpair, rfl⟩ := List.mem_map.1 (List.mem_mergeSort.1 h)
  obtain ⟨file, hfile, rfl⟩ := List.mem_map.1 (Assoc.mem_of_mem_ofPairs hpair)
  exact hfile

def Outlined (units : List OutlinedFile) : Prop :=
  ∀ unit ∈ units, ∃ file marker, unit = OutlinedFile.ofFile file marker

theorem outlined_ofFile (files : List SourceFile) (marker : String) :
    Outlined (files.map (.ofFile · marker)) := by
  intro unit hunit
  obtain ⟨file, -, rfl⟩ := List.mem_map.1 hunit
  exact ⟨file, marker, rfl⟩

theorem Outlined.byPath {units : List OutlinedFile} (h : Outlined units) :
    Outlined (byPath units) :=
  fun unit hunit => h unit (mem_of_mem_byPath hunit)

/-- A type of outlined files stands on a fragment that some file declares. -/
theorem Outlined.declared {units : List OutlinedFile} (h : Outlined units) {decl : TypeDecl}
    (hdecl : decl ∈ TypeTable.ofOutlines (units.map (·.outline))) :
    ∃ file marker first rest, first ∈ (Outline.ofFile file marker).types ∧
      Outline.ofFile file marker ∈ units.map (·.outline) ∧
      decl = .merge first (first :: rest) := by
  obtain ⟨first, rest, hfragments, hmerge⟩ := TypeTable.mem_ofOutlines_iff.1 hdecl
  have hfirst : first ∈ TypeTable.fragmentsNamed (units.map (·.outline)) decl.qualifiedName := by
    rw [hfragments]
    exact List.mem_cons_self
  obtain ⟨⟨outline, houtline, hmem⟩, -⟩ := TypeTable.mem_fragmentsNamed.1 hfirst
  obtain ⟨unit, hunit, rfl⟩ := List.mem_map.1 houtline
  obtain ⟨file, marker, rfl⟩ := h unit hunit
  exact ⟨file, marker, first, rest, hmem, houtline, hmerge⟩

/-- The outer type of a nested type is a type of the table. -/
theorem Outlined.isSome_find?_outerType {units : List OutlinedFile} (h : Outlined units)
    {decl : TypeDecl} (hdecl : decl ∈ TypeTable.ofOutlines (units.map (·.outline)))
    {outer : String} (houter : decl.outerType = some outer) :
    ((TypeTable.ofOutlines (units.map (·.outline))).find? outer).isSome := by
  obtain ⟨file, marker, first, rest, hfirst, houtline, rfl⟩ := h.declared hdecl
  obtain ⟨around, haround, hname⟩ := Outline.outerType_declared hfirst houter
  exact TypeTable.isSome_find?_iff.2 ⟨_, houtline, around, haround, hname⟩

theorem Outlined.qualifiedName_eq {units : List OutlinedFile} (h : Outlined units)
    {decl : TypeDecl} (hdecl : decl ∈ TypeTable.ofOutlines (units.map (·.outline))) :
    decl.qualifiedName = decl.name ∨ ∃ around, decl.qualifiedName = around ++ "." ++ decl.name := by
  obtain ⟨file, marker, first, rest, hfirst, -, rfl⟩ := h.declared hdecl
  exact Outline.qualifiedName_of_mem_types hfirst

end SymbolSpace
end SandboxLint
