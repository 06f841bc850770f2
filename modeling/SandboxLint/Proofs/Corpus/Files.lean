import Mathlib.Data.List.Nodup
import SandboxLint.Proofs.Corpus.Declared
import SandboxLint.Proofs.Sorting

/-!
The files of a symbol space. They stand in the order of their paths, each path once;
where files of one path are the same file, the order in which they came does not
matter.
-/

namespace SandboxLint
namespace SymbolSpace

variable {files : List OutlinedFile}

theorem path_of_mem_ofPairs {pair : String × OutlinedFile}
    (h : pair ∈ Assoc.ofPairs (files.map fun f => (f.path, f))) : pair.1 = pair.2.path := by
  obtain ⟨file, -, rfl⟩ := List.mem_map.1 (Assoc.mem_of_mem_ofPairs h)
  rfl

/-- The files before they are put in order have different paths. -/
theorem nodup_paths (files : List OutlinedFile) :
    ((Assoc.ofPairs (files.map fun f => (f.path, f))).values.map (·.path)).Nodup := by
  have hkeys := (Assoc.keys_ofPairs (files.map fun f => (f.path, f))).1
  rw [Assoc.values, List.map_map]
  rwa [Assoc.keys, List.map_congr_left fun pair hpair => path_of_mem_ofPairs hpair] at hkeys

theorem nodup_paths_byPath (files : List OutlinedFile) :
    ((byPath files).map (·.path)).Nodup :=
  (((List.mergeSort_perm _ _).map _).nodup_iff).2 (nodup_paths files)

/-- A file of a path is among the files by path unless another of that path takes its place. -/
theorem exists_mem_byPath {file : OutlinedFile} (h : file ∈ files) :
    ∃ unit ∈ byPath files, unit.path = file.path := by
  have hkey : file.path ∈ Assoc.keys (Assoc.ofPairs (files.map fun f => (f.path, f))) :=
    ((Assoc.keys_ofPairs _).2 _).2 (List.mem_map.2 ⟨_, List.mem_map_of_mem h, rfl⟩)
  obtain ⟨pair, hpair, hpath⟩ := List.mem_map.1 hkey
  refine ⟨pair.2, List.mem_mergeSort.2 (List.mem_map_of_mem hpair), ?_⟩
  rw [← hpath, path_of_mem_ofPairs hpair]

theorem mem_byPath_iff (hsame : ∀ a ∈ files, ∀ b ∈ files, a.path = b.path → a = b)
    (unit : OutlinedFile) : unit ∈ byPath files ↔ unit ∈ files := by
  refine ⟨mem_of_mem_byPath, fun h => ?_⟩
  obtain ⟨other, hother, hpath⟩ := exists_mem_byPath h
  rwa [← hsame other (mem_of_mem_byPath hother) unit h hpath]

/-- Files that come in another order are the same by path, unless different files have one path. -/
theorem byPath_eq_of_perm {files' : List OutlinedFile} (h : files.Perm files')
    (hsame : ∀ a ∈ files, ∀ b ∈ files, a.path = b.path → a = b) :
    byPath files = byPath files' := by
  have hsame' : ∀ a ∈ files', ∀ b ∈ files', a.path = b.path → a = b := fun a ha b hb =>
    hsame a (h.mem_iff.2 ha) b (h.mem_iff.2 hb)
  have hperm : (Assoc.ofPairs (files.map fun f => (f.path, f))).values.Perm
      (Assoc.ofPairs (files'.map fun f => (f.path, f))).values := by
    refine (List.perm_ext_iff_of_nodup (List.Nodup.of_map _ (nodup_paths files))
      (List.Nodup.of_map _ (nodup_paths files'))).2
      fun unit => ?_
    have hmem := mem_byPath_iff hsame unit
    have hmem' := mem_byPath_iff hsame' unit
    rw [byPath, List.mem_mergeSort] at hmem hmem'
    rw [hmem, hmem', h.mem_iff]
  exact Sorting.mergeSort_key_eq_of_perm hperm (nodup_paths files)

/-- Leaving out paths before or after files are put in order makes no difference. -/
theorem byPath_filter (keep : String → Bool) (files : List OutlinedFile) :
    byPath (files.filter (keep ·.path)) = (byPath files).filter (keep ·.path) := by
  have hpairs : (files.filter (keep ·.path)).map (fun f => (f.path, f)) =
      (files.map fun f => (f.path, f)).filter (keep ·.1) := by
    rw [List.filter_map]
    rfl
  rw [byPath, byPath, hpairs, Assoc.ofPairs_filter,
    ← Sorting.mergeSort_filter (Sorting.key_le_trans OutlinedFile.path)
      (Sorting.key_le_total OutlinedFile.path), Assoc.values, Assoc.values, List.filter_map]
  refine congrArg (fun pairs => (List.map _ pairs).mergeSort _) ?_
  exact List.filter_congr fun pair hpair => congrArg keep (path_of_mem_ofPairs hpair)

end SymbolSpace
end SandboxLint
