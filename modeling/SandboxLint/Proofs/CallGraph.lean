import SandboxLint.CallGraph
import SandboxLint.Proofs.Assoc
import SandboxLint.Proofs.Sorting

/-!
The edges of a call graph. A file is a helper exactly when the scan of an entry file
succeeds and leads there; the order in which edges come into the graph does not matter.
-/

namespace SandboxLint
namespace CallGraph

/-- Graphs with the same edges, whatever order these came in. -/
structure SameEdges (a b : CallGraph) : Prop where
  helpers : ∀ helper, helper ∈ Assoc.keys a ↔ helper ∈ Assoc.keys b
  callers : ∀ helper caller, caller ∈ a.callersOf helper ↔ caller ∈ b.callersOf helper

theorem mem_keys_addEdges {graph : CallGraph} {entry helper : String} {helpers : List String} :
    helper ∈ Assoc.keys (graph.addEdges entry helpers) ↔
      helper ∈ Assoc.keys graph ∨ helper ∈ helpers := by
  induction helpers generalizing graph with
  | nil => simp [addEdges]
  | cons first rest ih =>
      rw [addEdges, List.foldl_cons, ← addEdges, ih, Assoc.keys_alter]
      split <;> grind

theorem mem_callersOf_addEdges {graph : CallGraph} {entry helper caller : String}
    {helpers : List String} :
    caller ∈ (graph.addEdges entry helpers).callersOf helper ↔
      caller ∈ graph.callersOf helper ∨ caller = entry ∧ helper ∈ helpers := by
  induction helpers generalizing graph with
  | nil => simp [addEdges]
  | cons first rest ih =>
      rw [addEdges, List.foldl_cons, ← addEdges, ih, callersOf]
      by_cases hfirst : helper = first
      · subst hfirst
        rw [Assoc.get?_alter_self]
        simp only [Option.getD_some, callersOf]
        split <;> grind
      · rw [Assoc.get?_alter_of_ne _ _ hfirst]
        simp [callersOf, hfirst]

namespace SameEdges

variable {a b c : CallGraph}

theorem refl (a : CallGraph) : SameEdges a a :=
  ⟨fun _ => .rfl, fun _ _ => .rfl⟩

theorem trans (hab : SameEdges a b) (hbc : SameEdges b c) : SameEdges a c :=
  ⟨fun helper => (hab.helpers helper).trans (hbc.helpers helper),
    fun helper caller => (hab.callers helper caller).trans (hbc.callers helper caller)⟩

theorem addEdges (h : SameEdges a b) (entry : String) (helpers : List String) :
    SameEdges (a.addEdges entry helpers) (b.addEdges entry helpers) where
  helpers helper := by rw [mem_keys_addEdges, mem_keys_addEdges, h.helpers]
  callers helper caller := by rw [mem_callersOf_addEdges, mem_callersOf_addEdges, h.callers]

theorem addEdges_comm (graph : CallGraph) (entry entry' : String) (helpers helpers' : List String) :
    SameEdges ((graph.addEdges entry helpers).addEdges entry' helpers')
      ((graph.addEdges entry' helpers').addEdges entry helpers) where
  helpers helper := by
    simp only [mem_keys_addEdges]
    rw [or_right_comm]
  callers helper caller := by
    simp only [mem_callersOf_addEdges]
    rw [or_right_comm]

theorem helperFiles_eq (h : SameEdges a b) : a.helperFiles = b.helperFiles :=
  Text.sortedSet_eq_of_mem_iff h.helpers

end SameEdges

theorem nodup_helperFiles (graph : CallGraph) : graph.helperFiles.Nodup :=
  (List.mergeSort_perm _ _).nodup_iff.2 (Text.nodup_eraseDups _)

def addScans (graph : CallGraph) (corpus : Corpus) (entries : List String) : CallGraph :=
  entries.foldl
    (fun graph entry =>
      match scan corpus entry with
      | .ok helpers => graph.addEdges entry helpers
      | .error _ => graph)
    graph

theorem buildTolerant_eq (corpus : Corpus) (entries : List String) :
    (buildTolerant corpus entries).1 = addScans [] corpus (Text.sorted entries) :=
  List.foldl_map

/-- Whether an entry file calls into a helper file. -/
def Calls (corpus : Corpus) (entry helper : String) : Prop :=
  ∃ helpers, scan corpus entry = .ok helpers ∧ helper ∈ helpers

theorem mem_keys_addScans {graph : CallGraph} {corpus : Corpus} {entries : List String}
    {helper : String} : helper ∈ Assoc.keys (graph.addScans corpus entries) ↔
      helper ∈ Assoc.keys graph ∨ ∃ entry ∈ entries, Calls corpus entry helper := by
  induction entries generalizing graph with
  | nil => simp [addScans]
  | cons first rest ih =>
      rw [addScans, List.foldl_cons, ← addScans, ih]
      cases hscan : scan corpus first with
      | ok helpers => simp [mem_keys_addEdges, Calls, hscan, or_assoc]
      | error fault => simp [Calls, hscan]

theorem mem_callersOf_addScans {graph : CallGraph} {corpus : Corpus} {entries : List String}
    {helper caller : String} : caller ∈ (graph.addScans corpus entries).callersOf helper ↔
      caller ∈ graph.callersOf helper ∨ caller ∈ entries ∧ Calls corpus caller helper := by
  induction entries generalizing graph with
  | nil => simp [addScans]
  | cons first rest ih =>
      rw [addScans, List.foldl_cons, ← addScans, ih, List.mem_cons, or_and_right, ← or_assoc]
      refine or_congr_left ?_
      cases hscan : scan corpus first with
      | ok helpers =>
          rw [mem_callersOf_addEdges]
          refine or_congr_right (and_congr_right fun hcaller => ?_)
          simp [Calls, hcaller, hscan]
      | error fault =>
          refine ⟨.inl, fun h => h.resolve_right ?_⟩
          rintro ⟨rfl, helpers, hhelpers, -⟩
          rw [hscan] at hhelpers
          cases hhelpers

theorem mem_helperFiles_buildTolerant {corpus : Corpus} {entries : List String}
    {helper : String} : helper ∈ (buildTolerant corpus entries).1.helperFiles ↔
      ∃ entry ∈ entries, Calls corpus entry helper := by
  rw [helperFiles, Text.sortedSet, Text.sorted, List.mem_mergeSort, List.mem_eraseDups,
    buildTolerant_eq, mem_keys_addScans]
  simp [Assoc.keys, Text.sorted]

theorem addEdges_filter (keep : String → Bool) (graph : CallGraph) (entry : String)
    (helpers : List String) :
    (graph.addEdges entry helpers).filter (keep ·.1) =
      addEdges (graph.filter (keep ·.1)) entry (helpers.filter keep) := by
  induction helpers generalizing graph with
  | nil => rfl
  | cons first rest ih =>
      rw [addEdges, List.foldl_cons, ← addEdges, ih, Assoc.filter_alter]
      by_cases hkeep : keep first = true
      · rw [if_pos hkeep, List.filter_cons_of_pos hkeep, addEdges, addEdges, List.foldl_cons]
      · rw [if_neg hkeep, List.filter_cons_of_neg hkeep]

/-- Entry files that call into their own side only: what one side is called by depends on its own
entry files alone. -/
theorem addScans_filter {corpus corpus' : Corpus} {keep : String → Bool} {entries : List String}
    (hscan : ∀ entry ∈ entries, keep entry = true → scan corpus' entry = scan corpus entry)
    (hside : ∀ entry ∈ entries, ∀ helper, Calls corpus entry helper → keep helper = keep entry)
    (graph : CallGraph) :
    (graph.addScans corpus entries).filter (keep ·.1) =
      addScans (graph.filter (keep ·.1)) corpus' (entries.filter keep) := by
  induction entries generalizing graph with
  | nil => rfl
  | cons first rest ih =>
      obtain ⟨hfirst, hrest⟩ := List.forall_mem_cons.1 hscan
      obtain ⟨hcalls, hside⟩ := List.forall_mem_cons.1 hside
      rw [addScans, List.foldl_cons, ← addScans, ih hrest hside]
      have hkept : ∀ helpers, scan corpus first = .ok helpers → ∀ helper ∈ helpers,
          keep helper = keep first :=
        fun helpers hhelpers helper hhelper => hcalls helper ⟨helpers, hhelpers, hhelper⟩
      cases hkeep : keep first with
      | true =>
          -- A kept entry keeps all its helpers, so the filter takes no edge from its scan.
          rw [List.filter_cons_of_pos hkeep, addScans, addScans, List.foldl_cons,
            hfirst hkeep]
          cases hresult : scan corpus first with
          | error fault => rfl
          | ok helpers =>
              have hall : helpers.filter keep = helpers :=
                List.filter_eq_self.2 fun helper hhelper =>
                  (hkept helpers hresult helper hhelper).trans hkeep
              simp only [addEdges_filter, hall]
      | false =>
          -- A dropped entry leads to dropped helpers only, so its scan leaves nothing behind.
          rw [List.filter_cons_of_neg (by simp [hkeep])]
          cases hresult : scan corpus first with
          | error fault => rfl
          | ok helpers =>
              have hnone : helpers.filter keep = [] :=
                List.filter_eq_nil_iff.2 fun helper hhelper => by
                  simp [hkept helpers hresult helper hhelper, hkeep]
              simp only [addEdges_filter, hnone]
              rfl

/-- The order in which entry files are scanned does not matter. -/
theorem SameEdges.addScans {a b : CallGraph} (h : SameEdges a b) (corpus : Corpus)
    {entries entries' : List String} (hentries : ∀ entry, entry ∈ entries ↔ entry ∈ entries') :
    SameEdges (a.addScans corpus entries) (b.addScans corpus entries') where
  helpers helper := by
    rw [mem_keys_addScans, mem_keys_addScans, h.helpers]
    simp only [hentries]
  callers helper caller := by
    rw [mem_callersOf_addScans, mem_callersOf_addScans, h.callers, hentries]

end CallGraph
end SandboxLint
