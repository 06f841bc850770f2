import Mathlib.Data.List.Induction
import Mathlib.Data.Prod.Lex
import Mathlib.Data.String.Basic
import SandboxLint.Proofs.FirstSeen
import SandboxLint.Proofs.Sorting
import SandboxLint.Sink

/-!
What a sink shows of the diagnostics that workers deliver, whatever order their calls come
in. At any time it holds each delivered diagnostic as often as it was delivered and counts
it by its severity; sorted and by file it shows the same diagnostics.
-/

namespace SandboxLint

namespace Assoc

variable {κ α : Type}

theorem keys_concat (pairs : Assoc κ α) (key : κ) (value : α) :
    keys (pairs ++ [(key, value)]) = keys pairs ++ [key] :=
  List.map_append

variable [BEq κ]

theorem groups_concat (pairs : List (κ × α)) (key : κ) (value : α) :
    groups (pairs ++ [(key, value)]) =
      alter (groups pairs) key fun old => old.getD [] ++ [value] := by
  rw [groups, List.foldl_append]
  rfl

/-- Where pairs come by increasing keys, so do their groups, and one group behind the other they
hold the values as they came. -/
theorem groups_of_sorted [LawfulBEq κ] [PartialOrder κ] {pairs : List (κ × α)}
    (h : (keys pairs).Pairwise (· ≤ ·)) :
    (keys (groups pairs)).Pairwise (· < ·) ∧ (groups pairs).flatMap (·.2) = values pairs := by
  induction pairs using List.reverseRecOn with
  | nil => exact ⟨.nil, rfl⟩
  | append_singleton pairs last ih =>
      obtain ⟨key, value⟩ := last
      rw [keys_concat, List.pairwise_append] at h
      obtain ⟨hpairs, -, hlast⟩ := h
      obtain ⟨hkeys, hvalues⟩ := ih hpairs
      have hle : ∀ k ∈ keys (groups pairs), k ≤ key := fun k hk =>
        hlast k (((firstSeen_keys_groups pairs).mem_iff k).1 hk) key (List.mem_singleton_self key)
      have hends : values (pairs ++ [(key, value)]) = values pairs ++ [value] := List.map_append
      rw [groups_concat, hends, ← hvalues]
      generalize groups pairs = found at hkeys hle ⊢
      by_cases hknown : key ∈ keys found
      · -- The key is that of the last group, which takes the value in.
        cases found using List.reverseRecOn with
        | nil => cases hknown
        | append_singleton front last =>
            obtain ⟨k, group⟩ := last
            rw [keys_concat] at hkeys hle hknown
            have hfront : ∀ j ∈ keys front, j < k := fun j hj =>
              (List.pairwise_append.1 hkeys).2.2 j hj k (List.mem_singleton_self k)
            have hbefore : key ∉ keys front := fun hkey =>
              (hfront key hkey).not_ge (hle k (by simp))
            obtain rfl : key = k := by simpa [hbefore] using hknown
            rw [alter_append _ _ hbefore]
            simpa [alter, keys] using hkeys
      · rw [alter_of_new _ hknown, keys_concat]
        refine ⟨List.pairwise_append.2 ⟨hkeys, List.pairwise_singleton _ _, ?_⟩, by simp⟩
        intro k hk other hother
        rw [List.mem_singleton.1 hother]
        exact lt_of_le_of_ne (hle k hk) fun hsame => hknown (hsame ▸ hk)

end Assoc

/-- What diagnostics are ordered by; the severity is left out. -/
def Diagnostic.sortKey (d : Diagnostic) : String ×ₗ Int ×ₗ Int ×ₗ Int ×ₗ String :=
  toLex (d.path, toLex (d.line, toLex (d.column, toLex (d.code, d.message))))

theorem Diagnostic.ordered_iff_sortKey_le (a b : Diagnostic) :
    a.ordered b = true ↔ a.sortKey ≤ b.sortKey := by
  simp only [ordered_iff, sortKey, Prod.Lex.toLex_le_toLex]

namespace Sink

theorem items_extend (sink : Sink) (found : List Diagnostic) :
    (sink.extend found).items = sink.items ++ found := by
  induction found generalizing sink with
  | nil => simp [extend]
  | cons d rest ih =>
      have hstep : sink.extend (d :: rest) = (sink.add d).extend rest := rfl
      rw [hstep, ih]
      simp [add]

/-- The counts of a sink are those of what it holds. -/
def Counted (sink : Sink) : Prop :=
  sink.errorCount = sink.items.countP (·.isError) ∧
    sink.warningCount = sink.items.countP (!·.isError)

theorem counted_extend {sink : Sink} (h : sink.Counted) (found : List Diagnostic) :
    (sink.extend found).Counted := by
  induction found generalizing sink with
  | nil => exact h
  | cons d rest ih =>
      refine ih ⟨?_, ?_⟩
      · by_cases hd : d.isError = true <;> simp [add, hd, h.1]
      · by_cases hd : d.isError = true <;> simp [add, hd, h.2]

theorem sorted_perm (sink : Sink) : sink.sorted.Perm sink.items :=
  List.mergeSort_perm _ _

theorem sorted_ordered (sink : Sink) : sink.sorted.Pairwise (·.sortKey ≤ ·.sortKey) := by
  have hsorted : sink.sorted.Pairwise fun a b => a.ordered b = true :=
    List.pairwise_mergeSort Diagnostic.ordered_trans Diagnostic.ordered_total _
  exact hsorted.imp fun h => (Diagnostic.ordered_iff_sortKey_le _ _).1 h

/-- The sorted diagnostics with the paths by which they are grouped. -/
theorem keys_sorted_ordered (sink : Sink) :
    (Assoc.keys (sink.sorted.map fun d => (d.path, d))).Pairwise (· ≤ ·) := by
  rw [Assoc.keys, List.map_map, List.pairwise_map]
  refine sink.sorted_ordered.imp fun {a b} h => ?_
  simp only [Diagnostic.sortKey, Prod.Lex.toLex_le_toLex] at h
  exact h.elim le_of_lt fun h => le_of_eq h.1

theorem mem_byFile_iff (sink : Sink) (path : String) (group : List Diagnostic) :
    (path, group) ∈ sink.byFile ↔ group = sink.sorted.filter (·.path == path) ∧ group ≠ [] := by
  have hvalues : Assoc.valuesOf (sink.sorted.map fun d => (d.path, d)) path =
      sink.sorted.filter (·.path == path) := by
    simp [Assoc.valuesOf, List.filter_map, Function.comp_def]
  rw [byFile, Assoc.mem_groups_iff, hvalues]

theorem byFile_ordered (sink : Sink) :
    (Assoc.keys sink.byFile).Pairwise (· < ·) ∧ sink.byFile.flatMap (·.2) = sink.sorted := by
  obtain ⟨hkeys, hvalues⟩ := Assoc.groups_of_sorted sink.keys_sorted_ordered
  exact ⟨hkeys, hvalues.trans (by simp [Assoc.values, Function.comp_def])⟩

/-- What a worker does with a sink in one step. -/
inductive Call where
  | add (d : Diagnostic)
  | extend (batch : List Diagnostic)

def Call.delivered : Call → List Diagnostic
  | .add d => [d]
  | .extend batch => batch

def perform (sink : Sink) : Call → Sink
  | .add d => sink.add d
  | .extend batch => sink.extend batch

def performAll (sink : Sink) (calls : List Call) : Sink :=
  calls.foldl perform sink

def delivered (calls : List Call) : List Diagnostic :=
  calls.flatMap Call.delivered

theorem perform_eq_extend (sink : Sink) (call : Call) :
    sink.perform call = sink.extend call.delivered := by
  cases call <;> rfl

theorem items_performAll (sink : Sink) (calls : List Call) :
    (sink.performAll calls).items = sink.items ++ delivered calls := by
  induction calls generalizing sink with
  | nil => simp [performAll, delivered]
  | cons call rest ih =>
      have hstep : sink.performAll (call :: rest) = (sink.perform call).performAll rest := rfl
      rw [hstep, ih, perform_eq_extend, items_extend, List.append_assoc]
      rfl

theorem counted_performAll {sink : Sink} (h : sink.Counted) (calls : List Call) :
    (sink.performAll calls).Counted := by
  induction calls generalizing sink with
  | nil => exact h
  | cons call rest ih =>
      have hstep : sink.performAll (call :: rest) = (sink.perform call).performAll rest := rfl
      rw [hstep, perform_eq_extend]
      exact ih (counted_extend h _)

/-- Workers on their way: each call made is the next one of some worker, and `left` are the calls
that the workers still have to make. -/
inductive Interleaved (workers : List (List Call)) : List Call → List (List Call) → Prop
  | start : Interleaved workers [] workers
  | next {calls worker : List Call} {before after : List (List Call)} {call : Call}
      (made : Interleaved workers calls (before ++ (call :: worker) :: after)) :
      Interleaved workers (calls ++ [call]) (before ++ worker :: after)

/-- What was delivered and what is still to come is what the workers deliver. -/
theorem Interleaved.delivered_perm {workers left : List (List Call)} {calls : List Call}
    (h : Interleaved workers calls left) :
    (delivered calls ++ delivered left.flatten).Perm (delivered workers.flatten) := by
  induction h with
  | start => exact .refl _
  | @next calls worker before after call made ih =>
      refine List.Perm.trans ?_ ih
      simp only [delivered, List.flatMap_append, List.flatten_append, List.flatten_cons,
        List.flatMap_cons, List.flatMap_nil, List.append_nil, List.append_assoc]
      exact (List.perm_append_comm_assoc _ _ _).append_left _

/-- Whatever order the calls of workers come in, at any time the sink holds and counts what was
delivered, sorts it by path, line, column, code and message, and shows the same by file. -/
theorem interleaved_exact {workers left : List (List Call)} {calls : List Call}
    (h : Interleaved workers calls left) :
    (delivered calls ++ delivered left.flatten).Perm (delivered workers.flatten) ∧
    (performAll {} calls).size = (delivered calls).length ∧
    (performAll {} calls).errorCount = (delivered calls).countP (·.severity == .error) ∧
    (performAll {} calls).warningCount = (delivered calls).countP (·.severity != .error) ∧
    (performAll {} calls).sorted.Perm (delivered calls) ∧
    (performAll {} calls).sorted.Pairwise (·.sortKey ≤ ·.sortKey) ∧
    (Assoc.keys (performAll {} calls).byFile).Pairwise (· < ·) ∧
    (∀ path group, (path, group) ∈ (performAll {} calls).byFile ↔
      group = (performAll {} calls).sorted.filter (·.path == path) ∧ group ≠ []) ∧
    (performAll {} calls).byFile.flatMap (·.2) = (performAll {} calls).sorted := by
  have hitems : (performAll {} calls).items = delivered calls := by
    simp [items_performAll]
  have hempty : ({} : Sink).Counted := ⟨rfl, rfl⟩
  obtain ⟨herrors, hwarnings⟩ := counted_performAll hempty calls
  obtain ⟨hkeys, hvalues⟩ := (performAll {} calls).byFile_ordered
  rw [hitems] at herrors hwarnings
  exact ⟨h.delivered_perm, by rw [size, hitems], herrors, hwarnings, hitems ▸ sorted_perm _,
    sorted_ordered _, hkeys, mem_byFile_iff _, hvalues⟩

section Post

def postThrow : Diagnostic :=
  { path := "Assets/Lamp.cs", line := 4, column := 9, severity := .error, code := 2,
    message := "Throw statements are not supported" }

def postText : Diagnostic :=
  { path := "Assets/Door.cs", line := 7, column := 5, severity := .warning, code := 14,
    message := "May not be exposed" }

/-- Two workers, of which both deliver the same error. -/
def postWorkers : List (List Call) :=
  [[.add postThrow, .extend [postText, postThrow]], [.extend [], .add postThrow]]

theorem interleaved_post : Interleaved postWorkers
    [.add postThrow, .extend [], .extend [postText, postThrow], .add postThrow] [[], []] := by
  have hfirst : Interleaved postWorkers [.add postThrow]
      [[.extend [postText, postThrow]], [.extend [], .add postThrow]] :=
    @Interleaved.next _ [] _ [] _ _ .start
  have hsecond : Interleaved postWorkers [.add postThrow, .extend []]
      [[.extend [postText, postThrow]], [.add postThrow]] :=
    @Interleaved.next _ _ _ [[.extend [postText, postThrow]]] [] _ hfirst
  have hthird : Interleaved postWorkers
      [.add postThrow, .extend [], .extend [postText, postThrow]] [[], [.add postThrow]] :=
    @Interleaved.next _ _ _ [] _ _ hsecond
  exact @Interleaved.next _ _ _ [[]] [] _ hthird

theorem interleaved_exact_post :
    Interleaved postWorkers
      [.add postThrow, .extend [], .extend [postText, postThrow], .add postThrow] [[], []] ∧
    let sink := performAll {}
      [.add postThrow, .extend [], .extend [postText, postThrow], .add postThrow]
    sink.size = 4 ∧ sink.errorCount = 3 ∧ sink.warningCount = 1 ∧
      sink.sorted.Perm [postThrow, postText, postThrow, postThrow] ∧
      sink.byFile.flatMap (·.2) = sink.sorted := by
  obtain ⟨-, hsize, herrors, hwarnings, hsorted, -, -, -, hvalues⟩ :=
    interleaved_exact interleaved_post
  exact ⟨interleaved_post, hsize, herrors, hwarnings, hsorted, hvalues⟩

end Post

end Sink

end SandboxLint
