import SandboxLint.Proofs.CallGraph
import SandboxLint.Proofs.Run.Completion

/-!
Entry files scanned by several workers at once. A worker follows the calls of its
file one by one; only when all of them were followed it adds the edges that it found
to the graph that the workers share, and the first call that cannot be followed ends
it with a report. Which worker makes the next step is open. What the graph holds and
what the workers still owe it are together the same after every step, so the graph is
exact in the end, and no file that cannot be scanned has an edge in it at any time.
-/

namespace SandboxLint

theorem Assoc.alter_eq_self {κ α : Type} [BEq κ] [LawfulBEq κ] {pairs : Assoc κ α} {key : κ}
    {value : α} {f : Option α → α} (hvalue : pairs.get? key = some value)
    (hf : f (some value) = value) : pairs.alter key f = pairs := by
  induction pairs with
  | nil => cases hvalue
  | cons pair rest ih =>
      obtain ⟨k, v⟩ := pair
      by_cases hk : k = key
      · subst hk
        have hv : v = value := by simpa [get?] using hvalue
        simp [alter, hv, hf]
      · have hne : (key == k) = false := by simpa using Ne.symm hk
        have hrest : get? rest key = some value := by
          simpa [get?, List.lookup_cons, hne] using hvalue
        simp [alter, hk, ih hrest]

theorem Text.sortedSet_strict (texts : List String) : (sortedSet texts).Pairwise (· < ·) := by
  have hnodup : (texts.eraseDups.map id).Nodup := (List.map_id _).symm ▸ nodup_eraseDups texts
  rw [← List.map_id (sortedSet texts)]
  exact Sorting.strict_mergeSort_key hnodup

namespace CallGraph

theorem mem_helperFiles {graph : CallGraph} {helper : String} :
    helper ∈ graph.helperFiles ↔ helper ∈ Assoc.keys graph := by
  simp [helperFiles, Text.sortedSet, Text.sorted]

/-- A call that leads from an entry file to a helper file: it invokes a static method that the
helper file declares. -/
def LeadsTo (model : Model) (entry helper : String) (call : Node) : Prop :=
  ∃ symbol, model.invocation call = .ok (some symbol) ∧ symbol.kind = .method ∧
    symbol.isStatic = true ∧ symbol.path = helper ∧ helper ≠ entry

theorem helperOf_eq_some {entry helper : String} {symbol? : Option Symbol} :
    helperOf entry symbol? = some helper ↔ ∃ symbol, symbol? = some symbol ∧
      symbol.kind = .method ∧ symbol.isStatic = true ∧ symbol.path = helper ∧ helper ≠ entry := by
  rw [helperOf, Option.bind_eq_some_iff]
  refine exists_congr fun symbol => and_congr_right fun _ => ?_
  constructor
  · intro h
    obtain ⟨hkept, hpath⟩ := (Option.ite_none_right_eq_some (p := _ = true)).1 h
    cases hpath
    simpa [and_assoc] using hkept
  · rintro ⟨hkind, hstatic, rfl, hother⟩
    simp [hkind, hstatic, hother]

/-- A file calls into another exactly when all its calls can be followed and one leads there. -/
theorem calls_iff {corpus : Corpus} {entry helper : String} :
    Calls corpus entry helper ↔ ∃ model, corpus.model? entry = some model ∧
      (∀ call ∈ model.unit.file.root.descendants ["invocation_expression"],
        ∃ symbol?, model.invocation call = .ok symbol?) ∧
      ∃ call ∈ model.unit.file.root.descendants ["invocation_expression"],
        LeadsTo model entry helper call := by
  rw [Calls, scan]
  cases hmodel : corpus.model? entry with
  | none => simp
  | some model =>
      simp only [Option.some.injEq, exists_eq_left']
      constructor
      · rintro ⟨helpers, hscan, hhelper⟩
        obtain ⟨symbols, hsymbols, hhelpers⟩ := Fallible.bind_eq_ok.1 hscan
        cases hhelpers
        refine ⟨Fallible.mapM_isOk_iff.1 ⟨symbols, hsymbols⟩, ?_⟩
        obtain ⟨symbol?, hsymbol, hfound⟩ := List.mem_filterMap.1 hhelper
        obtain ⟨call, hcall, hinvoked⟩ := (Fallible.mem_of_mapM hsymbols).1 hsymbol
        obtain ⟨symbol, rfl, hleads⟩ := helperOf_eq_some.1 hfound
        exact ⟨call, hcall, symbol, hinvoked, hleads⟩
      · rintro ⟨hall, call, hcall, symbol, hinvoked, hleads⟩
        obtain ⟨symbols, hsymbols⟩ := Fallible.mapM_isOk_iff.2 hall
        refine ⟨_, Fallible.bind_eq_ok.2 ⟨symbols, hsymbols, rfl⟩, List.mem_filterMap.2 ?_⟩
        exact ⟨some symbol, (Fallible.mem_of_mapM hsymbols).2 ⟨call, hcall, hinvoked⟩,
          helperOf_eq_some.2 ⟨symbol, rfl, hleads⟩⟩

theorem addEdges_eq_self {graph : CallGraph} {entry : String} {helpers : List String}
    (h : ∀ helper ∈ helpers, entry ∈ graph.callersOf helper) :
    graph.addEdges entry helpers = graph := by
  induction helpers with
  | nil => rfl
  | cons helper rest ih =>
      obtain ⟨hhelper, hrest⟩ := List.forall_mem_cons.1 h
      have hfirst : graph.addEdges entry [helper] = graph := by
        rw [callersOf] at hhelper
        cases hcallers : Assoc.get? graph helper with
        | none => simp [hcallers] at hhelper
        | some callers =>
            have hknown : entry ∈ callers := by simpa [hcallers] using hhelper
            exact Assoc.alter_eq_self hcallers (by simp [hknown])
      calc graph.addEdges entry (helper :: rest)
          = (graph.addEdges entry [helper]).addEdges entry rest := rfl
        _ = graph := by rw [hfirst, ih hrest]

/-- How far a worker has come with its file: calls that it still has to follow, with the helper
files found so far, or edges that it still has to add. -/
inductive Stage where
  | following (model : Model) (calls : List Node) (found : List String)
  | adding (helpers : List String)
  | ended

structure Worker where
  entry : String
  stage : Stage

/-- What the workers share: the graph, and the files reported as not to be scanned. -/
structure Shared where
  graph : CallGraph := []
  reports : List (String × Fault) := []

namespace Worker

def start (corpus : Corpus) (entry : String) : Worker :=
  match corpus.model? entry with
  | none => ⟨entry, .ended⟩
  | some model =>
      ⟨entry, .following model (model.unit.file.root.descendants ["invocation_expression"]) []⟩

/-- One step of a worker. Edges come into the graph one at a time, so those of several workers may
mix; that they are added under a lock only rules some of these orders out. -/
def step (worker : Worker) (shared : Shared) : Worker × Shared :=
  match worker.stage with
  | .following model (call :: calls) found =>
      match model.invocation call with
      | .ok symbol? =>
          let found := found ++ (helperOf worker.entry symbol?).toList
          (⟨worker.entry, .following model calls found⟩, shared)
      | .error fault =>
          (⟨worker.entry, .ended⟩,
            { shared with reports := shared.reports ++ [(worker.entry, fault)] })
  | .following _ [] found => (⟨worker.entry, .adding found⟩, shared)
  | .adding (helper :: helpers) =>
      (⟨worker.entry, .adding helpers⟩,
        { shared with graph := shared.graph.addEdges worker.entry [helper] })
  | .adding [] => (⟨worker.entry, .ended⟩, shared)
  | .ended => (worker, shared)

/-- What a worker will still add to the graph, or the fault that it will still report. -/
def rest (worker : Worker) : Except Fault (List String) :=
  match worker.stage with
  | .following model calls found => do
      return found ++ (← calls.mapM model.invocation).filterMap (helperOf worker.entry)
  | .adding helpers => .ok helpers
  | .ended => .ok []

/-- Whether a worker still has to add an edge. -/
def Owes (worker : Worker) (caller helper : String) : Prop :=
  worker.entry = caller ∧ ∃ helpers, worker.rest = .ok helpers ∧ helper ∈ helpers

/-- The report that a worker still has to make, if any. -/
def dueReports (worker : Worker) : List (String × Fault) :=
  Corpus.faultsOf [(worker.entry, worker.rest)]

theorem entry_start (corpus : Corpus) (entry : String) : (start corpus entry).entry = entry := by
  rw [start]
  split <;> rfl

theorem rest_start (corpus : Corpus) (entry : String) :
    (start corpus entry).rest = scan corpus entry := by
  rw [start, scan]
  cases corpus.model? entry with
  | none => rfl
  | some model => simp [rest]

theorem owes_start {corpus : Corpus} {entry caller helper : String} :
    (start corpus entry).Owes caller helper ↔ entry = caller ∧ Calls corpus entry helper := by
  rw [Owes, entry_start, rest_start, Calls]

section Rest

variable {entry : String} {model : Model} {call : Node} {calls : List Node} {found : List String}

@[simp] theorem rest_ended : rest ⟨entry, .ended⟩ = .ok [] := rfl

@[simp] theorem rest_adding : rest ⟨entry, .adding found⟩ = .ok found := rfl

@[simp] theorem rest_followed : rest ⟨entry, .following model [] found⟩ = .ok found := by
  simp [rest, bind, Except.bind, pure, Except.pure]

theorem rest_follow {symbol? : Option Symbol} (h : model.invocation call = .ok symbol?) :
    rest ⟨entry, .following model (call :: calls) found⟩ =
      rest ⟨entry, .following model calls (found ++ (helperOf entry symbol?).toList)⟩ := by
  simp only [rest, List.mapM_cons, h]
  cases calls.mapM model.invocation with
  | error fault => rfl
  | ok symbols =>
      cases hhelper : helperOf entry symbol? <;>
        simp [bind, Except.bind, pure, Except.pure, hhelper]

theorem rest_fault {fault : Fault} (h : model.invocation call = .error fault) :
    rest ⟨entry, .following model (call :: calls) found⟩ = .error fault := by
  simp only [rest, List.mapM_cons, h]
  rfl

end Rest

/-- A step moves an edge from what the worker owes into the graph, or leaves both alone. -/
theorem step_callers (worker : Worker) (shared : Shared) (caller helper : String) :
    caller ∈ (worker.step shared).2.graph.callersOf helper ∨
        (worker.step shared).1.Owes caller helper ↔
      caller ∈ shared.graph.callersOf helper ∨ worker.Owes caller helper := by
  obtain ⟨entry, stage⟩ := worker
  match stage with
  | .following model (call :: calls) found =>
      cases hcall : model.invocation call with
      | ok symbol? => simp only [step, hcall, Owes, rest_follow hcall]
      | error fault => simp [step, hcall, Owes, rest_fault hcall]
  | .adding (first :: helpers) =>
      simp only [step, Owes, rest_adding, mem_callersOf_addEdges, Except.ok.injEq,
        exists_eq_left', List.mem_cons]
      grind
  | .following _ [] _ | .adding [] | .ended => simp [step, Owes]

theorem step_reports (worker : Worker) (shared : Shared) :
    (worker.step shared).2.reports ++ (worker.step shared).1.dueReports =
      shared.reports ++ worker.dueReports := by
  obtain ⟨entry, stage⟩ := worker
  match stage with
  | .following model (call :: calls) found =>
      cases hcall : model.invocation call with
      | ok symbol? => simp only [step, hcall, dueReports, rest_follow hcall]
      | error fault => simp [step, hcall, dueReports, rest_fault hcall, Corpus.faultsOf]
  | .following _ [] _ | .adding (_ :: _) | .adding [] | .ended =>
      simp [step, dueReports, Corpus.faultsOf]

/-- What a worker leaves to the others when it comes to its end undisturbed. -/
def settle (worker : Worker) (shared : Shared) : Shared :=
  match worker.rest with
  | .ok helpers => { shared with graph := shared.graph.addEdges worker.entry helpers }
  | .error fault => { shared with reports := shared.reports ++ [(worker.entry, fault)] }

def steps (worker : Worker) (shared : Shared) : Nat → Worker × Shared
  | 0 => (worker, shared)
  | count + 1 => (worker.step shared).1.steps (worker.step shared).2 count

theorem exists_steps_adding (entry : String) (helpers : List String) (shared : Shared) :
    ∃ count, steps ⟨entry, .adding helpers⟩ shared count =
      (⟨entry, .ended⟩, { shared with graph := shared.graph.addEdges entry helpers }) := by
  induction helpers generalizing shared with
  | nil => exact ⟨1, rfl⟩
  | cons helper rest ih =>
      obtain ⟨count, hcount⟩ :=
        ih { shared with graph := shared.graph.addEdges entry [helper] }
      exact ⟨count + 1, hcount⟩

theorem exists_steps_following (entry : String) (model : Model) (calls : List Node)
    (found : List String) (shared : Shared) :
    ∃ count, steps ⟨entry, .following model calls found⟩ shared count =
      (⟨entry, .ended⟩, settle ⟨entry, .following model calls found⟩ shared) := by
  induction calls generalizing found with
  | nil =>
      obtain ⟨count, hcount⟩ := exists_steps_adding entry found shared
      refine ⟨count + 1, ?_⟩
      simpa only [steps, step, settle, rest_followed] using hcount
  | cons call calls ih =>
      cases hcall : model.invocation call with
      | error fault =>
          refine ⟨1, ?_⟩
          simp only [steps, step, hcall, settle, rest_fault hcall]
      | ok symbol? =>
          obtain ⟨count, hcount⟩ := ih (found ++ (helperOf entry symbol?).toList)
          refine ⟨count + 1, ?_⟩
          simpa only [steps, step, hcall, settle, rest_follow hcall] using hcount

theorem exists_steps (worker : Worker) (shared : Shared) :
    ∃ count, worker.steps shared count = (⟨worker.entry, .ended⟩, worker.settle shared) := by
  obtain ⟨entry, stage⟩ := worker
  match stage with
  | .following model calls found => exact exists_steps_following entry model calls found shared
  | .adding helpers => exact exists_steps_adding entry helpers shared
  | .ended => exact ⟨0, by simp [steps, settle, addEdges]⟩

end Worker

/-- No helper file stands in the graph without a caller. -/
def Called (graph : CallGraph) : Prop :=
  ∀ helper ∈ Assoc.keys graph, ∃ caller, caller ∈ graph.callersOf helper

theorem Called.addEdges {graph : CallGraph} (h : graph.Called) (entry : String)
    (helpers : List String) : (graph.addEdges entry helpers).Called := by
  intro helper hhelper
  simp only [mem_callersOf_addEdges]
  cases mem_keys_addEdges.1 hhelper with
  | inl hold =>
      obtain ⟨caller, hcaller⟩ := h helper hold
      exact ⟨caller, .inl hcaller⟩
  | inr hnew => exact ⟨entry, .inr ⟨rfl, hnew⟩⟩

theorem Called.step {shared : Shared} (h : shared.graph.Called) (worker : Worker) :
    (worker.step shared).2.graph.Called := by
  obtain ⟨entry, stage⟩ := worker
  match stage with
  | .following model (call :: calls) found =>
      cases hcall : model.invocation call <;> simpa only [Worker.step, hcall] using h
  | .adding (helper :: helpers) => exact h.addEdges entry [helper]
  | .following _ [] _ | .adding [] | .ended => exact h

/-- The workers on some entry files with what they share. -/
structure Scanning extends Shared where
  workers : List Worker

namespace Scanning

def start (corpus : Corpus) (entries : List String) : Scanning :=
  { workers := (Text.sorted entries).map (Worker.start corpus) }

/-- The worker at a place of the list makes a step. -/
def turn (scanning : Scanning) (place : Nat) : Scanning :=
  match scanning.workers[place]? with
  | none => scanning
  | some worker =>
      let (worker, shared) := worker.step scanning.toShared
      { shared with workers := scanning.workers.set place worker }

/-- A schedule: the workers make steps in the order of their places given. -/
def run (scanning : Scanning) (turns : List Nat) : Scanning :=
  turns.foldl turn scanning

def Ended (scanning : Scanning) : Prop :=
  ∀ worker ∈ scanning.workers, worker.stage = .ended

theorem turn_append (shared : Shared) (before after : List Worker) (worker : Worker) :
    turn ⟨shared, before ++ worker :: after⟩ before.length =
      ⟨(worker.step shared).2, before ++ (worker.step shared).1 :: after⟩ := by
  simp [turn]

theorem turn_cases (scanning : Scanning) (place : Nat) :
    scanning.turn place = scanning ∨ ∃ before worker after,
      scanning.workers = before ++ worker :: after ∧
      scanning.turn place = ⟨(worker.step scanning.toShared).2,
        before ++ (worker.step scanning.toShared).1 :: after⟩ := by
  obtain ⟨shared, workers⟩ := scanning
  by_cases hplace : place < workers.length
  · have hworkers : workers = workers.take place ++ workers[place] :: workers.drop (place + 1) := by
      rw [List.getElem_cons_drop, List.take_append_drop]
    have hlength : (workers.take place).length = place := by
      rw [List.length_take, Nat.min_eq_left (Nat.le_of_lt hplace)]
    refine .inr ⟨_, _, _, hworkers, ?_⟩
    have hturn := turn_append shared (workers.take place) (workers.drop (place + 1)) workers[place]
    rwa [← hworkers, hlength] at hturn
  · exact .inl (by simp [turn, Nat.not_lt.1 hplace])

/-- The edges of the graph together with those that a worker still has to add. -/
def Accounts (scanning : Scanning) (caller helper : String) : Prop :=
  caller ∈ scanning.graph.callersOf helper ∨
    ∃ worker ∈ scanning.workers, worker.Owes caller helper

def allReports (scanning : Scanning) : List (String × Fault) :=
  scanning.reports ++ scanning.workers.flatMap (·.dueReports)

theorem accounts_turn (scanning : Scanning) (place : Nat) (caller helper : String) :
    (scanning.turn place).Accounts caller helper ↔ scanning.Accounts caller helper := by
  obtain hsame | ⟨before, worker, after, hworkers, hturn⟩ := scanning.turn_cases place
  · rw [hsame]
  · -- Only this worker moves, so the edges that the others owe are on both sides.
    have hstep := worker.step_callers scanning.toShared caller helper
    rw [hturn, Accounts, Accounts, hworkers]
    simp only [List.mem_append, List.mem_cons, or_and_right, exists_or, exists_eq_left]
    grind

theorem allReports_turn (scanning : Scanning) (place : Nat) :
    (scanning.turn place).allReports.Perm scanning.allReports := by
  obtain hsame | ⟨before, worker, after, hworkers, hturn⟩ := scanning.turn_cases place
  · rw [hsame]
  · rw [hturn, allReports, allReports, hworkers, List.perm_iff_count]
    intro report
    have hstep := congrArg (List.count report) (worker.step_reports scanning.toShared)
    simp only [List.flatMap_append, List.flatMap_cons, List.count_append] at hstep ⊢
    omega

theorem called_turn {scanning : Scanning} (h : scanning.graph.Called) (place : Nat) :
    (scanning.turn place).graph.Called := by
  obtain hsame | ⟨before, worker, after, -, hturn⟩ := scanning.turn_cases place
  · rwa [hsame]
  · rw [hturn]
    exact Called.step h worker

theorem accounts_run (scanning : Scanning) (turns : List Nat) (caller helper : String) :
    (scanning.run turns).Accounts caller helper ↔ scanning.Accounts caller helper := by
  induction turns generalizing scanning with
  | nil => rfl
  | cons place turns ih => exact (ih (scanning.turn place)).trans (accounts_turn ..)

theorem allReports_run (scanning : Scanning) (turns : List Nat) :
    (scanning.run turns).allReports.Perm scanning.allReports := by
  induction turns generalizing scanning with
  | nil => exact .refl _
  | cons place turns ih => exact (ih (scanning.turn place)).trans (allReports_turn ..)

theorem called_run {scanning : Scanning} (h : scanning.graph.Called) (turns : List Nat) :
    (scanning.run turns).graph.Called := by
  induction turns generalizing scanning with
  | nil => exact h
  | cons place turns ih => exact ih (called_turn h place)

theorem accounts_start {corpus : Corpus} {entries : List String} {caller helper : String} :
    (start corpus entries).Accounts caller helper ↔
      caller ∈ entries ∧ Calls corpus caller helper := by
  have hempty : caller ∉ callersOf [] helper := by simp [callersOf, Assoc.get?]
  simp only [Accounts, start, hempty, false_or, Text.sorted, List.mem_map, List.mem_mergeSort]
  constructor
  · rintro ⟨worker, ⟨entry, hentry, rfl⟩, howes⟩
    obtain ⟨rfl, hcalls⟩ := Worker.owes_start.1 howes
    exact ⟨hentry, hcalls⟩
  · rintro ⟨hcaller, hcalls⟩
    exact ⟨_, ⟨caller, hcaller, rfl⟩, Worker.owes_start.2 ⟨rfl, hcalls⟩⟩

theorem allReports_start (corpus : Corpus) (entries : List String) :
    (start corpus entries).allReports =
      Corpus.faultsOf ((Text.sorted entries).map fun entry => (entry, scan corpus entry)) := by
  simp only [allReports, start, List.nil_append, List.flatMap_map]
  induction Text.sorted entries with
  | nil => rfl
  | cons entry rest ih =>
      rw [List.flatMap_cons, ih, Worker.dueReports, Worker.entry_start, Worker.rest_start]
      cases hscan : scan corpus entry <;> simp [Corpus.faultsOf, hscan]

theorem run_replicate (shared : Shared) (before after : List Worker) (worker : Worker)
    (count : Nat) :
    run ⟨shared, before ++ worker :: after⟩ (List.replicate count before.length) =
      ⟨(worker.steps shared count).2, before ++ (worker.steps shared count).1 :: after⟩ := by
  induction count generalizing worker shared with
  | zero => rfl
  | succ count ih =>
      rw [List.replicate_succ, run, List.foldl_cons, turn_append]
      exact ih _ _

/-- Workers that come to their ends one after the other. -/
theorem exists_run_settle (shared : Shared) (before waiting : List Worker)
    (hbefore : ∀ worker ∈ before, worker.stage = .ended) :
    ∃ turns, (run ⟨shared, before ++ waiting⟩ turns).Ended ∧
      (run ⟨shared, before ++ waiting⟩ turns).toShared =
        waiting.foldl (fun shared worker => worker.settle shared) shared := by
  induction waiting generalizing before shared with
  | nil => exact ⟨[], by simpa [run, Ended] using hbefore, rfl⟩
  | cons worker waiting ih =>
      -- The workers before have ended; the next one is given turns until it has ended, too.
      obtain ⟨count, hcount⟩ := worker.exists_steps shared
      have hfirst := run_replicate shared before waiting worker count
      rw [hcount, List.append_cons before ⟨worker.entry, .ended⟩] at hfirst
      have hended : ∀ other ∈ before ++ [⟨worker.entry, .ended⟩], other.stage = .ended := by
        intro other hother
        rcases List.mem_append.1 hother with hother | hother
        · exact hbefore other hother
        · rw [List.mem_singleton.1 hother]
      obtain ⟨turns, hturns⟩ := ih (worker.settle shared) _ hended
      refine ⟨List.replicate count before.length ++ turns, ?_⟩
      rwa [run, List.foldl_append, ← run, ← run, hfirst]

theorem exists_ended (scanning : Scanning) : ∃ turns, (scanning.run turns).Ended := by
  obtain ⟨turns, hended, -⟩ :=
    exists_run_settle scanning.toShared [] scanning.workers (List.forall_mem_nil _)
  exact ⟨turns, hended⟩

theorem foldl_settle_start (corpus : Corpus) (entries : List String) (shared : Shared) :
    (entries.map (Worker.start corpus)).foldl (fun shared worker => worker.settle shared) shared =
      { graph := shared.graph.addScans corpus entries,
        reports := shared.reports ++
          Corpus.faultsOf (entries.map fun entry => (entry, scan corpus entry)) } := by
  induction entries generalizing shared with
  | nil => simp [addScans, Corpus.faultsOf]
  | cons entry rest ih =>
      rw [List.map_cons, List.foldl_cons, ih, Worker.settle, Worker.rest_start, Worker.entry_start]
      cases hscan : scan corpus entry <;> simp [addScans, Corpus.faultsOf, hscan]

/-- Entry files scanned one after the other, as when there is a single worker. -/
theorem exists_run_buildTolerant (corpus : Corpus) (entries : List String) :
    ∃ turns, ((start corpus entries).run turns).Ended ∧
      ((start corpus entries).run turns).graph = (buildTolerant corpus entries).1 ∧
      ((start corpus entries).run turns).reports = (buildTolerant corpus entries).2 := by
  obtain ⟨turns, hended, hshared⟩ := exists_run_settle {} []
    ((Text.sorted entries).map (Worker.start corpus)) (List.forall_mem_nil _)
  rw [foldl_settle_start] at hshared
  refine ⟨turns, hended, ?_, congrArg Shared.reports hshared⟩
  rw [buildTolerant_eq]
  exact congrArg Shared.graph hshared

theorem Ended.accounts_iff {scanning : Scanning} (h : scanning.Ended) {caller helper : String} :
    scanning.Accounts caller helper ↔ caller ∈ scanning.graph.callersOf helper := by
  refine ⟨fun haccounts => haccounts.resolve_right ?_, .inl⟩
  rintro ⟨⟨entry, stage⟩, hworker, -, helpers, hrest, hhelper⟩
  cases h _ hworker
  cases hrest
  cases hhelper

theorem Ended.allReports_eq {scanning : Scanning} (h : scanning.Ended) :
    scanning.allReports = scanning.reports := by
  rw [allReports, List.flatMap_eq_nil_iff.2, List.append_nil]
  rintro ⟨entry, stage⟩ hworker
  cases h _ hworker
  rfl

end Scanning

theorem mem_faultsOf_scans {corpus : Corpus} {entries : List String} {entry : String}
    {fault : Fault} :
    (entry, fault) ∈ Corpus.faultsOf (entries.map fun entry => (entry, scan corpus entry)) ↔
      entry ∈ entries ∧ scan corpus entry = .error fault := by
  rw [Corpus.mem_faultsOf, List.mem_map]
  constructor
  · rintro ⟨other, hother, hpair⟩
    obtain ⟨rfl, hscan⟩ := Prod.mk.inj hpair
    exact ⟨hother, hscan⟩
  · rintro ⟨hentry, hscan⟩
    exact ⟨entry, hentry, congrArg (Prod.mk entry) hscan⟩

theorem count_faultsOf_scans {corpus : Corpus} {entry : String} {fault : Fault}
    (h : scan corpus entry = .error fault) (entries : List String) :
    (Corpus.faultsOf (entries.map fun entry => (entry, scan corpus entry))).count (entry, fault) =
      entries.count entry := by
  induction entries with
  | nil => rfl
  | cons first rest ih =>
      by_cases hfirst : first = entry
      · subst hfirst
        simpa [Corpus.faultsOf, h] using ih
      · cases hscan : scan corpus first <;> simpa [Corpus.faultsOf, hscan, hfirst] using ih

/-- What a scan of entry files has to leave. -/
structure Exact (corpus : Corpus) (entries : List String) (shared : Shared) : Prop where
  callers : ∀ caller helper, caller ∈ shared.graph.callersOf helper ↔
    caller ∈ entries ∧ ∃ model, corpus.model? caller = some model ∧
      (∀ call ∈ model.unit.file.root.descendants ["invocation_expression"],
        ∃ symbol?, model.invocation call = .ok symbol?) ∧
      ∃ call ∈ model.unit.file.root.descendants ["invocation_expression"],
        LeadsTo model caller helper call
  reported : ∀ entry fault, (entry, fault) ∈ shared.reports →
    entry ∈ entries ∧ scan corpus entry = .error fault
  once : ∀ entry fault, scan corpus entry = .error fault →
    shared.reports.count (entry, fault) = entries.count entry
  sorted : shared.graph.helperFiles.Pairwise (· < ·)
  helpers : ∀ helper, helper ∈ shared.graph.helperFiles ↔ helper ∈ Assoc.keys shared.graph
  called : shared.graph.Called
  again : ∀ entry ∈ entries, shared.graph.addEntry corpus entry =
    (scan corpus entry).map fun helpers => (shared.graph, helpers.length)

namespace Scanning

variable {corpus : Corpus} {entries : List String} {turns : List Nat}

theorem callers_run (h : ((start corpus entries).run turns).Ended) {caller helper : String} :
    caller ∈ ((start corpus entries).run turns).graph.callersOf helper ↔
      caller ∈ entries ∧ Calls corpus caller helper := by
  rw [← h.accounts_iff, accounts_run, accounts_start]

theorem reports_run (h : ((start corpus entries).run turns).Ended) :
    ((start corpus entries).run turns).reports.Perm
      (Corpus.faultsOf ((Text.sorted entries).map fun entry => (entry, scan corpus entry))) := by
  rw [← h.allReports_eq, ← allReports_start]
  exact allReports_run _ turns

theorem addEntry_run (h : ((start corpus entries).run turns).Ended) {entry : String}
    (hentry : entry ∈ entries) :
    ((start corpus entries).run turns).graph.addEntry corpus entry =
      (scan corpus entry).map fun helpers =>
        (((start corpus entries).run turns).graph, helpers.length) := by
  rw [addEntry]
  cases hscan : scan corpus entry with
  | error fault => rfl
  | ok helpers =>
      have hsame : ((start corpus entries).run turns).graph.addEdges entry helpers =
          ((start corpus entries).run turns).graph :=
        addEdges_eq_self fun helper hhelper =>
          (callers_run h).2 ⟨hentry, helpers, hscan, hhelper⟩
      simp [bind, Except.bind, pure, Except.pure, Except.map, hsame]

theorem exact_run (h : ((start corpus entries).run turns).Ended) :
    Exact corpus entries ((start corpus entries).run turns).toShared where
  callers caller helper := by rw [callers_run h, calls_iff]
  reported entry fault hreport := by
    have hmem := mem_faultsOf_scans.1 ((reports_run h).mem_iff.1 hreport)
    rwa [Text.sorted, List.mem_mergeSort] at hmem
  once entry fault hscan := by
    rw [(reports_run h).count_eq, count_faultsOf_scans hscan]
    exact (List.mergeSort_perm entries _).count_eq entry
  sorted := Text.sortedSet_strict _
  helpers _ := mem_helperFiles
  called := called_run (by simp [Called, start, Assoc.keys]) turns
  again _ hentry := addEntry_run h hentry

/-- However the scans of entry files interleave, no edge stands in the graph at any time but one of
a listed file that was scanned to its end; the scans can always be finished, and then the graph and
the reports are exact. Scanning one file after the other is one of the orders. -/
theorem scanning_exact (corpus : Corpus) (entries : List String) :
    (∀ turns caller helper,
      caller ∈ ((start corpus entries).run turns).graph.callersOf helper →
        caller ∈ entries ∧ Calls corpus caller helper) ∧
    (∀ turns, ((start corpus entries).run turns).Ended →
      Exact corpus entries ((start corpus entries).run turns).toShared) ∧
    (∀ turns, ∃ further, (((start corpus entries).run turns).run further).Ended) ∧
    ∃ turns, ((start corpus entries).run turns).Ended ∧
      ((start corpus entries).run turns).graph = (buildTolerant corpus entries).1 ∧
      ((start corpus entries).run turns).reports = (buildTolerant corpus entries).2 := by
  refine ⟨?_, fun _ => exact_run, fun _ => exists_ended _, exists_run_buildTolerant corpus entries⟩
  intro turns caller helper hcaller
  exact accounts_start.1 ((accounts_run _ turns caller helper).1 (.inl hcaller))

end Scanning
end CallGraph
end SandboxLint
