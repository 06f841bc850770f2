import SandboxLint.Proofs.Corpus.Owners
import SandboxLint.Proofs.Report
import SandboxLint.Proofs.Rule.Locality
import SandboxLint.Proofs.Run.Findings
import SandboxLint.Proofs.TypeRef

/-!
What the rules quote. The words of the rules themselves have no line breaks, and most rules
say nothing else; some quote names of the source. The rule on text components quotes the
expression in front of the dot, and the rule on events the value of a literal, and both
can take several lines of the source. So a diagnostic takes one line exactly when all
that it quotes does.
-/

namespace SandboxLint

open Text

/-- Settings whose names have no line breaks. -/
structure AnalysisSettings.OneLine (analysis : AnalysisSettings) : Prop where
  baseType : Text.OneLine analysis.baseType
  callable : Text.OneLine analysis.networkCallableAttribute
  callback : Text.OneLine analysis.fieldChangeCallbackAttribute

namespace Rule

def quotingCodes : List Int := [14, 16, 20, 21, 22, 25, 30]

/-- What the message of a rule about a place quotes: names, and excerpts of the source that are no
names. -/
inductive Quotes (corpus : Corpus) (unit : OutlinedFile) :
    Int → Node → List String → List String → Prop
  | nothing {code : Int} {node : Node} (fixed : code ∉ quotingCodes) :
      Quotes corpus unit code node [] []
  | receiver {node : Node}
      (access : node ∈ unit.file.root.descendants ["member_access_expression"]) :
      Quotes corpus unit 14 node [] [Node.textOf (node.child? "expression")]
  | overload {type node : Node} (entry : type ∈ corpus.space.entryNodes unit)
      (member : node ∈ type.typeMembers) : Quotes corpus unit 16 node [node.declaredName] []
  | crossing {node : Node} {symbol : Symbol}
      (reads : (modelOf corpus unit).memberAccess node = .ok (some symbol)) :
      Quotes corpus unit 20 node [symbol.owner.name] []
  | gated {node method : Node} {symbol : Symbol}
      (around : method ∈ unit.file.root.descendants ["method_declaration"])
      (inside : node ∈ method.descendants ["member_access_expression"])
      (reads : (modelOf corpus unit).memberAccess node = .ok (some symbol)) :
      Quotes corpus unit 21 node [symbol.name, symbol.owner.name, method.declaredName] []
  | call {node : Node} {symbol : Symbol}
      (calls : (modelOf corpus unit).invocation node = .ok (some symbol)) :
      Quotes corpus unit 22 node [symbol.name, symbol.owner.name] []
  | usage {node : Node} {symbol : Symbol}
      (reads : (modelOf corpus unit).memberAccess node = .ok (some symbol)) :
      Quotes corpus unit 25 node [symbol.owner.name] []
  | target {node call type : Node} {routine : String}
      (calls : call ∈ unit.file.root.descendants ["invocation_expression"])
      (sends : eventTarget call = some (routine, node))
      (around : call.enclosing ["class_declaration"] = some type) :
      Quotes corpus unit 30 node [type.declaredName] [literalValue node.text]

/-- A finding whose message takes one line exactly when all that it quotes does. -/
def Explained (corpus : Corpus) (unit : OutlinedFile) (code : Int) (finding : Finding) : Prop :=
  ∃ names excerpts, Quotes corpus unit code finding.1 names excerpts ∧
    (OneLine finding.2 ↔
      (∀ name ∈ names, OneLine name) ∧ ∀ excerpt ∈ excerpts, OneLine excerpt)

section Fixed

/-- Findings whose messages take one line each. -/
def Worded (found : List Finding) : Prop :=
  ∀ finding ∈ found, OneLine finding.2

theorem worded_map {message : String} (h : OneLine message) (nodes : List Node) :
    Worded (nodes.map (·, message)) := by
  intro finding hfinding
  obtain ⟨node, -, rfl⟩ := List.mem_map.1 hfinding
  exact h

theorem Worded.append {a b : List Finding} (ha : Worded a) (hb : Worded b) : Worded (a ++ b) :=
  List.forall_mem_append.2 ⟨ha, hb⟩

theorem worded_flatMap {α : Type} {items : List α} {find : α → List Finding}
    (h : ∀ item ∈ items, Worded (find item)) : Worded (items.flatMap find) := by
  intro finding hfinding
  obtain ⟨item, hitem, hfound⟩ := List.mem_flatMap.1 hfinding
  exact h item hitem finding hfound

theorem worded_ite {p : Prop} [Decidable p] {node : Node} {message : String}
    (h : OneLine message) : Worded (if p then [(node, message)] else []) := by
  split
  · exact worded_map h [node]
  · exact List.forall_mem_nil _

variable {input : RuleInput} (hsettings : input.analysis.OneLine)

include hsettings in
theorem worded_networkCallable : Worded (networkCallable input) := by
  have hcallable := hsettings.callable
  refine worded_flatMap fun method _ => ?_
  refine .append (.append (.append ?_ ?_) ?_) (worded_ite (.append hcallable (.words rfl)))
  · split
    · exact worded_ite (.append hcallable (.words rfl))
    · exact List.forall_mem_nil _
  · exact worded_ite
      (.append (.append (.append hcallable (.words rfl)) (oneLine_nat _)) (.words rfl))
  · refine worded_flatMap fun p _ => .append (.append ?_ ?_) ?_
    all_goals exact worded_ite (.append hcallable (.words rfl))

theorem worded_firstBanned {banned : List (String × String)}
    (h : ∀ pair ∈ banned, OneLine pair.2) (call : Node) :
    Worded (firstBanned banned call).toList := by
  intro finding hfinding
  obtain ⟨pair, hpair, rfl⟩ := Option.map_eq_some_iff.1 (Option.mem_toList.1 hfinding)
  exact h pair (List.mem_of_find?_eq_some hpair)

theorem worded_unexposedApis : Worded (unexposedApis input) := by
  refine worded_flatMap fun call _ =>
    .append (worded_firstBanned ?_ call) (worded_firstBanned ?_ call)
  · simp only [bannedNamespaces, List.forall_mem_cons]
    exact ⟨.words rfl, .words rfl, .words rfl, .words rfl, List.forall_mem_nil _⟩
  · simp only [bannedCalls, List.forall_mem_cons]
    exact ⟨.words rfl, .words rfl, List.forall_mem_nil _⟩

include hsettings in
/-- A rule that does not quote the source says what takes one line. -/
theorem worded_of_not_quoting {rule : Rule} (hrule : rule ∈ Registry.catalogRules)
    (hfixed : rule.code ∉ quotingCodes) {found : List Finding}
    (h : rule.evaluate input = .ok found) : Worded found := by
  have hbase := hsettings.baseType
  have hcallback := hsettings.callback
  simp only [Registry.catalogRules, List.mem_cons, List.not_mem_nil, or_false] at hrule
  rcases hrule with rfl | rfl | rfl | rfl | rfl | rfl | rfl | rfl | rfl | rfl | rfl | rfl | rfl |
    rfl | rfl | rfl | rfl | rfl | rfl | rfl | rfl | rfl | rfl | rfl | rfl | rfl
  all_goals first
    | exact absurd (by decide) hfixed
    | cases h
  -- most of the others say one thing of every place
  all_goals try exact worded_map (.words rfl) _
  · exact worded_map (.append (.words rfl) hbase) _
  · exact worded_map (.append (.words rfl) hbase) _
  · exact worded_map (.append (.append (.words rfl) hbase) (.words rfl)) _
  · exact worded_map (.append (.words rfl) hbase) _
  · exact .append (worded_map (.words rfl) _) (worded_map (.words rfl) _)
  · exact .append (worded_map (.words rfl) _) (worded_map (.words rfl) _)
  · exact worded_networkCallable hsettings
  · exact worded_flatMap fun type _ =>
      worded_map (.append (.append (.words rfl) hcallback) (.words rfl)) _
  · exact worded_unexposedApis

end Fixed

section Quoting

variable {corpus : Corpus} {unit : OutlinedFile} {graph : Option CallGraph} {code : Int}
  {finding : Finding} {found : List Finding}

theorem Explained.of_names {names : List String}
    (hquotes : Quotes corpus unit code finding.1 names [])
    (h : OneLine finding.2 ↔ ∀ name ∈ names, OneLine name) : Explained corpus unit code finding :=
  ⟨names, [], hquotes, by rw [h, and_iff_left (List.forall_mem_nil _)]⟩

theorem oneLine_textMembers : ∀ name ∈ textMembers, OneLine name := by
  rw [textMembers]
  repeat refine List.forall_mem_cons.2 ⟨.words rfl, ?_⟩
  exact List.forall_mem_nil _

/-- The rule on text components reports the accesses to their members that may not be exposed, with
the text in front of the dot. -/
theorem mem_textComponentApi {input : RuleInput} {node : Node} {message : String} :
    (node, message) ∈ textComponentApi input ↔
      node ∈ input.find ["member_access_expression"] ∧
      Node.textOf (node.child? "name") ∈ textMembers ∧
      namesTextReceiver (Node.textOf (node.child? "expression")) = true ∧
      message = "Property/Method may not be exposed to Udon: '" ++
        Node.textOf (node.child? "expression") ++ "." ++ Node.textOf (node.child? "name") ++
        "' (TextMeshPro)" := by
  rw [textComponentApi, List.mem_filterMap]
  constructor
  · rintro ⟨place, hplace, hfound⟩
    obtain ⟨hmember, hfinding⟩ := Option.ite_none_right_eq_some.1 hfound
    rw [Bool.and_eq_true, List.contains_iff_mem] at hmember
    cases hfinding
    exact ⟨hplace, hmember.1, hmember.2, rfl⟩
  · rintro ⟨hplace, hmember, hreceiver, rfl⟩
    refine ⟨node, hplace, if_pos ?_⟩
    rw [Bool.and_eq_true, List.contains_iff_mem]
    exact ⟨hmember, hreceiver⟩

theorem explained_textComponentApi
    (h : finding ∈ textComponentApi (.ofCorpus corpus unit graph)) :
    Explained corpus unit 14 finding := by
  obtain ⟨hnode, hmember, -, hmessage⟩ := mem_textComponentApi.1 h
  have hname := oneLine_textMembers _ hmember
  refine ⟨_, _, .receiver hnode, ?_⟩
  rw [hmessage, and_iff_right (List.forall_mem_nil _), List.forall_mem_singleton]
  -- The words around what is quoted are gone once each is known to take one line.
  simp (disch := first | exact hname | exact .words rfl) only
    [oneLine_append_left, oneLine_append_right]

theorem mem_repeatedMethods {seen : List String} {methods : List Node}
    (h : finding ∈ repeatedMethods seen methods) :
    finding.1 ∈ methods ∧ finding.2 =
      "Method overloads are not supported in UdonSharp: '" ++ finding.1.declaredName ++ "'" := by
  induction methods generalizing seen with
  | nil => cases h
  | cons method rest ih =>
      rw [repeatedMethods] at h
      split at h
      · obtain rfl | hlater := List.mem_cons.1 h
        · exact ⟨List.mem_cons_self, rfl⟩
        · exact (ih hlater).imp_left (List.mem_cons_of_mem _)
      · exact (ih h).imp_left (List.mem_cons_of_mem _)

theorem explained_methodOverloads
    (h : finding ∈ methodOverloads (.ofCorpus corpus unit graph)) :
    Explained corpus unit 16 finding := by
  obtain ⟨type, htype, hfound⟩ := List.mem_flatMap.1 h
  obtain ⟨hmethod, hmessage⟩ := mem_repeatedMethods hfound
  refine .of_names (.overload htype (List.mem_filter.1 hmethod).1) ?_
  rw [hmessage, List.forall_mem_singleton]
  simp (disch := exact .words rfl) only [oneLine_append_left, oneLine_append_right]

theorem oneLine_of_eventTarget {call literal : Node} {routine : String}
    (h : eventTarget call = some (routine, literal)) : OneLine routine := by
  have hroutines : ∀ pair ∈ eventRoutines, OneLine pair.1 := by
    rw [eventRoutines]
    repeat refine List.forall_mem_cons.2 ⟨.words rfl, ?_⟩
    exact List.forall_mem_nil _
  obtain ⟨own, -, h⟩ := Option.bind_eq_some_iff.1 h
  obtain ⟨index, hindex, h⟩ := Option.bind_eq_some_iff.1 h
  obtain ⟨argument, -, h⟩ := Option.bind_eq_some_iff.1 h
  obtain ⟨-, hpair⟩ := Option.ite_none_right_eq_some.1 h
  cases hpair
  obtain ⟨before, after, hsplit, -⟩ := List.lookup_eq_some_iff.1 hindex
  exact hroutines (routine, index) (hsplit ▸ by simp)

theorem explained_eventTargets (h : finding ∈ eventTargets (.ofCorpus corpus unit graph)) :
    Explained corpus unit 30 finding := by
  obtain ⟨call, hcall, hfound⟩ := List.mem_filterMap.1 h
  obtain ⟨⟨routine, literal⟩, hsends, hfound⟩ := Option.bind_eq_some_iff.1 hfound
  obtain ⟨type, htype, hfound⟩ := Option.bind_eq_some_iff.1 hfound
  obtain ⟨-, hfinding⟩ := Option.ite_none_right_eq_some.1 hfound
  cases hfinding
  have hroutine := oneLine_of_eventTarget hsends
  refine ⟨_, _, .target hcall hsends htype, ?_⟩
  rw [List.forall_mem_singleton, List.forall_mem_singleton, and_comm]
  simp (disch := first | exact .append hroutine (.words rfl) | exact .words rfl) only
    [oneLine_append_left, oneLine_append_right, oneLine_append]

theorem oneLine_fileName {path : String} (h : OneLine path) : OneLine (fileName path) :=
  h.of_subset fun c hc => (afterLast_suffix '/' _).subset (by simpa [fileName] using hc)

set_option maxRecDepth 5000 in
theorem oneLine_fieldBreachMessage {owner : TypeDecl} (hpath : OneLine owner.path) (b : Breach) :
    OneLine (fieldBreachMessage owner b) ↔ OneLine owner.name := by
  have hfile := oneLine_fileName hpath
  cases b with
  | elsewhere | shared =>
      unfold fieldBreachMessage
      simp (disch := first
        | exact hfile | exact .append (.words rfl) (.words rfl) | exact .words rfl) only
        [oneLine_append_left, oneLine_append_right]

set_option maxRecDepth 5000 in
theorem oneLine_methodBreachMessage {symbol : Symbol} (hpath : OneLine symbol.owner.path)
    (b : Breach) :
    OneLine (methodBreachMessage symbol b) ↔ OneLine symbol.name ∧ OneLine symbol.owner.name := by
  have hfile := oneLine_fileName hpath
  cases b with
  | elsewhere | shared =>
      unfold methodBreachMessage
      simp (disch := first
        | exact hfile | exact .append (.words rfl) (.words rfl) | exact .words rfl) only
        [oneLine_append_left, oneLine_append_right, oneLine_append]

set_option maxRecDepth 5000 in
theorem oneLine_staticAccessMessage {base : String} (hbase : OneLine base) (method : String)
    (symbol : Symbol) :
    OneLine (staticAccessMessage base method symbol) ↔
      OneLine symbol.name ∧ OneLine symbol.owner.name ∧ OneLine method := by
  unfold staticAccessMessage
  simp (disch := first
    | exact hbase | exact .append (.words rfl) (.words rfl) | exact .words rfl) only
    [oneLine_append_left, oneLine_append_right, oneLine_append, and_assoc]

theorem explained_crossFileFieldAccess
    (howners : ∀ node symbol, (modelOf corpus unit).memberAccess node = .ok (some symbol) →
      OneLine symbol.owner.path)
    (h : crossFileFieldAccess (.ofCorpus corpus unit graph) = .ok found)
    (hfinding : finding ∈ found) : Explained corpus unit 20 finding := by
  obtain ⟨listed, hlisted, hmem⟩ := mem_crossFileFieldAccess corpus unit graph
  cases h.symm.trans hlisted
  obtain ⟨symbol, b, -, hreads, -, -, -, hmessage⟩ := (hmem _ _).1 hfinding
  refine .of_names (.crossing hreads) ?_
  rw [hmessage, oneLine_fieldBreachMessage (howners _ _ hreads), List.forall_mem_singleton]

theorem explained_crossFileMethodInvocation
    (howners : ∀ node symbol, (modelOf corpus unit).invocation node = .ok (some symbol) →
      OneLine symbol.owner.path)
    (h : crossFileMethodInvocation (.ofCorpus corpus unit graph) = .ok found)
    (hfinding : finding ∈ found) : Explained corpus unit 22 finding := by
  obtain ⟨listed, hlisted, hmem⟩ := mem_crossFileMethodInvocation corpus unit graph
  cases h.symm.trans hlisted
  obtain ⟨symbol, b, -, hcalls, -, -, -, -, hmessage⟩ := (hmem _ _).1 hfinding
  refine .of_names (.call hcalls) ?_
  rw [hmessage, oneLine_methodBreachMessage (howners _ _ hcalls), List.forall_mem_cons,
    List.forall_mem_singleton]

theorem explained_serializableClassUsage (hbase : OneLine corpus.space.analysis.baseType)
    (h : serializableClassUsage (.ofCorpus corpus unit graph) = .ok found)
    (hfinding : finding ∈ found) : Explained corpus unit 25 finding := by
  cases h
  obtain ⟨⟨node, symbol⟩, haccess, rfl⟩ := List.mem_map.1 hfinding
  obtain ⟨-, hreads, -⟩ := mem_plainFieldAccesses.1 haccess
  refine .of_names (.usage hreads) ?_
  rw [List.forall_mem_singleton]
  dsimp only [RuleInput.baseType_ofCorpus]
  simp (disch := first
    | exact hbase | exact .append (.words rfl) (.words rfl) | exact .words rfl) only
    [oneLine_append_left, oneLine_append_right, oneLine_append, and_self]

theorem explained_staticMethodFieldAccess (hbase : OneLine corpus.space.analysis.baseType)
    (h : staticMethodFieldAccess (.ofCorpus corpus unit graph) = .ok found)
    (hfinding : finding ∈ found) : Explained corpus unit 21 finding := by
  rw [staticMethodFieldAccess] at h
  split at h
  · cases h
    cases hfinding
  · split at h
    · cases h
      cases hfinding
    · cases h
      obtain ⟨method, hmethod, hfinding⟩ := List.mem_flatMap.1 hfinding
      obtain ⟨⟨node, symbol⟩, haccess, rfl⟩ := List.mem_map.1 hfinding
      obtain ⟨hinside, hreads, -⟩ := mem_plainFieldAccesses.1 haccess
      refine .of_names (.gated (List.mem_filter.1 hmethod).1 hinside hreads) ?_
      refine (oneLine_staticAccessMessage hbase _ _).trans ?_
      rw [List.forall_mem_cons, List.forall_mem_cons, List.forall_mem_singleton]

end Quoting
end Rule

namespace Run

open Rule

variable {analysis : AnalysisSettings} {units : List OutlinedFile} {corpus : Corpus}
  {unit : OutlinedFile} {graph : Option CallGraph} {rule : Rule} {finding : Finding}

/-- Whatever a rule of the catalog finds takes one line exactly when all that it quotes does. -/
theorem Found.explained (hmade : Corpus.MadeOf analysis units corpus)
    (houtlined : SymbolSpace.Outlined units) (hsettings : corpus.space.analysis.OneLine)
    (hpaths : ∀ unit ∈ corpus.space.files, OneLine unit.path)
    (h : Found corpus unit graph rule finding) : Explained corpus unit rule.code finding := by
  have built : SymbolSpace.Built analysis units (modelOf corpus unit).space :=
    SymbolSpace.built_of_build hmade.indexed.1
  have hpath : ∀ decl ∈ corpus.space.types, OneLine decl.path := by
    intro decl hdecl
    obtain ⟨home, hhome, hsame⟩ := built.exists_file_of_mem_types houtlined hdecl
    exact hsame ▸ hpaths home hhome
  obtain ⟨-, hrule, found, hfound, hfinding⟩ := h
  -- Seven rules quote the source; the others say fixed words and names from the settings.
  by_cases hquoting : rule.code ∈ quotingCodes
  · simp only [Registry.catalogRules, List.mem_cons, List.not_mem_nil, or_false] at hrule
    rcases hrule with rfl | rfl | rfl | rfl | rfl | rfl | rfl | rfl | rfl | rfl | rfl | rfl | rfl |
      rfl | rfl | rfl | rfl | rfl | rfl | rfl | rfl | rfl | rfl | rfl | rfl | rfl
    all_goals try exact absurd hquoting (by decide)
    · cases hfound
      exact explained_textComponentApi hfinding
    · cases hfound
      exact explained_methodOverloads hfinding
    · cases hfound
      exact explained_eventTargets hfinding
    · exact explained_crossFileFieldAccess
        (fun _ _ hreads => hpath _ (Model.owner_mem_of_memberAccess built hreads)) hfound hfinding
    · exact explained_staticMethodFieldAccess hsettings.baseType hfound hfinding
    · exact explained_crossFileMethodInvocation
        (fun _ _ hcalls => hpath _ (Model.owner_mem_of_invocation built hcalls)) hfound hfinding
    · exact explained_serializableClassUsage hsettings.baseType hfound hfinding
  · have hworded := worded_of_not_quoting hsettings hrule hquoting hfound finding hfinding
    exact .of_names (.nothing hquoting) (iff_of_true hworded (List.forall_mem_nil _))

/-- The diagnostics that take one line. In a run with the catalog whose settings, prefix and paths
have no line breaks, every diagnostic of a rule comes from a finding, and its message, and with it
the line that is written for it, is without line breaks exactly when the names and the excerpts of
the source are that the message quotes. Only the rule on text components and the rule on events
quote excerpts. -/
theorem diagnostic_oneLine_iff {files : List Loaded} {result : LintResult} {codePrefix : String}
    (hsettings : analysis.OneLine) (hletters : OneLine codePrefix)
    (hpaths : ∀ file, Loaded.parsed file ∈ files → OneLine file.path)
    (hrun : check analysis .catalog files = .ok result) (base : Path) :
    ∃ corpus, Corpus.MadeOf analysis (Run.units analysis files) corpus ∧
      ∀ d ∈ result.diagnostics, d.code ≠ 0 → ∃ unit graph rule finding names excerpts,
        Found corpus unit graph rule finding ∧
        d = rule.diagnostic (.ofCorpus corpus unit graph) finding ∧
        Quotes corpus unit d.code finding.1 names excerpts ∧
        (OneLine d.message ↔
          (∀ name ∈ names, OneLine name) ∧ ∀ excerpt ∈ excerpts, OneLine excerpt) ∧
        (OneLine (Report.line d base codePrefix) ↔
          (∀ name ∈ names, OneLine name) ∧ ∀ excerpt ∈ excerpts, OneLine excerpt) := by
  obtain ⟨-, corpus, faults, hcorpus, rfl⟩ := check_eq_ok_iff.1 hrun
  have hmade : Corpus.MadeOf analysis (Run.units analysis files) corpus := .inr ⟨faults, hcorpus⟩
  have hanalysis := (SymbolSpace.built_of_build hmade.indexed.1).analysis_eq
  have hfiles : ∀ unit ∈ corpus.space.files, OneLine unit.path := by
    intro unit hunit
    obtain ⟨file, hfile, rfl⟩ := hmade.exists_source hunit
    obtain ⟨loaded, hloaded, hparsed⟩ := List.mem_filterMap.1 hfile
    cases loaded with
    | unreadable | unparsable => cases hparsed
    | parsed _ =>
        cases hparsed
        exact hpaths file hloaded
  refine ⟨corpus, hmade, fun d hd hcode => ?_⟩
  obtain ⟨unit, graph, rule, finding, hfound, rfl⟩ := exists_found hd hcode
  obtain ⟨names, excerpts, hquotes, hmessage⟩ :=
    hfound.explained hmade (SymbolSpace.outlined_ofFile _ _) (hanalysis ▸ hsettings) hfiles
  refine ⟨unit, graph, rule, finding, names, excerpts, hfound, rfl, hquotes, hmessage, ?_⟩
  exact (Report.oneLine_line_iff (hfiles unit hfound.file) hletters base).trans hmessage

section Label

/-- The file of a label that sets the size of one of its text components; the component is chosen
on two lines. -/
def labelFile : SourceFile :=
  Sketch.file "Label.cs"
    [Sketch.usingOf "UdonSharp",
      Sketch.classDecl [] "Label" ["UdonSharpBehaviour"]
        [Sketch.methodDecl [] "Fit"
          [Sketch.group "member_access_expression" none
            [Sketch.word "element_access_expression" "tmpText[\n  0]" "expression",
              Sketch.word "identifier" "fontSize" "name"]]]]

def labelUnit : OutlinedFile :=
  .ofFile labelFile ({} : AnalysisSettings).markerImport

def labelCorpus : Corpus :=
  .ofSpace (.inOrder (Sketch.outlined [labelFile]))

theorem build_label : SymbolSpace.build {} (Sketch.outlined [labelFile]) =
    .ok labelCorpus.space :=
  SymbolSpace.build_inOrder (by decide) (by decide) (by decide)

def labelAccess : Node :=
  ((labelUnit.file.root.descendants ["member_access_expression"])[0]?).getD default

theorem namesTextReceiver_label : namesTextReceiver "tmpText[\n  0]" = true := by
  decide

theorem found_label : ∃ rule ∈ entryRules .catalog [], rule.code = 14 ∧
    ∃ message, Found labelCorpus labelUnit none rule (labelAccess, message) ∧
      ¬ OneLine message := by
  obtain ⟨rule, hget, hcode, hfamily, hevaluate⟩ : ∃ rule, Registry.catalog.get? 14 = some rule ∧
      rule.code = 14 ∧ rule.family = .structural ∧
      rule.evaluate = fun input => .ok (textComponentApi input) :=
    ⟨_, rfl, rfl, rfl, rfl⟩
  have hrule := List.mem_of_find?_eq_some hget
  have henabled : rule ∈ Registry.catalog.enabled .structural [] :=
    List.mem_filter.2 ⟨hrule, by simp [hfamily]⟩
  have hbroken : ¬ OneLine (Node.textOf (labelAccess.child? "expression")) := by
    decide
  obtain ⟨message, hreported, hmessage⟩ : ∃ message,
      (labelAccess, message) ∈ textComponentApi (.ofCorpus labelCorpus labelUnit none) ∧
        ¬ OneLine message := by
    refine ⟨_, mem_textComponentApi.2 ⟨.head _, .head _, namesTextReceiver_label, rfl⟩, ?_⟩
    simp only [oneLine_append]
    exact fun h => hbroken h.1.1.1.2
  exact ⟨rule, List.mem_append_left _ ((Registry.ofFamily_perm _ _ _).mem_iff.2 henabled), hcode,
    message, ⟨.head _, hrule, _, congrFun hevaluate _, hreported⟩, hmessage⟩

/-- The size of the label's component is reported, and its line is broken. -/
theorem diagnostic_oneLine_iff_label :
    ∃ result, check {} .catalog [.parsed labelFile] = .ok result ∧
      ∃ d ∈ result.diagnostics, d.code = 14 ∧ ¬ OneLine (Report.line d {} "UDON") := by
  have hrun : check {} .catalog ([labelFile].map .parsed) =
      .ok (resultOf .catalog labelCorpus []) :=
    check_parsed (List.cons_ne_nil _ _) build_label
  have hentry : labelUnit.path ∈ labelCorpus.space.entryFiles :=
    (SymbolSpace.built_of_build build_label).mem_entryFiles_of_names (by decide)
      (.head _) (by decide) (.head _) (by decide) rfl (by decide)
  obtain ⟨rule, hrule, hcode, message, hfound, hbroken⟩ := found_label
  have hd := hfound.mem_diagnostics hentry rfl hrule []
  have hpaths : ∀ file, Loaded.parsed file ∈ [.parsed labelFile] → OneLine file.path := by
    intro file hfile
    cases List.mem_singleton.1 hfile
    exact .words rfl
  have hsettings : ({} : AnalysisSettings).OneLine :=
    ⟨(.words rfl : OneLine "UdonSharpBehaviour"), (.words rfl : OneLine "NetworkCallable"),
      (.words rfl : OneLine "FieldChangeCallback")⟩
  have hletters : OneLine "UDON" := .words rfl
  obtain ⟨corpus, -, hlines⟩ := diagnostic_oneLine_iff hsettings hletters hpaths hrun {}
  obtain ⟨_, _, _, _, names, excerpts, -, -, -, hmessage, hline⟩ :=
    hlines _ hd (by simp [Rule.diagnostic, hcode])
  exact ⟨_, hrun, _, hd, hcode, fun h => hbroken (hmessage.2 (hline.1 h))⟩

end Label

end Run
end SandboxLint
