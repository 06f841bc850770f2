import SandboxLint.Proofs.Corpus.BreadthFirst
import SandboxLint.Proofs.Corpus.Owners
import SandboxLint.Proofs.Corpus.ReferenceIndex
import SandboxLint.Proofs.EntryPoint

/-!
Events sent by name. A routine that sends an event on the current object names the method to run
in a string literal. The rule on these literals looks for the method twice, among the members
that the tree of the class shows and on the merged types that the class reaches. The members of
the tree are part of what is merged, so the second search alone decides: a literal is reported
exactly when no part of any reached type declares its method.
-/

namespace SandboxLint
namespace Node

/-- The nearest place above of several kinds is also the nearest of those among them that it has. -/
theorem enclosing_of_subset {node around : Node} {kinds wide : List String}
    (hsub : kinds ⊆ wide) (h : node.enclosing wide = some around)
    (hkind : around.kind ∈ kinds) : node.enclosing kinds = some around := by
  obtain ⟨-, front, back, hsplit, hfront⟩ := List.find?_eq_some_iff_append.1 h
  refine List.find?_eq_some_iff_append.2 ⟨List.contains_iff_mem.2 hkind, front, back, hsplit, ?_⟩
  intro nearer hnearer
  have hwide := hfront nearer hnearer
  rw [Bool.not_eq_true', ← Bool.not_eq_true, List.contains_iff_mem] at hwide ⊢
  exact fun hmem => hwide (hsub hmem)

/-- The expression of an argument stands right below the argument. -/
theorem mem_children_of_argumentExpression {argument value : Node}
    (h : argument.argumentExpression = some value) : value ∈ argument.children := by
  rw [argumentExpression] at h
  cases hfield : argument.child? "expression" with
  | some found =>
      rw [hfield, Option.some_or] at h
      cases h
      exact List.mem_of_find?_eq_some hfield
  | none =>
      rw [hfield, Option.none_or] at h
      exact (List.mem_filter.1 (List.mem_filter.1 (List.mem_of_getLast? h)).1).1

/-- An argument tells the call that it is passed to. -/
theorem call_of_argument {call value : Node} (h : some value ∈ call.arguments) :
    (value.parent.bind parent).bind parent = some call := by
  obtain ⟨argument, hargument, hvalue⟩ := List.mem_map.1 h
  rw [argumentNodes] at hargument
  split at hargument
  · cases hargument
  · next list hlist =>
      have hchild := (List.mem_filter.1 (List.mem_filter.1 hargument).1).1
      rw [parent_of_child (mem_children_of_argumentExpression hvalue), Option.bind_some,
        parent_of_child hchild, Option.bind_some, parent_of_child? hlist]

end Node

/-- The methods of a name that fragments merge into a type are those that some fragment
declares. -/
theorem TypeDecl.isSome_methods_merge_iff {first : Fragment} {fragments : List Fragment}
    {name : String} : ((merge first fragments).methods.get? name).isSome = true ↔
      ∃ part ∈ fragments, ∃ method ∈ part.methods, method.name = name := by
  simp only [merge, Assoc.isSome_get?_groups_iff, List.mem_map, List.mem_flatMap]
  constructor
  · rintro ⟨_, ⟨method, ⟨part, hpart, hmethod⟩, rfl⟩, hname⟩
    exact ⟨part, hpart, method, hmethod, hname⟩
  · rintro ⟨part, hpart, method, hmethod, hname⟩
    exact ⟨_, ⟨method, ⟨part, hpart, hmethod⟩, rfl⟩, hname⟩

namespace SymbolSpace

variable {analysis : AnalysisSettings} {files : List OutlinedFile} {space : SymbolSpace}
  {decl : TypeDecl}

/-- A type or one that it reaches through base lists declares a method of a name in some part. -/
def DeclaresMethod (space : SymbolSpace) (decl : TypeDecl) (name : String) : Prop :=
  ∃ owner, Relation.ReflTransGen space.bases.Extends decl owner ∧
    ∃ part ∈ space.partsOf owner, ∃ method ∈ part.methods, method.name = name

theorem Built.isSome_methods_iff (built : Built analysis files space) (hdecl : decl ∈ space.types)
    {name : String} : (decl.methods.get? name).isSome = true ↔
      ∃ part ∈ space.partsOf decl, ∃ method ∈ part.methods, method.name = name := by
  rw [built.types_eq] at hdecl
  obtain ⟨first, rest, hparts, hmerge⟩ := TypeTable.mem_ofOutlines_iff.1 hdecl
  rw [partsOf, hparts, hmerge]
  exact TypeDecl.isSome_methods_merge_iff

theorem Built.declaresMethod_iff (built : Built analysis files space) (hdecl : decl ∈ space.types)
    {name : String} : space.DeclaresMethod decl name ↔
      ∃ owner, Relation.ReflTransGen space.bases.Extends decl owner ∧
        (owner.methods.get? name).isSome = true := by
  refine exists_congr fun owner => and_congr_right fun hreach => ?_
  have hchain := (BaseTable.mem_chain_iff (built.over.namesApart hdecl)).2 hreach
  exact (built.isSome_methods_iff (built.mem_types_of_mem_chain hdecl hchain)).symm

/-- What is looked up along the chain of a type is what some part of a reached type declares. -/
theorem Built.isSome_findMethods_iff (built : Built analysis files space)
    (hdecl : decl ∈ space.types) {name : String} :
    (space.bases.findMethods decl name).isSome = true ↔ space.DeclaresMethod decl name := by
  rw [built.declaresMethod_iff hdecl, BaseTable.findMethods, List.findSome?_isSome_iff]
  simp only [BaseTable.mem_chain_iff (built.over.namesApart hdecl), Option.isSome_map]

end SymbolSpace

/-- The type around a place is that of the nearest type declaration. -/
theorem Model.enclosingType_of_enclosing {model : Model} {node type : Node}
    (h : node.enclosing Kind.typeDeclarations = some type) :
    model.enclosingType node =
      model.space.types.find? (type.qualifiedName model.unit.outline.namespaceName) := by
  rw [enclosingType, enclosingNames, Node.enclosingTypeNames, List.head?_map, List.head?_filter]
  rw [Node.enclosing] at h
  rw [h]
  rfl

namespace Rule

variable {input : RuleInput} {call literal type : Node} {routine message : String}

/-- The ways to write a value as a string literal. -/
def spellings (value : String) : List String :=
  ["\"" ++ value ++ "\"", "@\"" ++ value ++ "\"", "\"\"\"" ++ value ++ "\"\"\""]

theorem dropWhile_quotes {cs : List Char} (h : '"' ∉ cs) (before after : Nat) :
    (List.replicate before '"' ++ (cs ++ List.replicate after '"')).dropWhile (· == '"') =
      if cs = [] then [] else cs ++ List.replicate after '"' := by
  rw [List.dropWhile_append_of_pos (by simp [List.mem_replicate])]
  cases cs with
  | nil => simp
  | cons c rest =>
      have hc : c ≠ '"' := fun hc => h (hc ▸ List.mem_cons_self)
      simp [hc]

/-- Taking the quotes off both ends leaves what stands between them. -/
theorem strip_quotes {cs : List Char} (h : '"' ∉ cs) (count : Nat) :
    (((List.replicate count '"' ++ (cs ++ List.replicate count '"')).dropWhile
      (· == '"')).reverse.dropWhile (· == '"')).reverse = cs := by
  rw [dropWhile_quotes h]
  by_cases hnil : cs = []
  · simp [hnil]
  · have hquote : '"' ∉ cs.reverse := by simpa using h
    have hback := dropWhile_quotes hquote count 0
    simp only [List.replicate_zero, List.append_nil, List.reverse_eq_nil_iff] at hback
    rw [if_neg hnil, List.reverse_append, List.reverse_replicate, hback, if_neg hnil,
      List.reverse_reverse]

theorem literalValue_of_spelling {value text : String} (hvalue : '"' ∉ value.toList)
    (htext : text ∈ spellings value) : literalValue text = value := by
  simp only [spellings, List.mem_cons, List.not_mem_nil, or_false] at htext
  obtain rfl | rfl | rfl := htext
  · have hstrip := strip_quotes hvalue 1
    simpa [literalValue] using congrArg String.ofList hstrip
  · simp [literalValue]
  · have hstrip := strip_quotes hvalue 3
    simpa [literalValue] using congrArg String.ofList hstrip

theorem call_of_eventTarget (h : eventTarget call = some (routine, literal)) :
    (literal.parent.bind Node.parent).bind Node.parent = some call := by
  obtain ⟨own, -, h⟩ := Option.bind_eq_some_iff.1 h
  obtain ⟨index, -, h⟩ := Option.bind_eq_some_iff.1 h
  obtain ⟨argument, hargument, h⟩ := Option.bind_eq_some_iff.1 h
  obtain ⟨-, hpair⟩ := Option.ite_none_right_eq_some.1 h
  cases hpair
  obtain ⟨passed, hpassed, rfl⟩ := Option.bind_eq_some_iff.1 hargument
  exact Node.call_of_argument (List.mem_of_getElem? hpassed)

/-- What is said of a literal depends on the one call that it is passed to. -/
theorem mem_eventTargets_iff (hcall : call ∈ input.find ["invocation_expression"])
    (hsends : eventTarget call = some (routine, literal)) :
    (literal, message) ∈ eventTargets input ↔
      ∃ type, call.enclosing ["class_declaration"] = some type ∧
        input.entryTypes.any type.sameAs = true ∧
        declaresTarget input type call (literalValue literal.text) = false ∧
        message = routine ++ " target method '" ++ literalValue literal.text ++
          "' does not exist in '" ++ type.declaredName ++ "'" := by
  rw [eventTargets, List.mem_filterMap]
  constructor
  · rintro ⟨other, -, hfound⟩
    obtain ⟨⟨routine', literal'⟩, hsends', hfound⟩ := Option.bind_eq_some_iff.1 hfound
    obtain ⟨type, htype, hfound⟩ := Option.bind_eq_some_iff.1 hfound
    obtain ⟨hentry, hfinding⟩ := Option.ite_none_right_eq_some.1 hfound
    cases hfinding
    obtain rfl : other = call := Option.some.inj
      ((call_of_eventTarget hsends').symm.trans (call_of_eventTarget hsends))
    cases hsends'.symm.trans hsends
    rw [Bool.and_eq_true, Bool.not_eq_true'] at hentry
    exact ⟨type, htype, hentry.1, hentry.2, rfl⟩
  · rintro ⟨type, htype, hentry, hdeclares, rfl⟩
    refine ⟨call, hcall, Option.bind_eq_some_iff.2 ⟨_, hsends, ?_⟩⟩
    refine Option.bind_eq_some_iff.2 ⟨type, htype, Option.ite_none_right_eq_some.2 ⟨?_, rfl⟩⟩
    rw [hentry, hdeclares]
    rfl

/-- The members that the tree of a class shows are declared by a part of its type, so the search
along the chain finds them as well. -/
theorem declaresTarget_iff {corpus : Corpus} {unit : OutlinedFile} {graph : Option CallGraph}
    {decl : TypeDecl} {target : String} {analysis : AnalysisSettings} {units : List OutlinedFile}
    (built : SymbolSpace.Built analysis units corpus.space) (hdecl : decl ∈ corpus.space.types)
    (hpart : Outline.fragment unit.file unit.outline.namespaceName type ∈
      corpus.space.partsOf decl)
    (hkind : type.kind = "class_declaration")
    (haround : (modelOf corpus unit).enclosingType call = some decl) :
    declaresTarget (.ofCorpus corpus unit graph) type call target = true ↔
      corpus.space.DeclaresMethod decl target := by
  have hchain : ((modelOf corpus unit).enclosingType call).any (fun decl =>
      (corpus.space.bases.findMethods decl target).isSome) = true ↔
        corpus.space.DeclaresMethod decl target := by
    rw [haround]
    exact built.isSome_findMethods_iff hdecl
  refine Iff.trans (Bool.or_eq_true ..).to_iff ⟨?_, fun h => .inr (hchain.2 h)⟩
  rintro (hown | hfound)
  · obtain ⟨member, hmember, hnamed⟩ := List.any_eq_true.1 hown
    rw [Bool.and_eq_true, beq_iff_eq, beq_iff_eq] at hnamed
    refine ⟨decl, .refl, _, hpart, Outline.methodDecl unit.file member, ?_, hnamed.2⟩
    have hheld : Outline.heldMembers type = type.typeMembers := by
      rw [Outline.heldMembers, hkind]
      rfl
    refine List.mem_map_of_mem (List.mem_filter.2 ⟨?_, by simpa using hnamed.1⟩)
    rw [hheld]
    exact hmember
  · exact hchain.1 hfound

variable {analysis : AnalysisSettings} {sources : List SourceFile} {marker : String}
  {corpus : Corpus} {unit : OutlinedFile}

/-- The rule on sent events is exact. A literal that a call in an entry class passes as the method
to run is reported exactly when no part of the class's type, nor of a type that it reaches through
base lists, declares a method of that name; and the three ways to write the name as a literal
mean the same. -/
theorem eventTargets_exact
    (hmade : Corpus.MadeOf analysis (sources.map (.ofFile · marker)) corpus)
    (hunit : unit ∈ corpus.space.files)
    (hcall : call ∈ unit.file.root.descendants ["invocation_expression"])
    (haround : call.enclosing Kind.typeDeclarations = some type)
    (hentry : type ∈ corpus.space.entryNodes unit)
    (hsends : eventTarget call = some (routine, literal)) (graph : Option CallGraph) :
    (∃ rule found decl, Registry.catalog.get? 30 = some rule ∧
      rule.evaluate (.ofCorpus corpus unit graph) = .ok found ∧
      corpus.type? (type.qualifiedName unit.outline.namespaceName) = some decl ∧
      ∀ message, (literal, message) ∈ found ↔
        message = routine ++ " target method '" ++ literalValue literal.text ++
          "' does not exist in '" ++ type.declaredName ++ "'" ∧
        ¬ corpus.space.DeclaresMethod decl (literalValue literal.text)) ∧
    ∀ name : String, '"' ∉ name.toList → ∀ text ∈ spellings name, literalValue text = name := by
  refine ⟨?_, fun name hname text => literalValue_of_spelling hname⟩
  have built := SymbolSpace.built_of_build hmade.indexed.1
  obtain ⟨hkind, hfragment⟩ := built.fragment_of_entryNode hunit hentry
  obtain ⟨decl, hdecl, hfind, hpart⟩ := built.exists_find?_of_fragment hunit hfragment
  have htype : (modelOf corpus unit).enclosingType call = some decl :=
    (Model.enclosingType_of_enclosing haround).trans hfind
  have hclass : call.enclosing ["class_declaration"] = some type :=
    Node.enclosing_of_subset (by decide) haround (by simp [hkind])
  have hsame : (RuleInput.ofCorpus corpus unit graph).entryTypes.any type.sameAs = true :=
    List.any_eq_true.2 ⟨type, hentry, by simp [Node.sameAs]⟩
  have hdeclared : declaresTarget (.ofCorpus corpus unit graph) type call
      (literalValue literal.text) = true ↔
        corpus.space.DeclaresMethod decl (literalValue literal.text) :=
    declaresTarget_iff built hdecl hpart hkind htype
  refine ⟨_, _, decl, rfl, rfl, hfind, fun message => ?_⟩
  rw [mem_eventTargets_iff hcall hsends, ← hdeclared, Bool.not_eq_true]
  constructor
  · rintro ⟨other, hother, -, hdeclares, hmessage⟩
    cases hclass.symm.trans hother
    exact ⟨hmessage, hdeclares⟩
  · rintro ⟨hmessage, hdeclares⟩
    exact ⟨type, hclass, hsame, hdeclares, hmessage⟩

section Hall

/-- A call that passes one literal. -/
def sending (routine literal : String) : Tree :=
  Sketch.group "invocation_expression" none
    [Sketch.word "identifier" routine "function",
      Sketch.group "argument_list" "arguments"
        [Sketch.group "argument" none [Sketch.word "string_literal" literal none]]]

/-- A door that opens, as every gate does, and that is to close, as none does. -/
def hall : List SourceFile :=
  [Sketch.file "Door.cs"
      [Sketch.usingOf "UdonSharp",
        Sketch.classDecl [] "Door" ["Gate"]
          [Sketch.methodDecl [] "Start"
            [sending "SendCustomEvent" "\"Open\"", sending "SendCustomEvent" "\"Close\""]]],
    Sketch.file "Gate.cs"
      [Sketch.classDecl [] "Gate" ["UdonSharpBehaviour"] [Sketch.methodDecl [] "Open" []]]]

def hallSpace : SymbolSpace :=
  .inOrder (Sketch.outlined hall)

def hallType (name : String) : TypeDecl :=
  (hallSpace.types.find? name).getD default

def doorUnit : OutlinedFile :=
  ((Sketch.outlined hall).head?).getD (.ofFile (Sketch.file "" []) "")

def doorNode : Node :=
  ((doorUnit.file.root.descendants ["class_declaration"]).head?).getD default

def doorCall (place : Nat) : Node :=
  ((doorUnit.file.root.descendants ["invocation_expression"])[place]?).getD default

def doorLiteral (place : Nat) : Node :=
  ((doorUnit.file.root.descendants ["string_literal"])[place]?).getD default

theorem build_hall : SymbolSpace.build {} (Sketch.outlined hall) = .ok hallSpace :=
  SymbolSpace.build_inOrder (by decide) (by decide) (by decide)

theorem madeOf_hall : Corpus.MadeOf {} (Sketch.outlined hall) (.ofSpace hallSpace) :=
  .of_build build_hall

theorem extends_hall {base : TypeDecl} :
    (hallSpace.bases.Extends (hallType "Door") base ↔ base = hallType "Gate") ∧
      ¬ hallSpace.bases.Extends (hallType "Gate") base := by
  have hbases : hallSpace.bases.basesOf (hallType "Door") = [hallType "Gate"] ∧
      hallSpace.bases.basesOf (hallType "Gate") = [] := by
    decide
  simp [BaseTable.Extends, hbases.1, hbases.2]

theorem reaches_hall {owner : TypeDecl}
    (h : Relation.ReflTransGen hallSpace.bases.Extends (hallType "Door") owner) :
    owner = hallType "Door" ∨ owner = hallType "Gate" := by
  induction h with
  | refl => exact .inl rfl
  | tail _ hstep ih =>
      obtain rfl | rfl := ih
      · exact .inr (extends_hall.1.1 hstep)
      · exact absurd hstep extends_hall.2

theorem doorNode_mem_entryNodes : doorNode ∈ hallSpace.entryNodes doorUnit := by
  have built := SymbolSpace.built_of_build build_hall
  have hinherits : hallSpace.inheritsBase (hallType "Door") = true := by
    refine (built.fits_inheritsBase (by decide)).2 ?_
      (.of_base (extends_hall.1.2 rfl) (.of_names (by decide)))
    refine .of_bases fun base hbase => .of_bases fun next hnext => ?_
    rw [extends_hall.1.1 hbase] at hnext
    exact absurd hnext extends_hall.2
  refine SymbolSpace.mem_entryNodes_iff.2 ⟨_, .head _, ?_, rfl⟩
  exact Bool.and_eq_true_iff.2 ⟨by decide, hinherits⟩

/-- The method that the gate has is not missed at the door; the other one is. -/
theorem eventTargets_exact_hall : ∃ rule found, Registry.catalog.get? 30 = some rule ∧
    rule.evaluate (.ofCorpus (.ofSpace hallSpace) doorUnit none) = .ok found ∧
      (∀ message, (doorLiteral 0, message) ∉ found) ∧
      (doorLiteral 1, "SendCustomEvent target method 'Close' does not exist in 'Door'") ∈
        found := by
  have built := SymbolSpace.built_of_build build_hall
  have hmem : hallType "Door" ∈ hallSpace.types := by decide
  have hdoor : (Corpus.ofSpace hallSpace).type?
      (doorNode.qualifiedName doorUnit.outline.namespaceName) = some (hallType "Door") := rfl
  have hunit : doorUnit ∈ (Corpus.ofSpace hallSpace).space.files := .head _
  have hcalls : doorUnit.file.root.descendants ["invocation_expression"] =
      [doorCall 0, doorCall 1] := rfl
  have hfirst : eventTarget (doorCall 0) = some ("SendCustomEvent", doorLiteral 0) := rfl
  have hsecond : eventTarget (doorCall 1) = some ("SendCustomEvent", doorLiteral 1) := rfl
  obtain ⟨⟨rule, found, decl, hrule, hfound, htype, hopen⟩, -⟩ :=
    eventTargets_exact madeOf_hall hunit (hcalls ▸ .head _) rfl doorNode_mem_entryNodes hfirst none
  obtain ⟨⟨_, _, _, hrule', hfound', htype', hclose⟩, -⟩ :=
    eventTargets_exact madeOf_hall hunit (hcalls ▸ .tail _ (.head _)) rfl doorNode_mem_entryNodes
      hsecond none
  cases hrule.symm.trans hrule'
  cases hfound.symm.trans hfound'
  cases hdoor.symm.trans htype
  cases hdoor.symm.trans htype'
  refine ⟨rule, found, hrule, hfound, fun message hreported => ?_, (hclose _).2 ⟨rfl, ?_⟩⟩
  · refine ((hopen message).1 hreported).2 ((built.declaresMethod_iff hmem).2 ?_)
    exact ⟨hallType "Gate", .single (extends_hall.1.2 rfl), by decide⟩
  · rintro hdeclares
    obtain ⟨owner, hreach, hmethod⟩ := (built.declaresMethod_iff hmem).1 hdeclares
    obtain rfl | rfl := reaches_hall hreach
    · exact absurd hmethod (by decide)
    · exact absurd hmethod (by decide)

end Hall

end Rule
end SandboxLint
