import SandboxLint.Proofs.Rule.EventTargets

/-!
What a corpus adds to the rules that the tree decides. Two of them ask it, and both only for a
reason to keep quiet: a base that is known to inherit the sandboxed base is no interface, and a
method that a base class has is no missing target. All other rules find the same with a corpus
and without one.
-/

namespace SandboxLint

/-- The same input with a corpus to ask, or with none. -/
def RuleInput.within (input : RuleInput) (corpus : Option Corpus) : RuleInput :=
  { input with corpus }

namespace Rule

variable {input : RuleInput} {corpus : Corpus} {rule : Rule}

/-- A corpus knows that a base inherits the sandboxed base. -/
def clearsBase (corpus : Corpus) (input : RuleInput) (base : Node) : Bool :=
  (RuleInput.resolved ((input.modelIn corpus).typeReference base)).any corpus.space.inheritsBase

/-- A corpus knows the class around a call to have a method, itself or through its bases. -/
def clearsTarget (corpus : Corpus) (input : RuleInput) (call : Node) (target : String) : Bool :=
  ((input.modelIn corpus).enclosingType call).any fun decl =>
    (corpus.space.bases.findMethods decl target).isSome

/-- What a corpus knows against a finding of a code at a place. The literal that names the target
of an event stands in an argument of the argument list of its call. -/
def clears (corpus : Corpus) (input : RuleInput) (code : Int) (place : Node) : Bool :=
  if code = 17 then clearsBase corpus input place
  else if code = 30 then
    ((place.parent.bind Node.parent).bind Node.parent).any fun call =>
      clearsTarget corpus input call (literalValue place.text)
  else false

theorem structural_cases (hrule : rule ∈ Registry.catalogRules)
    (hfamily : rule.family = .structural) :
    (rule.ReadsFile ∧ (∀ input, ∃ found, rule.evaluate input = .ok found) ∧
      rule.code ≠ 17 ∧ rule.code ≠ 30) ∨
    (rule.code = 17 ∧ rule.evaluate = fun input => .ok (interfaces input)) ∨
    (rule.code = 30 ∧ rule.evaluate = fun input => .ok (eventTargets input)) := by
  simp only [Registry.catalogRules, List.mem_cons, List.not_mem_nil, or_false] at hrule
  rcases hrule with rfl | rfl | rfl | rfl | rfl | rfl | rfl | rfl | rfl | rfl | rfl | rfl | rfl |
    rfl | rfl | rfl | rfl | rfl | rfl | rfl | rfl | rfl | rfl | rfl | rfl | rfl
  all_goals first
    | exact .inr (.inl ⟨rfl, rfl⟩)
    | exact .inr (.inr ⟨rfl, rfl⟩)
    | exact absurd hfamily (by decide)
    | exact .inl ⟨readsFile_of_same fun _ _ _ _ _ _ _ _ => rfl, fun _ => ⟨_, rfl⟩, by decide,
        by decide⟩

theorem ReadsFile.evaluate_within (h : rule.ReadsFile) (a b : Option Corpus) :
    rule.evaluate (input.within a) = rule.evaluate (input.within b) :=
  h _ _ ⟨rfl, rfl, rfl⟩

theorem interfaces_within : interfaces (input.within (some corpus)) =
    (interfaces (input.within none)).filter fun finding =>
      !clearsBase corpus input finding.1 := by
  have hknown : ∀ base, baseInherits (input.within (some corpus)) base =
      clearsBase corpus input base := fun _ => rfl
  have hunknown : ∀ base, baseInherits (input.within none) base = false := fun _ => rfl
  rw [interfaces, interfaces, List.filter_map, List.filter_filter]
  refine congrArg (List.map _) (List.filter_congr fun base _ => ?_)
  rw [hknown, hunknown, Function.comp_apply, Bool.not_false, Bool.and_true, Bool.and_comm]
  rfl

theorem declaresTarget_within (type call : Node) (target : String) :
    declaresTarget (input.within (some corpus)) type call target =
      (declaresTarget (input.within none) type call target ||
        clearsTarget corpus input call target) :=
  congrArg (· || clearsTarget corpus input call target) (Bool.or_false _).symm

theorem eventTargets_within : eventTargets (input.within (some corpus)) =
    (eventTargets (input.within none)).filter fun finding =>
      !clears corpus input 30 finding.1 := by
  rw [eventTargets, eventTargets, List.filter_filterMap]
  refine List.filterMap_congr fun call _ => ?_
  cases hsends : eventTarget call with
  | none => rfl
  | some sent =>
      obtain ⟨routine, literal⟩ := sent
      -- The literal leads back to its call, about which the corpus is asked.
      have hclears : clears corpus input 30 literal =
          clearsTarget corpus input call (literalValue literal.text) := by
        rw [clears, if_neg (by decide), if_pos rfl, call_of_eventTarget hsends]
        rfl
      cases htype : call.enclosing ["class_declaration"] with
      | none => rfl
      | some type =>
          have htypes : (input.within (some corpus)).entryTypes = (input.within none).entryTypes :=
            rfl
          simp only [Option.bind_eq_bind, Option.bind_some, declaresTarget_within, htypes,
            Bool.not_or, ← Bool.and_assoc]
          cases (input.within none).entryTypes.any type.sameAs &&
            !declaresTarget (input.within none) type call (literalValue literal.text) with
          | false => rfl
          | true => simp [Option.filter_some, hclears]

/-- A corpus only takes findings away from the rules that the tree decides. What it leaves are the
same places and messages in the same order: all of them, for every rule but those on interfaces
and on event targets, and for these two all that it knows nothing against. A base whose place it
fails to resolve stays reported. -/
theorem structural_findings_cleared (hrule : rule ∈ Registry.catalog.rules)
    (hfamily : rule.family = .structural) (input : RuleInput) (corpus : Corpus) :
    ∃ found bare, rule.evaluate (input.within (some corpus)) = .ok found ∧
      rule.evaluate (input.within none) = .ok bare ∧
      found.Sublist bare ∧
      (rule.code ≠ 17 → rule.code ≠ 30 → found = bare) ∧
      (found = bare.filter fun finding => !clears corpus input rule.code finding.1) ∧
      ∀ finding ∈ bare, ∀ fault, (input.modelIn corpus).typeReference finding.1 = .error fault →
        rule.code = 17 → finding ∈ found := by
  have hfiltered : ∃ bare, rule.evaluate (input.within none) = .ok bare ∧
      rule.evaluate (input.within (some corpus)) =
        .ok (bare.filter fun finding => !clears corpus input rule.code finding.1) := by
    obtain ⟨hreads, hends, hbase, htarget⟩ | ⟨hcode, hevaluate⟩ | ⟨hcode, hevaluate⟩ :=
      structural_cases hrule hfamily
    · obtain ⟨bare, hbare⟩ := hends (input.within none)
      refine ⟨bare, hbare, (hreads.evaluate_within _ _).trans (hbare.trans (congrArg _ ?_))⟩
      exact (List.filter_eq_self.2 fun finding _ => by simp [clears, hbase, htarget]).symm
    · rw [hevaluate, hcode]
      exact ⟨_, rfl, congrArg Except.ok interfaces_within⟩
    · rw [hevaluate, hcode]
      exact ⟨_, rfl, congrArg Except.ok eventTargets_within⟩
  obtain ⟨bare, hbare, hfound⟩ := hfiltered
  refine ⟨_, bare, hfound, hbare, List.filter_sublist, fun hbase htarget => ?_, rfl,
    fun finding hmem fault hfault hcode => List.mem_filter.2 ⟨hmem, ?_⟩⟩
  · exact List.filter_eq_self.2 fun finding _ => by simp [clears, hbase, htarget]
  · simp [clears, clearsBase, hcode, hfault, RuleInput.resolved]

/-- The entry class of the hall on its own. -/
def porch : RuleInput :=
  { unit := doorUnit, entryTypes := [doorNode], analysis := {} }

theorem clears_porch : clears (.ofSpace hallSpace) porch 30 (doorLiteral 0) = true ∧
    clears (.ofSpace hallSpace) porch 30 (doorLiteral 1) = false := by
  have built := SymbolSpace.built_of_build build_hall
  have hmem : hallType "Door" ∈ hallSpace.types := by decide
  have hopen : (hallSpace.bases.findMethods (hallType "Door") "Open").isSome = true :=
    (built.isSome_findMethods_iff hmem).2 ((built.declaresMethod_iff hmem).2
      ⟨hallType "Gate", .single (extends_hall.1.2 rfl), by decide⟩)
  have hclose : (hallSpace.bases.findMethods (hallType "Door") "Close").isSome = false := by
    refine Bool.eq_false_iff.2 fun hfound => ?_
    obtain ⟨owner, hreach, hmethod⟩ :=
      (built.declaresMethod_iff hmem).1 ((built.isSome_findMethods_iff hmem).1 hfound)
    obtain rfl | rfl := reaches_hall hreach
    · exact absurd hmethod (by decide)
    · exact absurd hmethod (by decide)
  exact ⟨hopen, hclose⟩

/-- Without the corpus both events at the door miss their methods; with it the one that the gate
has is found. -/
theorem structural_findings_cleared_hall : ∃ rule found bare,
    Registry.catalog.get? 30 = some rule ∧
    rule.evaluate (porch.within (some (.ofSpace hallSpace))) = .ok found ∧
    rule.evaluate (porch.within none) = .ok bare ∧ found.Sublist bare ∧
    bare.map (·.1) = [doorLiteral 0, doorLiteral 1] ∧ found.map (·.1) = [doorLiteral 1] := by
  have hrule : Registry.catalog.get? 30 = some _ := rfl
  obtain ⟨found, bare, hfound, hbare, hsublist, -, hcut, -⟩ :=
    structural_findings_cleared (List.mem_of_find?_eq_some hrule) rfl porch (.ofSpace hallSpace)
  have hplaces : bare.map (·.1) = [doorLiteral 0, doorLiteral 1] := by
    cases hbare
    rfl
  refine ⟨_, found, bare, hrule, hfound, hbare, hsublist, hplaces, ?_⟩
  have hleft : found.map (·.1) = (bare.map (·.1)).filter
      (!clears (.ofSpace hallSpace) porch 30 ·) := by
    rw [hcut, List.filter_map]
    rfl
  rw [hleft, hplaces]
  simp [clears_porch.1, clears_porch.2]

end Rule
end SandboxLint
