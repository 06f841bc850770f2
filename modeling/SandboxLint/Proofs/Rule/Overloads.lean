import SandboxLint.Proofs.Corpus.ApartIndex
import SandboxLint.Proofs.EntryPoint

/-!
Methods of one name. The rule on overloads reports a method when an earlier direct member of the
class has its name. Direct members stand in the body of the class with nothing but conditional
and region wrappers in between, and it does not matter which: methods in branches of which only
one is ever compiled are overloads like any others.
-/

namespace SandboxLint
namespace Node

/-- Whether the branch that a place lies in has an alternative that another place lies in. -/
def YieldsTo (a b : Node) : Prop :=
  ∃ branch ∈ a.ancestors, branch.kind ∈ ["preproc_if", "preproc_elif"] ∧
    ∃ alternative ∈ branch.children, alternative.kind ∈ ["preproc_else", "preproc_elif"] ∧
      alternative ∉ a.ancestors ∧ alternative ∈ b.ancestors

/-- Whether one place is compiled only where the other one is not. -/
def Excludes (a b : Node) : Prop :=
  a.YieldsTo b ∨ b.YieldsTo a

end Node

namespace Rule

def overloadMessage (name : String) : String :=
  "Method overloads are not supported in UdonSharp: '" ++ name ++ "'"

theorem mem_repeatedMethods_cons {seen : List String} {first method : Node} {rest : List Node}
    {message : String} : (method, message) ∈ repeatedMethods seen (first :: rest) ↔
      (method = first ∧ message = overloadMessage first.declaredName ∧
        first.declaredName ∈ seen) ∨
      (method, message) ∈ repeatedMethods (first.declaredName :: seen) rest := by
  rw [repeatedMethods]
  by_cases hseen : first.declaredName ∈ seen
  · rw [if_pos (List.contains_iff_mem.2 hseen), List.mem_cons, Prod.mk.injEq,
      and_iff_left hseen]
    rfl
  · rw [if_neg (mt List.contains_iff_mem.1 hseen)]
    exact ⟨.inr, fun h => h.resolve_left fun hhere => hseen hhere.2.2⟩

theorem mem_repeatedMethods_iff {seen : List String} {methods : List Node} {method : Node}
    {message : String} : (method, message) ∈ repeatedMethods seen methods ↔
      message = overloadMessage method.declaredName ∧
      ∃ before after, methods = before ++ method :: after ∧
        (method.declaredName ∈ seen ∨
          ∃ earlier ∈ before, earlier.declaredName = method.declaredName) := by
  induction methods generalizing seen with
  | nil => simp [repeatedMethods]
  | cons first rest ih =>
      -- For those behind it, the name of `first` is one that was seen.
      rw [mem_repeatedMethods_cons, ih]
      constructor
      · rintro (⟨rfl, hmessage, hseen⟩ | ⟨hmessage, before, after, rfl, hname⟩)
        · exact ⟨hmessage, [], rest, rfl, .inl hseen⟩
        · refine ⟨hmessage, first :: before, after, rfl, ?_⟩
          rw [List.mem_cons] at hname
          obtain (hfirst | hseen) | ⟨earlier, hearlier, hsame⟩ := hname
          · exact .inr ⟨first, .head _, hfirst.symm⟩
          · exact .inl hseen
          · exact .inr ⟨earlier, .tail _ hearlier, hsame⟩
      · rintro ⟨hmessage, before, after, hsplit, hname⟩
        cases before with
        | nil =>
            cases hsplit
            exact .inl ⟨rfl, hmessage, hname.resolve_right (by simp)⟩
        | cons head before =>
            cases hsplit
            refine .inr ⟨hmessage, before, after, rfl, ?_⟩
            obtain hseen | ⟨earlier, hearlier, hsame⟩ := hname
            · exact .inl (.tail _ hseen)
            · cases hearlier with
              | head => exact .inl (hsame ▸ .head _)
              | tail _ hearlier => exact .inr ⟨earlier, hearlier, hsame⟩

/-- A method of an entry class is reported exactly when an earlier direct member of the class is a
method of its name, in whatever branches the two stand. -/
theorem overloads_exact (input : RuleInput) : ∃ rule found,
    Registry.catalog.get? 16 = some rule ∧ rule.evaluate input = .ok found ∧
    (∀ method message, (method, message) ∈ found ↔
      message = overloadMessage method.declaredName ∧ ∃ type ∈ input.entryTypes, ∃ before after,
        type.typeMembers.filter (·.kind == "method_declaration") = before ++ method :: after ∧
        ∃ earlier ∈ before, earlier.declaredName = method.declaredName) ∧
    ∀ type body : Node, type.child? "body" = some body → type.typeMembers =
      (body.children.flatMap (·.places)).filter (Node.standsBelow (body.tree :: body.above)) := by
  refine ⟨_, methodOverloads input, rfl, rfl, fun method message => ?_, fun _ _ =>
    Node.typeMembers_eq⟩
  rw [methodOverloads, List.mem_flatMap]
  simp only [mem_repeatedMethods_iff, List.not_mem_nil, false_or]
  constructor
  · rintro ⟨type, htype, hmessage, hearlier⟩
    exact ⟨hmessage, type, htype, hearlier⟩
  · rintro ⟨hmessage, type, htype, hearlier⟩
    exact ⟨type, htype, hmessage, hearlier⟩

section Shutter

/-- A door that has one method in either branch of a condition. -/
def shutter : List SourceFile :=
  [Sketch.file "Door.cs"
    [Sketch.usingOf "UdonSharp",
      Sketch.classDecl [] "Door" ["UdonSharpBehaviour"]
        [Sketch.group "preproc_if" none
          [Sketch.methodDecl [] "Play" [],
            Sketch.group "preproc_else" none [Sketch.methodDecl [] "Play" []]]]]]

def shutterSpace : SymbolSpace :=
  .inOrder (Sketch.outlined shutter)

def shutterUnit : OutlinedFile :=
  ((Sketch.outlined shutter).head?).getD (.ofFile (Sketch.file "" []) "")

def shutterPlace (kind : String) (place : Nat) : Node :=
  ((shutterUnit.file.root.descendants [kind])[place]?).getD default

theorem build_shutter : SymbolSpace.build {} (Sketch.outlined shutter) = .ok shutterSpace :=
  SymbolSpace.build_inOrder (by decide) (by decide) (by decide)

theorem madeOf_shutter :
    Corpus.MadeOf {} (Sketch.outlined shutter) (.ofSpace shutterSpace) :=
  .of_build build_shutter

theorem shutter_mem_entryNodes :
    shutterPlace "class_declaration" 0 ∈ shutterSpace.entryNodes shutterUnit := by
  have hentry := (SymbolSpace.built_of_build build_shutter).isEntryFragment_of_flat (by decide)
  refine SymbolSpace.mem_entryNodes_iff.2 ⟨_, .head _, ?_, rfl⟩
  rw [hentry]
  decide

theorem excludes_shutter :
    (shutterPlace "method_declaration" 0).Excludes (shutterPlace "method_declaration" 1) := by
  refine .inl ⟨shutterPlace "preproc_if" 0, .head _, by decide, shutterPlace "preproc_else" 0,
    .tail _ (.head _), by decide, fun habove => ?_, .head _⟩
  exact absurd (List.mem_map_of_mem (f := Node.kind) habove) (by decide)

/-- Of two methods that are never compiled together, the second is reported all the same. -/
theorem not_forall_silent_about_excluded : ¬ ∀ (analysis : AnalysisSettings)
    (units : List OutlinedFile) (corpus : Corpus) (unit : OutlinedFile) (graph : Option CallGraph)
    (type : Node) (before : List Node) (method : Node) (after : List Node) (rule : Rule)
    (found : List Finding) (message : String),
    Corpus.MadeOf analysis units corpus → unit ∈ corpus.space.files →
    type ∈ corpus.space.entryNodes unit →
    type.typeMembers.filter (·.kind == "method_declaration") = before ++ method :: after →
    (∀ earlier ∈ before, earlier.declaredName = method.declaredName → earlier.Excludes method) →
    Registry.catalog.get? 16 = some rule →
    rule.evaluate (.ofCorpus corpus unit graph) = .ok found → (method, message) ∉ found := by
  intro hsilent
  refine hsilent {} (Sketch.outlined shutter) (.ofSpace shutterSpace) shutterUnit none
    (shutterPlace "class_declaration" 0) [shutterPlace "method_declaration" 0]
    (shutterPlace "method_declaration" 1) [] _ _ (overloadMessage "Play") madeOf_shutter (.head _)
    shutter_mem_entryNodes rfl ?_ rfl rfl ?_
  · intro earlier hearlier _
    rw [List.mem_singleton.1 hearlier]
    exact excludes_shutter
  · refine List.mem_flatMap.2 ⟨_, shutter_mem_entryNodes, mem_repeatedMethods_iff.2 ⟨rfl, ?_⟩⟩
    exact ⟨[shutterPlace "method_declaration" 0], [], rfl, .inr ⟨_, .head _, rfl⟩⟩

end Shutter
end Rule
end SandboxLint
