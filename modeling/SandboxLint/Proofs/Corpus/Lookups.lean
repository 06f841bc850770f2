import SandboxLint.Proofs.Corpus.ModelAgreement
import SandboxLint.Proofs.Corpus.Sketch
import SandboxLint.Proofs.Corpus.Termination

/-!
What typing and resolution look up. Each computation of a model comes with the references that it
asks to be resolved on its way; what would only be asked of an answer that is missing is left out.
A computation has an answer exactly when everything that it asks for has. Typing goes from uses to
initialisers and loop sources anywhere in the tree, so the tree does not bound it; the steps that
it may still take do, and every call takes one of them.
-/

namespace SandboxLint

/-- A reference to be resolved at a site. -/
structure Query where
  site : Site
  ref : TypeRef
  deriving DecidableEq, Repr

/-- Resolution of the reference does not run into a circle of aliases. -/
def Query.Ends (query : Query) : Prop :=
  ¬ query.site.imports.ReachesCircle query.ref

theorem Query.ends_of_no_alias {query : Query}
    (h : query.site.imports.aliasTarget? query.ref = none) : query.Ends := by
  intro hcircle
  obtain ⟨next, ⟨target, htarget, -⟩, -⟩ := hcircle.endless.next
  cases h.symm.trans htarget

/-- The queries of what follows an answer, none when there is no answer. -/
def following {α : Type} (x : Except Fault α) (queries : α → List Query) : List Query :=
  match x with
  | .ok a => queries a
  | .error _ => []

/-- A computation has an answer exactly when all its queries end. -/
def Settles {α : Type} (x : Except Fault α) (queries : List Query) : Prop :=
  (∃ a, x = .ok a) ↔ ∀ query ∈ queries, query.Ends

namespace Settles

variable {α β : Type} {x : Except Fault α} {queries : List Query}

theorem ok (a : α) : Settles (.ok a) [] :=
  ⟨fun _ => List.forall_mem_nil _, fun _ => ⟨a, rfl⟩⟩

theorem resolveRef (space : SymbolSpace) (site : Site) (ref : TypeRef) :
    Settles (space.resolveRef site ref) [⟨site, ref⟩] := by
  rw [Settles, List.forall_mem_singleton, Query.Ends, ← SymbolSpace.exists_resolves_iff]
  exact exists_congr fun _ => SymbolSpace.resolveRef_eq_ok_iff

theorem bind {f : α → Except Fault β} {next : α → List Query} (hx : Settles x queries)
    (hf : ∀ a, Settles (f a) (next a)) : Settles (x >>= f) (queries ++ following x next) := by
  unfold Settles at hx
  rw [Settles, List.forall_mem_append, ← hx]
  cases x with
  | ok a =>
      have hnext := hf a
      unfold Settles at hnext
      simpa [following, Bind.bind, Except.bind] using hnext
  | error fault => simp [following, Bind.bind, Except.bind]

theorem map (hx : Settles x queries) (f : α → β) : Settles (f <$> x) queries := by
  unfold Settles at hx
  rw [Settles, ← hx]
  cases x with
  | ok a => simp [Functor.map, Except.map]
  | error fault => simp [Functor.map, Except.map]

/-- What is done with an answer without asking again leaves the queries as they are. -/
theorem andReturn (hx : Settles x queries) {f : α → Except Fault β} (hf : ∀ a, ∃ b, f a = .ok b) :
    Settles (x >>= f) queries := by
  have hbind : Settles (x >>= f) (queries ++ following x fun _ => []) := hx.bind fun a => by
    obtain ⟨b, hb⟩ := hf a
    exact hb ▸ Settles.ok b
  have hnone : following x (fun _ => []) = [] := by
    cases x <;> rfl
  rwa [hnone, List.append_nil] at hbind

theorem mapM {f : α → Except Fault β} {each : α → List Query} (h : ∀ a, Settles (f a) (each a))
    (xs : List α) : Settles (xs.mapM f) (xs.flatMap each) := by
  rw [Settles, Fallible.mapM_isOk_iff, List.forall_mem_flatMap]
  exact forall₂_congr fun a _ => h a

theorem ite {y : Except Fault α} {others : List Query} {c : Prop} [Decidable c]
    (hx : Settles x queries) (hy : Settles y others) :
    Settles (if c then x else y) (if c then queries else others) := by
  split
  · exact hx
  · exact hy

end Settles

namespace Model

variable (model : Model)

def requalifyQueries (ref? : Option TypeRef) (owner : TypeDecl) (path : String) : List Query :=
  match ref? with
  | none => []
  | some ref => [⟨model.space.inside owner path, ref⟩]

def lookupQueries (ref? : Option TypeRef) (node : Node) : List Query :=
  match ref? with
  | none => []
  | some ref => if ref.isImplicit then [] else [⟨model.site node, ref⟩]

/-- What the member of a name on a type asks for: its type, requalified. -/
def memberOfQueries (decl : TypeDecl) (name : String) : List Query :=
  match model.space.bases.findField decl name with
  | some (owner, field) => model.requalifyQueries field.type owner field.path
  | none =>
      match model.space.bases.findMethods decl name with
      | some (owner, [method]) => model.requalifyQueries method.returnType owner method.path
      | some _ => []
      | none => []

def importQueries (target : String) : List Query :=
  match TypeRef.parse target with
  | none => []
  | some ref => [⟨{ imports := model.unit.outline.imports }, ref⟩]

/-- What finding the methods of a plain call asks for: all static imports, unless a type around
the call has methods of the name. -/
def calleesQueries (node : Node) (name : String) : List Query :=
  let surrounding := (model.enclosingNames node).findSome? fun qualified =>
    (model.space.types.find? qualified).bind (model.space.bases.findMethods · name)
  match surrounding with
  | some _ => []
  | none => model.unit.outline.staticUsings.flatMap model.importQueries

def applicableQueries (call : Node) (callees : Option (TypeDecl × List MethodDecl)) : List Query :=
  match callees with
  | none => []
  | some (owner, methods) =>
      match methods.filter (·.accepts call.argumentCount) with
      | [method] => model.requalifyQueries method.returnType owner method.path
      | _ => []

def unboundNameQueries (node : Node) (name : String) : List Query :=
  match model.surroundingField node name with
  | some (owner, field) => model.requalifyQueries field.type owner field.path
  | none => model.lookupQueries (some { name }) node

def accessQueries (node : Node) (symbol? : Option Symbol) : List Query :=
  match symbol? with
  | some _ => []
  | none => model.lookupQueries (TypeRef.parse node.text) node

def receiverQueries (receiver : Option Node) (type? : Option TypeRef) : List Query :=
  match type?, receiver with
  | some ref, some node => if ref.isArray then [] else model.lookupQueries (some ref) node
  | _, _ => []

/-- What a member asks for: what typing its receiver does, what its receiver's type does, and what
is asked of that. -/
def receivedQueries (receiver : Option Node) (type : Except Fault (Option TypeRef))
    (typing : List Query) (next : TypeDecl → List Query) : List Query :=
  typing ++ following type fun type? =>
    model.receiverQueries receiver type? ++
      following (model.receiverDecl receiver type?) fun decl? =>
        match decl? with
        | none => []
        | some decl => next decl

mutual

def typeQueries : Nat → Option Node → List Query
  | 0, _ => []
  | _ + 1, none => []
  | fuel + 1, some node =>
      if node.kind == "parenthesized_expression" then typeQueries fuel node.namedChildren.head?
      else if node.kind == "identifier" then
        match model.binding node node.text with
        | none => model.unboundNameQueries node node.text
        | some binding =>
            if (TypeRef.parse binding.typeText).any (!·.isImplicit) then []
            else
              match binding.initializer, binding.loopSource with
              | some value, _ => typeQueries fuel (some value)
              | none, some source => typeQueries fuel (some source)
              | none, none => []
      else if Kind.thisNodes.contains node.kind then []
      else if Kind.baseNodes.contains node.kind then []
      else if node.kind == "member_access_expression" then
        memberQueries fuel node ++
          following (model.memberWithin fuel node) (model.accessQueries node)
      else if node.kind == "invocation_expression" then invocationQueries fuel node
      else if node.kind == "element_access_expression" then
        typeQueries fuel (node.child? "expression")
      else []
termination_by structural fuel => fuel

def memberQueries : Nat → Node → List Query
  | 0, _ => []
  | fuel + 1, node =>
      if node.kind != "member_access_expression" then []
      else
        let receiver := node.child? "expression"
        model.receivedQueries receiver (model.typeWithin fuel receiver) (typeQueries fuel receiver)
          fun decl =>
            let name := memberName (node.child? "name")
            if name == "" then [] else model.memberOfQueries decl name
termination_by structural fuel => fuel

def invocationQueries : Nat → Node → List Query
  | 0, _ => []
  | fuel + 1, node =>
      if node.kind != "invocation_expression" then []
      else
        match node.child? "function" with
        | none => []
        | some function =>
            if function.kind == "identifier" || function.kind == "generic_name" then
              let name := memberName (some function)
              if (model.binding node name).isSome then []
              else
                model.calleesQueries node name ++
                  following (model.plainCallees node name) (model.applicableQueries node)
            else if function.kind == "member_access_expression" then
              let receiver := function.child? "expression"
              model.receivedQueries receiver (model.typeWithin fuel receiver)
                (typeQueries fuel receiver) fun decl =>
                  let name := memberName (function.child? "name")
                  if name == "" then []
                  else model.applicableQueries node (model.space.bases.findMethods decl name)
            else []
termination_by structural fuel => fuel

end

variable {model}

theorem settles_canonicalRef (ref? : Option TypeRef) (owner : TypeDecl) (path : String) :
    Settles (model.space.canonicalRef ref? owner path)
      (model.requalifyQueries ref? owner path) := by
  cases ref? with
  | none => exact .ok none
  | some ref =>
      refine (Settles.resolveRef model.space (model.space.inside owner path) ref).andReturn ?_
      intro target
      cases target with
      | none => exact ⟨_, rfl⟩
      | some decl => exact ⟨_, rfl⟩

theorem settles_lookup (ref? : Option TypeRef) (node : Node) :
    Settles (model.lookup ref? node) (model.lookupQueries ref? node) := by
  cases ref? with
  | none => exact .ok none
  | some ref => exact .ite (.ok none) (.resolveRef model.space (model.site node) ref)

theorem settles_fieldSymbol (owner : TypeDecl) (field : FieldDecl) :
    Settles (model.fieldSymbol owner field)
      (model.requalifyQueries field.type owner field.path) :=
  (settles_canonicalRef field.type owner field.path).andReturn fun _ => ⟨_, rfl⟩

theorem settles_methodSymbol (owner : TypeDecl) (method : MethodDecl) :
    Settles (model.methodSymbol owner method)
      (model.requalifyQueries method.returnType owner method.path) :=
  (settles_canonicalRef method.returnType owner method.path).andReturn fun _ => ⟨_, rfl⟩

theorem settles_memberOf (decl : TypeDecl) (name : String) :
    Settles (model.memberOf decl name) (model.memberOfQueries decl name) := by
  rw [memberOf, memberOfQueries]
  cases model.space.bases.findField decl name with
  | some found => exact (settles_fieldSymbol found.1 found.2).map some
  | none =>
      cases model.space.bases.findMethods decl name with
      | none => exact .ok _
      | some found =>
          obtain ⟨owner, methods⟩ := found
          rcases methods with _ | ⟨method, _ | ⟨second, rest⟩⟩
          · exact .ok none
          · exact (settles_methodSymbol owner method).map some
          · exact .ok none

theorem settles_importedFrom (name target : String) :
    Settles (model.importedFrom name target) (model.importQueries target) := by
  have htarget : Settles
      (model.space.resolveText { imports := model.unit.outline.imports } target)
      (model.importQueries target) := by
    rw [SymbolSpace.resolveText, TypeTable.resolveText, importQueries]
    cases TypeRef.parse target with
    | none => exact .ok none
    | some ref => exact .resolveRef model.space _ ref
  refine htarget.andReturn fun decl? => ?_
  cases decl? with
  | none => exact ⟨_, rfl⟩
  | some decl =>
      dsimp only
      split
      · exact ⟨_, rfl⟩
      · exact ⟨_, rfl⟩

theorem settles_plainCallees (node : Node) (name : String) :
    Settles (model.plainCallees node name) (model.calleesQueries node name) := by
  rw [plainCallees, calleesQueries]
  cases (model.enclosingNames node).findSome? fun qualified =>
      (model.space.types.find? qualified).bind (model.space.bases.findMethods · name) with
  | some found => exact .ok _
  | none =>
      refine (Settles.mapM (settles_importedFrom name) _).andReturn fun found => ?_
      split
      · exact ⟨_, rfl⟩
      · exact ⟨_, rfl⟩

theorem settles_applicable (call : Node) (callees : Option (TypeDecl × List MethodDecl)) :
    Settles (model.applicable call callees) (model.applicableQueries call callees) := by
  cases callees with
  | none => exact .ok none
  | some found =>
      simp only [applicable, applicableQueries]
      generalize found.2.filter (·.accepts call.argumentCount) = fitting
      rcases fitting with _ | ⟨method, _ | ⟨second, rest⟩⟩
      · exact .ok none
      · exact (settles_methodSymbol found.1 method).map some
      · exact .ok none

theorem settles_unboundNameType (node : Node) (name : String) :
    Settles (model.unboundNameType node name) (model.unboundNameQueries node name) := by
  rw [unboundNameType, unboundNameQueries]
  cases model.surroundingField node name with
  | some found => exact settles_canonicalRef found.2.type found.1 found.2.path
  | none => exact (settles_lookup _ node).andReturn fun _ => ⟨_, rfl⟩

theorem settles_accessType (node : Node) (symbol? : Option Symbol) :
    Settles (model.accessType node symbol?) (model.accessQueries node symbol?) := by
  cases symbol? with
  | none => exact (settles_lookup _ node).andReturn fun _ => ⟨_, rfl⟩
  | some symbol =>
      simp only [accessType, accessQueries]
      split
      all_goals exact .ok _

theorem settles_receiverDecl (receiver : Option Node) (type? : Option TypeRef) :
    Settles (model.receiverDecl receiver type?) (model.receiverQueries receiver type?) := by
  cases type? with
  | none => exact .ok none
  | some ref =>
      cases receiver with
      | none => exact .ok none
      | some node => exact .ite (.ok none) (settles_lookup _ node)

theorem settles_received (receiver : Option Node) {type : Except Fault (Option TypeRef)}
    {typing : List Query} (htype : Settles type typing)
    {f : Option TypeDecl → Except Fault (Option Symbol)} {next : TypeDecl → List Query}
    (hnone : f none = .ok none) (hsome : ∀ decl, Settles (f (some decl)) (next decl)) :
    Settles (do f (← model.receiverDecl receiver (← type)))
      (model.receivedQueries receiver type typing next) := by
  refine htype.bind fun type? => (settles_receiverDecl receiver type?).bind fun decl? => ?_
  cases decl? with
  | none => exact hnone ▸ Settles.ok none
  | some decl => exact hsome decl

/-- One more step of typing and resolution answers exactly when all that it asks for ends. -/
structure StepsSettle (model : Model) (fuel : Nat) : Prop where
  type : ∀ node?, Settles (model.typeWithin fuel node?) (model.typeQueries fuel node?)
  member : ∀ node, Settles (model.memberWithin fuel node) (model.memberQueries fuel node)
  invocation : ∀ node,
    Settles (model.invocationWithin fuel node) (model.invocationQueries fuel node)

variable {fuel : Nat}

theorem settles_typeWithin_succ (hsteps : StepsSettle model fuel) (node : Node) :
    Settles (model.typeWithin (fuel + 1) (some node))
      (model.typeQueries (fuel + 1) (some node)) := by
  rw [typeWithin_succ, typeQueries]
  -- one goal for each kind of expression that asks for anything, in the order of the definition
  refine .ite ?_ <| .ite ?_ <| .ite (.ok _) <| .ite (.ok _) <| .ite ?_ <| .ite ?_ <| .ite ?_ ?_
  · exact hsteps.type _
  · cases model.binding node node.text with
    | none => exact settles_unboundNameType node node.text
    | some bound =>
        simp only [boundNameType]
        refine .ite (.ok _) ?_
        cases bound.initializer with
        | some value => exact hsteps.type _
        | none =>
            cases bound.loopSource with
            | none => exact .ok _
            | some source => exact (hsteps.type _).andReturn fun _ => ⟨_, rfl⟩
  · exact (hsteps.member node).bind fun symbol? => settles_accessType node symbol?
  · exact (hsteps.invocation node).andReturn fun _ => ⟨_, rfl⟩
  · exact (hsteps.type _).andReturn fun _ => ⟨_, rfl⟩
  · split
    · exact .ok _
    · split
      · exact .ok _
      · exact .ok _

theorem settles_memberWithin_succ (hsteps : StepsSettle model fuel) (node : Node) :
    Settles (model.memberWithin (fuel + 1) node) (model.memberQueries (fuel + 1) node) := by
  simp only [memberWithin, memberQueries]
  refine .ite (.ok none) (settles_received _ (hsteps.type _) rfl fun decl => ?_)
  exact .ite (.ok none) (settles_memberOf decl _)

theorem settles_invocationWithin_succ (hsteps : StepsSettle model fuel) (node : Node) :
    Settles (model.invocationWithin (fuel + 1) node)
      (model.invocationQueries (fuel + 1) node) := by
  simp only [invocationWithin, invocationQueries]
  refine .ite (.ok none) ?_
  cases node.child? "function" with
  | none => exact .ok none
  | some function =>
      refine .ite (.ite (.ok none) ?_) (.ite ?_ (.ok none))
      · exact (settles_plainCallees node _).bind fun callees => settles_applicable node callees
      · refine settles_received _ (hsteps.type _) rfl fun decl => ?_
        exact .ite (.ok none) (settles_applicable node _)

/-- However many steps are left, typing and resolution answer exactly when all that they ask for
ends: each call takes one of the steps, also where an initialiser leads back to where it began. -/
theorem stepsSettle (fuel : Nat) : StepsSettle model fuel := by
  induction fuel with
  | zero => exact ⟨fun _ => .ok none, fun _ => .ok none, fun _ => .ok none⟩
  | succ fuel ih =>
      refine ⟨fun node? => ?_, settles_memberWithin_succ ih, settles_invocationWithin_succ ih⟩
      cases node? with
      | none => exact .ok none
      | some node => exact settles_typeWithin_succ ih node

end Model
namespace SymbolSpace

/-- Nothing but a circle of aliases keeps resolution from its end, and nothing but a lookup that
comes to one keeps typing and resolution in a file from theirs. -/
theorem resolution_ends (space : SymbolSpace) :
    (∀ (path namespaceName : String) (enclosing : List String) (ref : TypeRef),
      let site : Site := { imports := space.imports path, namespaceName, enclosing }
      ((∀ found, ¬ space.Resolves site ref found) ↔
        ref.qualifier = "" ∧ (space.imports path).ReachesCircle ref) ∧
      (∀ found, space.resolveRef site ref = .ok found ↔ space.Resolves site ref found) ∧
      ∀ fault, space.resolveRef site ref = .error fault ↔
        fault = .aliasCycle ∧ ∀ found, ¬ space.Resolves site ref found) ∧
    ∀ (unit : OutlinedFile) (scopes : Scopes) (node : Node),
      let model : Model := { space, unit, scopes }
      ((∃ type?, model.typeOf node = .ok type?) ↔
        ∀ query ∈ model.typeQueries Model.depthLimit (some node), query.Ends) ∧
      ((∃ symbol?, model.memberAccess node = .ok symbol?) ↔
        ∀ query ∈ model.memberQueries Model.depthLimit node, query.Ends) ∧
      ((∃ symbol?, model.invocation node = .ok symbol?) ↔
        ∀ query ∈ model.invocationQueries Model.depthLimit node, query.Ends) := by
  refine ⟨fun path namespaceName enclosing ref => ?_, fun unit scopes node => ?_⟩
  · intro site
    have hendless : (∀ found, ¬ space.Resolves site ref found) ↔
        (space.imports path).ReachesCircle ref := by
      rw [← not_exists, exists_resolves_iff, not_not]
    refine ⟨hendless.trans ⟨fun hcircle => ⟨hcircle.endless.unqualified, hcircle⟩, And.right⟩,
      fun found => resolveRef_eq_ok_iff, fun fault => ?_⟩
    rw [hendless, resolveRef_eq_error_iff]
  · have hsteps : Model.StepsSettle { space, unit, scopes } Model.depthLimit :=
      Model.stepsSettle Model.depthLimit
    exact ⟨hsteps.type (some node), hsteps.member node, hsteps.invocation node⟩

section Loops

/-- The declaration of a local with an inferred type. -/
def inferred (name : String) (value : Tree) : Tree :=
  Sketch.group "variable_declaration" none
    [Sketch.word "implicit_type" "var" "type",
      Sketch.group "variable_declarator" none
        [Sketch.word "identifier" name "name", Sketch.token "=", value]]

/-- An alias of itself, two locals made of each other and a loop over its own item. -/
def loopsUnit : OutlinedFile :=
  .ofFile (Sketch.file "Loops.cs"
    [Sketch.group "using_directive" none
        [Sketch.word "identifier" "S" none, Sketch.token "=", Sketch.word "identifier" "S" none],
      Sketch.classDecl [] "Loops" []
        [Sketch.methodDecl [] "Run"
          [inferred "a" (Sketch.word "identifier" "b" none),
            inferred "b" (.node { (default : NodeInfo) with
                kind := "member_access_expression", text := "a.x", named := true }
              [Sketch.word "identifier" "a" "expression", Sketch.word "identifier" "x" "name"]),
            Sketch.group "foreach_statement" none
              [Sketch.word "implicit_type" "var" "type", Sketch.word "identifier" "c" "left",
                Sketch.word "identifier" "c" "right"]]]])
    ({} : AnalysisSettings).markerImport

def loopsModel : Model :=
  { space := inOrder [loopsUnit], unit := loopsUnit, scopes := Scope.collect loopsUnit.file.root }

def loopsSources : List Node :=
  (loopsUnit.file.root.descendants ["method_declaration"]).flatMap fun method =>
    (Scope.allBindings method).filterMap fun bound => bound.initializer.or bound.loopSource

/-- The alias does not end, but the locals are typed: the only name that they ask for is no
alias. -/
theorem resolution_ends_loops :
    (inOrder [loopsUnit]).resolveRef { imports := (inOrder [loopsUnit]).imports "Loops.cs" }
        { name := "S" } = .error .aliasCycle ∧
      loopsSources.map (·.text) = ["b", "a.x", "c"] ∧
      ∀ source ∈ loopsSources, ∃ type?, loopsModel.typeOf source = .ok type? := by
  obtain ⟨hresolution, htyping⟩ := resolution_ends (inOrder [loopsUnit])
  refine ⟨?_, by decide, fun source hsource => ?_⟩
  · have hcircle : ((inOrder [loopsUnit]).imports "Loops.cs").ReachesCircle { name := "S" } :=
      ⟨_, .refl, .single ⟨"S", by decide, by decide⟩⟩
    obtain ⟨hends, -, hfault⟩ := hresolution "Loops.cs" "" [] { name := "S" }
    exact (hfault _).2 ⟨rfl, hends.2 ⟨rfl, hcircle⟩⟩
  · have hasked : ∀ source ∈ loopsSources, ∀ query ∈
        loopsModel.typeQueries Model.depthLimit (some source),
        query.site.imports.aliasTarget? query.ref = none := by
      decide
    refine (htyping loopsUnit loopsModel.scopes source).1.2 fun query hquery => ?_
    exact Query.ends_of_no_alias (hasked source hsource query hquery)

end Loops

end SymbolSpace
end SandboxLint
