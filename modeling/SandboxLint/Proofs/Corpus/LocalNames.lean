import SandboxLint.Proofs.Corpus.ReferenceIndex

/-!
What local names are taken for. The bindings of a member are flat: a name has the first
binding that the member gives it, wherever in the member it stands. So where two loops or
two blocks of a member each declare a name, a place in the later one sees the declaration
of the earlier one, and the name has the type that is written there.
-/

namespace SandboxLint

namespace Scope

def ownBindings (member : Node) : List Binding :=
  if member.kind == "field_declaration" then [] else parameterBindings member

def sites (member : Node) : List Node :=
  (member.descendants bindingSites).filter (!isOwnDeclaration · member)

def bindingsTo (member : Node) (sites : List Node) : List Binding :=
  ownBindings member ++ sites.flatMap siteBindings

def first (bindings : List Binding) (name : String) : Option Binding :=
  bindings.find? (·.name == name)

theorem allBindings_eq (member : Node) : allBindings member = bindingsTo member (sites member) :=
  rfl

theorem bindingsTo_append (member : Node) (before after : List Node) :
    bindingsTo member (before ++ after) =
      bindingsTo member before ++ after.flatMap siteBindings := by
  rw [bindingsTo, bindingsTo, List.flatMap_append, List.append_assoc]

theorem get?_named (bindings : List Binding) (name : String) :
    Assoc.get? (bindings.map fun b => (b.name, b)) name = first bindings name := by
  induction bindings with
  | nil => rfl
  | cons binding rest ih =>
      rw [first, List.find?_cons, BEq.comm, List.map_cons, Assoc.get?, List.lookup_cons]
      split
      · rfl
      · exact ih

/-- The binding of a name in a member is the first that the member gives it. -/
theorem get?_ofMember (member : Node) (name : String) :
    (ofMember member).get? name = first (allBindings member) name := by
  rw [ofMember, Assoc.get?_ofFirstPairs, get?_named]

/-- A function-like member below a root that is told apart from all others by its key. -/
structure Distinct (root member : Node) : Prop where
  mem : member ∈ root.descendants Kind.functionMembers
  only : ∀ other ∈ root.descendants Kind.functionMembers, key other = key member → other = member

theorem Distinct.get?_collect {root member : Node} (h : Distinct root member) :
    (collect root).get? (key member) = some (ofMember member) := by
  refine Assoc.get?_ofPairs_of_unique (List.mem_map_of_mem h.mem) fun bindings hbindings => ?_
  obtain ⟨other, hother, hpair⟩ := List.mem_map.1 hbindings
  obtain ⟨hkey, rfl⟩ := Prod.mk.inj hpair
  rw [h.only other hother hkey]

end Scope

namespace Model

variable {model : Model}

theorem binding_eq_first (hscopes : model.scopes = Scope.collect model.unit.file.root)
    {member use : Node} (hmember : Scope.Distinct model.unit.file.root member)
    (huse : Scope.enclosingMember use = some member) (name : String) :
    model.binding use name = Scope.first (Scope.allBindings member) name := by
  rw [binding, huse, Option.bind_some, hscopes, hmember.get?_collect, Option.bind_some,
    Scope.get?_ofMember]

/-- The member that an access names where its receiver is of a type. -/
def memberThrough (model : Model) (access : Node) (type? : Option TypeRef) :
    Except Fault (Option Symbol) := do
  match ← model.receiverDecl (access.child? "expression") type? with
  | none => return none
  | some decl =>
      if memberName (access.child? "name") == "" then return none
      else model.memberOf decl (memberName (access.child? "name"))

theorem memberWithin_of_type {access : Node} (hkind : access.kind = "member_access_expression")
    {fuel : Nat} {type? : Option TypeRef}
    (htype : model.typeWithin fuel (access.child? "expression") = .ok type?) :
    model.memberWithin (fuel + 1) access = model.memberThrough access type? := by
  simp only [memberWithin, hkind, htype]
  rfl

theorem typeWithin_of_binding {use : Node} (hkind : use.kind = "identifier") {bound : Binding}
    (hbound : model.binding use use.text = some bound)
    (hwritten : (TypeRef.parse bound.typeText).any (!·.isImplicit) = true) (fuel : Nat) :
    model.typeWithin (fuel + 1) (some use) = .ok (TypeRef.parse bound.typeText) := by
  rw [typeWithin_succ]
  simp [hkind, hbound, boundNameType, hwritten]

end Model

namespace Scope

variable {member : Node} {before after : List Node} {site : Node} {name : String} {own : Binding}

/-- Bindings in front of a site win over the site's own. -/
theorem first_of_site (hsites : sites member = before ++ site :: after)
    (hown : first (siteBindings site) name = some own) :
    first (allBindings member) name = (first (bindingsTo member before) name).or (some own) := by
  rw [allBindings_eq, hsites, bindingsTo_append, List.flatMap_cons, first, List.find?_append,
    List.find?_append]
  rw [first] at hown
  rw [hown, Option.some_or]
  rfl

theorem first_eq_none (h : ∀ bound ∈ bindingsTo member before, bound.name ≠ name) :
    first (bindingsTo member before) name = none :=
  List.find?_eq_none.2 fun bound hbound => by simpa using h bound hbound

end Scope

namespace Corpus

variable {analysis : AnalysisSettings} {units : List OutlinedFile} {corpus : Corpus}
  {unit : OutlinedFile} {found : FileIndex}

/-- Local names are taken for their first declaration in the member. A place of a member sees the
declaration of some site exactly if no parameter and no earlier site of the member binds the name,
or the first of these binds it alike. In particular, of two sites that bind a name which nothing
before them binds, places within the later one see what the earlier one declares: the name has the
type that is written there, and an access through it is looked up in that type. -/
theorem binding_first_declared (hmade : MadeOf analysis units corpus)
    (hunit : unit ∈ corpus.space.files) (hindex : corpus.space.index unit = .ok found) :
    ∃ model, corpus.model? unit.path = some model ∧
      ∀ member use, Scope.Distinct unit.file.root member →
        Scope.enclosingMember use = some member →
        ∀ before site after name own, Scope.sites member = before ++ site :: after →
          Scope.first (Scope.siteBindings site) name = some own →
          (model.binding use name = some own ↔
            ∀ bound, Scope.first (Scope.bindingsTo member before) name = some bound →
              bound = own) ∧
          ∀ front earlier between declared, before = front ++ earlier :: between →
            Scope.first (Scope.siteBindings earlier) name = some declared →
            (∀ bound ∈ Scope.bindingsTo member front, bound.name ≠ name) →
            model.binding use name = some declared ∧
            (use.kind = "identifier" → use.text = name →
              (TypeRef.parse declared.typeText).any (!·.isImplicit) = true →
              model.typeOf use = .ok (TypeRef.parse declared.typeText) ∧
              ∀ access, access.kind = "member_access_expression" →
                access.child? "expression" = some use →
                model.memberAccess access =
                  model.memberThrough access (TypeRef.parse declared.typeText)) := by
  refine ⟨_, model?_of_index hmade hunit hindex, ?_⟩
  intro member use hmember huse before site after name own hsites hown
  have hbinding : Model.binding ⟨corpus.space, unit, Scope.collect unit.file.root⟩ use name =
      Scope.first (Scope.allBindings member) name :=
    Model.binding_eq_first rfl hmember huse name
  refine ⟨?_, ?_⟩
  · rw [hbinding, Scope.first_of_site hsites hown]
    cases Scope.first (Scope.bindingsTo member before) name with
    | none => simp
    | some bound => simp
  · intro front earlier between declared hbefore hdeclared hnone
    rw [hbefore, List.append_assoc, List.cons_append] at hsites
    rw [Scope.first_of_site hsites hdeclared, Scope.first_eq_none hnone, Option.none_or]
      at hbinding
    refine ⟨hbinding, ?_⟩
    rintro hkind rfl hwritten
    have htype := Model.typeWithin_of_binding hkind hbinding hwritten
    refine ⟨htype 24, fun access haccess hreceiver => Model.memberWithin_of_type haccess ?_⟩
    rw [hreceiver]
    exact htype 23

section Orchard

def loop (type source : String) : Tree :=
  Sketch.group "foreach_statement" none
    [Sketch.word "identifier" type "type", Sketch.word "identifier" "x" "left",
      Sketch.word "identifier" source "right",
      Sketch.group "block" "body" [Sketch.access none "x" "ripe"]]

def orchardFile : SourceFile :=
  Sketch.file "Orchard.cs"
    [Sketch.classDecl [] "Apple" [] [Sketch.fieldDecl "bool" "ripe"],
      Sketch.classDecl [] "Pear" [] [Sketch.fieldDecl "bool" "ripe"],
      Sketch.classDecl [] "Orchard" []
        [Sketch.methodDecl [] "Tend" [loop "Apple" "apples", loop "Pear" "pears"]]]

def orchardUnit : OutlinedFile :=
  .ofFile orchardFile ({} : AnalysisSettings).markerImport

def orchardSpace : SymbolSpace :=
  .inOrder [orchardUnit]

def tend : Node :=
  ((orchardFile.root.descendants ["method_declaration"]).head?).getD default

def orchardLoop (place : Nat) : Node :=
  ((tend.descendants ["foreach_statement"])[place]?).getD default

def orchardAccess (place : Nat) : Node :=
  (((orchardLoop place).descendants ["member_access_expression"]).head?).getD default

def itemUse (place : Nat) : Node :=
  ((orchardAccess place).child? "expression").getD default

def itemBinding (place : Nat) (type : String) : Binding :=
  { name := "x", kind := .foreachVariable, typeText := type
    loopSource := (orchardLoop place).child? "right" }

theorem madeOf_orchard : MadeOf {} [orchardUnit] (ofSpace orchardSpace) :=
  .of_build (SymbolSpace.build_inOrder (by decide) (by decide) (by decide))

/-- The only member that the method could be taken for is itself: the fields are of another
kind. -/
theorem distinct_tend : Scope.Distinct orchardUnit.file.root tend := by
  have hsame : (orchardUnit.file.root.descendants Kind.functionMembers).filter
      (fun other => decide (Scope.key other = Scope.key tend)) = [tend] := rfl
  refine ⟨(List.mem_filter.1 (hsame ▸ List.mem_singleton_self _)).1, fun other hother hkey => ?_⟩
  refine List.mem_singleton.1 (hsame ▸ List.mem_filter.2 ⟨hother, ?_⟩)
  exact decide_eq_true hkey

/-- In the loop over pears the item is taken for an apple, and its field for that of apples. -/
theorem binding_first_declared_orchard : ∃ model,
    (ofSpace orchardSpace).model? "Orchard.cs" = some model ∧
      itemUse 1 ∈ (orchardLoop 1).places ∧
      Scope.first (Scope.siteBindings (orchardLoop 1)) "x" = some (itemBinding 1 "Pear") ∧
      model.binding (itemUse 1) "x" = some (itemBinding 0 "Apple") ∧
      model.typeOf (itemUse 1) = .ok (some { name := "Apple" }) ∧
      model.memberAccess (orchardAccess 1) =
        model.memberThrough (orchardAccess 1) (some { name := "Apple" }) := by
  have hunit : orchardUnit ∈ (ofSpace orchardSpace).space.files := .head _
  obtain ⟨found, hfound⟩ := orchardSpace.exists_index
    (Imports.aliasesEnd_of_none (show orchardUnit.outline.imports.aliases = [] by decide))
  obtain ⟨model, hmodel, hnames⟩ := binding_first_declared madeOf_orchard hunit hfound
  obtain ⟨-, hearlier⟩ := hnames tend (itemUse 1) distinct_tend rfl [orchardLoop 0] (orchardLoop 1)
    [] "x" (itemBinding 1 "Pear") rfl rfl
  obtain ⟨hbinding, htyped⟩ := hearlier [] (orchardLoop 0) [] (itemBinding 0 "Apple") rfl rfl
    (by decide)
  have hparsed : TypeRef.parse (itemBinding 0 "Apple").typeText = some { name := "Apple" } := by
    decide
  rw [hparsed] at htyped
  obtain ⟨htype, haccess⟩ := htyped rfl rfl (by decide)
  have hplace : (orchardLoop 1).places[6]? = some (itemUse 1) := rfl
  exact ⟨model, hmodel, List.mem_of_getElem? hplace, rfl, hbinding, htype,
    haccess (orchardAccess 1) rfl rfl⟩

end Orchard

end Corpus
end SandboxLint
