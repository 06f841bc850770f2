import SandboxLint.Proofs.Corpus.Ambiguity
import SandboxLint.Proofs.Corpus.BreadthFirst

/-!
Which declaration of a name an access means, when several types of a chain declare it. Fields
and properties are looked for in the whole chain before any method is, so what is found is the
nearest of its kind, and it is the nearest of all unless a method of a nearer type is passed
over for a field or property of a farther one. A call of the same access means that method.
-/

namespace SandboxLint

/-- A type declares a name, for a field or property or for methods. -/
def TypeDecl.Declares (decl : TypeDecl) (name : String) : Prop :=
  (decl.fields.get? name).isSome ∨ (decl.methods.get? name).isSome

namespace BaseTable

/-- Of two types in the chain of a type one comes before the other. -/
def ComesBefore (bases : BaseTable) (root near far : TypeDecl) : Prop :=
  ∃ front back, bases.chain root = front ++ far :: back ∧ near ∈ front

/-- The nearest methods of a name are nearer than the nearest field or property of that name. -/
def PassesOver (bases : BaseTable) (root : TypeDecl) (name : String) : Prop :=
  ∃ near methods far field, bases.findMethods root name = some (near, methods) ∧
    bases.findField root name = some (far, field) ∧ bases.ComesBefore root near far

variable {bases : BaseTable} {root owner near : TypeDecl} {name : String}

theorem comesBefore_iff {front back : List TypeDecl}
    (hchain : bases.chain root = front ++ owner :: back) :
    bases.ComesBefore root near owner ↔ near ∈ front := by
  refine ⟨?_, fun hnear => ⟨front, back, hchain, hnear⟩⟩
  rintro ⟨front', back', hchain', hnear⟩
  -- A type stands in its chain only once, so both cuts are the same.
  have hnodup := (bases.nodup_names_chain root).of_map
  rw [hchain', List.nodup_append, List.nodup_cons] at hnodup
  have hfront : owner ∉ front' := fun hmem => hnodup.2.2 owner hmem owner List.mem_cons_self rfl
  obtain ⟨rfl, -, -⟩ := (List.append_cons_inj_of_notMem hfront hnodup.2.1.1).1
    (hchain'.symm.trans hchain)
  exact hnear

/-- A method is passed over exactly when something nearer than the field that is found declares
its name. -/
theorem passesOver_iff {field : FieldDecl}
    (hfield : bases.findField root name = some (owner, field)) :
    bases.PassesOver root name ↔
      ∃ near, bases.ComesBefore root near owner ∧ near.Declares name := by
  constructor
  · rintro ⟨near, methods, far, found, hmethods, hfound, hnear⟩
    cases hfield.symm.trans hfound
    refine ⟨near, hnear, .inr ?_⟩
    rw [(mem_chain_of_findMethods hmethods).2, Option.isSome_some]
  · rintro ⟨near, hnear, hdeclares⟩
    obtain ⟨front, back, hchain, -, hfront⟩ := findSome?_owner_iff.1 hfield
    have hmem := (comesBefore_iff hchain).1 hnear
    have hmethods : (near.methods.get? name).isSome := by
      simpa [TypeDecl.Declares, hfront near hmem] using hdeclares
    obtain ⟨⟨first, methods⟩, hfirst⟩ : ∃ found, front.findSome? (fun decl =>
        (decl.methods.get? name).map (decl, ·)) = some found := by
      rw [← Option.isSome_iff_exists, List.findSome?_isSome_iff]
      exact ⟨near, hmem, by rwa [Option.isSome_map]⟩
    refine ⟨first, methods, owner, field, ?_, hfield, front, back, hchain, ?_⟩
    · rw [findMethods, hchain, List.findSome?_append, hfirst, Option.some_or]
    · obtain ⟨front', back', hcut, -⟩ := findSome?_owner_iff.1 hfirst
      simp [hcut]

theorem not_passesOver_of_fieldless (hfieldless : bases.findField root name = none) :
    ¬ bases.PassesOver root name := by
  rintro ⟨_, _, _, _, -, hfar, -⟩
  cases hfieldless.symm.trans hfar

/-- Where no field or property of a name is found, nothing is nearer than the methods that are. -/
theorem not_declares_of_fieldless {methods : List MethodDecl}
    (hfieldless : bases.findField root name = none)
    (hfound : bases.findMethods root name = some (owner, methods))
    (hnear : bases.ComesBefore root near owner) : ¬ near.Declares name := by
  obtain ⟨front, back, hchain, -, hfront⟩ := findSome?_owner_iff.1 hfound
  have hmem := (comesBefore_iff hchain).1 hnear
  -- The look-up of fields went through the whole chain, so also through what is nearer.
  have hfields : ∀ decl ∈ bases.chain root, decl.fields.get? name = none := by
    simpa only [findField, List.findSome?_eq_none_iff, Option.map_eq_none_iff] using hfieldless
  have hfield := hfields near (by simp [hchain, hmem])
  simp [TypeDecl.Declares, hfield, hfront near hmem]

end BaseTable

namespace Model

variable {model : Model} {node : Node} {decl : TypeDecl} {symbol : Symbol}

theorem ReceiverIs.unique {fuel : Nat} {receiver : Option Node} {other : TypeDecl}
    (h : model.ReceiverIs fuel receiver decl) (hother : model.ReceiverIs fuel receiver other) :
    other = decl := by
  obtain ⟨type?, htype, hdecl⟩ := h
  obtain ⟨type?', htype', hdecl'⟩ := hother
  cases htype.symm.trans htype'
  exact (Option.some.inj (Except.ok.inj (hdecl.symm.trans hdecl'))).symm

theorem kind_ne_of_fieldSymbol {owner : TypeDecl} {field : FieldDecl}
    (h : model.fieldSymbol owner field = .ok symbol) : symbol.kind ≠ .method := by
  obtain ⟨type, -, hsymbol⟩ := Fallible.bind_eq_ok.1 h
  cases hsymbol
  by_cases hproperty : field.isProperty = true <;> simp [hproperty]

theorem findMethods_of_invocation {call : Node} {called : Symbol}
    (hreceiver : model.ReceiverIs (depthLimit - 1) (node.child? "expression") decl)
    (hkind : node.kind = "member_access_expression")
    (hfunction : call.child? "function" = some node)
    (h : model.invocation call = .ok (some called)) :
    ∃ methods, model.space.bases.findMethods decl (memberName (node.child? "name")) =
      some (called.owner, methods) := by
  obtain ⟨-, function, owner, methods, method, hfound, hcallees, -, hsymbol⟩ :=
    invocationWithin_eq_some_iff.1 h
  cases hfunction.symm.trans hfound
  rw [(owner_of_methodSymbol hsymbol).1]
  cases hcallees with
  | plain hplain _ _ => simp [hkind] at hplain
  | access _ _ hown hmethods => exact ⟨methods, hreceiver.unique hown ▸ hmethods⟩

/-- What an access means is hidden by no nearer field or property, and as a method by nothing
nearer at all. Something nearer declares its name exactly when the look-up passes over a
method; then the access means a field or property of the farther type, while every call of it
that means anything means a method of a nearer one. -/
theorem memberAccess_hidden_iff
    (hreceiver : model.ReceiverIs (depthLimit - 1) (node.child? "expression") decl)
    (h : model.memberAccess node = .ok (some symbol)) (hkind : symbol.kind ≠ .type) :
    symbol.owner ∈ model.space.bases.chain decl ∧
    (∀ near, model.space.bases.ComesBefore decl near symbol.owner →
      near.fields.get? (memberName (node.child? "name")) = none) ∧
    ((∃ near, model.space.bases.ComesBefore decl near symbol.owner ∧
        near.Declares (memberName (node.child? "name"))) ↔
      model.space.bases.PassesOver decl (memberName (node.child? "name"))) ∧
    (model.space.bases.PassesOver decl (memberName (node.child? "name")) →
      symbol.kind ≠ .method ∧ ∀ call called, call.child? "function" = some node →
        model.invocation call = .ok (some called) →
          model.space.bases.ComesBefore decl called.owner symbol.owner) := by
  obtain ⟨haccess, -, decl', hreceiver', hhas⟩ := memberWithin_eq_some_iff.1 h
  obtain hsame : decl = decl' := (hreceiver.unique hreceiver').symm
  subst hsame
  cases hhas with
  | field hfound hsymbol =>
      obtain ⟨front, back, hchain, -, hfront⟩ := BaseTable.findSome?_owner_iff.1 hfound
      rw [(owner_of_fieldSymbol hsymbol).1]
      refine ⟨BaseTable.mem_chain_of_findField hfound,
        fun near hnear => hfront near ((BaseTable.comesBefore_iff hchain).1 hnear),
        (BaseTable.passesOver_iff hfound).symm, ?_⟩
      -- Methods passed over are the ones that a call of the access finds.
      rintro ⟨near, methods, far, field, hmethods, hfar, hnear⟩
      cases hfound.symm.trans hfar
      refine ⟨kind_ne_of_fieldSymbol hsymbol, fun call called hfunction hcall => ?_⟩
      obtain ⟨_, hcalled⟩ := findMethods_of_invocation hreceiver haccess hfunction hcall
      cases hmethods.symm.trans hcalled
      exact hnear
  | @method owner _ hfieldless hfound hsymbol =>
      have hpassed := BaseTable.not_passesOver_of_fieldless hfieldless
      have hnone : ∀ near, model.space.bases.ComesBefore decl near owner →
          ¬ near.Declares (memberName (node.child? "name")) := fun near hnear =>
        BaseTable.not_declares_of_fieldless hfieldless hfound hnear
      rw [(owner_of_methodSymbol hsymbol).1]
      refine ⟨(BaseTable.mem_chain_of_findMethods hfound).1, fun near hnear => ?_,
        ⟨fun ⟨near, hnear, hdeclares⟩ => absurd hdeclares (hnone near hnear),
          fun h => absurd h hpassed⟩, fun h => absurd h hpassed⟩
      exact Option.not_isSome_iff_eq_none.1 fun hfield => hnone near hnear (.inl hfield)
  | nested _ _ _ hsymbol =>
      rw [hsymbol] at hkind
      exact absurd rfl hkind

section Crate

/-- A crate that is a box with a method of the name of a field of boxes, and calls it. -/
def crate : SourceFile :=
  Sketch.file "Crate.cs"
    [Sketch.classDecl [] "Box" [] [Sketch.fieldDecl "int" "Size"],
      Sketch.classDecl [] "Crate" ["Box"]
        [Sketch.methodDecl [] "Size" [],
          Sketch.methodDecl [] "Pack"
            [Sketch.call (Sketch.group "member_access_expression" "function"
              [Sketch.word "this_expression" "this" "expression",
                Sketch.word "identifier" "Size" "name"])]]]

def crateModel : Model :=
  { space := .inOrder (Sketch.outlined [crate])
    unit := .ofFile crate ({} : AnalysisSettings).markerImport
    scopes := Scope.collect crate.root }

def cratePlace (kind : String) : Node :=
  ((crate.root.descendants [kind]).head?).getD default

def crateType (name : String) : TypeDecl :=
  (crateModel.space.types.find? name).getD default

theorem chain_crate :
    crateModel.space.bases.chain (crateType "Crate") = [crateType "Crate", crateType "Box"] := by
  have hwalk : (BaseTable.Walk.turn crateModel.space.bases)^[2] (.start (crateType "Crate")) =
      ⟨["Box", "Crate"], [crateType "Crate", crateType "Box"], []⟩ := by
    decide
  rw [BaseTable.chain_eq_of_ended (congrArg BaseTable.Walk.pending hwalk), hwalk]

theorem lookup_crate : crateModel.lookup (some { name := "Crate" })
    (cratePlace "this_expression") = .ok (some (crateType "Crate")) := by
  have himplicit : TypeRef.isImplicit { name := "Crate" } = false := by decide
  have hplain : (crateModel.site (cratePlace "this_expression")).imports.aliasTarget?
      { name := "Crate" } = none := by decide
  have henclosing : (crateModel.site (cratePlace "this_expression")).enclosing = ["Crate"] := by
    decide
  have haround : crateModel.space.types.find? "Crate" = some (crateType "Crate") := by decide
  simp only [lookup, himplicit, SymbolSpace.resolveRef, TypeTable.resolveRef, hplain]
  rw [if_neg Bool.false_ne_true, TypeTable.resolvePlain_of_plain rfl, TypeTable.plainMeaning]
  simp only [TypeTable.resolveNested, henclosing, List.findSome?_singleton, haround,
    Option.bind_some, chain_crate]
  decide

theorem receiverIs_crate : crateModel.ReceiverIs (depthLimit - 1)
    ((cratePlace "member_access_expression").child? "expression") (crateType "Crate") := by
  refine ⟨some (crateType "Crate").ref, by decide, ?_⟩
  exact lookup_crate

theorem found_crate : ∃ field symbol methods,
    crateModel.space.bases.findField (crateType "Crate") "Size" = some (crateType "Box", field) ∧
      crateModel.fieldSymbol (crateType "Box") field = .ok symbol ∧
      crateModel.space.bases.findMethods (crateType "Crate") "Size" =
        some (crateType "Crate", methods) := by
  have hsize : (((crateType "Box").fields.get? "Size").any fun field =>
      (crateModel.fieldSymbol (crateType "Box") field).toOption.isSome) = true := by
    decide
  cases hfield : (crateType "Box").fields.get? "Size" with
  | none => simp [hfield] at hsize
  | some field =>
      rw [hfield, Option.any_some] at hsize
      cases hsymbol : crateModel.fieldSymbol (crateType "Box") field with
      | error fault => simp [hsymbol, Except.toOption] at hsize
      | ok symbol =>
          refine ⟨field, symbol, _, BaseTable.findSome?_owner_iff.2 ?_, hsymbol,
            BaseTable.findMethods_own rfl⟩
          exact ⟨[crateType "Crate"], [], chain_crate, hfield, List.forall_mem_singleton.2 rfl⟩

/-- The access of the crate to its size means the field of the box, and the call of that access
means the crate's own method. -/
theorem memberAccess_hidden_crate : ∃ symbol called,
    crateModel.memberAccess (cratePlace "member_access_expression") = .ok (some symbol) ∧
      symbol.kind ≠ .type ∧ symbol.kind ≠ .method ∧ symbol.owner = crateType "Box" ∧
      crateModel.invocation (cratePlace "invocation_expression") = .ok (some called) ∧
      crateModel.space.bases.ComesBefore (crateType "Crate") called.owner symbol.owner := by
  obtain ⟨field, symbol, methods, hfield, hsymbol, hmethods⟩ := found_crate
  obtain ⟨howner, hkind⟩ := owner_of_fieldSymbol hsymbol
  have hresolves : crateModel.memberAccess (cratePlace "member_access_expression") =
      .ok (some symbol) :=
    memberWithin_eq_some_iff.2 ⟨by decide, by decide, crateType "Crate", receiverIs_crate,
      .field hfield hsymbol⟩
  obtain ⟨called, hcall⟩ : ∃ called, crateModel.invocation (cratePlace "invocation_expression") =
      .ok (some called) :=
    ⟨_, invocationWithin_eq_some_iff.2 ⟨by decide, cratePlace "member_access_expression",
      crateType "Crate", _, _, rfl, .access (by decide) (by decide) receiverIs_crate
        (BaseTable.findMethods_own rfl), rfl, rfl⟩⟩
  have hpassed : crateModel.space.bases.PassesOver (crateType "Crate") "Size" :=
    ⟨crateType "Crate", methods, crateType "Box", field, hmethods, hfield,
      [crateType "Crate"], [], chain_crate, List.mem_singleton_self _⟩
  obtain ⟨-, -, -, hhidden⟩ := memberAccess_hidden_iff receiverIs_crate hresolves hkind
  obtain ⟨hfieldKind, hcalled⟩ := hhidden hpassed
  exact ⟨symbol, called, hresolves, hkind, hfieldKind, howner, hcall,
    hcalled _ called rfl hcall⟩

end Crate

end Model
end SandboxLint
