import SandboxLint.Proofs.Corpus.Members
import SandboxLint.Proofs.Corpus.Sketch

/-!
Where ambiguous types show. A type that a reference resolves to is never ambiguous, nor
is a base of a type; so of a type that is declared more than once without every
declaration being partial, members are found by two ways only: as the type itself, nested
in the type of a receiver, and as a method of the type around a plain call.
-/

namespace SandboxLint

namespace SymbolSpace.Built

variable {analysis : AnalysisSettings} {files : List OutlinedFile} {space : SymbolSpace}
  {decl owner : TypeDecl}

theorem outcome_of_base (built : Built analysis files space) (hdecl : decl ∈ space.types)
    {more : List TypeDecl} (hmore : space.bases.get? decl.qualifiedName = some more)
    {base : TypeDecl} (hbase : base ∈ more) : space.types.Outcome base := by
  have hmem : base ∈ space.basesOf decl := by rwa [basesOf, BaseTable.basesOf, hmore]
  obtain ⟨-, name, -, hname⟩ := (built.mem_basesOf_iff hdecl).1 hmem
  exact TypeTable.outcome_of_resolveText hname

/-- Of the types in a chain only the one that it begins with can be ambiguous. -/
theorem eq_or_outcome_of_mem_chain (built : Built analysis files space)
    (hdecl : decl ∈ space.types) (howner : owner ∈ space.bases.chain decl) :
    owner = decl ∨ space.types.Outcome owner := by
  obtain ⟨more, hmore, hchain⟩ := space.bases.exists_chain_eq decl
  rw [hchain, List.mem_cons] at howner
  refine howner.imp_right (BaseTable.forall_mem_chainFrom ?_ _ more ?_ owner)
  · exact fun reached next hreached hnext base hbase =>
      built.outcome_of_base hreached.1 hnext hbase
  · intro base hbase
    obtain rfl | hmore := hmore
    · cases hbase
    · exact built.outcome_of_base hdecl hmore hbase

theorem outcome_of_mem_chain (built : Built analysis files space)
    (hdecl : space.types.Outcome decl) (howner : owner ∈ space.bases.chain decl) :
    space.types.Outcome owner := by
  obtain rfl | houtcome := built.eq_or_outcome_of_mem_chain hdecl.1 howner
  · exact hdecl
  · exact houtcome

end SymbolSpace.Built

namespace Model

variable {analysis : AnalysisSettings} {files : List OutlinedFile} {model : Model}
  {decl : TypeDecl} {symbol : Symbol}

theorem outcome_of_lookup {ref? : Option TypeRef} {node : Node}
    (h : model.lookup ref? node = .ok (some decl)) : model.space.types.Outcome decl := by
  obtain ⟨ref, -, href⟩ := resolveRef_of_lookup h
  exact TypeTable.outcome_of_resolveRef href

theorem ReceiverIs.outcome {fuel : Nat} {receiver : Option Node}
    (h : model.ReceiverIs fuel receiver decl) : model.space.types.Outcome decl := by
  obtain ⟨type?, -, hdecl⟩ := h
  match type?, receiver with
  | none, _ | some _, none => cases hdecl
  | some ref, some node =>
      simp only [receiverDecl] at hdecl
      split at hdecl
      · cases hdecl
      · exact outcome_of_lookup hdecl

/-- Only a nested type is found as an ambiguous member of an unambiguous type. -/
theorem Has.ambiguous (built : SymbolSpace.Built analysis files model.space)
    (hdecl : model.space.types.Outcome decl) {name : String} (h : model.Has decl name symbol)
    (hambiguous : symbol.owner.ambiguous = true) :
    ∃ type, type.ambiguous = true ∧ symbol = typeSymbol type ∧
      model.space.bases.findField decl name = none ∧
      model.space.bases.findMethods decl name = none ∧
      model.space.types.nestedType decl name = some type := by
  cases h with
  | field found symbol_eq =>
      have hclear := built.outcome_of_mem_chain hdecl (BaseTable.mem_chain_of_findField found)
      simp [(owner_of_fieldSymbol symbol_eq).1, hclear.2] at hambiguous
  | method fieldless found symbol_eq =>
      have hclear := built.outcome_of_mem_chain hdecl (BaseTable.mem_chain_of_findMethods found).1
      simp [(owner_of_methodSymbol symbol_eq).1, hclear.2] at hambiguous
  | nested fieldless methodless found symbol_eq =>
      subst symbol_eq
      exact ⟨_, hambiguous, rfl, fieldless, methodless, found⟩

theorem outcome_of_importedFrom (built : SymbolSpace.Built analysis files model.space)
    {name target : String} {methods : List MethodDecl}
    (h : model.importedFrom name target = .ok (some (decl, methods))) :
    model.space.types.Outcome decl := by
  obtain ⟨target?, htarget, hrest⟩ := Fallible.bind_eq_ok.1 h
  cases target? with
  | none => cases hrest
  | some type =>
      cases hmethods : model.space.bases.findMethods type name with
      | none => simp [hmethods, pure, Except.pure] at hrest
      | some found =>
          obtain ⟨owner, all⟩ := found
          have houtcome := built.outcome_of_mem_chain (TypeTable.outcome_of_resolveText htarget)
            (BaseTable.mem_chain_of_findMethods hmethods).1
          simp only [hmethods, pure, Except.pure, Except.ok.injEq] at hrest
          split at hrest
          · cases hrest
          · cases hrest
            exact houtcome

theorem outcome_of_staticallyImported (built : SymbolSpace.Built analysis files model.space)
    {name : String} {methods : List MethodDecl}
    (h : model.staticallyImported name = .ok (some (decl, methods))) :
    model.space.types.Outcome decl := by
  obtain ⟨found, hfound, hrest⟩ := Fallible.bind_eq_ok.1 h
  split at hrest
  · next only honly =>
      cases hrest
      have hmem : (decl, methods) ∈ found.filterMap fun f => f := honly ▸ List.mem_singleton_self _
      obtain ⟨_, himported, rfl⟩ := List.mem_filterMap.1 hmem
      obtain ⟨target, -, htarget⟩ := (Fallible.mem_of_mapM hfound).1 himported
      exact outcome_of_importedFrom built htarget
  · cases hrest

/-- The innermost type around a place that has methods of a name, itself or by its bases. -/
def NearestWith (model : Model) (node : Node) (name : String) (around : TypeDecl) : Prop :=
  ∃ inner qualified outer, model.enclosingNames node = inner ++ qualified :: outer ∧
    model.space.types.find? qualified = some around ∧
    ∀ nearer ∈ inner,
      (model.space.types.find? nearer).bind (model.space.bases.findMethods · name) = none

/-- A plain call means a method of an ambiguous type only if that is the nearest type around it
with such a method and declares it itself. -/
theorem ambiguous_plainCallees_iff (built : SymbolSpace.Built analysis files model.space)
    {node : Node} {name : String} {methods : List MethodDecl} :
    model.plainCallees node name = .ok (some (decl, methods)) ∧ decl.ambiguous = true ↔
      model.NearestWith node name decl ∧ decl.methods.get? name = some methods ∧
        decl.ambiguous = true := by
  rw [plainCallees]
  constructor
  · rintro ⟨h, hambiguous⟩
    split at h
    · next found hfound =>
        cases h
        obtain ⟨inner, qualified, outer, hnames, hmethods, hinner⟩ :=
          List.findSome?_eq_some_iff.1 hfound
        obtain ⟨around, haround, hmethods⟩ := Option.bind_eq_some_iff.1 hmethods
        obtain ⟨hchain, hown⟩ := BaseTable.mem_chain_of_findMethods hmethods
        -- What the type inherits comes from a base, and no base is ambiguous.
        obtain rfl | hclear :=
          built.eq_or_outcome_of_mem_chain (List.mem_of_find?_eq_some haround) hchain
        · exact ⟨⟨inner, qualified, outer, hnames, haround, hinner⟩, hown, hambiguous⟩
        · simp [hclear.2] at hambiguous
    · have hclear := outcome_of_staticallyImported built h
      simp [hclear.2] at hambiguous
  · rintro ⟨⟨inner, qualified, outer, hnames, haround, hinner⟩, hown, hambiguous⟩
    refine ⟨?_, hambiguous⟩
    have hfound : (model.enclosingNames node).findSome? (fun qualified =>
        (model.space.types.find? qualified).bind (model.space.bases.findMethods · name)) =
          some (decl, methods) := by
      refine List.findSome?_eq_some_iff.2 ⟨inner, qualified, outer, hnames, ?_, hinner⟩
      rw [haround, Option.bind_some, BaseTable.findMethods_own hown]
    rw [hfound]

/-- A member access names an ambiguous type that is nested in the type of its receiver. -/
def NamesAmbiguousType (model : Model) (node : Node) (symbol : Symbol) : Prop :=
  node.kind = "member_access_expression" ∧ memberName (node.child? "name") ≠ "" ∧
    ∃ decl type, model.ReceiverIs (depthLimit - 1) (node.child? "expression") decl ∧
      model.space.bases.findField decl (memberName (node.child? "name")) = none ∧
      model.space.bases.findMethods decl (memberName (node.child? "name")) = none ∧
      model.space.types.nestedType decl (memberName (node.child? "name")) = some type ∧
      type.ambiguous = true ∧ symbol = typeSymbol type

/-- A plain call means a method that the nearest type around it with such a method declares, and
that type is ambiguous. -/
def CallsIntoAmbiguousType (model : Model) (call : Node) (symbol : Symbol) : Prop :=
  call.kind = "invocation_expression" ∧ ∃ function around methods method,
    call.child? "function" = some function ∧
    (function.kind = "identifier" ∨ function.kind = "generic_name") ∧
    model.binding call (memberName (some function)) = none ∧
    model.NearestWith call (memberName (some function)) around ∧
    around.methods.get? (memberName (some function)) = some methods ∧
    around.ambiguous = true ∧ methods.filter (·.accepts call.argumentCount) = [method] ∧
    model.methodSymbol around method = .ok symbol

/-- A resolved member or call belongs to an ambiguous type in two cases only: an access that names
the type itself, nested in the type of its receiver, and a plain call from within the type. Fields,
properties, methods of receivers, inherited and statically imported methods are never those of an
ambiguous type. -/
theorem ambiguous_owner_iff (hbuild : SymbolSpace.build analysis files = .ok model.space)
    (node : Node) (symbol : Symbol) :
    (model.memberAccess node = .ok (some symbol) ∧ symbol.owner.ambiguous = true ↔
      model.NamesAmbiguousType node symbol) ∧
    (model.invocation node = .ok (some symbol) ∧ symbol.owner.ambiguous = true ↔
      model.CallsIntoAmbiguousType node symbol) := by
  have built := SymbolSpace.built_of_build hbuild
  constructor
  · rw [memberAccess, depthLimit, memberWithin_eq_some_iff]
    constructor
    · rintro ⟨⟨hkind, hname, decl, hreceiver, hmember⟩, hambiguous⟩
      obtain ⟨type, htype, hsymbol, hfound⟩ := hmember.ambiguous built hreceiver.outcome hambiguous
      exact ⟨hkind, hname, decl, type, hreceiver, hfound.1, hfound.2.1, hfound.2.2, htype, hsymbol⟩
    · rintro ⟨hkind, hname, decl, type, hreceiver, hfield, hmethods, hnested, htype, rfl⟩
      exact ⟨⟨hkind, hname, decl, hreceiver, .nested hfield hmethods hnested rfl⟩, htype⟩
  · rw [invocation, depthLimit, invocationWithin_eq_some_iff]
    constructor
    · rintro ⟨⟨hkind, function, owner, methods, method, hfunction, hcallees, honly, hsymbol⟩,
        hambiguous⟩
      rw [(owner_of_methodSymbol hsymbol).1] at hambiguous
      cases hcallees with
      | plain hplain hunbound hfound =>
          obtain ⟨hnearest, hown, -⟩ := (ambiguous_plainCallees_iff built).1 ⟨hfound, hambiguous⟩
          exact ⟨hkind, function, owner, methods, method, hfunction, hplain, hunbound, hnearest,
            hown, hambiguous, honly, hsymbol⟩
      | access _ _ hreceiver hfound =>
          -- A receiver is resolved to one type, and no type of its chain is ambiguous.
          have hclear := built.outcome_of_mem_chain hreceiver.outcome
            (BaseTable.mem_chain_of_findMethods hfound).1
          simp [hclear.2] at hambiguous
    · rintro ⟨hkind, function, around, methods, method, hfunction, hplain, hunbound, hnearest,
        hown, hambiguous, honly, hsymbol⟩
      obtain ⟨hfound, -⟩ := (ambiguous_plainCallees_iff built).2 ⟨hnearest, hown, hambiguous⟩
      refine ⟨⟨hkind, function, around, methods, method, hfunction, ?_, honly, hsymbol⟩, ?_⟩
      · exact .plain hplain hunbound hfound
      · rwa [(owner_of_methodSymbol hsymbol).1]

section Cupboard

/-- A shelf that is declared twice and calls a method of its own, and a box with a lid that is
declared twice. -/
def cupboard : SourceFile :=
  Sketch.file "Cupboard.cs"
    [Sketch.classDecl [] "Shelf" []
        [Sketch.methodDecl [] "Put" [],
          Sketch.methodDecl [] "Fill" [Sketch.call (Sketch.word "identifier" "Put" "function")]],
      Sketch.classDecl [] "Shelf" [] [],
      Sketch.classDecl [] "Box" []
        [Sketch.classDecl [] "Lid" [] [], Sketch.classDecl [] "Lid" [] [],
          Sketch.methodDecl [] "Open" [Sketch.access none "Box" "Lid"]]]

def cupboardModel : Model :=
  { space := .inOrder (Sketch.outlined [cupboard])
    unit := .ofFile cupboard ({} : AnalysisSettings).markerImport
    scopes := Scope.collect cupboard.root }

def cupboardPlace (kind : String) : Node :=
  ((cupboard.root.descendants [kind]).head?).getD default

def cupboardType (name : String) : TypeDecl :=
  (cupboardModel.space.types.find? name).getD default

theorem flat_cupboard : cupboardModel.space.bases.Flat := by
  decide

theorem receiverIs_box : cupboardModel.ReceiverIs (depthLimit - 1)
    ((cupboardPlace "member_access_expression").child? "expression") (cupboardType "Box") := by
  rw [← Option.some_get (show ((cupboardPlace "member_access_expression").child?
    "expression").isSome = true by decide)]
  apply ReceiverIs.of_flat flat_cupboard <;> decide

theorem namesAmbiguousType_lid : cupboardModel.NamesAmbiguousType
    (cupboardPlace "member_access_expression") (typeSymbol (cupboardType "Box.Lid")) := by
  refine ⟨by decide, by decide, cupboardType "Box", cupboardType "Box.Lid",
    receiverIs_box, ?_, ?_, by decide, by decide, rfl⟩
  · rw [flat_cupboard.findField_eq]
    decide
  · rw [flat_cupboard.findMethods_eq]
    decide

theorem nearestWith_shelf : cupboardModel.NearestWith (cupboardPlace "invocation_expression") "Put"
    (cupboardType "Shelf") :=
  ⟨[], "Shelf", [], by decide, by decide, List.forall_mem_nil _⟩

/-- The lid that is declared twice is found, and so is the method of the shelf that is. -/
theorem ambiguous_owner_cupboard :
    SymbolSpace.build {} (Sketch.outlined [cupboard]) = .ok cupboardModel.space ∧
      (∃ symbol, cupboardModel.memberAccess (cupboardPlace "member_access_expression") =
        .ok (some symbol) ∧ symbol.name = "Lid" ∧ symbol.owner.ambiguous = true) ∧
      ∃ symbol, cupboardModel.invocation (cupboardPlace "invocation_expression") =
        .ok (some symbol) ∧ symbol.name = "Put" ∧ symbol.owner.ambiguous = true := by
  have hbuild : SymbolSpace.build {} (Sketch.outlined [cupboard]) = .ok cupboardModel.space :=
    SymbolSpace.build_inOrder (by decide) (by decide) (by decide)
  have hcalls : ∃ symbol, cupboardModel.CallsIntoAmbiguousType
      (cupboardPlace "invocation_expression") symbol ∧ symbol.name = "Put" :=
    ⟨_, ⟨by decide, _, cupboardType "Shelf", _, _, rfl, by decide,
      by decide, nearestWith_shelf, rfl, by decide, rfl, rfl⟩, rfl⟩
  obtain ⟨symbol, hcalls, hname⟩ := hcalls
  obtain ⟨hlid, hlidAmbiguous⟩ := (ambiguous_owner_iff hbuild _ _).1.2 namesAmbiguousType_lid
  obtain ⟨hput, hputAmbiguous⟩ := (ambiguous_owner_iff hbuild _ _).2.2 hcalls
  exact ⟨hbuild, ⟨_, hlid, by decide, hlidAmbiguous⟩, symbol, hput, hname, hputAmbiguous⟩

end Cupboard

end Model
end SandboxLint
