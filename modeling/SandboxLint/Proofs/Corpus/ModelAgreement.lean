import SandboxLint.Proofs.Corpus.Agreement
import SandboxLint.Proofs.Scope

/-!
Typing and resolution in spaces that agree. The names, expressions and calls of a file
all of whose texts are near mean the same in both spaces. What they lead to is again
near, so the steps that typing takes from one place to the next never come to where
the spaces differ.
-/

namespace SandboxLint

variable {near home : String → Prop}

/-- A type, if there is one, is near in name. -/
def NearRef (near : String → Prop) (ref? : Option TypeRef) : Prop :=
  ∀ ref, ref? = some ref → near ref.name

theorem NearRef.element {ref? : Option TypeRef} (h : NearRef near ref?) :
    NearRef near (ref?.bind (·.element)) := by
  intro ref href
  obtain ⟨array, harray, helement⟩ := Option.bind_eq_some_iff.1 href
  rw [TypeRef.element] at helement
  split at helement
  · cases helement
    exact h array harray
  · cases helement

/-- A type all of whose parts are near: names of bases and of members' types, and the files it
and its members stand in. -/
structure TypeDecl.AtHome (near home : String → Prop) (decl : TypeDecl) : Prop where
  path : home decl.path
  baseNames : ∀ name ∈ decl.baseNames, near name
  fields : ∀ name field, decl.fields.get? name = some field →
    NearRef near field.type ∧ home field.path
  methods : ∀ name methods, decl.methods.get? name = some methods → ∀ method ∈ methods,
    NearRef near method.returnType ∧ home method.path

/-- Spaces that agree on near names and on the files at home. -/
structure SymbolSpace.Agree (near home : String → Prop) (a b : SymbolSpace) : Prop where
  analysis : b.analysis = a.analysis
  types : TypeTable.Agree near a.types b.types
  bases : BaseTable.Agree near a.types a.bases b.bases
  imports : ∀ path, home path → b.imports path = a.imports path ∧ (a.imports path).AllNear near
  atHome : ∀ decl, a.types.Own near decl → decl.AtHome near home
  inherits : ∀ decl, a.types.Own near decl → b.inheritsBase decl = a.inheritsBase decl

/-- Two answers that are the same, with a property of what they give. -/
def Answers {α : Type} (good : α → Prop) (x y : Except Fault (Option α)) : Prop :=
  y = x ∧ ∀ value, x = .ok (some value) → good value

namespace Answers

variable {α β : Type} {good : α → Prop} {good' : β → Prop}

theorem none : Answers good (.ok .none) (.ok .none) :=
  ⟨rfl, nofun⟩

theorem ok {value? : Option α} (h : ∀ value, value? = some value → good value) :
    Answers good (.ok value?) (.ok value?) :=
  ⟨rfl, fun value hvalue => h value (Except.ok.inj hvalue)⟩

theorem bind {x y : Except Fault (Option α)} {f g : Option α → Except Fault (Option β)}
    (h : Answers good x y)
    (hnext : ∀ value?, (∀ value, value? = some value → good value) →
      Answers good' (f value?) (g value?)) :
    Answers good' (x >>= f) (y >>= g) := by
  obtain ⟨rfl, hgood⟩ := h
  cases y with
  | error fault => exact ⟨rfl, nofun⟩
  | ok value? => exact hnext value? fun value hvalue => hgood value (congrArg Except.ok hvalue)

theorem ite {condition : Prop} [Decidable condition] {x y x' y' : Except Fault (Option α)}
    (hthen : Answers good x y) (helse : Answers good x' y') :
    Answers good (if condition then x else x') (if condition then y else y') := by
  split
  · exact hthen
  · exact helse

/-- Something made of an answer, which may be none. -/
theorem wrap {x y : Except Fault (Option α)} {f : Option α → β} (h : Answers good x y)
    (hf : ∀ value?, (∀ value, value? = some value → good value) → good' (f value?)) :
    Answers good' (some <$> (do return f (← x))) (some <$> (do return f (← y))) := by
  obtain ⟨rfl, hgood⟩ := h
  cases y with
  | error fault => exact ⟨rfl, nofun⟩
  | ok value? =>
      refine ⟨rfl, fun made hmade => ?_⟩
      cases hmade
      exact hf value? fun value hvalue => hgood value (congrArg Except.ok hvalue)

end Answers

namespace SymbolSpace

variable {a b : SymbolSpace}

theorem Agree.resolveRef (h : Agree near home a b) {site : Site}
    (hsite : site.Near near a.types b.types) {ref : TypeRef} (href : near ref.name) :
    Answers (a.types.Own near) (a.resolveRef site ref) (b.resolveRef site ref) := by
  refine ⟨?_, fun decl hdecl => h.types.own_of_resolveRef hsite href hdecl⟩
  exact h.types.resolveRef_eq h.bases.ifAny hsite href

theorem Agree.resolveText (h : Agree near home a b) {site : Site}
    (hsite : site.Near near a.types b.types) {text : String} (htext : near text) :
    Answers (a.types.Own near) (a.resolveText site text) (b.resolveText site text) := by
  refine ⟨?_, fun decl hdecl => h.types.own_of_resolveText hsite htext hdecl⟩
  exact h.types.resolveText_eq h.bases.ifAny hsite htext

/-- A near type of a member means the same in both spaces. -/
theorem Agree.canonicalRef (h : Agree near home a b) {ref? : Option TypeRef} {owner : TypeDecl}
    {path : String} (href : NearRef near ref?) (howner : a.types.Own near owner)
    (hpath : home path) :
    Answers (fun ref => near ref.name) (a.canonicalRef ref? owner path)
      (b.canonicalRef ref? owner path) := by
  cases ref? with
  | none => exact .none
  | some ref =>
      obtain ⟨himports, hnear⟩ := h.imports path hpath
      obtain ⟨hknown, hknown'⟩ := h.types.known owner howner
      simp only [SymbolSpace.canonicalRef, himports, h.types.outerNames_eq howner]
      refine (h.resolveRef ⟨hnear, ?_⟩ (href ref rfl)).bind fun target? htarget => ?_
      · refine List.forall_mem_cons.2 ⟨⟨owner, howner, hknown, hknown'⟩, fun outer houter => ?_⟩
        exact h.types.common_of_mem_outerNames howner houter
      · cases target? with
        | none =>
            refine .ok fun value hvalue => ?_
            cases hvalue
            exact href ref rfl
        | some target =>
            refine .ok fun value hvalue => ?_
            cases hvalue
            exact (htarget target rfl).2

theorem Agree.own_of_findField (h : Agree near home a b) {decl owner : TypeDecl} {name : String}
    {field : FieldDecl} (hdecl : a.types.Own near decl)
    (hfound : a.bases.findField decl name = some (owner, field)) :
    a.types.Own near owner ∧ NearRef near field.type ∧ home field.path := by
  obtain ⟨found, hfound, hpair⟩ := List.exists_of_findSome?_eq_some hfound
  obtain ⟨member, hmember, hpair⟩ := Option.map_eq_some_iff.1 hpair
  cases hpair
  have howner := h.bases.own_of_mem_chain hdecl hfound
  exact ⟨howner, (h.atHome _ howner).fields name field hmember⟩

/-- Methods of a type, all of them near. -/
def NearMethods (near home : String → Prop) (table : TypeTable)
    (found : TypeDecl × List MethodDecl) : Prop :=
  table.Own near found.1 ∧ ∀ method ∈ found.2, NearRef near method.returnType ∧ home method.path

theorem Agree.near_of_findMethods (h : Agree near home a b) {decl : TypeDecl} {name : String}
    {found : TypeDecl × List MethodDecl} (hdecl : a.types.Own near decl)
    (hfound : a.bases.findMethods decl name = some found) :
    NearMethods near home a.types found := by
  obtain ⟨owner, howner, hpair⟩ := List.exists_of_findSome?_eq_some hfound
  obtain ⟨methods, hmethods, hpair⟩ := Option.map_eq_some_iff.1 hpair
  cases hpair
  have hown := h.bases.own_of_mem_chain hdecl howner
  exact ⟨hown, (h.atHome _ hown).methods name methods hmethods⟩

theorem Agree.isPlainData_eq (h : Agree near home a b) {decl : TypeDecl}
    (hdecl : a.types.Own near decl) : b.isPlainData decl = a.isPlainData decl := by
  simp only [isPlainData, isExternal, h.analysis, h.inherits decl hdecl]

end SymbolSpace

/-- A file with its scopes that two spaces read alike: all its texts are near, and so are the types
around its places. -/
structure ReadAlike (near : String → Prop) (a b : SymbolSpace) (unit : OutlinedFile)
    (scopes : Scopes) : Prop where
  places : unit.file.root.AllNear near
  imports : unit.outline.imports.AllNear near
  statics : ∀ target ∈ unit.outline.staticUsings, near target
  enclosing : ∀ node ∈ unit.file.root.places,
    ∀ outer ∈ node.enclosingTypeNames unit.outline.namespaceName,
      TypeTable.Common near a.types b.types outer
  bindings : ∀ key bindings name binding, scopes.get? key = some bindings →
    bindings.get? name = some binding → binding.Within unit.file.root

namespace Model

/-- What a place leads to: a member of a near type, of a near type, in a file at home. -/
structure NearSymbol (near home : String → Prop) (table : TypeTable) (symbol : Symbol) : Prop where
  owner : table.Own near symbol.owner
  type : NearRef near symbol.type
  path : home symbol.path

/-- The type of a name with a local binding: as it was declared, or that of what it is drawn
from. -/
def boundNameType (model : Model) (fuel : Nat) (bound : Binding) :
    Except Fault (Option TypeRef) :=
  let declared := TypeRef.parse bound.typeText
  if declared.any (!·.isImplicit) then .ok declared
  else
    match bound.initializer, bound.loopSource with
    | some value, _ => model.typeWithin fuel (some value)
    | none, some source => do return (← model.typeWithin fuel (some source)).bind (·.element)
    | none, none => .ok none

/-- How the type of an expression is found, by its kind. -/
theorem typeWithin_succ (model : Model) (fuel : Nat) (node : Node) :
    model.typeWithin (fuel + 1) (some node) =
      if node.kind == "parenthesized_expression" then
        model.typeWithin fuel node.namedChildren.head?
      else if node.kind == "identifier" then
        match model.binding node node.text with
        | none => model.unboundNameType node node.text
        | some bound => model.boundNameType fuel bound
      else if Kind.thisNodes.contains node.kind then .ok ((model.enclosingType node).map (·.ref))
      else if Kind.baseNodes.contains node.kind then .ok (model.baseExpressionType node)
      else if node.kind == "member_access_expression" then do
        model.accessType node (← model.memberWithin fuel node)
      else if node.kind == "invocation_expression" then do
        return (← model.invocationWithin fuel node).bind (·.type)
      else if node.kind == "element_access_expression" then do
        return (← model.typeWithin fuel (node.child? "expression")).bind (·.element)
      else if node.kind == "object_creation_expression" ||
          node.kind == "array_creation_expression" || node.kind == "cast_expression" then
        .ok (TypeRef.parse (Node.textOf (node.child? "type")))
      else if node.kind == "as_expression" then
        .ok (TypeRef.parse (Node.textOf (node.child? "right")))
      else .ok none := by
  rw [typeWithin]
  rfl

/-- One more step finds the same from the places of a file in both spaces. -/
structure StepsAlike (near home : String → Prop) (a b : SymbolSpace) (unit : OutlinedFile)
    (scopes : Scopes) (fuel : Nat) : Prop where
  type : ∀ node? : Option Node, (∀ node, node? = some node → node ∈ unit.file.root.places) →
    Answers (fun ref => near ref.name) (typeWithin ⟨a, unit, scopes⟩ fuel node?)
      (typeWithin ⟨b, unit, scopes⟩ fuel node?)
  member : ∀ node ∈ unit.file.root.places,
    Answers (NearSymbol near home a.types) (memberWithin ⟨a, unit, scopes⟩ fuel node)
      (memberWithin ⟨b, unit, scopes⟩ fuel node)
  invocation : ∀ node ∈ unit.file.root.places,
    Answers (NearSymbol near home a.types) (invocationWithin ⟨a, unit, scopes⟩ fuel node)
      (invocationWithin ⟨b, unit, scopes⟩ fuel node)

variable {a b : SymbolSpace} {unit : OutlinedFile} {scopes : Scopes}

theorem nearRef_map {decl? : Option TypeDecl} {table : TypeTable}
    (h : ∀ decl, decl? = some decl → table.Own near decl) : NearRef near (decl?.map (·.ref)) := by
  intro ref href
  obtain ⟨decl, hdecl, rfl⟩ := Option.map_eq_some_iff.1 href
  exact (h decl hdecl).2

theorem near_memberName (hread : ReadAlike near a b unit scopes) (hclosed : PartClosed near)
    {node? : Option Node} (hnode : ∀ node, node? = some node → node ∈ unit.file.root.places) :
    near (memberName node?) := by
  refine hclosed.of_writes hread.places ?_
  cases node? with
  | none => exact .inl rfl
  | some node =>
      simp only [memberName]
      split
      · exact Node.writes_declaredName (hnode node rfl)
      · exact Node.writes_text (hnode node rfl)

theorem near_parse (hread : ReadAlike near a b unit scopes) (hclosed : PartClosed near)
    {text : String} (htext : unit.file.root.Writes text) : NearRef near (TypeRef.parse text) :=
  fun _ href => hclosed.of_parse (hclosed.of_writes hread.places htext) href

theorem site_near (hread : ReadAlike near a b unit scopes) {node : Node}
    (hnode : node ∈ unit.file.root.places) :
    Site.Near near a.types b.types (site ⟨a, unit, scopes⟩ node) :=
  ⟨hread.imports, hread.enclosing node hnode⟩

theorem enclosingType_eq (hread : ReadAlike near a b unit scopes) {node : Node}
    (hnode : node ∈ unit.file.root.places) :
    enclosingType ⟨b, unit, scopes⟩ node = enclosingType ⟨a, unit, scopes⟩ node ∧
      ∀ decl, enclosingType ⟨a, unit, scopes⟩ node = some decl → a.types.Own near decl := by
  have hnames := hread.enclosing node hnode
  simp only [enclosingType, enclosingNames]
  cases hhead : (node.enclosingTypeNames unit.outline.namespaceName).head? with
  | none => exact ⟨rfl, nofun⟩
  | some outer =>
      obtain ⟨decl, hdecl, ha, hb⟩ := hnames outer (List.mem_of_head? hhead)
      simp only [Option.bind_some, ha, hb]
      exact ⟨trivial, fun found hfound => Option.some.inj hfound ▸ hdecl⟩

variable (hagree : SymbolSpace.Agree near home a b) (hread : ReadAlike near a b unit scopes)
include hagree hread

theorem lookup_alike {ref? : Option TypeRef} (href : NearRef near ref?) {node : Node}
    (hnode : node ∈ unit.file.root.places) :
    Answers (a.types.Own near) (lookup ⟨a, unit, scopes⟩ ref? node)
      (lookup ⟨b, unit, scopes⟩ ref? node) := by
  cases ref? with
  | none => exact .none
  | some ref =>
      simp only [lookup]
      split
      · exact .none
      · exact hagree.resolveRef (site_near hread hnode) (href ref rfl)

theorem compoundReference_alike {node : Node} (hnode : node ∈ unit.file.root.places) :
    Answers (a.types.Own near) (compoundReference ⟨a, unit, scopes⟩ node)
      (compoundReference ⟨b, unit, scopes⟩ node) := by
  simp only [compoundReference]
  split
  · exact lookup_alike hagree hread
      (near_parse hread hagree.types.closed (Node.writes_text hnode)) hnode
  · exact .none

theorem typeReference_alike {node : Node}
    (hnode : node ∈ unit.file.root.places) :
    Answers (a.types.Own near) (typeReference ⟨a, unit, scopes⟩ node)
      (typeReference ⟨b, unit, scopes⟩ node) := by
  simp only [typeReference]
  split
  · cases hrole : identifierRole node with
    | declared => exact .none
    | part whole =>
        refine compoundReference_alike hagree hread ?_
        exact Node.mem_places_of_ancestor hnode
          (Node.mem_ancestors_of_parent (parent_of_part hrole))
    | free =>
        have hbinding : binding ⟨b, unit, scopes⟩ node node.text =
            binding ⟨a, unit, scopes⟩ node node.text := rfl
        simp only [hbinding]
        split
        · exact .none
        · refine lookup_alike hagree hread (fun ref href => ?_) hnode
          cases href
          exact hread.places node hnode
  · exact compoundReference_alike hagree hread hnode

theorem baseExpressionType_eq {node : Node} (hnode : node ∈ unit.file.root.places) :
    baseExpressionType ⟨b, unit, scopes⟩ node = baseExpressionType ⟨a, unit, scopes⟩ node ∧
      NearRef near (baseExpressionType ⟨a, unit, scopes⟩ node) := by
  obtain ⟨heq, hown⟩ := enclosingType_eq hread hnode
  simp only [baseExpressionType, heq, SymbolSpace.basesOf]
  cases htype : enclosingType ⟨a, unit, scopes⟩ node with
  | none => exact ⟨rfl, nofun⟩
  | some decl =>
      have hdecl := hown decl htype
      simp only [Option.bind_some, hagree.bases.basesOf_eq hdecl]
      refine ⟨trivial, fun ref href => ?_⟩
      obtain ⟨base, hbase, rfl⟩ := Option.map_eq_some_iff.1 href
      exact (hagree.bases.own_of_mem_basesOf hdecl (List.mem_of_find?_eq_some hbase)).2

omit hread in
theorem fieldSymbol_alike {owner : TypeDecl} {field : FieldDecl} (howner : a.types.Own near owner)
    (hfield : NearRef near field.type ∧ home field.path) :
    Answers (NearSymbol near home a.types) (some <$> fieldSymbol ⟨a, unit, scopes⟩ owner field)
      (some <$> fieldSymbol ⟨b, unit, scopes⟩ owner field) :=
  (hagree.canonicalRef hfield.1 howner hfield.2).wrap fun _ htype => ⟨howner, htype, hfield.2⟩

omit hread in
theorem methodSymbol_alike {owner : TypeDecl} {method : MethodDecl}
    (howner : a.types.Own near owner)
    (hmethod : NearRef near method.returnType ∧ home method.path) :
    Answers (NearSymbol near home a.types) (some <$> methodSymbol ⟨a, unit, scopes⟩ owner method)
      (some <$> methodSymbol ⟨b, unit, scopes⟩ owner method) :=
  (hagree.canonicalRef hmethod.1 howner hmethod.2).wrap fun _ htype => ⟨howner, htype, hmethod.2⟩

omit hread in
theorem memberOf_alike {decl : TypeDecl} (hdecl : a.types.Own near decl) {name : String}
    (hname : near name) :
    Answers (NearSymbol near home a.types) (memberOf ⟨a, unit, scopes⟩ decl name)
      (memberOf ⟨b, unit, scopes⟩ decl name) := by
  simp only [memberOf, hagree.bases.findField_eq hdecl, hagree.bases.findMethods_eq hdecl]
  split
  · next owner field hfound =>
      obtain ⟨howner, hfield⟩ := hagree.own_of_findField hdecl hfound
      exact fieldSymbol_alike hagree howner hfield
  · split
    · next owner method hfound =>
        obtain ⟨howner, hmethods⟩ := hagree.near_of_findMethods hdecl hfound
        exact methodSymbol_alike hagree howner (hmethods method List.mem_cons_self)
    · exact .none
    · have hnested : b.types.nestedType decl name = a.types.nestedType decl name :=
        hagree.types.nested decl.qualifiedName name hname
      rw [hnested]
      refine .ok fun symbol hsymbol => ?_
      obtain ⟨nested, hfound, rfl⟩ := Option.map_eq_some_iff.1 hsymbol
      have hown := hagree.types.own_of_nestedType hname hfound
      exact ⟨hown, nofun, (hagree.atHome nested hown).path⟩

omit hread in
theorem applicable_alike (call : Node) {callees : Option (TypeDecl × List MethodDecl)}
    (hcallees : ∀ found, callees = some found → SymbolSpace.NearMethods near home a.types found) :
    Answers (NearSymbol near home a.types) (applicable ⟨a, unit, scopes⟩ call callees)
      (applicable ⟨b, unit, scopes⟩ call callees) := by
  cases callees with
  | none => exact .none
  | some found =>
      obtain ⟨owner, methods⟩ := found
      obtain ⟨howner, hmethods⟩ := hcallees _ rfl
      simp only [applicable]
      split
      · next method hfits =>
          have hmem : method ∈ methods.filter (·.accepts call.argumentCount) :=
            hfits ▸ List.mem_singleton_self method
          exact methodSymbol_alike hagree howner (hmethods method (List.mem_filter.1 hmem).1)
      · exact .none

/-- One static import brings the same methods into scope. -/
theorem importedFrom_alike (name : String) {target : String} (htarget : near target) :
    Answers (SymbolSpace.NearMethods near home a.types)
      (importedFrom ⟨a, unit, scopes⟩ name target)
      (importedFrom ⟨b, unit, scopes⟩ name target) := by
  have hsite : Site.Near near a.types b.types { imports := unit.outline.imports } :=
    ⟨hread.imports, by simp⟩
  refine (hagree.resolveText hsite htarget).bind fun decl? hdecl => ?_
  cases decl? with
  | none => exact .none
  | some decl =>
      have hown := hdecl decl rfl
      simp only [hagree.bases.findMethods_eq hown]
      cases hfound : a.bases.findMethods decl name with
      | none => exact .none
      | some found =>
          obtain ⟨howner, hmethods⟩ := hagree.near_of_findMethods hown hfound
          refine .ok fun statics hstatics => ?_
          obtain ⟨-, hstatics⟩ := (Option.ite_none_left_eq_some (p := _ = true)).1 hstatics
          cases hstatics
          exact ⟨howner, fun method hmethod => hmethods method (List.mem_filter.1 hmethod).1⟩

theorem staticallyImported_alike (name : String) :
    Answers (SymbolSpace.NearMethods near home a.types)
      (staticallyImported ⟨a, unit, scopes⟩ name) (staticallyImported ⟨b, unit, scopes⟩ name) := by
  have himported : ∀ target ∈ unit.outline.staticUsings,
      Answers (SymbolSpace.NearMethods near home a.types)
        (importedFrom ⟨a, unit, scopes⟩ name target)
        (importedFrom ⟨b, unit, scopes⟩ name target) :=
    fun target htarget => importedFrom_alike hagree hread name (hread.statics target htarget)
  have heq : unit.outline.staticUsings.mapM (importedFrom ⟨b, unit, scopes⟩ name) =
      unit.outline.staticUsings.mapM (importedFrom ⟨a, unit, scopes⟩ name) :=
    Fallible.mapM_congr fun target htarget => (himported target htarget).1
  simp only [staticallyImported, heq]
  refine ⟨rfl, fun only honly => ?_⟩
  obtain ⟨found, hfound, honly⟩ := Fallible.bind_eq_ok.1 honly
  split at honly
  · next value hvalues =>
      cases honly
      have hmem : some only ∈ found := by
        have hvalue : only ∈ found.filterMap fun f => f := hvalues ▸ List.mem_singleton_self only
        simpa using hvalue
      obtain ⟨target, htarget, hread⟩ := (Fallible.mem_of_mapM hfound).1 hmem
      exact (himported target htarget).2 only hread
  · cases honly

theorem surroundingField_eq {node : Node} (hnode : node ∈ unit.file.root.places) (name : String) :
    surroundingField ⟨b, unit, scopes⟩ node name = surroundingField ⟨a, unit, scopes⟩ node name ∧
      ∀ owner field, surroundingField ⟨a, unit, scopes⟩ node name = some (owner, field) →
        a.types.Own near owner ∧ NearRef near field.type ∧ home field.path := by
  constructor
  · refine findSome?_congr fun outer houter => ?_
    obtain ⟨decl, hdecl, ha, hb⟩ := hread.enclosing node hnode outer houter
    simp only [ha, hb, Option.bind_some, hagree.bases.findField_eq hdecl]
  · intro owner field hfound
    obtain ⟨outer, houter, hfound⟩ := List.exists_of_findSome?_eq_some hfound
    obtain ⟨decl, hdecl, ha, -⟩ := hread.enclosing node hnode outer houter
    simp only [ha, Option.bind_some] at hfound
    exact hagree.own_of_findField hdecl hfound

theorem plainCallees_alike {node : Node} (hnode : node ∈ unit.file.root.places) (name : String) :
    Answers (SymbolSpace.NearMethods near home a.types)
      (plainCallees ⟨a, unit, scopes⟩ node name) (plainCallees ⟨b, unit, scopes⟩ node name) := by
  have hsurrounding : ((enclosingNames ⟨b, unit, scopes⟩ node).findSome? fun qualified =>
      (b.types.find? qualified).bind (b.bases.findMethods · name)) =
        (enclosingNames ⟨a, unit, scopes⟩ node).findSome? fun qualified =>
          (a.types.find? qualified).bind (a.bases.findMethods · name) := by
    refine findSome?_congr fun outer houter => ?_
    obtain ⟨decl, hdecl, ha, hb⟩ := hread.enclosing node hnode outer houter
    simp only [ha, hb, Option.bind_some, hagree.bases.findMethods_eq hdecl]
  simp only [plainCallees, hsurrounding]
  split
  · next found hfound =>
      refine .ok fun value hvalue => ?_
      cases hvalue
      obtain ⟨outer, houter, hfound⟩ := List.exists_of_findSome?_eq_some hfound
      obtain ⟨decl, hdecl, ha, -⟩ := hread.enclosing node hnode outer houter
      simp only [ha, Option.bind_some] at hfound
      exact hagree.near_of_findMethods hdecl hfound
  · exact staticallyImported_alike hagree hread name

theorem unboundNameType_alike {node : Node} (hnode : node ∈ unit.file.root.places) {name : String}
    (hname : near name) :
    Answers (fun ref => near ref.name) (unboundNameType ⟨a, unit, scopes⟩ node name)
      (unboundNameType ⟨b, unit, scopes⟩ node name) := by
  obtain ⟨heq, hfield⟩ := surroundingField_eq hagree hread hnode name
  simp only [unboundNameType, heq]
  split
  · next owner field hfound =>
      obtain ⟨howner, htype, hpath⟩ := hfield owner field hfound
      exact hagree.canonicalRef htype howner hpath
  · refine (lookup_alike hagree hread (fun ref href => ?_) hnode).bind fun decl? hdecl =>
      .ok (nearRef_map hdecl)
    cases href
    exact hname

theorem accessType_alike {node : Node} (hnode : node ∈ unit.file.root.places)
    {symbol? : Option Symbol}
    (hsymbol : ∀ symbol, symbol? = some symbol → NearSymbol near home a.types symbol) :
    Answers (fun ref => near ref.name) (accessType ⟨a, unit, scopes⟩ node symbol?)
      (accessType ⟨b, unit, scopes⟩ node symbol?) := by
  cases symbol? with
  | some symbol =>
      have hnear := hsymbol symbol rfl
      simp only [accessType]
      split
      · exact .ok hnear.type
      · exact .ok hnear.type
      · refine .ok fun ref href => ?_
        cases href
        exact hnear.owner.2
      · exact .none
  | none =>
      have htext := near_parse hread hagree.types.closed (Node.writes_text hnode)
      exact (lookup_alike hagree hread htext hnode).bind fun decl? hdecl => .ok (nearRef_map hdecl)

theorem receiverDecl_alike {receiver : Option Node}
    (hreceiver : ∀ node, receiver = some node → node ∈ unit.file.root.places)
    {type? : Option TypeRef} (htype : NearRef near type?) :
    Answers (a.types.Own near) (receiverDecl ⟨a, unit, scopes⟩ receiver type?)
      (receiverDecl ⟨b, unit, scopes⟩ receiver type?) := by
  simp only [receiverDecl]
  split
  · next ref node =>
      split
      · exact .none
      · exact lookup_alike hagree hread htype (hreceiver node rfl)
  · exact .none

theorem boundNameType_alike {fuel : Nat} (hsteps : StepsAlike near home a b unit scopes fuel)
    {node : Node} {name : String} {bound : Binding}
    (hbound : binding ⟨a, unit, scopes⟩ node name = some bound) :
    Answers (fun ref => near ref.name) (boundNameType ⟨a, unit, scopes⟩ fuel bound)
      (boundNameType ⟨b, unit, scopes⟩ fuel bound) := by
  obtain ⟨member, -, hbound⟩ := Option.bind_eq_some_iff.1 hbound
  obtain ⟨bindings, hbindings, hbound⟩ := Option.bind_eq_some_iff.1 hbound
  have hwithin := hread.bindings _ bindings name bound hbindings hbound
  simp only [boundNameType]
  split
  · exact .ok (near_parse hread hagree.types.closed hwithin.typeText)
  · cases hinitializer : bound.initializer with
    | some value =>
        refine hsteps.type _ fun node hnode => ?_
        exact Option.some.inj hnode ▸ hwithin.initializer value hinitializer
    | none =>
        cases hsource : bound.loopSource with
        | none => exact .none
        | some source =>
            refine (hsteps.type _ fun node hnode => ?_).bind fun type? htype? =>
              .ok (NearRef.element htype?)
            exact Option.some.inj hnode ▸ hwithin.loopSource source hsource

theorem typeWithin_succ_alike {fuel : Nat} (hsteps : StepsAlike near home a b unit scopes fuel)
    {node : Node} (hnode : node ∈ unit.file.root.places) :
    Answers (fun ref => near ref.name) (typeWithin ⟨a, unit, scopes⟩ (fuel + 1) (some node))
      (typeWithin ⟨b, unit, scopes⟩ (fuel + 1) (some node)) := by
  have hclosed := hagree.types.closed
  rw [typeWithin_succ, typeWithin_succ]
  -- one goal for each kind of expression, in the order of the definition
  refine .ite ?_ <| .ite ?_ <| .ite ?_ <| .ite ?_ <| .ite ?_ <| .ite ?_ <| .ite ?_ <| .ite ?_ <|
    .ite ?_ .none
  · exact hsteps.type _ fun child hhead =>
      Node.mem_places_of_namedChild hnode (List.mem_of_head? hhead)
  · have hbinding : binding ⟨b, unit, scopes⟩ node node.text =
        binding ⟨a, unit, scopes⟩ node node.text := rfl
    rw [hbinding]
    cases hbound : binding ⟨a, unit, scopes⟩ node node.text with
    | none => exact unboundNameType_alike hagree hread hnode (hread.places node hnode)
    | some bound => exact boundNameType_alike hagree hread hsteps hbound
  · obtain ⟨heq, hown⟩ := enclosingType_eq hread hnode
    rw [heq]
    exact .ok (nearRef_map hown)
  · obtain ⟨heq, hnear⟩ := baseExpressionType_eq hagree hread hnode
    rw [heq]
    exact .ok hnear
  · exact (hsteps.member node hnode).bind fun symbol? hsymbol =>
      accessType_alike hagree hread hnode hsymbol
  · refine (hsteps.invocation node hnode).bind fun symbol? hsymbol => .ok fun ref href => ?_
    obtain ⟨symbol, hfound, htype⟩ := Option.bind_eq_some_iff.1 href
    exact (hsymbol symbol hfound).type ref htype
  · exact (hsteps.type _ fun _ => Node.mem_places_of_child? hnode).bind fun type? htype? =>
      .ok (NearRef.element htype?)
  · exact .ok (near_parse hread hclosed (Node.writes_child? hnode "type"))
  · exact .ok (near_parse hread hclosed (Node.writes_child? hnode "right"))

/-- The receiver of a member has the same type in both spaces, and no receiver leads anywhere. -/
theorem received_alike {fuel : Nat} (hsteps : StepsAlike near home a b unit scopes fuel)
    {node : Node} (hnode : node ∈ unit.file.root.places)
    {f g : Option TypeDecl → Except Fault (Option Symbol)}
    (hf : f none = .ok none) (hg : g none = .ok none)
    (hsome : ∀ decl, a.types.Own near decl →
      Answers (NearSymbol near home a.types) (f (some decl)) (g (some decl))) :
    Answers (NearSymbol near home a.types)
      (do f (← receiverDecl ⟨a, unit, scopes⟩ (node.child? "expression")
        (← typeWithin ⟨a, unit, scopes⟩ fuel (node.child? "expression"))))
      (do g (← receiverDecl ⟨b, unit, scopes⟩ (node.child? "expression")
        (← typeWithin ⟨b, unit, scopes⟩ fuel (node.child? "expression")))) := by
  have hreceiver : ∀ place, node.child? "expression" = some place →
      place ∈ unit.file.root.places := fun _ => Node.mem_places_of_child? hnode
  refine (hsteps.type _ hreceiver).bind fun type? htype => ?_
  refine (receiverDecl_alike hagree hread hreceiver htype).bind fun decl? hdecl => ?_
  cases decl? with
  | none =>
      rw [hf, hg]
      exact .none
  | some decl => exact hsome decl (hdecl decl rfl)

theorem memberWithin_succ_alike {fuel : Nat} (hsteps : StepsAlike near home a b unit scopes fuel)
    {node : Node} (hnode : node ∈ unit.file.root.places) :
    Answers (NearSymbol near home a.types) (memberWithin ⟨a, unit, scopes⟩ (fuel + 1) node)
      (memberWithin ⟨b, unit, scopes⟩ (fuel + 1) node) := by
  simp only [memberWithin]
  split
  · exact .none
  · refine received_alike hagree hread hsteps hnode rfl rfl fun decl hown => ?_
    simp only
    split
    · exact .none
    · exact memberOf_alike hagree hown
        (near_memberName hread hagree.types.closed fun _ => Node.mem_places_of_child? hnode)

theorem invocationWithin_succ_alike {fuel : Nat}
    (hsteps : StepsAlike near home a b unit scopes fuel) {node : Node}
    (hnode : node ∈ unit.file.root.places) :
    Answers (NearSymbol near home a.types) (invocationWithin ⟨a, unit, scopes⟩ (fuel + 1) node)
      (invocationWithin ⟨b, unit, scopes⟩ (fuel + 1) node) := by
  simp only [invocationWithin]
  split
  · exact .none
  · cases hfunction : node.child? "function" with
    | none => exact .none
    | some function =>
        have hbinding : binding ⟨b, unit, scopes⟩ node (memberName (some function)) =
            binding ⟨a, unit, scopes⟩ node (memberName (some function)) := rfl
        simp only [hbinding]
        split
        · split
          · exact .none
          · exact (plainCallees_alike hagree hread hnode _).bind fun callees hcallees =>
              applicable_alike hagree node hcallees
        · split
          · have hplace := Node.mem_places_of_child? hnode hfunction
            refine received_alike hagree hread hsteps hplace rfl rfl fun decl hown => ?_
            simp only [hagree.bases.findMethods_eq hown]
            split
            · exact .none
            · exact applicable_alike hagree node fun found hfound =>
                hagree.near_of_findMethods hown hfound
          · exact .none

/-- Typing and resolution take the same steps in both spaces, and each leads to something near. -/
theorem steps_alike (fuel : Nat) : StepsAlike near home a b unit scopes fuel := by
  induction fuel with
  | zero => exact ⟨fun _ _ => .none, fun _ _ => .none, fun _ _ => .none⟩
  | succ fuel ih =>
      refine ⟨fun node? hnode? => ?_,
        fun node hnode => memberWithin_succ_alike hagree hread ih hnode,
        fun node hnode => invocationWithin_succ_alike hagree hread ih hnode⟩
      cases node? with
      | none => exact .none
      | some node => exact typeWithin_succ_alike hagree hread ih (hnode? node rfl)

theorem memberAccess_alike {node : Node} (hnode : node ∈ unit.file.root.places) :
    Answers (NearSymbol near home a.types) (memberAccess ⟨a, unit, scopes⟩ node)
      (memberAccess ⟨b, unit, scopes⟩ node) :=
  (steps_alike hagree hread depthLimit).member node hnode

theorem invocation_alike {node : Node} (hnode : node ∈ unit.file.root.places) :
    Answers (NearSymbol near home a.types) (invocation ⟨a, unit, scopes⟩ node)
      (invocation ⟨b, unit, scopes⟩ node) :=
  (steps_alike hagree hread depthLimit).invocation node hnode

end Model
end SandboxLint
