import SandboxLint.Proofs.Corpus.Chain

/-!
What member accesses and calls resolve to, read backwards: a member comes from the type
of its receiver as a field, as the only method of its name or as a nested type, and a
called method comes from its receiver, from a type around the call or from a static
import, as the only one that accepts the arguments.
-/

namespace SandboxLint
namespace Model

variable {model : Model}

theorem owner_of_fieldSymbol {owner : TypeDecl} {field : FieldDecl} {symbol : Symbol}
    (h : model.fieldSymbol owner field = .ok symbol) :
    symbol.owner = owner ∧ symbol.kind ≠ .type := by
  obtain ⟨type, -, hsymbol⟩ := Fallible.bind_eq_ok.1 h
  cases hsymbol
  refine ⟨rfl, ?_⟩
  by_cases hproperty : field.isProperty = true <;> simp [hproperty]

theorem owner_of_methodSymbol {owner : TypeDecl} {method : MethodDecl} {symbol : Symbol}
    (h : model.methodSymbol owner method = .ok symbol) :
    symbol.owner = owner ∧ symbol.kind = .method := by
  obtain ⟨type, -, hsymbol⟩ := Fallible.bind_eq_ok.1 h
  cases hsymbol
  exact ⟨rfl, rfl⟩

theorem map_some_eq_ok_some {α : Type} {x : Except Fault α} {a : α} :
    some <$> x = .ok (some a) ↔ x = .ok a := by
  cases x <;> simp [Functor.map, Except.map]

/-- How a type has a member of a name. -/
inductive Has (model : Model) (decl : TypeDecl) (name : String) (symbol : Symbol) : Prop
  | field {owner : TypeDecl} {field : FieldDecl}
      (found : model.space.bases.findField decl name = some (owner, field))
      (symbol_eq : model.fieldSymbol owner field = .ok symbol)
  | method {owner : TypeDecl} {method : MethodDecl}
      (fieldless : model.space.bases.findField decl name = none)
      (found : model.space.bases.findMethods decl name = some (owner, [method]))
      (symbol_eq : model.methodSymbol owner method = .ok symbol)
  | nested {type : TypeDecl}
      (fieldless : model.space.bases.findField decl name = none)
      (methodless : model.space.bases.findMethods decl name = none)
      (found : model.space.types.nestedType decl name = some type)
      (symbol_eq : symbol = typeSymbol type)

theorem memberOf_eq_some_iff {decl : TypeDecl} {name : String} {symbol : Symbol} :
    model.memberOf decl name = .ok (some symbol) ↔ model.Has decl name symbol := by
  constructor
  · intro h
    rw [memberOf] at h
    split at h
    · next owner field hfield => exact .field hfield (map_some_eq_ok_some.1 h)
    · next hfield =>
        split at h
        · next owner method hmethods => exact .method hfield hmethods (map_some_eq_ok_some.1 h)
        · cases h
        · next hmethods =>
            obtain ⟨type, htype, rfl⟩ := Option.map_eq_some_iff.1 (Except.ok.inj h)
            exact .nested hfield hmethods htype rfl
  · rintro (⟨hfound, hsymbol⟩ | ⟨hfieldless, hfound, hsymbol⟩ |
      ⟨hfieldless, hmethodless, hfound, rfl⟩)
    · simp only [memberOf, hfound, map_some_eq_ok_some, hsymbol]
    · simp only [memberOf, hfieldless, hfound, map_some_eq_ok_some, hsymbol]
    · simp only [memberOf, hfieldless, hmethodless, hfound, Option.map_some]

/-- A name that no variable and no field around has is typed as the type of that name, if any. -/
theorem typeWithin_name {fuel : Nat} {node : Node} {decl? : Option TypeDecl}
    (hkind : node.kind = "identifier") (hunbound : model.binding node node.text = none)
    (hfield : model.surroundingField node node.text = none)
    (hfound : model.lookup (some { name := node.text }) node = .ok decl?) :
    model.typeWithin (fuel + 1) (some node) = .ok (decl?.map (·.ref)) := by
  rw [typeWithin]
  simp [hkind, hunbound, unboundNameType, hfield, hfound, bind, Except.bind, pure, Except.pure]

/-- The type whose members an access or call on a receiver has in view. -/
def ReceiverIs (model : Model) (fuel : Nat) (receiver : Option Node) (decl : TypeDecl) : Prop :=
  ∃ type?, model.typeWithin fuel receiver = .ok type? ∧
    model.receiverDecl receiver type? = .ok (some decl)

theorem ReceiverIs.of_name {fuel : Nat} {node : Node} {decl : TypeDecl}
    (hkind : node.kind = "identifier") (hunbound : model.binding node node.text = none)
    (hfield : model.surroundingField node node.text = none)
    (hfound : model.lookup (some { name := node.text }) node = .ok (some decl))
    (hagain : model.lookup (some decl.ref) node = .ok (some decl)) :
    model.ReceiverIs (fuel + 1) (some node) decl :=
  ⟨some decl.ref, typeWithin_name hkind hunbound hfield hfound, hagain⟩

/-- Where no type has bases, a name that nothing else has means the type around or in view. -/
theorem ReceiverIs.of_flat {fuel : Nat} {node : Node} {decl : TypeDecl}
    (hflat : model.space.bases.Flat)
    (haliases : model.unit.outline.imports.aliases = []) (hkind : node.kind = "identifier")
    (hunbound : model.binding node node.text = none)
    (hfield : ((model.enclosingNames node).findSome? fun qualified =>
      (model.space.types.find? qualified).bind fun decl =>
        (decl.fields.get? node.text).map (decl, ·)) = none)
    (hexplicit : node.text ≠ "var") (hdecl : decl.ref = { name := node.text })
    (hfound : model.space.types.flatMeaning (model.site node) node.text = some decl) :
    model.ReceiverIs (fuel + 1) (some node) decl := by
  have hlookup : model.lookup (some { name := node.text }) node = .ok (some decl) := by
    rw [lookup_of_flat hflat haliases hexplicit, hfound]
  refine .of_name hkind hunbound ?_ hlookup ?_
  · rw [surroundingField_of_flat hflat, hfield]
  · rw [hdecl, hlookup]

/-- What is found on a receiver has a name and is found on the receiver's type. -/
theorem received_eq_some_iff {fuel : Nat} {receiver : Option Node} {name : String}
    {symbol : Symbol} {next : Option TypeDecl → Except Fault (Option Symbol)}
    {found : TypeDecl → Except Fault (Option Symbol)} (hnone : next none = .ok none)
    (hsome : ∀ decl, next (some decl) = if name == "" then .ok none else found decl) :
    (do next (← model.receiverDecl receiver (← model.typeWithin fuel receiver))) =
        .ok (some symbol) ↔
      name ≠ "" ∧ ∃ decl, model.ReceiverIs fuel receiver decl ∧ found decl = .ok (some symbol) := by
  simp only [Fallible.bind_eq_ok, ReceiverIs]
  constructor
  · rintro ⟨type?, htype, decl?, hdecl, h⟩
    cases decl? with
    | none =>
        rw [hnone] at h
        cases h
    | some decl =>
        rw [hsome] at h
        by_cases hname : name = ""
        · simp [hname] at h
        · exact ⟨hname, decl, ⟨type?, htype, hdecl⟩, by simpa [hname] using h⟩
  · rintro ⟨hname, decl, ⟨type?, htype, hdecl⟩, hfound⟩
    exact ⟨type?, htype, some decl, hdecl, by simpa [hsome, hname] using hfound⟩

theorem memberWithin_eq_some_iff {fuel : Nat} {node : Node} {symbol : Symbol} :
    model.memberWithin (fuel + 1) node = .ok (some symbol) ↔
      node.kind = "member_access_expression" ∧ memberName (node.child? "name") ≠ "" ∧
        ∃ decl, model.ReceiverIs fuel (node.child? "expression") decl ∧
          model.Has decl (memberName (node.child? "name")) symbol := by
  rw [memberWithin]
  by_cases hkind : node.kind = "member_access_expression"
  · simp only [hkind, bne_self_eq_false, Bool.false_eq_true, if_false, true_and,
      ← memberOf_eq_some_iff]
    exact received_eq_some_iff rfl fun _ => rfl
  · simp [hkind]

theorem memberWithin_of_untyped {fuel : Nat} {node : Node}
    (hkind : node.kind = "member_access_expression")
    (htype : model.typeWithin fuel (node.child? "expression") = .ok none) :
    model.memberWithin (fuel + 1) node = .ok none := by
  rw [memberWithin]
  simp [hkind, htype, receiverDecl, bind, Except.bind, pure, Except.pure]

theorem applicable_eq_some_iff {call : Node} {callees : Option (TypeDecl × List MethodDecl)}
    {symbol : Symbol} :
    model.applicable call callees = .ok (some symbol) ↔
      ∃ owner methods method, callees = some (owner, methods) ∧
        methods.filter (·.accepts call.argumentCount) = [method] ∧
        model.methodSymbol owner method = .ok symbol := by
  constructor
  · intro h
    cases callees with
    | none => cases h
    | some found =>
        obtain ⟨owner, methods⟩ := found
        simp only [applicable] at h
        split at h
        · next method honly => exact ⟨owner, methods, method, rfl, honly, map_some_eq_ok_some.1 h⟩
        · cases h
  · rintro ⟨owner, methods, method, rfl, honly, hsymbol⟩
    simp only [applicable, honly, map_some_eq_ok_some, hsymbol]

theorem invocationWithin_plain {fuel : Nat} {call function : Node} {symbol : Symbol}
    (hkind : call.kind = "invocation_expression")
    (hfunction : call.child? "function" = some function)
    (hplain : function.kind = "identifier" ∨ function.kind = "generic_name") :
    model.invocationWithin (fuel + 1) call = .ok (some symbol) ↔
      model.binding call (memberName (some function)) = none ∧
        ∃ callees, model.plainCallees call (memberName (some function)) = .ok callees ∧
          model.applicable call callees = .ok (some symbol) := by
  have hname : (function.kind == "identifier" || function.kind == "generic_name") = true := by
    simpa using hplain
  rw [invocationWithin]
  simp only [hkind, bne_self_eq_false, Bool.false_eq_true, if_false, hfunction, hname, if_true]
  cases model.binding call (memberName (some function)) with
  | none => simp [Fallible.bind_eq_ok]
  | some bound => simp [pure, Except.pure]

theorem invocationWithin_access {fuel : Nat} {call function : Node} {symbol : Symbol}
    (hkind : call.kind = "invocation_expression")
    (hfunction : call.child? "function" = some function)
    (haccess : function.kind = "member_access_expression") :
    model.invocationWithin (fuel + 1) call = .ok (some symbol) ↔
      memberName (function.child? "name") ≠ "" ∧
        ∃ decl, model.ReceiverIs fuel (function.child? "expression") decl ∧
          model.applicable call (model.space.bases.findMethods decl
            (memberName (function.child? "name"))) = .ok (some symbol) := by
  have hname : (function.kind == "identifier" || function.kind == "generic_name") = false := by
    simp [haccess]
  rw [invocationWithin]
  simp only [hkind, bne_self_eq_false, Bool.false_eq_true, if_false, hfunction, hname]
  simp only [haccess, beq_self_eq_true, if_true]
  exact received_eq_some_iff rfl fun _ => rfl

/-- Where the methods come from that a call can mean: for a plain name what stands around the
call, for a member access the type of its receiver. -/
inductive Callees (model : Model) (fuel : Nat) (call function : Node)
    (owner : TypeDecl) (methods : List MethodDecl) : Prop
  | plain (kind : function.kind = "identifier" ∨ function.kind = "generic_name")
      (unbound : model.binding call (memberName (some function)) = none)
      (found : model.plainCallees call (memberName (some function)) = .ok (some (owner, methods)))
  | access {decl : TypeDecl} (kind : function.kind = "member_access_expression")
      (named : memberName (function.child? "name") ≠ "")
      (receiver : model.ReceiverIs fuel (function.child? "expression") decl)
      (found : model.space.bases.findMethods decl (memberName (function.child? "name")) =
        some (owner, methods))

theorem kinds_of_invocationWithin {fuel : Nat} {call : Node} {symbol : Symbol}
    (h : model.invocationWithin (fuel + 1) call = .ok (some symbol)) :
    ∃ function, call.kind = "invocation_expression" ∧ call.child? "function" = some function ∧
      ((function.kind = "identifier" ∨ function.kind = "generic_name") ∨
        function.kind = "member_access_expression") := by
  rw [invocationWithin] at h
  by_cases hkind : call.kind = "invocation_expression"
  · simp only [hkind, bne_self_eq_false, Bool.false_eq_true, if_false] at h
    split at h
    · cases h
    · next function hfunction =>
        refine ⟨function, hkind, hfunction, ?_⟩
        split at h
        · next hplain => exact .inl (by simpa using hplain)
        · split at h
          · next haccess => exact .inr (by simpa using haccess)
          · cases h
  · simp [hkind] at h

theorem invocationWithin_eq_some_iff {fuel : Nat} {call : Node} {symbol : Symbol} :
    model.invocationWithin (fuel + 1) call = .ok (some symbol) ↔
      call.kind = "invocation_expression" ∧ ∃ function owner methods method,
        call.child? "function" = some function ∧
        model.Callees fuel call function owner methods ∧
        methods.filter (·.accepts call.argumentCount) = [method] ∧
        model.methodSymbol owner method = .ok symbol := by
  constructor
  · intro h
    obtain ⟨function, hkind, hfunction, hcase⟩ := kinds_of_invocationWithin h
    refine ⟨hkind, ?_⟩
    obtain hplain | haccess := hcase
    · obtain ⟨hunbound, callees, hcallees, happlicable⟩ :=
        (invocationWithin_plain hkind hfunction hplain).1 h
      obtain ⟨owner, methods, method, rfl, hmethod⟩ := applicable_eq_some_iff.1 happlicable
      exact ⟨function, owner, methods, method, hfunction, .plain hplain hunbound hcallees, hmethod⟩
    · obtain ⟨hnamed, decl, hreceiver, happlicable⟩ :=
        (invocationWithin_access hkind hfunction haccess).1 h
      obtain ⟨owner, methods, method, hfound, hmethod⟩ := applicable_eq_some_iff.1 happlicable
      exact ⟨function, owner, methods, method, hfunction,
        .access haccess hnamed hreceiver hfound, hmethod⟩
  · rintro ⟨hkind, function, owner, methods, method, hfunction, hcallees, hmethod⟩
    cases hcallees with
    | plain hplain hunbound hfound =>
        exact (invocationWithin_plain hkind hfunction hplain).2
          ⟨hunbound, _, hfound, applicable_eq_some_iff.2 ⟨owner, methods, method, rfl, hmethod⟩⟩
    | access haccess hnamed hreceiver hfound =>
        exact (invocationWithin_access hkind hfunction haccess).2
          ⟨hnamed, _, hreceiver, applicable_eq_some_iff.2 ⟨owner, methods, method, hfound, hmethod⟩⟩

end Model
end SandboxLint
