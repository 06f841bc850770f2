import SandboxLint.Proofs.Corpus.Ambiguity

/-!
The owners of members. Whatever an access or a call resolves to belongs to a type of the
corpus, and that type stands in one of its files.
-/

namespace SandboxLint

namespace SymbolSpace.Built

variable {analysis : AnalysisSettings} {files : List OutlinedFile} {space : SymbolSpace}
  {decl owner : TypeDecl}

theorem mem_types_of_mem_chain (built : Built analysis files space) (hdecl : decl ∈ space.types)
    (howner : owner ∈ space.bases.chain decl) : owner ∈ space.types := by
  obtain rfl | houtcome := built.eq_or_outcome_of_mem_chain hdecl howner
  · exact hdecl
  · exact houtcome.1

theorem exists_file_of_mem_types (built : Built analysis files space) (houtlined : Outlined files)
    (hdecl : decl ∈ space.types) : ∃ unit ∈ space.files, unit.path = decl.path := by
  rw [built.types_eq] at hdecl
  obtain ⟨first, rest, hfragments, hmerge⟩ := TypeTable.mem_ofOutlines_iff.1 hdecl
  obtain ⟨⟨outline, houtline, hfirst⟩, -⟩ :=
    TypeTable.mem_fragmentsNamed.1 (hfragments ▸ List.mem_cons_self)
  obtain ⟨unit, hunit, rfl⟩ := List.mem_map.1 houtline
  refine ⟨unit, hunit, ?_⟩
  rw [built.files_eq] at hunit
  obtain ⟨file, marker, rfl⟩ := houtlined.byPath unit hunit
  obtain ⟨node, -, -, rfl⟩ := Outline.mem_types_iff.1 hfirst
  rw [hmerge]
  rfl

end SymbolSpace.Built

namespace Model

variable {analysis : AnalysisSettings} {files : List OutlinedFile} {model : Model}
  {node : Node} {symbol : Symbol}

/-- What a member access names belongs to a type of the corpus. -/
theorem owner_mem_of_memberAccess (built : SymbolSpace.Built analysis files model.space)
    (h : model.memberAccess node = .ok (some symbol)) : symbol.owner ∈ model.space.types := by
  obtain ⟨-, -, decl, hreceiver, hhas⟩ := memberWithin_eq_some_iff.1 h
  cases hhas with
  | field hfound hfield =>
      rw [(owner_of_fieldSymbol hfield).1]
      exact built.mem_types_of_mem_chain hreceiver.outcome.1
        (BaseTable.mem_chain_of_findField hfound)
  | method _ hfound hmethod =>
      rw [(owner_of_methodSymbol hmethod).1]
      exact built.mem_types_of_mem_chain hreceiver.outcome.1
        (BaseTable.mem_chain_of_findMethods hfound).1
  | nested _ _ hfound htype =>
      rw [htype]
      exact List.mem_of_find?_eq_some hfound

/-- What is called belongs to a type of the corpus. -/
theorem owner_mem_of_invocation (built : SymbolSpace.Built analysis files model.space)
    (h : model.invocation node = .ok (some symbol)) : symbol.owner ∈ model.space.types := by
  obtain ⟨-, function, owner, methods, method, -, hcallees, -, hsymbol⟩ :=
    invocationWithin_eq_some_iff.1 h
  rw [(owner_of_methodSymbol hsymbol).1]
  cases hcallees with
  | plain _ _ hfound =>
      rw [plainCallees] at hfound
      split at hfound
      · next found hsurrounding =>
          cases hfound
          obtain ⟨qualified, -, hmethods⟩ := List.exists_of_findSome?_eq_some hsurrounding
          obtain ⟨around, haround, hmethods⟩ := Option.bind_eq_some_iff.1 hmethods
          exact built.mem_types_of_mem_chain (List.mem_of_find?_eq_some haround)
            (BaseTable.mem_chain_of_findMethods hmethods).1
      · exact (outcome_of_staticallyImported built hfound).1
  | access _ _ hreceiver hfound =>
      exact built.mem_types_of_mem_chain hreceiver.outcome.1
        (BaseTable.mem_chain_of_findMethods hfound).1

end Model
end SandboxLint
