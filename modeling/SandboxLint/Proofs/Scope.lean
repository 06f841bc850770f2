import SandboxLint.Scope
import SandboxLint.Proofs.Assoc
import SandboxLint.Proofs.Syntax.Places

/-!
Where bindings come from. The type of a local name is written in the file whose scopes
were collected, and its initialiser or loop source is a place of that file, so typing
that follows them never leaves the file.
-/

namespace SandboxLint

/-- All that a binding refers to stands below a root. -/
structure Binding.Within (root : Node) (binding : Binding) : Prop where
  typeText : root.Writes binding.typeText
  initializer : ∀ value, binding.initializer = some value → value ∈ root.places
  loopSource : ∀ source, binding.loopSource = some source → source ∈ root.places

namespace Scope

variable {root : Node}

theorem identifierBinding_within {site : Node} {loopSource : Option Node}
    (hsite : site ∈ root.places)
    (hsource : ∀ source, loopSource = some source → source ∈ root.places)
    {field : String} {kind : BindingKind} {binding : Binding}
    (h : binding ∈ identifierBinding site field kind loopSource) : binding.Within root := by
  rw [identifierBinding] at h
  split at h
  · split at h
    · rw [List.mem_singleton.1 h]
      exact ⟨Node.writes_child? hsite "type", nofun, hsource⟩
    · cases h
  · cases h

theorem parameterBindings_within {node : Node} (hnode : node ∈ root.places) {binding : Binding}
    (h : binding ∈ parameterBindings node) : binding.Within root := by
  obtain ⟨p, hp, rfl⟩ := List.mem_map.1 h
  exact ⟨Node.typeText_of_parameter hnode (List.mem_filter.1 hp).1, nofun, nofun⟩

theorem siteBindings_within {site : Node} (hsite : site ∈ root.places) {binding : Binding}
    (h : binding ∈ siteBindings site) : binding.Within root := by
  rw [siteBindings] at h
  split at h
  · obtain ⟨declarator, hdeclarator, rfl⟩ := List.mem_map.1 h
    exact ⟨Node.writes_child? hsite "type",
      fun _ hvalue => Declarator.initializer_mem hsite hdeclarator hvalue, nofun⟩
  · split at h
    · exact identifierBinding_within hsite (fun _ => Node.mem_places_of_child? hsite) h
    · split at h
      · refine identifierBinding_within hsite ?_ h
        exact nofun
      · split at h
        · refine identifierBinding_within hsite ?_ h
          exact nofun
        · split at h
          · cases List.mem_append.1 h with
            | inl hparameter => exact parameterBindings_within hsite hparameter
            | inr hself =>
                rw [List.mem_singleton.1 hself]
                exact ⟨.inl rfl, nofun, nofun⟩
          · exact parameterBindings_within hsite h

theorem allBindings_within {member : Node} (hmember : member ∈ root.places) {binding : Binding}
    (h : binding ∈ allBindings member) : binding.Within root := by
  cases List.mem_append.1 h with
  | inl hown =>
      split at hown
      · cases hown
      · exact parameterBindings_within hmember hown
  | inr hsites =>
      obtain ⟨site, hsite, hbinding⟩ := List.mem_flatMap.1 hsites
      have hplace := Node.mem_places_of_descendant hmember (List.mem_filter.1 hsite).1
      exact siteBindings_within hplace hbinding

/-- A binding that was collected below a root refers to nothing outside it. -/
theorem collect_within {key : MemberKey} {bindings : Bindings} {name : String} {binding : Binding}
    (hbindings : (collect root).get? key = some bindings)
    (hbinding : bindings.get? name = some binding) : binding.Within root := by
  have hmem := Assoc.mem_of_mem_ofPairs (Assoc.mem_of_get? hbindings)
  obtain ⟨member, hmember, hpair⟩ := List.mem_map.1 hmem
  cases hpair
  have hfirst := Assoc.mem_of_mem_ofFirstPairs (Assoc.mem_of_get? hbinding)
  obtain ⟨found, hfound, hnamed⟩ := List.mem_map.1 hfirst
  cases hnamed
  have hplace := Node.mem_places_of_descendant (Node.mem_places_self root) hmember
  exact allBindings_within hplace hfound

end Scope
end SandboxLint
