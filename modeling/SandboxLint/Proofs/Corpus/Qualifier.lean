import SandboxLint.Proofs.Corpus.Declared
import SandboxLint.Proofs.Text.Split

/-!
Qualifiers of types and what a file makes of them. The qualifier of a type is all
that stands before its name, and an alias changes a qualifier at its head only. A
qualifier that an alias changes is no ending of what it was before, unless the
alias stands for nothing.
-/

namespace SandboxLint
theorem dotted_pair (first second : String) :
    dotted [first, second] =
      if first = "" then second else if second = "" then first else first ++ "." ++ second := by
  by_cases hfirst : first = ""
  · by_cases hsecond : second = ""
    · simp [dotted, hfirst, hsecond]
    · simp [dotted, hfirst, hsecond]
  · by_cases hsecond : second = ""
    · simp [dotted, hfirst, hsecond]
    · simp [dotted, hfirst, hsecond, String.intercalate_cons_cons]

theorem dotted_pair_eq_empty_iff {first second : String} :
    dotted [first, second] = "" ↔ first = "" ∧ second = "" := by
  rw [dotted_pair]
  split_ifs with hfirst hsecond <;> simp [*]

/-- A text with a dot is cut at its first one. -/
theorem exists_cut_of_dot {text : String} (h : '.' ∈ text.toList) :
    ∃ head rest : String, '.' ∉ head.toList ∧ text = head ++ "." ++ rest := by
  obtain ⟨before, after, hcut, hbefore⟩ := List.eq_append_cons_of_mem h
  refine ⟨.ofList before, .ofList after, by simpa using hbefore, ?_⟩
  rw [← String.toList_inj, hcut]
  simp

namespace TypeDecl

/-- All that stands before the name in the qualified name of a type. -/
def qualifier (decl : TypeDecl) : String :=
  decl.ref.qualifier

theorem qualifier_cases {decl : TypeDecl}
    (h : decl.qualifiedName = decl.name ∨
      ∃ around, decl.qualifiedName = around ++ "." ++ decl.name) :
    decl.qualifier = "" ∨ decl.qualifiedName = decl.qualifier ++ "." ++ decl.name := by
  cases h with
  | inl hname =>
      refine .inl ?_
      simp [qualifier, ref, hname, String.length_toList]
  | inr haround =>
      obtain ⟨around, haround⟩ := haround
      have hlist : decl.qualifiedName.toList = around.toList ++ '.' :: decl.name.toList := by
        simp [haround]
      have hqualifier : decl.qualifier = around := by
        simp [qualifier, ref, hlist, String.length_toList]
      exact .inr (by rw [hqualifier, haround])

end TypeDecl

namespace Imports

theorem expandQualifier_empty (imports : Imports) : imports.expandQualifier "" = "" :=
  rfl

theorem expandQualifier_cut (imports : Imports) {head : String} (rest : String)
    (hhead : '.' ∉ head.toList) :
    imports.expandQualifier (head ++ "." ++ rest) =
      match imports.aliases.get? head with
      | some target => dotted [target, rest]
      | none => head ++ "." ++ rest := by
  have hlist : (head ++ "." ++ rest).toList = head.toList ++ '.' :: rest.toList := by simp
  have hne : (head ++ "." ++ rest == "") = false := by
    rw [beq_eq_false_iff_ne, Ne, ← String.toList_inj]
    simp
  simp only [expandQualifier, hne, hlist, Text.beforeFirst_append _ hhead,
    Text.afterFirst_append _ hhead, String.ofList_toList]
  rfl

theorem expandQualifier_uncut (imports : Imports) {qualifier : String}
    (hdot : '.' ∉ qualifier.toList) (hne : qualifier ≠ "") :
    imports.expandQualifier qualifier =
      match imports.aliases.get? qualifier with
      | some target => dotted [target, ""]
      | none => qualifier := by
  have hbeq : (qualifier == "") = false := beq_eq_false_iff_ne.2 hne
  simp only [expandQualifier, hbeq, Text.beforeFirst_of_notMem hdot,
    Text.afterFirst_of_notMem hdot, String.ofList_toList]
  rfl

/-- What stands before the first dot of a qualifier, where an alias can take effect. -/
def firstPart (qualifier : String) : String :=
  .ofList (Text.beforeFirst '.' qualifier.toList)

theorem expandQualifier_of_unaliased {imports : Imports} {qualifier : String}
    (h : imports.aliases.get? (firstPart qualifier) = none) :
    imports.expandQualifier qualifier = qualifier := by
  rw [firstPart] at h
  simp only [expandQualifier, h]
  exact ite_self qualifier

/-- Nothing is left of a qualifier that is an alias for nothing, with no name behind it. -/
def Erases (imports : Imports) (qualifier : String) : Prop :=
  qualifier ≠ "" ∧ ∃ head : String, '.' ∉ head.toList ∧ imports.aliases.get? head = some "" ∧
    (qualifier = head ∨ qualifier = head ++ ".")

theorem erases_cut_iff {imports : Imports} {head rest : String} (hhead : '.' ∉ head.toList) :
    imports.Erases (head ++ "." ++ rest) ↔ imports.aliases.get? head = some "" ∧ rest = "" := by
  constructor
  · rintro ⟨-, before, hbefore, halias, rfl | hcut⟩
    · simp at hbefore
    · have hlist : head.toList ++ '.' :: rest.toList = before.toList ++ '.' :: [] := by
        simpa using congrArg String.toList hcut
      have hfront := congrArg (Text.beforeFirst '.') hlist
      have hback := congrArg (Text.afterFirst '.') hlist
      rw [Text.beforeFirst_append _ hhead, Text.beforeFirst_append _ hbefore] at hfront
      rw [Text.afterFirst_append _ hhead, Text.afterFirst_append _ hbefore] at hback
      rw [String.toList_inj.1 hfront]
      exact ⟨halias, String.toList_eq_nil_iff.1 hback⟩
  · rintro ⟨halias, rfl⟩
    refine ⟨?_, head, hhead, halias, .inr (String.append_empty)⟩
    rw [Ne, ← String.toList_inj]
    simp

theorem expandQualifier_eq_empty_iff {imports : Imports} {qualifier : String} :
    imports.expandQualifier qualifier = "" ↔ qualifier = "" ∨ imports.Erases qualifier := by
  by_cases hne : qualifier = ""
  · simp [hne, expandQualifier_empty]
  · by_cases hdot : '.' ∈ qualifier.toList
    · obtain ⟨head, rest, hhead, rfl⟩ := exists_cut_of_dot hdot
      rw [expandQualifier_cut imports rest hhead, erases_cut_iff hhead]
      cases imports.aliases.get? head with
      | none => simp
      | some target => simp [dotted_pair_eq_empty_iff]
    · have herases : imports.Erases qualifier ↔ imports.aliases.get? qualifier = some "" := by
        constructor
        · rintro ⟨-, head, -, halias, rfl | rfl⟩
          · exact halias
          · simp at hdot
        · exact fun halias => ⟨hne, qualifier, hdot, halias, .inl rfl⟩
      rw [expandQualifier_uncut imports hdot hne, herases]
      cases imports.aliases.get? qualifier with
      | none => simp
      | some target => simp [dotted_pair_eq_empty_iff, hne]

theorem expandQualifier_of_nothing {imports : Imports} {head rest : String}
    (hhead : '.' ∉ head.toList) (h : imports.aliases.get? head = some "") :
    imports.expandQualifier (head ++ "." ++ rest) = rest := by
  rw [expandQualifier_cut imports rest hhead, h]
  simp [dotted_pair]

/-- An expanded qualifier ends the qualifier it was made of only if the alias at its head stands
for nothing. -/
theorem expandQualifier_of_ending {imports : Imports} {qualifier front : String}
    (hne : imports.expandQualifier qualifier ≠ "")
    (h : qualifier = front ++ "." ++ imports.expandQualifier qualifier) :
    ∃ head rest, '.' ∉ head.toList ∧ qualifier = head ++ "." ++ rest ∧
      imports.aliases.get? head = some "" ∧ imports.expandQualifier qualifier = rest := by
  have hlist : qualifier.toList =
      front.toList ++ '.' :: (imports.expandQualifier qualifier).toList := by
    have htext := congrArg String.toList h
    simpa using htext
  have hdot : '.' ∈ qualifier.toList := by simp [hlist]
  obtain ⟨head, rest, hbefore, hqualifier⟩ := exists_cut_of_dot hdot
  have hcut : qualifier.toList = head.toList ++ '.' :: rest.toList := by simp [hqualifier]
  have hlength := Text.length_le_of_cut hbefore (hlist.symm.trans hcut)
  refine ⟨head, rest, hbefore, hqualifier, ?_⟩
  have hexpand := imports.expandQualifier_cut rest hbefore
  rw [← hqualifier] at hexpand
  cases halias : imports.aliases.get? head with
  | none =>
      simp only [halias] at hexpand
      rw [hexpand, hcut] at hlength
      simp only [List.length_append, List.length_cons] at hlength
      omega
  | some target =>
      simp only [halias, dotted_pair] at hexpand
      split at hexpand
      · next hnothing => exact ⟨by rw [hnothing], hexpand⟩
      · next hsome =>
          -- The target would have to fit into what stands behind the head.
          exfalso
          split at hexpand
          · next hrest =>
              rw [hrest, String.toList_empty, List.length_nil, Nat.le_zero] at hlength
              exact hne (String.toList_eq_nil_iff.1 (List.eq_nil_of_length_eq_zero hlength))
          · rw [hexpand] at hlength
            simp only [String.toList_append, List.length_append] at hlength
            have hone : ".".toList.length = 1 := rfl
            omega

end Imports
end SandboxLint
