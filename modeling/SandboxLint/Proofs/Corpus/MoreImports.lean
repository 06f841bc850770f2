import SandboxLint.Proofs.Corpus.BaseFault
import SandboxLint.Proofs.Corpus.Reach
import SandboxLint.Proofs.Corpus.Requalified
import SandboxLint.Proofs.Corpus.Sketch

/-!
What further imports of a file do to the names in it. They bring types into view and take none
out of it; exact names, nested types and the types of the site's own namespace do not depend on
them at all. So a name that means a type goes on meaning it, or it becomes unknown because a
new import brings another type of that name, but it never comes to mean that other type.
-/

namespace SandboxLint

theorem Text.eq_dropRight_append {text ending : String}
    (h : Text.endsWith text ("." ++ ending) = true) :
    text = Text.dropRight text (ending.length + 1) ++ "." ++ ending := by
  obtain ⟨front, hfront⟩ := List.isSuffixOf_iff_suffix.1 h
  have htext : text = String.ofList front ++ "." ++ ending := by
    rw [← String.toList_inj, ← hfront]
    simp
  have hdrop : Text.dropRight text (ending.length + 1) = String.ofList front := by
    rw [Text.dropRight, htext]
    simp [String.length_toList]
  rw [hdrop]
  exact htext

namespace Imports

/-- The imports of a file when it imports other namespaces. -/
def importing (imports : Imports) (usings : List String) : Imports :=
  { imports with usings }

theorem followAliases_importing (imports : Imports) (usings : List String) (fuel : Nat)
    (ref : TypeRef) :
    (imports.importing usings).followAliases fuel ref = imports.followAliases fuel ref := by
  induction fuel generalizing ref with
  | zero => rw [followAliases, followAliases]; rfl
  | succ fuel ih =>
      rw [followAliases.eq_def, followAliases.eq_def imports]
      simp only [ih]
      rfl

end Imports

def Site.importing (site : Site) (usings : List String) : Site :=
  { site with imports := site.imports.importing usings }

theorem Site.expandQualifier_importing (site : Site) (usings : List String) (qualifier : String) :
    (site.importing usings).imports.expandQualifier qualifier =
      site.imports.expandQualifier qualifier :=
  rfl

theorem namespaceVisible_iff {around here : String} {usings : List String} :
    namespaceVisible around here usings = true ↔
      namespaceVisible around here [] = true ∨ around ∈ usings := by
  simp [namespaceVisible]

theorem namespaceVisible_mono {around here : String} {usings more : List String}
    (hmore : usings ⊆ more) (h : namespaceVisible around here usings = true) :
    namespaceVisible around here more = true :=
  namespaceVisible_iff.2 ((namespaceVisible_iff.1 h).imp_right fun hmem => hmore hmem)

theorem mem_of_newly_visible {around here : String} {usings more : List String}
    (hbefore : ¬ namespaceVisible around here usings = true)
    (hafter : namespaceVisible around here more = true) : around ∈ more ∧ around ∉ usings := by
  rw [namespaceVisible_iff, not_or] at hbefore
  exact ⟨(namespaceVisible_iff.1 hafter).resolve_left hbefore.1, hbefore.2⟩

namespace TypeTable

variable {table : TypeTable} {site : Site} {more : List String} {decl : TypeDecl}
  {candidates : List TypeDecl}

/-- The only candidate stays the only one when more become candidates, or there is none. -/
theorem unique_filter_of_more {p q : TypeDecl → Bool}
    (hmore : ∀ c ∈ candidates, p c = true → q c = true)
    (h : unique (candidates.filter p) = some decl) :
    unique (candidates.filter q) = some decl ∨
      unique (candidates.filter q) = none ∧
        ∃ other ∈ candidates, other ≠ decl ∧ ¬ p other = true ∧ q other = true := by
  have honly := (unique_eq_some_iff.1 h).1
  by_cases hnew : ∃ other ∈ candidates, ¬ p other = true ∧ q other = true
  · obtain ⟨other, hother, hbefore, hafter⟩ := hnew
    have hdecl : decl ∈ candidates ∧ p decl = true :=
      List.mem_filter.1 (honly ▸ List.mem_singleton_self decl)
    have hdiffers : other ≠ decl := fun heq => hbefore (heq ▸ hdecl.2)
    refine .inr ⟨?_, other, hother, hdiffers, hbefore, hafter⟩
    refine Option.eq_none_iff_forall_ne_some.2 fun found hfound => hdiffers ?_
    have hfoundOnly := (unique_eq_some_iff.1 hfound).1
    have hmem : ∀ c ∈ candidates, q c = true → c = found := fun c hc hq =>
      List.mem_singleton.1 (hfoundOnly ▸ List.mem_filter.2 ⟨hc, hq⟩)
    exact (hmem other hother hafter).trans (hmem decl hdecl.1 (hmore decl hdecl.1 hdecl.2)).symm
  · have hsame : candidates.filter q = candidates.filter p := by
      refine List.filter_congr fun c hc => Bool.eq_iff_iff.2 ⟨fun hq => ?_, hmore c hc⟩
      by_contra hp
      exact hnew ⟨c, hc, hp, hq⟩
    exact .inl (hsame ▸ h)

/-- Another type of the name that a type has comes into view by a namespace that further imports
bring. -/
def Rival (table : TypeTable) (usings more : List String) (decl other : TypeDecl) : Prop :=
  other ∈ table ∧ other ≠ decl ∧ other.name = decl.name ∧
    ∃ around ∈ more, around ∉ usings ∧
      (other.namespaceName = around ∨ ∃ rest, other.qualifiedName = around ++ "." ++ rest)

/-- What meant a type means it still, or nothing for another type that came into view. -/
def KeptOrRivalled (table : TypeTable) (usings more : List String) (decl : TypeDecl)
    (found : Option TypeDecl) : Prop :=
  found = some decl ∨ found = none ∧ ∃ other, table.Rival usings more decl other

theorem keptOrRivalled_of_unique {name here : String} {usings : List String}
    {suits : TypeDecl → Bool} {around : TypeDecl → String} (hmore : usings ⊆ more)
    (haround : ∀ c, suits c = true →
      c.namespaceName = around c ∨ ∃ rest, c.qualifiedName = around c ++ "." ++ rest)
    (h : unique ((table.named name).filter fun c =>
      suits c && namespaceVisible (around c) here usings) = some decl) :
    table.KeptOrRivalled usings more decl (unique ((table.named name).filter fun c =>
      suits c && namespaceVisible (around c) here more)) := by
  have hname := (mem_named.1 (mem_of_unique_filter h).1).2
  -- What suits does not depend on imports, and what was in view stays there.
  have hgrows : ∀ c ∈ table.named name,
      (suits c && namespaceVisible (around c) here usings) = true →
        (suits c && namespaceVisible (around c) here more) = true := by
    intro c _ hc
    rw [Bool.and_eq_true] at hc ⊢
    exact ⟨hc.1, namespaceVisible_mono hmore hc.2⟩
  obtain hkept | ⟨hnone, other, hother, hdiffers, hbefore, hafter⟩ :=
    unique_filter_of_more hgrows h
  · exact .inl hkept
  · rw [Bool.and_eq_true] at hbefore hafter
    obtain ⟨hin, hout⟩ := mem_of_newly_visible (fun hv => hbefore ⟨hafter.1, hv⟩) hafter.2
    obtain ⟨hknown, hnamed⟩ := mem_named.1 hother
    exact .inr ⟨hnone, other, hknown, hdiffers, hnamed.trans hname.symm, around other, hin, hout,
      haround other hafter.1⟩

theorem resolveQualified_importing {name full : String} (hmore : site.imports.usings ⊆ more)
    (h : resolveQualified site (table.named name) full = some decl) :
    table.KeptOrRivalled site.imports.usings more decl
      (resolveQualified (site.importing more) (table.named name) full) := by
  simp only [resolveQualified] at h ⊢
  split at h
  · next hinexact =>
      rw [if_pos hinexact]
      exact keptOrRivalled_of_unique hmore
        (fun c hc => .inr ⟨full, Text.eq_dropRight_append hc⟩) h
  · next hexact =>
      rw [if_neg hexact]
      exact .inl h

theorem resolveVisible_importing {name : String} (hmore : site.imports.usings ⊆ more)
    (h : resolveVisible site (table.named name) = some decl) :
    table.KeptOrRivalled site.imports.usings more decl
      (resolveVisible (site.importing more) (table.named name)) := by
  have hown : ownTypes (site.importing more) (table.named name) =
      ownTypes site (table.named name) := rfl
  have hnamespace : (site.importing more).namespaceName = site.namespaceName := rfl
  rw [resolveVisible_eq] at h
  rw [resolveVisible_eq, hown, hnamespace]
  -- Whether the site's own types decide does not depend on imports either.
  split at h
  · next hdecides =>
      rw [if_pos hdecides]
      exact .inl h
  · next hdecides =>
      rw [if_neg hdecides]
      exact keptOrRivalled_of_unique hmore (fun _ _ => .inl rfl) h

theorem plainMeaning_importing {bases : BaseTable} {name : String}
    (hmore : site.imports.usings ⊆ more) (h : table.plainMeaning bases site name = some decl) :
    table.KeptOrRivalled site.imports.usings more decl
      (table.plainMeaning bases (site.importing more) name) := by
  have henclosing : (site.importing more).enclosing = site.enclosing := rfl
  rw [plainMeaning] at h ⊢
  rw [henclosing]
  split at h
  · cases h
  · next hknown =>
      rw [if_neg hknown]
      cases hnested : table.resolveNested bases site.enclosing name with
      | some nested =>
          simp only [hnested] at h
          exact .inl h
      | none =>
          simp only [hnested] at h
          exact resolveVisible_importing hmore h

theorem resolvePlain_importing {bases? : Option BaseTable} {ref : TypeRef}
    (hmore : site.imports.usings ⊆ more)
    (h : table.resolvePlain bases? site ref = .ok (some decl)) :
    ∃ found, table.resolvePlain bases? (site.importing more) ref = .ok found ∧
      table.KeptOrRivalled site.imports.usings more decl found := by
  have hexpand := site.expandQualifier_importing more ref.qualifier
  by_cases hplain : site.imports.expandQualifier ref.qualifier = ""
  · have hplainMore := hexpand.trans hplain
    cases bases? with
    | none =>
        have hfine : ∃ found, table.resolvePlain none (site.importing more) ref = .ok found := by
          rw [resolvePlain_none_isOk_iff, hexpand]
          exact resolvePlain_none_isOk_iff.1 ⟨_, h⟩
        obtain ⟨found, hfound⟩ := hfine
        refine ⟨found, hfound, ?_⟩
        rw [eq_resolveVisible_of_pending hplainMore hfound]
        exact resolveVisible_importing hmore (eq_resolveVisible_of_pending hplain h).symm
    | some bases =>
        rw [resolvePlain_of_plain hplain, Except.ok.injEq] at h
        exact ⟨_, resolvePlain_of_plain hplainMore, plainMeaning_importing hmore h⟩
  · rw [resolvePlain_of_qualified bases? hplain, Except.ok.injEq] at h
    refine ⟨_, resolvePlain_of_qualified bases? (hexpand ▸ hplain), ?_⟩
    rw [hexpand]
    exact resolveQualified_importing hmore h

/-- A further import never redirects a name. What resolves to a type resolves to it still when the
file has more imports, or to nothing, and then a new import has brought another type of that name
into view. -/
theorem resolveRef_importing {bases? : Option BaseTable} {ref : TypeRef}
    (hmore : site.imports.usings ⊆ more)
    (h : table.resolveRef bases? site ref = .ok (some decl)) :
    table.resolveRef bases? (site.importing more) ref = .ok (some decl) ∨
      table.resolveRef bases? (site.importing more) ref = .ok none ∧
        ∃ other, table.Rival site.imports.usings more decl other := by
  obtain ⟨found, hfound, hcases⟩ : ∃ found,
      table.resolveRef bases? (site.importing more) ref = .ok found ∧
        table.KeptOrRivalled site.imports.usings more decl found := by
    have htarget : (site.importing more).imports.aliasTarget? ref = site.imports.aliasTarget? ref :=
      rfl
    have hfollow : (site.importing more).imports.followAliases
          (site.importing more).imports.aliases.length ref =
        site.imports.followAliases site.imports.aliases.length ref :=
      site.imports.followAliases_importing more site.imports.aliases.length ref
    -- The target of an alias is looked up at the top of the file, with the same imports.
    have htop : ({ imports := (site.importing more).imports } : Site) =
        Site.importing { imports := site.imports } more := rfl
    have hmoreTop : ({ imports := site.imports } : Site).imports.usings ⊆ more := hmore
    simp only [resolveRef, htarget, hfollow, htop] at h ⊢
    split at h
    · exact resolvePlain_importing hmore h
    · split at h
      · cases h
      · cases h
      · exact resolvePlain_importing hmoreTop h
  rcases hcases with rfl | ⟨rfl, hrival⟩
  · exact .inl hfound
  · exact .inr ⟨hfound, hrival⟩

section Toolbox

/-- A hammer in each of two namespaces. -/
def toolbox : TypeTable :=
  let units := Sketch.outlined
    [Sketch.file "Drawer.cs" [Sketch.namespaceDecl "Drawer" [Sketch.classDecl [] "Hammer" [] []]],
      Sketch.file "Shelf.cs" [Sketch.namespaceDecl "Shelf" [Sketch.classDecl [] "Hammer" [] []]]]
  .ofFragments (units.flatMap (·.outline.types))

def toolboxType (name : String) : TypeDecl :=
  (toolbox.find? name).getD default

def toolboxSite : Site :=
  { imports := { usings := ["Drawer"] } }

/-- With the shelf imported beside the drawer the hammer of the drawer is unknown, for the one on
the shelf. -/
theorem resolveRef_importing_toolbox :
    toolboxSite.imports.usings ⊆ ["Drawer", "Shelf"] ∧
      toolbox.resolveRef (some []) toolboxSite { name := "Hammer" } =
        .ok (some (toolboxType "Drawer.Hammer")) ∧
      toolbox.resolveRef (some []) (toolboxSite.importing ["Drawer", "Shelf"])
        { name := "Hammer" } = .ok none ∧
      ∃ other, toolbox.Rival toolboxSite.imports.usings ["Drawer", "Shelf"]
        (toolboxType "Drawer.Hammer") other := by
  have hmore : toolboxSite.imports.usings ⊆ ["Drawer", "Shelf"] := by decide
  have hfound : toolbox.resolveRef (some []) toolboxSite { name := "Hammer" } =
      .ok (some (toolboxType "Drawer.Hammer")) := by
    decide
  have hlost : toolbox.resolveRef (some []) (toolboxSite.importing ["Drawer", "Shelf"])
      { name := "Hammer" } ≠ .ok (some (toolboxType "Drawer.Hammer")) := by
    decide
  exact ⟨hmore, hfound, (resolveRef_importing hmore hfound).resolve_left hlost⟩

end Toolbox

end TypeTable
end SandboxLint
