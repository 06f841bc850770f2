import SandboxLint.Proofs.Corpus.Lockstep
import SandboxLint.Proofs.Corpus.Side

/-!
Symbol spaces with two sides, neither of which names the types of the other. The space
of one side agrees with the whole space on that side: resolution, the base graph and
inheritance give the same answers there, and the names of one side lead to nothing on the
other.
-/

namespace SandboxLint

variable {near away : String → Prop} {home : String → Bool}

/-- Files on two sides, each of which names only its own types. -/
structure Apart (near away : String → Prop) (home : String → Bool) (files : List OutlinedFile) :
    Prop where
  here : Side near home files
  there : Side away (fun path => !home path) files

theorem TypeTable.Common.self {a b : TypeTable} {qualified : String}
    (h : Common near a b qualified) : Common near a a qualified := by
  obtain ⟨decl, hown, ha, -⟩ := h
  exact ⟨decl, hown, ha, ha⟩

theorem TypeTable.Agree.self {a b : TypeTable} (h : Agree near a b) : Agree near a a where
  closed := h.closed
  wellNamed := h.wellNamed
  named _ _ := rfl
  nested _ _ _ := rfl
  known decl hown := ⟨(h.known decl hown).1, (h.known decl hown).1⟩
  outer decl hown outer houter := (h.outer decl hown outer houter).self

namespace Side

open SymbolSpace

variable {analysis : AnalysisSettings} {units : List OutlinedFile} {space part : SymbolSpace}

theorem files_of_part (built : Built analysis units space)
    (built' : Built analysis (atHome home units) part) : part.files = atHome home space.files := by
  rw [built.files_eq, built'.files_eq, atHome, byPath_filter, atHome]

theorem types_of_part (built : Built analysis units space)
    (built' : Built analysis (atHome home units) part) :
    part.types = typesIn (atHome home space.files) := by
  rw [built'.types_eq, files_of_part built built']
  rfl

section Built

variable (side : Side near home space.files) (built : Built analysis units space)
include side built

theorem exists_bases {decl : TypeDecl} (hown : space.types.Own near decl) :
    ∃ more, space.bases.get? decl.qualifiedName = some more ∧
      (typesIn space.files).resolveBases (importsIn space.files) decl = .ok more ∧
      ∀ base ∈ more, space.types.Own near base := by
  obtain ⟨more, hget, hmore⟩ := built.get?_bases hown.1
  rw [built.types_eq] at hmore hown ⊢
  exact ⟨more, hget, hmore, side.own_of_resolveBases hown hmore⟩

theorem bases_agree_self : BaseTable.Agree near space.types space.bases space.bases := by
  intro decl hown
  obtain ⟨more, hget, -, hmore⟩ := side.exists_bases built hown
  exact ⟨more, hget, hget, hmore⟩

/-- The names of a side lead to its own types only. -/
theorem agree_self : SymbolSpace.Agree near (home · = true) space space where
  analysis := rfl
  types := by
    rw [built.types_eq]
    exact side.types_agree.self
  bases := side.bases_agree_self built
  imports path hpath := ⟨rfl, (side.imports_agree hpath).2⟩
  atHome decl hown := by
    rw [built.types_eq] at hown
    exact side.atHome_of_own hown
  inherits _ _ := rfl

variable (built' : Built analysis (atHome home units) part)
include built'

theorem types_agree_part : TypeTable.Agree near space.types part.types := by
  rw [types_of_part built built', built.types_eq]
  exact side.types_agree

/-- The base graph of a side is that of the whole space. -/
theorem bases_agree : BaseTable.Agree near space.types space.bases part.bases := by
  intro decl hown
  obtain ⟨more, hget, hmore, hnear⟩ := side.exists_bases built hown
  rw [built.types_eq] at hown
  have hpart : decl ∈ part.types := by
    rw [types_of_part built built']
    exact side.mem_typesIn_atHome.2 hown
  obtain ⟨more', hget', hmore'⟩ := built'.get?_bases hpart
  have hsame : part.types.resolveBases part.imports decl = .ok more := by
    rw [← hmore, ← side.resolveBases_eq hown, types_of_part built built',
      ← files_of_part built built']
    rfl
  cases hmore'.symm.trans hsame
  exact ⟨more, hget, hget', hnear⟩

end Built
end Side

namespace Apart

open SymbolSpace

variable {analysis : AnalysisSettings} {units : List OutlinedFile} {space part : SymbolSpace}
variable (apart : Apart near away home space.files) (built : Built analysis units space)
include apart built

theorem near_or_away {decl : TypeDecl} (hdecl : decl ∈ space.types) :
    (declares (atHome home space.files) decl.qualifiedName = true ∧ near decl.name) ∨
      (declares (atHome home space.files) decl.qualifiedName = false ∧ away decl.name) := by
  rw [built.types_eq] at hdecl
  obtain ⟨first, rest, rfl, hunit⟩ := apart.there.exists_fragments hdecl
  obtain ⟨unit, hmem, hfirst, haway⟩ := hunit first List.mem_cons_self
  have hdeclares := apart.here.declares_atHome hmem hfirst
  cases hhome : home unit.path with
  | true =>
      rw [hhome] at hdeclares
      exact .inl ⟨hdeclares, (apart.here.near_iff_declares hdecl).2 hdeclares⟩
  | false =>
      rw [hhome] at hdeclares
      exact .inr ⟨hdeclares, haway.2 (by simp [hhome])⟩

theorem elsewhere {decl : TypeDecl} (hown : space.types.Own near decl) :
    BaseTable.Elsewhere away space.types decl.qualifiedName := by
  intro other hother hname
  obtain rfl := built.eq_of_qualifiedName_eq hother.1 hown.1 hname
  obtain ⟨hdecl, hnear⟩ := hown
  have haway := hother.2
  rw [built.types_eq] at hdecl
  obtain ⟨first, rest, rfl, hunit⟩ := apart.there.exists_fragments hdecl
  obtain ⟨unit, hmem, hfirst, hiff⟩ := hunit first List.mem_cons_self
  have hhome := (apart.here.near_name_iff hmem hfirst).1 hnear
  simp [hhome] at hiff
  exact hiff haway

variable (built' : Built analysis (atHome home units) part)
include built'

/-- The space of one side has the answers on inheritance that the whole space has, in which the
types of the other side are visited in between. -/
theorem memo_agree : BaseTable.MemoAgree near space.types
    (space.bases.inheritance analysis.baseType space.types)
    (part.bases.inheritance analysis.baseType part.types) := by
  have htypes : part.types =
      space.types.filter (declares (atHome home space.files) ·.qualifiedName) := by
    rw [Side.types_of_part built built', apart.here.typesIn_atHome, built.types_eq]
    rfl
  rw [htypes]
  refine BaseTable.inheritance_agree (apart.here.bases_agree built built')
    (apart.there.bases_agree_self built) (fun own hown => apart.elsewhere built hown)
    fun decl hdecl => ?_
  obtain ⟨hkeep, hnear⟩ | ⟨hkeep, haway⟩ := apart.near_or_away built hdecl
  · rwa [if_pos hkeep]
  · rwa [if_neg (by simp [hkeep])]

/-- The space of one side agrees with the whole space on that side. -/
theorem agree : SymbolSpace.Agree near (home · = true) space part where
  analysis := built'.analysis_eq.trans built.analysis_eq.symm
  types := apart.here.types_agree_part built built'
  bases := apart.here.bases_agree built built'
  imports path hpath := by
    obtain ⟨heq, hnear⟩ := apart.here.imports_agree hpath
    rw [imports, Side.files_of_part built built']
    exact ⟨heq, hnear⟩
  atHome := (apart.here.agree_self built).atHome
  inherits decl hown := by
    have hmemo := apart.memo_agree built built' decl hown
    rw [inheritsBase, inheritsBase, built.inheriting_eq, built'.inheriting_eq, hmemo]

end Apart
end SandboxLint
