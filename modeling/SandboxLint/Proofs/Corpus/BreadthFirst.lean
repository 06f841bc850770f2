import Mathlib.Order.Lattice.Nat
import SandboxLint.Proofs.Corpus.Chain
import SandboxLint.Proofs.Corpus.Inheritance

/-!
The chain of a type as a walk through the base graph. A turn takes the first pending type and,
if its name is new, puts its bases behind all that is pending. What is pending is
therefore of two levels at most, the nearer one first, and everything nearer than that was
seen. So types come out in the order of how many base lists they are away, and the walk ends
only when nothing that it can reach is left. On circles and diamonds a type may be pending
several times; only the first time counts.
-/

namespace SandboxLint
namespace BaseTable

/-- A type leads to another over so many base lists. -/
inductive Leads (bases : BaseTable) (root : TypeDecl) : Nat → TypeDecl → Prop
  | root : Leads bases root 0 root
  | base {level : Nat} {decl base : TypeDecl} (way : Leads bases root level decl)
      (step : bases.Extends decl base) : Leads bases root (level + 1) base

/-- How many base lists a type is away from another by the shortest way. -/
noncomputable def distance (bases : BaseTable) (root decl : TypeDecl) : Nat :=
  sInf {level | bases.Leads root level decl}

/-- Of the types that a type reaches, no two have one qualified name. -/
def NamesApart (bases : BaseTable) (root : TypeDecl) : Prop :=
  ∀ a b, Relation.ReflTransGen bases.Extends root a → Relation.ReflTransGen bases.Extends root b →
    a.qualifiedName = b.qualifiedName → a = b

structure Walk where
  seen : List String := []
  found : List TypeDecl := []
  pending : List TypeDecl
  deriving DecidableEq

variable {bases : BaseTable} {root decl : TypeDecl}

theorem Leads.reaches {level : Nat} (h : bases.Leads root level decl) :
    Relation.ReflTransGen bases.Extends root decl := by
  induction h with
  | root => exact .refl
  | base _ hstep ih => exact ih.tail hstep

theorem exists_leads (h : Relation.ReflTransGen bases.Extends root decl) :
    ∃ level, bases.Leads root level decl := by
  induction h with
  | refl => exact ⟨0, .root⟩
  | tail _ hstep ih =>
      obtain ⟨level, hway⟩ := ih
      exact ⟨level + 1, hway.base hstep⟩

theorem leads_distance (h : Relation.ReflTransGen bases.Extends root decl) :
    bases.Leads root (bases.distance root decl) decl :=
  Nat.sInf_mem (exists_leads h)

theorem Leads.distance_le {level : Nat} (h : bases.Leads root level decl) :
    bases.distance root decl ≤ level :=
  Nat.sInf_le h

theorem basesOf_congr {other : TypeDecl} (h : decl.qualifiedName = other.qualifiedName) :
    bases.basesOf decl = bases.basesOf other := by
  rw [basesOf, basesOf, h]

theorem Over.namesApart {table : TypeTable} (hover : bases.Over table) (hroot : root ∈ table) :
    bases.NamesApart root := by
  have hmem : ∀ decl, Relation.ReflTransGen bases.Extends root decl → decl ∈ table := by
    intro decl h
    induction h with
    | refl => exact hroot
    | tail _ hstep ih => exact hover.base_mem _ ih _ hstep
  exact fun a b ha hb => hover.eq_of_name a (hmem a ha) b (hmem b hb)

namespace Walk

def start (root : TypeDecl) : Walk :=
  { pending := [root] }

/-- One turn of a walk; without a pending type it has come to its end. -/
def turn (bases : BaseTable) (walk : Walk) : Walk :=
  match walk.pending with
  | [] => walk
  | decl :: rest =>
      if walk.seen.contains decl.qualifiedName then { walk with pending := rest }
      else
        { seen := decl.qualifiedName :: walk.seen
          found := walk.found ++ [decl]
          pending := rest ++ bases.basesOf decl }

theorem turn_seen {seen : List String} {found rest : List TypeDecl}
    (h : decl.qualifiedName ∈ seen) :
    turn bases ⟨seen, found, decl :: rest⟩ = ⟨seen, found, rest⟩ := by
  simp [turn, h]

theorem turn_new {seen : List String} {found rest : List TypeDecl}
    (h : decl.qualifiedName ∉ seen) :
    turn bases ⟨seen, found, decl :: rest⟩ =
      ⟨decl.qualifiedName :: seen, found ++ [decl], rest ++ bases.basesOf decl⟩ := by
  simp [turn, h]

theorem turn_ended {walk : Walk} (h : walk.pending = []) : walk.turn bases = walk := by
  rw [turn, h]

/-- A walk comes to an end, having found what the chain says. -/
theorem exists_end (bases : BaseTable) (seen : List String) (pending found : List TypeDecl) :
    ∃ turns, ((turn bases)^[turns] ⟨seen, found, pending⟩).pending = [] ∧
      ((turn bases)^[turns] ⟨seen, found, pending⟩).found =
        found ++ bases.chainFrom seen pending := by
  induction seen, pending using BaseTable.chainFrom.induct bases generalizing found with
  | case1 seen => exact ⟨0, rfl, by simp [chainFrom]⟩
  | case2 seen decl rest hseen ih =>
      obtain ⟨turns, hend, hfound⟩ := ih found
      refine ⟨turns + 1, ?_⟩
      rw [Function.iterate_succ_apply, turn_seen (List.contains_iff_mem.1 hseen),
        chainFrom_seen rest hseen]
      exact ⟨hend, hfound⟩
  | case3 seen decl rest hseen hnone ih =>
      obtain ⟨turns, hend, hfound⟩ := ih (found ++ [decl])
      have hbases : bases.basesOf decl = [] := by rw [basesOf, hnone, Option.getD_none]
      refine ⟨turns + 1, ?_⟩
      rw [Function.iterate_succ_apply, turn_new (by simpa using hseen), hbases, List.append_nil,
        hfound, chainFrom, dif_neg hseen]
      refine ⟨hend, ?_⟩
      split
      · rw [List.append_assoc, List.singleton_append]
      · next more hmore => cases hnone.symm.trans hmore
  | case4 seen decl rest hseen more hmore ih =>
      obtain ⟨turns, hend, hfound⟩ := ih (found ++ [decl])
      have hbases : bases.basesOf decl = more := by rw [basesOf, hmore, Option.getD_some]
      refine ⟨turns + 1, ?_⟩
      rw [Function.iterate_succ_apply, turn_new (by simpa using hseen), hbases, hfound,
        chainFrom_new rest hseen hmore, List.append_assoc, List.singleton_append]
      exact ⟨hend, rfl⟩

/-- A walk that has come to a level: what is pending is of that level or of the next one, and what
is nearer was seen. -/
structure At (bases : BaseTable) (root : TypeDecl) (level : Nat) (near far : List TypeDecl)
    (walk : Walk) : Prop where
  pending_eq : walk.pending = near ++ far
  seen_iff : ∀ name, name ∈ walk.seen ↔ name ∈ walk.found.map (·.qualifiedName)
  distinct : (walk.found.map (·.qualifiedName)).Nodup
  found_le : ∀ decl ∈ walk.found, bases.distance root decl ≤ level
  ordered : walk.found.Pairwise fun a b => bases.distance root a ≤ bases.distance root b
  near_leads : ∀ decl ∈ near, bases.Leads root level decl
  far_leads : ∀ decl ∈ far, bases.Leads root (level + 1) decl
  passed : ∀ less < level, ∀ decl, bases.Leads root less decl → decl.qualifiedName ∈ walk.seen
  here : ∀ decl, bases.Leads root level decl → decl.qualifiedName ∈ walk.seen ∨ decl ∈ near
  closed : ∀ decl ∈ walk.found, ∀ base ∈ bases.basesOf decl,
    base.qualifiedName ∈ walk.seen ∨ base ∈ near ++ far

theorem at_start (bases : BaseTable) (root : TypeDecl) :
    At bases root 0 [root] [] (start root) where
  pending_eq := rfl
  seen_iff := by simp [start]
  distinct := List.nodup_nil
  found_le := by simp [start]
  ordered := .nil
  near_leads := by simpa using Leads.root
  far_leads := by simp
  passed := by simp
  here := by
    intro decl h
    cases h with
    | root => exact .inr List.mem_cons_self
  closed := by simp [start]

variable {level : Nat} {near far : List TypeDecl} {walk : Walk}

theorem At.base_known (h : At bases root level near far walk)
    (hseen : decl.qualifiedName ∈ walk.seen) {base : TypeDecl} (hbase : bases.Extends decl base) :
    base.qualifiedName ∈ walk.seen ∨ base ∈ near ++ far := by
  obtain ⟨found, hfound, hname⟩ := List.mem_map.1 ((h.seen_iff _).1 hseen)
  refine h.closed found hfound base ?_
  rwa [basesOf_congr hname]

theorem At.next (h : At bases root level [] far walk) :
    At bases root (level + 1) far [] walk where
  pending_eq := by rw [h.pending_eq, List.nil_append, List.append_nil]
  seen_iff := h.seen_iff
  distinct := h.distinct
  found_le := fun decl hdecl => Nat.le_succ_of_le (h.found_le decl hdecl)
  ordered := h.ordered
  near_leads := h.far_leads
  far_leads := by simp
  passed := by
    intro less hless decl hway
    rcases Nat.lt_or_eq_of_le (Nat.le_of_lt_succ hless) with hlt | rfl
    · exact h.passed less hlt decl hway
    · exact (h.here decl hway).resolve_right List.not_mem_nil
  here := by
    intro decl hway
    cases hway with
    | @base _ before _ hbefore hstep =>
        have hseen := (h.here before hbefore).resolve_right List.not_mem_nil
        simpa using h.base_known hseen hstep
  closed := by simpa using h.closed

theorem At.turn_seen {seen : List String} {found : List TypeDecl}
    (h : At bases root level (decl :: near) far ⟨seen, found, decl :: (near ++ far)⟩)
    (hseen : decl.qualifiedName ∈ seen) :
    At bases root level near far ⟨seen, found, near ++ far⟩ where
  pending_eq := rfl
  seen_iff := h.seen_iff
  distinct := h.distinct
  found_le := h.found_le
  ordered := h.ordered
  near_leads := (List.forall_mem_cons.1 h.near_leads).2
  far_leads := h.far_leads
  passed := h.passed
  here := by
    intro other hway
    rcases h.here other hway with hother | hother
    · exact .inl hother
    · rcases List.mem_cons.1 hother with rfl | hnear
      · exact .inl hseen
      · exact .inr hnear
  closed := by
    intro other hother base hbase
    rcases h.closed other hother base hbase with hknown | hpending
    · exact .inl hknown
    · rcases List.mem_cons.1 hpending with rfl | hrest
      · exact .inl hseen
      · exact .inr hrest

/-- A new type of the level at hand is exactly that far away, since all that is nearer was seen. -/
theorem At.distance_eq (h : At bases root level (decl :: near) far walk)
    (hnew : decl.qualifiedName ∉ walk.seen) : bases.distance root decl = level := by
  have hway := h.near_leads decl List.mem_cons_self
  refine Nat.le_antisymm hway.distance_le (Nat.le_of_not_lt fun hless => ?_)
  exact hnew (h.passed _ hless decl (leads_distance hway.reaches))

theorem At.turn_new {seen : List String} {found : List TypeDecl}
    (h : At bases root level (decl :: near) far ⟨seen, found, decl :: (near ++ far)⟩)
    (hnew : decl.qualifiedName ∉ seen) :
    At bases root level near (far ++ bases.basesOf decl)
      ⟨decl.qualifiedName :: seen, found ++ [decl], near ++ far ++ bases.basesOf decl⟩ where
  pending_eq := List.append_assoc _ _ _
  seen_iff := by
    intro name
    rw [List.mem_cons, h.seen_iff, List.map_append, List.mem_append, List.map_singleton,
      List.mem_singleton]
    exact or_comm
  distinct := by
    rw [List.map_append, List.map_singleton, List.nodup_append]
    refine ⟨h.distinct, List.nodup_singleton _, ?_⟩
    rintro name hname _ hself rfl
    exact hnew ((h.seen_iff _).2 (List.mem_singleton.1 hself ▸ hname))
  found_le := by
    rw [List.forall_mem_append, List.forall_mem_singleton]
    exact ⟨h.found_le, (h.distance_eq hnew).le⟩
  ordered := by
    refine List.pairwise_append.2 ⟨h.ordered, List.pairwise_singleton _ _, ?_⟩
    intro other hother _ hself
    rw [List.mem_singleton.1 hself, h.distance_eq hnew]
    exact h.found_le other hother
  near_leads := (List.forall_mem_cons.1 h.near_leads).2
  far_leads := by
    refine List.forall_mem_append.2 ⟨h.far_leads, fun base hbase => ?_⟩
    exact (h.near_leads decl List.mem_cons_self).base hbase
  passed := fun less hless other hway => List.mem_cons_of_mem _ (h.passed less hless other hway)
  here := by
    intro other hway
    rcases h.here other hway with hother | hother
    · exact .inl (List.mem_cons_of_mem _ hother)
    · rcases List.mem_cons.1 hother with rfl | hnear
      · exact .inl List.mem_cons_self
      · exact .inr hnear
  closed := by
    intro other hother base hbase
    rcases List.mem_append.1 hother with hfound | hself
    · -- The base that was next in line is now among the found; the others still wait.
      rcases h.closed other hfound base hbase with hknown | hpending
      · exact .inl (List.mem_cons_of_mem _ hknown)
      · rcases List.mem_cons.1 hpending with rfl | hrest
        · exact .inl List.mem_cons_self
        · refine .inr ?_
          rw [← List.append_assoc]
          exact List.mem_append_left _ hrest
    · rw [List.mem_singleton.1 hself] at hbase
      refine .inr ?_
      rw [← List.append_assoc]
      exact List.mem_append_right _ hbase

/-- One turn keeps a walk in order, at the level where it was or at the next one. -/
theorem At.turn (h : At bases root level near far walk) :
    ∃ level near far, At bases root level near far (walk.turn bases) := by
  obtain ⟨seen, found, pending⟩ := walk
  -- The level at hand may be done with; then the first pending type is of the next one.
  obtain ⟨level, near, far, h, hnext⟩ : ∃ level near far,
      At bases root level near far ⟨seen, found, pending⟩ ∧ (near = [] → far = []) := by
    cases near with
    | nil => exact ⟨level + 1, far, [], h.next, fun _ => rfl⟩
    | cons decl near => exact ⟨level, decl :: near, far, h, nofun⟩
  obtain rfl : pending = near ++ far := h.pending_eq
  cases near with
  | nil =>
      obtain rfl := hnext rfl
      exact ⟨level, [], [], h⟩
  | cons decl near =>
      rw [List.cons_append] at h ⊢
      by_cases hseen : decl.qualifiedName ∈ seen
      · rw [Walk.turn_seen hseen]
        exact ⟨level, near, far, h.turn_seen hseen⟩
      · rw [Walk.turn_new hseen]
        exact ⟨level, near, far ++ bases.basesOf decl, h.turn_new hseen⟩

theorem at_iterate (bases : BaseTable) (root : TypeDecl) (turns : Nat) :
    ∃ level near far, At bases root level near far ((turn bases)^[turns] (start root)) := by
  induction turns with
  | zero => exact ⟨0, [root], [], at_start bases root⟩
  | succ turns ih =>
      obtain ⟨level, near, far, h⟩ := ih
      rw [Function.iterate_succ_apply']
      exact h.turn

theorem At.mem_seen (h : At bases root level [] [] walk)
    (hreach : Relation.ReflTransGen bases.Extends root decl) : decl.qualifiedName ∈ walk.seen := by
  -- Along the way from the root: each next type is a base of one that was seen.
  induction hreach with
  | refl =>
      cases level with
      | zero => exact (h.here root .root).resolve_right List.not_mem_nil
      | succ level => exact h.passed 0 (Nat.succ_pos level) root .root
  | tail _ hstep ih => exact (h.base_known ih hstep).resolve_right List.not_mem_nil

end Walk

/-- The chain is what a walk through the base graph has found in the end. -/
theorem exists_walk (bases : BaseTable) (root : TypeDecl) :
    ∃ turns level, Walk.At bases root level [] [] ((Walk.turn bases)^[turns] (.start root)) ∧
      ((Walk.turn bases)^[turns] (.start root)).found = bases.chain root := by
  obtain ⟨turns, hend, hfound⟩ := Walk.exists_end bases [] [root] []
  obtain ⟨level, near, far, h⟩ := Walk.at_iterate bases root turns
  obtain ⟨rfl, rfl⟩ := List.append_eq_nil_iff.1 (h.pending_eq.symm.trans hend)
  exact ⟨turns, level, h, hfound⟩

/-- A walk that has ended tells the chain, however many turns it took. -/
theorem chain_eq_of_ended {turns : Nat}
    (hend : ((Walk.turn bases)^[turns] (.start root)).pending = []) :
    bases.chain root = ((Walk.turn bases)^[turns] (.start root)).found := by
  obtain ⟨enough, level, h, hfound⟩ := bases.exists_walk root
  rw [← hfound]
  have hstay : ∀ {walk : Walk} (more : Nat), walk.pending = [] →
      (Walk.turn bases)^[more] walk = walk :=
    fun more hdone => Function.iterate_fixed (Walk.turn_ended hdone) more
  rcases Nat.le_total turns enough with hle | hle
  · obtain ⟨more, rfl⟩ := Nat.exists_eq_add_of_le' hle
    rw [Function.iterate_add_apply, hstay more hend]
  · obtain ⟨more, rfl⟩ := Nat.exists_eq_add_of_le' hle
    rw [Function.iterate_add_apply, hstay more h.pending_eq]

theorem reaches_of_mem_chain (h : decl ∈ bases.chain root) :
    Relation.ReflTransGen bases.Extends root decl := by
  refine forall_mem_chainFrom ?_ [] [root] (by simpa using .refl) decl h
  intro reached more hreached hmore base hbase
  refine hreached.tail ?_
  rwa [Extends, basesOf, hmore, Option.getD_some]

theorem nodup_names_chain (bases : BaseTable) (root : TypeDecl) :
    ((bases.chain root).map (·.qualifiedName)).Nodup := by
  obtain ⟨turns, level, h, hfound⟩ := bases.exists_walk root
  rw [← hfound]
  exact h.distinct

theorem ordered_chain (bases : BaseTable) (root : TypeDecl) :
    (bases.chain root).Pairwise fun a b => bases.distance root a ≤ bases.distance root b := by
  obtain ⟨turns, level, h, hfound⟩ := bases.exists_walk root
  rw [← hfound]
  exact h.ordered

theorem mem_names_chain_iff {name : String} :
    name ∈ (bases.chain root).map (·.qualifiedName) ↔
      ∃ decl, Relation.ReflTransGen bases.Extends root decl ∧ decl.qualifiedName = name := by
  constructor
  · intro hname
    obtain ⟨decl, hdecl, hname⟩ := List.mem_map.1 hname
    exact ⟨decl, reaches_of_mem_chain hdecl, hname⟩
  · rintro ⟨decl, hreach, rfl⟩
    obtain ⟨turns, level, h, hfound⟩ := bases.exists_walk root
    rw [← hfound]
    exact (h.seen_iff _).1 (h.mem_seen hreach)

theorem mem_chain_iff (hapart : bases.NamesApart root) :
    decl ∈ bases.chain root ↔ Relation.ReflTransGen bases.Extends root decl := by
  refine ⟨reaches_of_mem_chain, fun hreach => ?_⟩
  obtain ⟨other, hother, hname⟩ := List.mem_map.1 (mem_names_chain_iff.2 ⟨decl, hreach, rfl⟩)
  rwa [← hapart other decl (reaches_of_mem_chain hother) hreach hname]

/-- A search through what a type reaches finds nothing where no type has what is looked for, and
otherwise a type that has it and is no farther away than any other one. -/
structure Nearest {α : Type} (bases : BaseTable) (root : TypeDecl) (declared : TypeDecl → Option α)
    (found : Option (TypeDecl × α)) : Prop where
  none_iff : found = none ↔
    ∀ decl, Relation.ReflTransGen bases.Extends root decl → declared decl = none
  of_some : ∀ owner value, found = some (owner, value) →
    Relation.ReflTransGen bases.Extends root owner ∧ declared owner = some value ∧
      ∀ other, Relation.ReflTransGen bases.Extends root other → (declared other).isSome →
        bases.distance root owner ≤ bases.distance root other

theorem nearest_findSome? {α : Type} (hapart : bases.NamesApart root)
    (declared : TypeDecl → Option α) :
    bases.Nearest root declared
      ((bases.chain root).findSome? fun owner => (declared owner).map (owner, ·)) where
  none_iff := by
    rw [List.findSome?_eq_none_iff]
    simp only [mem_chain_iff hapart, Option.map_eq_none_iff]
  of_some := by
    intro owner value hfound
    obtain ⟨front, back, hchain, hdeclared, hfront⟩ := findSome?_owner_iff.1 hfound
    have hordered := bases.ordered_chain root
    rw [hchain, List.pairwise_append, List.pairwise_cons] at hordered
    refine ⟨(mem_chain_iff hapart).1 (by simp [hchain]), hdeclared, fun other hreach hother => ?_⟩
    have hmem := (mem_chain_iff hapart).2 hreach
    rw [hchain, List.mem_append, List.mem_cons] at hmem
    rcases hmem with hnearer | rfl | hlater
    · rw [hfront other hnearer] at hother
      cases hother
    · exact Nat.le_refl _
    · exact hordered.2.1.1 other hlater

/-- Member look-up goes breadth first through all that a type reaches. The walk ends; the chain
that it gives begins with the type, has the name of every reached type and each once, and never
has a farther type before a nearer one, whatever circles and diamonds there are. Where names tell
types apart, as in the table of a corpus, the chain is made of the reached types themselves, and
what is found under a name is found on a nearest type that declares it, or nowhere. -/
theorem chain_breadthFirst (bases : BaseTable) (root : TypeDecl) :
    (∃ turns, ((Walk.turn bases)^[turns] (.start root)).pending = [] ∧
      ((Walk.turn bases)^[turns] (.start root)).found = bases.chain root) ∧
    (bases.chain root).head? = some root ∧
    ((bases.chain root).map (·.qualifiedName)).Nodup ∧
    (∀ name, name ∈ (bases.chain root).map (·.qualifiedName) ↔
      ∃ decl, Relation.ReflTransGen bases.Extends root decl ∧ decl.qualifiedName = name) ∧
    ((bases.chain root).Pairwise fun a b => bases.distance root a ≤ bases.distance root b) ∧
    (bases.NamesApart root →
      (∀ decl, decl ∈ bases.chain root ↔ Relation.ReflTransGen bases.Extends root decl) ∧
      ∀ name, bases.Nearest root (·.fields.get? name) (bases.findField root name) ∧
        bases.Nearest root (·.methods.get? name) (bases.findMethods root name)) := by
  refine ⟨?_, ?_, bases.nodup_names_chain root, fun name => mem_names_chain_iff,
    bases.ordered_chain root, fun hapart => ⟨fun decl => mem_chain_iff hapart, fun name => ?_⟩⟩
  · obtain ⟨turns, level, h, hfound⟩ := bases.exists_walk root
    exact ⟨turns, h.pending_eq, hfound⟩
  · obtain ⟨more, -, hchain⟩ := bases.exists_chain_eq root
    rw [hchain, List.head?_cons]
  · exact ⟨nearest_findSome? hapart _, nearest_findSome? hapart _⟩

section Window

/-- A window with a pane and a hinge, both with the frame, which has the window again. -/
def window : List OutlinedFile :=
  Sketch.outlined
    [Sketch.file "Window.cs"
      [Sketch.classDecl [] "Window" ["Pane", "Hinge"] [],
        Sketch.classDecl [] "Pane" ["Frame"] [],
        Sketch.classDecl [] "Hinge" ["Frame"] [Sketch.fieldDecl "int" "Width"],
        Sketch.classDecl [] "Frame" ["Window"] [Sketch.fieldDecl "int" "Width"]]]

def windowSpace : SymbolSpace :=
  .inOrder window

def windowType (name : String) : TypeDecl :=
  (windowSpace.types.find? name).getD default

theorem build_window : SymbolSpace.build {} window = .ok windowSpace :=
  SymbolSpace.build_inOrder (by decide) (by decide) (by decide)

theorem extends_window :
    windowSpace.bases.Extends (windowType "Window") (windowType "Hinge") ∧
      windowSpace.bases.Extends (windowType "Hinge") (windowType "Frame") ∧
      windowSpace.bases.Extends (windowType "Frame") (windowType "Window") := by
  simp only [Extends]
  decide

/-- From the window the frame is reached by two ways and the window itself by a circle; the width
that is found is one base list away. -/
theorem chain_breadthFirst_window :
    windowSpace.bases.NamesApart (windowType "Window") ∧
      Relation.TransGen windowSpace.bases.Extends (windowType "Window") (windowType "Window") ∧
      windowType "Frame" ∈ windowSpace.bases.chain (windowType "Window") ∧
      ∃ owner field,
        windowSpace.bases.findField (windowType "Window") "Width" = some (owner, field) ∧
          windowSpace.bases.distance (windowType "Window") owner ≤ 1 := by
  have hapart : windowSpace.bases.NamesApart (windowType "Window") :=
    (SymbolSpace.built_of_build build_window).over.namesApart (by decide)
  obtain ⟨hhinge, hframe, hround⟩ := extends_window
  obtain ⟨hreach, hfind⟩ := (chain_breadthFirst _ _).2.2.2.2.2 hapart
  obtain ⟨hnone, hsome⟩ := (hfind "Width").1
  refine ⟨hapart, .tail (.tail (.single hhinge) hframe) hround,
    (hreach _).2 (.tail (.single hhinge) hframe), ?_⟩
  have hwidth : ((windowType "Hinge").fields.get? "Width").isSome := by decide
  cases hfound : windowSpace.bases.findField (windowType "Window") "Width" with
  | none => simp [hnone.1 hfound (windowType "Hinge") (.single hhinge)] at hwidth
  | some pair =>
      obtain ⟨-, -, hleast⟩ := hsome pair.1 pair.2 hfound
      refine ⟨pair.1, pair.2, rfl, (hleast _ (.single hhinge) hwidth).trans ?_⟩
      exact (Leads.root.base hhinge).distance_le

end Window

end BaseTable
end SandboxLint
