import SandboxLint.Proofs.Corpus.Inheritance

/-!
Inheritance and the order of visiting. A search that comes back to a type being visited takes
it for a no, and keeps the noes that it finds on the way although they were found beside
the types being visited only. So a type is overlooked when a search comes to it on a way that
cuts off all its own ways to the sandboxed base. The answers are the same in every
order of visiting exactly when no type is overlooked, and it takes a circle for that.
-/

namespace SandboxLint
namespace BaseTable

/-- A chain of base lists leads from a type to one that names the sandboxed base, and none of the
types in it is being visited. -/
inductive InheritsBeside (bases : BaseTable) (baseType : String) (visiting : List String) :
    TypeDecl → Prop
  | names {decl : TypeDecl} (new : decl.qualifiedName ∉ visiting)
      (names : namesBase baseType decl = true) : InheritsBeside bases baseType visiting decl
  | base {decl base : TypeDecl} (new : decl.qualifiedName ∉ visiting)
      (step : bases.Extends decl base) (rest : InheritsBeside bases baseType visiting base) :
      InheritsBeside bases baseType visiting decl

/-- A search goes on from a type to one of its bases: the bases before that one lead nowhere
beside the types being visited. -/
inductive GoesOn (bases : BaseTable) (baseType : String) :
    List String × TypeDecl → List String × TypeDecl → Prop
  | base {visiting : List String} {decl base : TypeDecl} {before after : List TypeDecl}
      (new : decl.qualifiedName ∉ visiting) (unnamed : ¬ namesBase baseType decl = true)
      (bases_eq : bases.basesOf decl = before ++ base :: after)
      (passed : ∀ other ∈ before,
        ¬ bases.InheritsBeside baseType (decl.qualifiedName :: visiting) other) :
      GoesOn bases baseType (visiting, decl) (decl.qualifiedName :: visiting, base)

def ComesTo (bases : BaseTable) (baseType : String) (table : TypeTable) (visiting : List String)
    (decl : TypeDecl) : Prop :=
  ∃ start ∈ table, Relation.ReflTransGen (bases.GoesOn baseType) ([], start) (visiting, decl)

/-- A type that inherits the sandboxed base, but not beside the types being visited when some
search first comes to it. -/
def Overlooked (bases : BaseTable) (baseType : String) (table : TypeTable) (decl : TypeDecl) :
    Prop :=
  ∃ visiting, bases.ComesTo baseType table visiting decl ∧ decl.qualifiedName ∉ visiting ∧
    ¬ bases.InheritsBeside baseType visiting decl ∧ bases.Inherits baseType decl

variable {bases : BaseTable} {baseType : String} {table : TypeTable} {visiting : List String}
  {decl : TypeDecl}

theorem InheritsBeside.new (h : bases.InheritsBeside baseType visiting decl) :
    decl.qualifiedName ∉ visiting := by
  cases h with
  | names hnew _ => exact hnew
  | base hnew _ _ => exact hnew

theorem InheritsBeside.mono {fewer : List String} (hfewer : fewer ⊆ visiting)
    (h : bases.InheritsBeside baseType visiting decl) :
    bases.InheritsBeside baseType fewer decl := by
  induction h with
  | names hnew hnames => exact .names (fun hmem => hnew (hfewer hmem)) hnames
  | base hnew hstep _ ih => exact .base (fun hmem => hnew (hfewer hmem)) hstep ih

theorem InheritsBeside.inherits (h : bases.InheritsBeside baseType visiting decl) :
    bases.Inherits baseType decl := by
  induction h with
  | names _ hnames => exact .of_names hnames
  | base _ hstep _ ih => exact .of_base hstep ih

/-- A type that inherits does so beside the types being visited, or leads to one of them. -/
theorem Inherits.beside_or (hover : bases.Over table) (hdecl : decl ∈ table)
    (h : bases.Inherits baseType decl) (visiting : List String) :
    bases.InheritsBeside baseType visiting decl ∨
      ∃ met ∈ table, met.qualifiedName ∈ visiting ∧
        Relation.ReflTransGen bases.Extends decl met := by
  obtain ⟨top, hchain, name, hname, hsimple⟩ := h
  induction hchain using Relation.ReflTransGen.head_induction_on with
  | refl =>
      by_cases hmet : top.qualifiedName ∈ visiting
      · exact .inr ⟨top, hdecl, hmet, .refl⟩
      · exact .inl (.names hmet (List.any_eq_true.2 ⟨name, hname, by simpa using hsimple⟩))
  | @head first next hstep _ ih =>
      by_cases hmet : first.qualifiedName ∈ visiting
      · exact .inr ⟨first, hdecl, hmet, .refl⟩
      · refine (ih (hover.base_mem first hdecl next hstep)).imp (.base hmet hstep) ?_
        rintro ⟨met, hmem, hvisited, hreach⟩
        exact ⟨met, hmem, hvisited, hreach.head hstep⟩

theorem Inherits.beside_nothing (hover : bases.Over table) (hdecl : decl ∈ table)
    (h : bases.Inherits baseType decl) : bases.InheritsBeside baseType [] decl := by
  refine (h.beside_or hover hdecl []).resolve_right ?_
  rintro ⟨_, _, hmet, _⟩
  cases hmet

/-- A chain either stays away from one more type or can be taken from that type on. -/
theorem InheritsBeside.cut (hover : bases.Over table) (hdecl : decl ∈ table) {start : TypeDecl}
    (hstart : start ∈ table) (h : bases.InheritsBeside baseType visiting start) :
    bases.InheritsBeside baseType (decl.qualifiedName :: visiting) start ∨
      namesBase baseType decl = true ∨
      ∃ base, bases.Extends decl base ∧
        bases.InheritsBeside baseType (decl.qualifiedName :: visiting) base := by
  induction h with
  | @names first hnew hnames =>
      by_cases hsame : first.qualifiedName = decl.qualifiedName
      · rw [hover.eq_of_name first hstart decl hdecl hsame] at hnames
        exact .inr (.inl hnames)
      · exact .inl (.names (by simp [hsame, hnew]) hnames)
  | @base first next hnew hstep _ ih =>
      cases ih (hover.base_mem first hstart next hstep) with
      | inr hfrom => exact .inr hfrom
      | inl hnext =>
          by_cases hsame : first.qualifiedName = decl.qualifiedName
          · rw [hover.eq_of_name first hstart decl hdecl hsame] at hstep
            exact .inr (.inr ⟨next, hstep, hnext⟩)
          · exact .inl (.base (by simp [hsame, hnew]) hstep hnext)

theorem not_inheritsBeside_of_bases (hover : bases.Over table) (hdecl : decl ∈ table)
    (hnames : ¬ namesBase baseType decl = true)
    (hbases : ∀ base ∈ bases.basesOf decl,
      ¬ bases.InheritsBeside baseType (decl.qualifiedName :: visiting) base) :
    ¬ bases.InheritsBeside baseType visiting decl := by
  intro h
  rcases h.cut hover hdecl hdecl with hself | hself | ⟨base, hbase, hrest⟩
  · exact hself.new List.mem_cons_self
  · exact hnames hself
  · exact hbases base hbase hrest

def Keeps (memo after : Memo) : Prop :=
  ∀ name answer, memo.get? name = some answer → after.get? name = some answer

theorem Keeps.put {memo after : Memo} (h : Keeps memo after) {name : String}
    (hnew : memo.get? name = none) (answer : Bool) : Keeps memo (after.put name answer) := by
  intro other known hknown
  have hne : other ≠ name := by
    rintro rfl
    rw [hnew] at hknown
    cases hknown
  rw [Assoc.get?_put_of_ne after answer hne]
  exact h other known hknown

theorem inheritsFrom_keeps (baseType : String) (hover : bases.Over table) :
    (∀ visiting decl memo, decl ∈ table →
      Keeps memo (bases.inheritsFrom baseType visiting decl memo).2) ∧
    ∀ visiting decls memo, (∀ decl ∈ decls, decl ∈ table) →
      Keeps memo (bases.anyInheritsFrom baseType visiting decls memo).2 := by
  refine inheritsFrom_induction hover (P := fun _ _ memo found => Keeps memo found.2)
    (Q := fun _ _ memo found => Keeps memo found.2) ?known ?visited ?named ?asked ?nothing ?yes ?no
  case known => exact fun _ _ _ _ _ _ _ _ h => h
  case visited => exact fun _ _ _ _ _ _ _ h => h
  case named => exact fun _ _ _ _ hnew _ _ => Keeps.put (fun _ _ h => h) hnew true
  case asked => exact fun _ _ _ found _ hnew _ _ hkeeps => hkeeps.put hnew found.1
  case nothing => exact fun _ _ _ _ h => h
  case yes => exact fun _ _ _ _ _ _ hkeeps => hkeeps
  case no =>
    exact fun _ _ _ _ _ _ _ hfirst hrest name answer h => hrest name answer (hfirst name answer h)

theorem foldl_keeps (hover : bases.Over table) {order : List TypeDecl}
    (horder : ∀ decl ∈ order, decl ∈ table) (memo : Memo) :
    Keeps memo (order.foldl (fun memo decl => (bases.inheritsFrom baseType [] decl memo).2)
      memo) := by
  refine List.foldlRecOn order _ (motive := Keeps memo) (fun _ _ h => h) ?_
  intro before hbefore decl hdecl name answer h
  have hvisit := (inheritsFrom_keeps baseType hover).1 [] decl before (horder decl hdecl)
  exact hvisit name answer (hbefore name answer h)

/-- A memo that a search has filled with noes only: they hold beside the types being visited, and
every base of a type in it is being visited or in it too. -/
structure Fruitless (bases : BaseTable) (baseType : String) (table : TypeTable)
    (visiting : List String) (memo : Memo) : Prop where
  no : ∀ name answer, memo.get? name = some answer → answer = false
  right : ∀ decl ∈ table, (memo.get? decl.qualifiedName).isSome →
    ¬ bases.InheritsBeside baseType visiting decl
  closed : ∀ decl ∈ table, (memo.get? decl.qualifiedName).isSome →
    ∀ base, bases.Extends decl base →
      base.qualifiedName ∈ visiting ∨ (memo.get? base.qualifiedName).isSome

namespace Fruitless

theorem nil (visiting : List String) : Fruitless bases baseType table visiting [] :=
  ⟨nofun, nofun, nofun⟩

theorem enter {memo : Memo} (h : Fruitless bases baseType table visiting memo) (name : String) :
    Fruitless bases baseType table (name :: visiting) memo where
  no := h.no
  right decl hdecl hknown hbeside :=
    h.right decl hdecl hknown (hbeside.mono (List.subset_cons_self _ _))
  closed decl hdecl hknown base hbase :=
    (h.closed decl hdecl hknown base hbase).imp_left (List.mem_cons_of_mem _)

theorem leave {memo : Memo} (hover : bases.Over table) (hdecl : decl ∈ table)
    (h : Fruitless bases baseType table (decl.qualifiedName :: visiting) memo)
    (hnames : ¬ namesBase baseType decl = true)
    (hbases : ∀ base ∈ bases.basesOf decl,
      ¬ bases.InheritsBeside baseType (decl.qualifiedName :: visiting) base)
    (hmet : ∀ base ∈ bases.basesOf decl, base.qualifiedName ∈ decl.qualifiedName :: visiting ∨
      (memo.get? base.qualifiedName).isSome) :
    Fruitless bases baseType table visiting (memo.put decl.qualifiedName false) := by
  have hput : ∀ name, name = decl.qualifiedName ∨ (memo.get? name).isSome ↔
      ((memo.put decl.qualifiedName false).get? name).isSome := by
    intro name
    by_cases hname : name = decl.qualifiedName
    · simp [hname, Assoc.get?_put_self]
    · simp [hname, Assoc.get?_put_of_ne]
  -- what is met by a type in the memo is in it too, now that the type itself is
  have hclosed : ∀ name, (name ∈ decl.qualifiedName :: visiting ∨ (memo.get? name).isSome) →
      name ∈ visiting ∨ ((memo.put decl.qualifiedName false).get? name).isSome := by
    intro name hmem
    rw [← hput, or_left_comm, ← or_assoc, ← List.mem_cons]
    exact hmem
  refine ⟨fun name answer hget => ?_, fun other hother hknown hbeside => ?_,
    fun other hother hknown base hbase => hclosed base.qualifiedName ?_⟩
  · by_cases hname : name = decl.qualifiedName
    · rw [hname, Assoc.get?_put_self] at hget
      exact (Option.some.inj hget).symm
    · rw [Assoc.get?_put_of_ne _ _ hname] at hget
      exact h.no name answer hget
  · cases (hput _).2 hknown with
    | inl hname =>
        rw [hover.eq_of_name other hother decl hdecl hname] at hbeside
        exact not_inheritsBeside_of_bases hover hdecl hnames hbases hbeside
    | inr hold =>
        rcases hbeside.cut hover hdecl hother with haway | hself | ⟨base, hbase, hrest⟩
        · exact h.right other hother hold haway
        · exact hnames hself
        · exact hbases base hbase hrest
  · cases (hput _).2 hknown with
    | inl hname =>
        rw [hover.eq_of_name other hother decl hdecl hname] at hbase
        exact hmet base hbase
    | inr hold => exact h.closed other hother hold base hbase

end Fruitless

/-- What a search with a memo of noes gives: a yes only for what inherits beside the types being
visited, and a no only for what does not, with a memo of noes again. -/
structure Searched (bases : BaseTable) (baseType : String) (table : TypeTable)
    (visiting : List String) (decls : List TypeDecl) (found : Bool × Memo) : Prop where
  yes : found.1 = true → ∃ decl ∈ decls, bases.InheritsBeside baseType visiting decl
  no : found.1 = false → ∀ decl ∈ decls, ¬ bases.InheritsBeside baseType visiting decl
  fruitless : found.1 = false → Fruitless bases baseType table visiting found.2
  met : found.1 = false → ∀ decl ∈ decls,
    decl.qualifiedName ∈ visiting ∨ (found.2.get? decl.qualifiedName).isSome

/-- As long as no yes is found a search is exact beside the types being visited. -/
theorem inheritsFrom_searched (baseType : String) (hover : bases.Over table) :
    (∀ visiting decl memo, decl ∈ table → Fruitless bases baseType table visiting memo →
      Searched bases baseType table visiting [decl]
        (bases.inheritsFrom baseType visiting decl memo)) ∧
    ∀ visiting decls memo, (∀ decl ∈ decls, decl ∈ table) →
      Fruitless bases baseType table visiting memo →
      Searched bases baseType table visiting decls
        (bases.anyInheritsFrom baseType visiting decls memo) := by
  refine inheritsFrom_induction hover
    (P := fun visiting decl memo found => Fruitless bases baseType table visiting memo →
      Searched bases baseType table visiting [decl] found)
    (Q := fun visiting decls memo found => Fruitless bases baseType table visiting memo →
      Searched bases baseType table visiting decls found)
    ?known ?visited ?named ?asked ?nothing ?yes ?no
  case known =>
    intro visiting decl memo answer hdecl hknown hmemo
    cases hmemo.no _ _ hknown
    have hsome := Option.isSome_of_eq_some hknown
    exact ⟨nofun, fun _ => by simpa using hmemo.right decl hdecl hsome, fun _ => hmemo,
      fun _ => by simp [hknown]⟩
  case visited =>
    intro visiting decl memo hdecl hmem hmemo
    refine ⟨nofun, fun _ => ?_, fun _ => hmemo, fun _ => by simp [hmem]⟩
    exact List.forall_mem_singleton.2 fun hbeside => hbeside.new hmem
  case named =>
    intro visiting decl memo _ _ hnew hnames _
    exact ⟨fun _ => ⟨decl, List.mem_singleton_self _, .names hnew hnames⟩, nofun, nofun, nofun⟩
  case asked =>
    intro visiting decl memo found hdecl hnone hnew hnames hsearch hmemo
    have hbases := hsearch (hmemo.enter decl.qualifiedName)
    refine ⟨fun hyes => ?_, fun hno => ?_, fun hno => ?_, fun _ => ?_⟩
    · obtain ⟨base, hbase, hrest⟩ := hbases.yes hyes
      exact ⟨decl, List.mem_singleton_self _,
        .base hnew hbase (hrest.mono (List.subset_cons_self _ _))⟩
    · exact List.forall_mem_singleton.2
        (not_inheritsBeside_of_bases hover hdecl hnames (hbases.no hno))
    · have hnoes := (hbases.fruitless hno).leave hover hdecl hnames (hbases.no hno) (hbases.met hno)
      rwa [← hno] at hnoes
    · simp [Assoc.get?_put_self]
  case nothing => exact fun _ _ hmemo => ⟨nofun, nofun, fun _ => hmemo, nofun⟩
  case yes =>
    intro visiting decl rest memo after hdecl hfirst hmemo
    obtain ⟨found, hfound, hbeside⟩ := (hfirst hmemo).yes rfl
    rw [List.mem_singleton.1 hfound] at hbeside
    exact ⟨fun _ => ⟨decl, List.mem_cons_self, hbeside⟩, nofun, nofun, nofun⟩
  case no =>
    intro visiting decl rest memo after hdecl hrest hfirst hlater hmemo
    have hone := hfirst hmemo
    have hothers := hlater (hone.fruitless rfl)
    have hkeeps := (inheritsFrom_keeps baseType hover).2 visiting rest after hrest
    refine ⟨fun hyes => ?_, fun hno => ?_, hothers.fruitless, fun hno => ?_⟩
    · obtain ⟨other, hother, hbeside⟩ := hothers.yes hyes
      exact ⟨other, List.mem_cons_of_mem _ hother, hbeside⟩
    · exact List.forall_mem_cons.2 ⟨hone.no rfl decl (List.mem_singleton_self _), hothers.no hno⟩
    · refine List.forall_mem_cons.2 ⟨?_, hothers.met hno⟩
      refine (hone.met rfl decl (List.mem_singleton_self _)).imp_right fun hknown => ?_
      obtain ⟨answer, hanswer⟩ := Option.isSome_iff_exists.1 hknown
      exact Option.isSome_of_eq_some (hkeeps _ answer hanswer)

theorem get?_inheritsFrom (baseType : String) (hover : bases.Over table) (hdecl : decl ∈ table)
    (hnew : decl.qualifiedName ∉ visiting) (memo : Memo) :
    (bases.inheritsFrom baseType visiting decl memo).2.get? decl.qualifiedName =
      some (bases.inheritsFrom baseType visiting decl memo).1 := by
  cases hknown : memo.get? decl.qualifiedName with
  | some answer => rw [inheritsFrom_known hknown, hknown]
  | none =>
      rw [inheritsFrom_new hover hdecl hknown fun hseen => hnew (List.contains_iff_mem.1 hseen)]
      exact Assoc.get?_put_self _ _ _

/-- A type that is visited before all others is answered rightly. -/
theorem inheritsFrom_alone (hover : bases.Over table) (hdecl : decl ∈ table)
    (h : bases.Inherits baseType decl) :
    (bases.inheritsFrom baseType [] decl []).2.get? decl.qualifiedName = some true := by
  have hsearch := (inheritsFrom_searched baseType hover).1 [] decl [] hdecl (.nil [])
  rw [get?_inheritsFrom baseType hover hdecl List.not_mem_nil]
  refine congrArg some (eq_true_of_ne_false fun hno => ?_)
  exact hsearch.no hno decl (List.mem_singleton_self _) (h.beside_nothing hover hdecl)

theorem anyInheritsFrom_append {before rest : List TypeDecl} {memo : Memo}
    (h : (bases.anyInheritsFrom baseType visiting before memo).1 = false) :
    bases.anyInheritsFrom baseType visiting (before ++ rest) memo =
      bases.anyInheritsFrom baseType visiting rest
        (bases.anyInheritsFrom baseType visiting before memo).2 := by
  induction before generalizing memo with
  | nil => simp [anyInheritsFrom]
  | cons decl before ih =>
      rw [anyInheritsFrom_cons] at h
      rw [List.cons_append, anyInheritsFrom_cons, anyInheritsFrom_cons]
      by_cases hyes : (bases.inheritsFrom baseType visiting decl memo).1 = true
      · simp [hyes] at h
      · simp only [hyes] at h ⊢
        exact ih h

section Overlooking

variable {target : TypeDecl} {final : List String}

theorem GoesOn.extends {here next : List String × TypeDecl} (h : bases.GoesOn baseType here next) :
    bases.Extends here.2 next.2 ∧ next.1 = here.2.qualifiedName :: here.1 := by
  cases h with
  | base _ _ hbases _ => exact ⟨by simp [Extends, hbases], rfl⟩

theorem visiting_subset {here : List String × TypeDecl}
    (h : Relation.ReflTransGen (bases.GoesOn baseType) here (final, target)) : here.1 ⊆ final := by
  induction h using Relation.ReflTransGen.head_induction_on with
  | refl => exact List.Subset.refl _
  | head hgoes _ ih =>
      rw [hgoes.extends.2] at ih
      exact List.Subset.trans (List.subset_cons_self _ _) ih

/-- A search comes only to types of the table, and all types being visited lead to where it is. -/
theorem ComesTo.reached (hover : bases.Over table)
    (h : bases.ComesTo baseType table visiting decl) :
    decl ∈ table ∧ bases.VisitingReach table visiting decl := by
  obtain ⟨start, hstart, hsteps⟩ := h
  have hall : ∀ stage, Relation.ReflTransGen (bases.GoesOn baseType) ([], start) stage →
      stage.2 ∈ table ∧ bases.VisitingReach table stage.1 stage.2 := by
    intro stage hstage
    induction hstage with
    | refl => exact ⟨hstart, nofun⟩
    | @tail here next _ hgoes ih =>
        obtain ⟨hbase, hvisiting⟩ := hgoes.extends
        rw [hvisiting]
        exact ⟨hover.base_mem _ ih.1 _ hbase, ih.2.base hover ih.1 hbase⟩
  exact hall (visiting, decl) hsteps

/-- It takes a circle to overlook a type, and the type lies on it. -/
theorem Overlooked.circle (hover : bases.Over table)
    (h : bases.Overlooked baseType table decl) : Relation.TransGen bases.Extends decl decl := by
  obtain ⟨visiting, hcomes, -, hnot, hinherits⟩ := h
  obtain ⟨hdecl, hreach⟩ := hcomes.reached hover
  obtain ⟨met, hmet, hvisited, hchain⟩ :=
    (hinherits.beside_or hover hdecl visiting).resolve_left hnot
  exact .trans_right hchain (hreach met hmet hvisited)

theorem Fruitless.known {memo : Memo} (hover : bases.Over table)
    (hmemo : Fruitless bases baseType table visiting memo) (hnew : target.qualifiedName ∉ final)
    {here : List String × TypeDecl} (hhere : here.2 ∈ table) (hmore : visiting ⊆ here.1)
    (hknown : (memo.get? here.2.qualifiedName).isSome)
    (h : Relation.ReflTransGen (bases.GoesOn baseType) here (final, target)) :
    memo.get? target.qualifiedName = some false := by
  induction h using Relation.ReflTransGen.head_induction_on with
  | refl =>
      obtain ⟨answer, hanswer⟩ := Option.isSome_iff_exists.1 hknown
      rwa [hmemo.no _ _ hanswer] at hanswer
  | @head here next hgoes hrest ih =>
      obtain ⟨hbase, hvisiting⟩ := hgoes.extends
      have hwider : visiting ⊆ next.1 := by
        rw [hvisiting]
        exact fun name hname => List.mem_cons_of_mem _ (hmore hname)
      have hnext : next.2.qualifiedName ∉ next.1 := by
        cases hrest.cases_head with
        | inl hsame => rwa [hsame]
        | inr hstep =>
            obtain ⟨_, hgoes', -⟩ := hstep
            cases hgoes' with
            | base hnew' _ _ _ => exact hnew'
      refine ih (hover.base_mem _ hhere _ hbase) hwider ?_
      refine (hmemo.closed _ hhere hknown _ hbase).resolve_left fun hmem => ?_
      exact hnext (hwider hmem)

/-- A no that the search from one base leaves is there after the search from all bases, when the
search comes to that base. -/
theorem anyInheritsFrom_passing (hover : bases.Over table) {before after : List TypeDecl}
    {base : TypeDecl} {name : String} {memo : Memo}
    (hmem : ∀ other ∈ before ++ base :: after, other ∈ table)
    (hmemo : Fruitless bases baseType table visiting memo)
    (hpassed : ∀ other ∈ before, ¬ bases.InheritsBeside baseType visiting other)
    (hbase : ∀ memo, Fruitless bases baseType table visiting memo →
      (bases.inheritsFrom baseType visiting base memo).2.get? name = some false) :
    (bases.anyInheritsFrom baseType visiting (before ++ base :: after) memo).2.get? name =
      some false := by
  obtain ⟨hbefore, hrest⟩ := List.forall_mem_append.1 hmem
  have hsearch := (inheritsFrom_searched baseType hover).2 visiting before memo hbefore hmemo
  have hno : (bases.anyInheritsFrom baseType visiting before memo).1 = false := by
    refine Bool.eq_false_iff.2 fun hyes => ?_
    obtain ⟨other, hother, hbeside⟩ := hsearch.yes hyes
    exact hpassed other hother hbeside
  have hleft := hbase _ (hsearch.fruitless hno)
  have hafter := (List.forall_mem_cons.1 hrest).2
  rw [anyInheritsFrom_append hno, anyInheritsFrom_cons]
  dsimp only
  split
  · exact hleft
  · exact (inheritsFrom_keeps baseType hover).2 visiting after _ hafter name false hleft

/-- A search that comes to a type which inherits only through those being visited leaves a no
for it. -/
theorem inheritsFrom_overlooks (hover : bases.Over table)
    (hnew : target.qualifiedName ∉ final)
    (hnot : ¬ bases.InheritsBeside baseType final target)
    {here : List String × TypeDecl} (hhere : here.2 ∈ table) {memo : Memo}
    (hmemo : Fruitless bases baseType table here.1 memo)
    (h : Relation.ReflTransGen (bases.GoesOn baseType) here (final, target)) :
    (bases.inheritsFrom baseType here.1 here.2 memo).2.get? target.qualifiedName =
      some false := by
  induction h using Relation.ReflTransGen.head_induction_on generalizing memo with
  | refl =>
      have hsearch := (inheritsFrom_searched baseType hover).1 final target memo hhere hmemo
      rw [get?_inheritsFrom baseType hover hhere hnew]
      refine congrArg some (Bool.eq_false_iff.2 fun hyes => ?_)
      obtain ⟨other, hother, hbeside⟩ := hsearch.yes hyes
      rw [List.mem_singleton.1 hother] at hbeside
      exact hnot hbeside
  | @head here next hgoes hrest ih =>
      cases hknown : memo.get? here.2.qualifiedName with
      | some answer =>
          -- An answer given before is a no, and all that its search went on to has one too.
          rw [inheritsFrom_known hknown]
          exact hmemo.known hover hnew hhere (List.Subset.refl _) (Option.isSome_of_eq_some hknown)
            (hrest.head hgoes)
      | none =>
          obtain ⟨hbase, -⟩ := hgoes.extends
          have hnext := hover.base_mem _ hhere _ hbase
          cases hgoes with
          | @base visiting decl base before after hfirst hunnamed hbases hpassed =>
              have hseen : ¬ visiting.contains decl.qualifiedName = true := fun hseen =>
                hfirst (List.contains_iff_mem.1 hseen)
              have hother : target.qualifiedName ≠ decl.qualifiedName := fun hsame =>
                hnew (hsame ▸ visiting_subset hrest List.mem_cons_self)
              have hmem := hover.base_mem decl hhere
              rw [hbases] at hmem
              rw [inheritsFrom_new hover hhere hknown hseen]
              simp only [hunnamed, hbases]
              rw [Assoc.get?_put_of_ne _ _ hother]
              exact anyInheritsFrom_passing hover hmem (hmemo.enter decl.qualifiedName) hpassed
                fun memo hmemo => ih hnext hmemo

end Overlooking

def ExactMemo (bases : BaseTable) (baseType : String) (table : TypeTable) (memo : Memo) : Prop :=
  ∀ decl ∈ table, ∀ answer, memo.get? decl.qualifiedName = some answer →
    (answer = true ↔ bases.Inherits baseType decl)

theorem ExactMemo.put {memo : Memo} {answer : Bool} (hover : bases.Over table)
    (hdecl : decl ∈ table) (hmemo : bases.ExactMemo baseType table memo)
    (h : answer = true ↔ bases.Inherits baseType decl) :
    bases.ExactMemo baseType table (memo.put decl.qualifiedName answer) :=
  hover.forall_get?_put hdecl hmemo h

/-- What a search with an exact memo gives: a yes only for what inherits, a no only for what does
not beside the types being visited, and an exact memo again. -/
structure Attentive (bases : BaseTable) (baseType : String) (table : TypeTable)
    (visiting : List String) (decls : List TypeDecl) (found : Bool × Memo) : Prop where
  yes : found.1 = true → ∃ decl ∈ decls, bases.Inherits baseType decl
  no : found.1 = false → ∀ decl ∈ decls, ¬ bases.InheritsBeside baseType visiting decl
  exact : bases.ExactMemo baseType table found.2

/-- Where no type is overlooked, the noes that a search keeps are final. -/
theorem inheritsFrom_attentive (hover : bases.Over table)
    (hnone : ∀ decl ∈ table, ¬ bases.Overlooked baseType table decl) :
    (∀ visiting decl memo, decl ∈ table → bases.ComesTo baseType table visiting decl →
      bases.ExactMemo baseType table memo →
      Attentive bases baseType table visiting [decl]
        (bases.inheritsFrom baseType visiting decl memo)) ∧
    ∀ visiting decls memo, (∀ decl ∈ decls, decl ∈ table) →
      (∀ before base after, decls = before ++ base :: after →
        (∀ other ∈ before, ¬ bases.InheritsBeside baseType visiting other) →
        bases.ComesTo baseType table visiting base) →
      bases.ExactMemo baseType table memo →
      Attentive bases baseType table visiting decls
        (bases.anyInheritsFrom baseType visiting decls memo) := by
  refine inheritsFrom_induction hover
    (P := fun visiting decl memo found => bases.ComesTo baseType table visiting decl →
      bases.ExactMemo baseType table memo →
      Attentive bases baseType table visiting [decl] found)
    (Q := fun visiting decls memo found =>
      (∀ before base after, decls = before ++ base :: after →
        (∀ other ∈ before, ¬ bases.InheritsBeside baseType visiting other) →
        bases.ComesTo baseType table visiting base) →
      bases.ExactMemo baseType table memo →
      Attentive bases baseType table visiting decls found)
    ?known ?visited ?named ?asked ?nothing ?yes ?no
  case known =>
    intro visiting decl memo answer hdecl hknown _ hmemo
    have hexact := hmemo decl hdecl answer hknown
    refine ⟨fun hyes => ⟨decl, List.mem_singleton_self _, hexact.1 hyes⟩, fun hno => ?_, hmemo⟩
    refine List.forall_mem_singleton.2 fun hbeside => ?_
    exact absurd (hexact.2 hbeside.inherits) (Bool.eq_false_iff.1 hno)
  case visited =>
    intro visiting decl memo _ hmem _ hmemo
    exact ⟨nofun, fun _ => List.forall_mem_singleton.2 fun hbeside => hbeside.new hmem, hmemo⟩
  case named =>
    intro visiting decl memo hdecl _ _ hnames _ hmemo
    have hinherits : bases.Inherits baseType decl := .of_names hnames
    exact ⟨fun _ => ⟨decl, List.mem_singleton_self _, hinherits⟩, nofun,
      hmemo.put hover hdecl ⟨fun _ => hinherits, fun _ => rfl⟩⟩
  case asked =>
    intro visiting decl memo found hdecl _ hnew hnames hsearch hcomes hmemo
    have hbases := hsearch (fun before base after heq hpassed => by
      obtain ⟨start, hstart, hsteps⟩ := hcomes
      exact ⟨start, hstart, hsteps.tail (.base hnew hnames heq hpassed)⟩) hmemo
    have hyes : found.1 = true → bases.Inherits baseType decl := by
      intro hyes
      obtain ⟨base, hbase, hinherits⟩ := hbases.yes hyes
      exact .of_base hbase hinherits
    have hno : found.1 = false → ¬ bases.InheritsBeside baseType visiting decl := fun hno =>
      not_inheritsBeside_of_bases hover hdecl hnames (hbases.no hno)
    refine ⟨fun h => ⟨decl, List.mem_singleton_self _, hyes h⟩,
      fun h => List.forall_mem_singleton.2 (hno h), hbases.exact.put hover hdecl ⟨hyes, ?_⟩⟩
    intro hinherits
    -- A no here, for a type that does inherit, would make it an overlooked one.
    by_contra hfound
    exact hnone decl hdecl ⟨visiting, hcomes, hnew, hno (Bool.eq_false_iff.2 hfound), hinherits⟩
  case nothing => exact fun _ _ _ hmemo => ⟨nofun, nofun, hmemo⟩
  case yes =>
    intro visiting decl rest memo after _ hfirst hcomes hmemo
    have hone := hfirst (hcomes [] decl rest rfl nofun) hmemo
    obtain ⟨found, hfound, hinherits⟩ := hone.yes rfl
    rw [List.mem_singleton.1 hfound] at hinherits
    exact ⟨fun _ => ⟨decl, List.mem_cons_self, hinherits⟩, nofun, hone.exact⟩
  case no =>
    intro visiting decl rest memo after _ _ hfirst hlater hcomes hmemo
    have hone := hfirst (hcomes [] decl rest rfl nofun) hmemo
    have hself := hone.no rfl decl (List.mem_singleton_self _)
    have hothers := hlater (fun before base after heq hpassed =>
      hcomes (decl :: before) base after (by rw [heq, List.cons_append])
        (List.forall_mem_cons.2 ⟨hself, hpassed⟩)) hone.exact
    refine ⟨fun hyes => ?_, fun hno => List.forall_mem_cons.2 ⟨hself, hothers.no hno⟩,
      hothers.exact⟩
    obtain ⟨other, hother, hinherits⟩ := hothers.yes hyes
    exact ⟨other, List.mem_cons_of_mem _ hother, hinherits⟩

/-- Where no type is overlooked, every order of visiting gives the same, right answers. -/
theorem inheritance_of_none_overlooked (hover : bases.Over table)
    (hnone : ∀ decl ∈ table, ¬ bases.Overlooked baseType table decl) {order : List TypeDecl}
    (horder : order.Perm table) (hdecl : decl ∈ table) :
    ∃ answer, (bases.inheritance baseType order).get? decl.qualifiedName = some answer ∧
      (answer = true ↔ bases.Inherits baseType decl) := by
  have hmem : ∀ decl ∈ order, decl ∈ table := fun _ h => horder.mem_iff.1 h
  have hexact : bases.ExactMemo baseType table (bases.inheritance baseType order) := by
    refine List.foldlRecOn order _ (motive := bases.ExactMemo baseType table) nofun ?_
    intro memo hmemo first hfirst
    have hstart : bases.ComesTo baseType table [] first := ⟨first, hmem first hfirst, .refl⟩
    exact ((inheritsFrom_attentive hover hnone).1 [] first memo (hmem first hfirst) hstart
      hmemo).exact
  obtain ⟨-, hall⟩ := inheritance_right baseType hover order hmem
  obtain ⟨answer, hanswer⟩ := Option.isSome_iff_exists.1 (hall decl (horder.mem_iff.2 hdecl))
  exact ⟨answer, hanswer, hexact decl hdecl answer hanswer⟩

theorem inheritance_of_first (hover : bases.Over table) {start : TypeDecl} (hstart : start ∈ table)
    {name : String} {answer : Bool}
    (h : (bases.inheritsFrom baseType [] start []).2.get? name = some answer) :
    ∃ order : List TypeDecl, order.Perm table ∧
      (bases.inheritance baseType order).get? name = some answer := by
  refine ⟨start :: table.erase start, (List.perm_cons_erase hstart).symm, ?_⟩
  exact foldl_keeps hover (fun _ hmem => List.mem_of_mem_erase hmem) _ name answer h

/-- The answers are the same in every order of visiting exactly when no type is overlooked, and
then they are right. A type that is overlooked lies on a circle and inherits in one
order but not in another. -/
theorem inheritance_orderless_iff (baseType : String) (hover : bases.Over table) :
    ((∀ order order' : List TypeDecl, order.Perm table → order'.Perm table → ∀ decl ∈ table,
        (bases.inheritance baseType order).get? decl.qualifiedName =
          (bases.inheritance baseType order').get? decl.qualifiedName) ↔
      ∀ decl ∈ table, ¬ bases.Overlooked baseType table decl) ∧
    ((∀ decl ∈ table, ¬ bases.Overlooked baseType table decl) →
      ∀ order : List TypeDecl, order.Perm table → ∀ decl ∈ table,
        ((bases.inheritance baseType order).get? decl.qualifiedName = some true ↔
          bases.Inherits baseType decl)) ∧
    ∀ decl ∈ table, bases.Overlooked baseType table decl →
      Relation.TransGen bases.Extends decl decl ∧
      ∃ order order' : List TypeDecl, order.Perm table ∧ order'.Perm table ∧
        (bases.inheritance baseType order).get? decl.qualifiedName = some false ∧
        (bases.inheritance baseType order').get? decl.qualifiedName = some true := by
  have hsplit : ∀ decl ∈ table, bases.Overlooked baseType table decl →
      ∃ order order' : List TypeDecl, order.Perm table ∧ order'.Perm table ∧
        (bases.inheritance baseType order).get? decl.qualifiedName = some false ∧
        (bases.inheritance baseType order').get? decl.qualifiedName = some true := by
    rintro decl hdecl ⟨visiting, ⟨start, hstart, hsteps⟩, hnew, hnot, hinherits⟩
    -- Started where the overlooking begins the answer is no; asked first, the type says yes.
    have hno := inheritsFrom_overlooks hover hnew hnot hstart (.nil []) hsteps
    obtain ⟨order, horder, hfirst⟩ := inheritance_of_first hover hstart hno
    obtain ⟨order', horder', hfirst'⟩ :=
      inheritance_of_first hover hdecl (inheritsFrom_alone hover hdecl hinherits)
    exact ⟨order, order', horder, horder', hfirst, hfirst'⟩
  refine ⟨⟨fun hsame decl hdecl hlost => ?_,
      fun hnone order order' horder horder' decl hdecl => ?_⟩,
    fun hnone order horder decl hdecl => ?_,
    fun decl hdecl h => ⟨h.circle hover, hsplit decl hdecl h⟩⟩
  · obtain ⟨order, order', horder, horder', hno, hyes⟩ := hsplit decl hdecl hlost
    have heq := hsame order order' horder horder' decl hdecl
    rw [hno, hyes] at heq
    cases heq
  · obtain ⟨answer, hanswer, hexact⟩ := inheritance_of_none_overlooked hover hnone horder hdecl
    obtain ⟨answer', hanswer', hexact'⟩ := inheritance_of_none_overlooked hover hnone horder' hdecl
    rw [hanswer, hanswer', Bool.eq_iff_iff.2 (hexact.trans hexact'.symm)]
  · obtain ⟨answer, hanswer, hexact⟩ := inheritance_of_none_overlooked hover hnone horder hdecl
    rw [hanswer, ← hexact, Option.some.injEq]

section Ring

/-- A front with a back and a gate, where the back has the front and only the gate is sandboxed. -/
def ring : List OutlinedFile :=
  Sketch.outlined
    [Sketch.file "Ring.cs"
      [Sketch.classDecl [] "Front" ["Back", "Gate"] [], Sketch.classDecl [] "Back" ["Front"] [],
        Sketch.classDecl [] "Gate" ["UdonSharpBehaviour"] []]]

def ringSpace : SymbolSpace :=
  .inOrder ring

def ringType (name : String) : TypeDecl :=
  (ringSpace.types.find? name).getD default

theorem build_ring : SymbolSpace.build {} ring = .ok ringSpace :=
  SymbolSpace.build_inOrder (by decide) (by decide) (by decide)

theorem basesOf_ring :
    ringSpace.bases.basesOf (ringType "Front") = [ringType "Back", ringType "Gate"] ∧
      ringSpace.bases.basesOf (ringType "Back") = [ringType "Front"] := by
  decide

/-- A search from the front comes to the back, whose only way leads through the front. -/
theorem overlooked_back :
    ringSpace.bases.Overlooked "UdonSharpBehaviour" ringSpace.types (ringType "Back") := by
  obtain ⟨hfront, hback⟩ := basesOf_ring
  have hstart : ringSpace.bases.GoesOn "UdonSharpBehaviour" ([], ringType "Front")
      (["Front"], ringType "Back") :=
    .base List.not_mem_nil (by decide) (hfront.trans (List.nil_append _).symm) nofun
  refine ⟨["Front"], ⟨ringType "Front", by decide, .single hstart⟩, by decide, ?_, ?_⟩
  · intro hbeside
    cases hbeside with
    | names _ hnames => exact absurd hnames (by decide)
    | base _ hstep hrest =>
        rw [Extends, hback, List.mem_singleton] at hstep
        subst hstep
        exact hrest.new (by decide)
  · have hgate : ringSpace.bases.Inherits "UdonSharpBehaviour" (ringType "Gate") :=
      .of_names (by decide)
    have htop : ringSpace.bases.Extends (ringType "Front") (ringType "Gate") := by
      simp [Extends, hfront]
    have hround : ringSpace.bases.Extends (ringType "Back") (ringType "Front") := by
      simp [Extends, hback]
    exact .of_base hround (.of_base htop hgate)

/-- The back inherits or not as the front is visited after it or before. -/
theorem inheritance_orderless_iff_ring :
    SymbolSpace.build {} ring = .ok ringSpace ∧ ringType "Back" ∈ ringSpace.types ∧
      ∃ order order' : List TypeDecl, order.Perm ringSpace.types ∧ order'.Perm ringSpace.types ∧
        (ringSpace.visitedIn order).inheritsBase (ringType "Back") = false ∧
        (ringSpace.visitedIn order').inheritsBase (ringType "Back") = true := by
  have hover := (SymbolSpace.built_of_build build_ring).over
  have hmem : ringType "Back" ∈ ringSpace.types := by decide
  obtain ⟨-, -, hsplit⟩ := inheritance_orderless_iff "UdonSharpBehaviour" hover
  obtain ⟨-, order, order', horder, horder', hno, hyes⟩ := hsplit _ hmem overlooked_back
  refine ⟨build_ring, hmem, order, order', horder, horder', ?_, ?_⟩
  · exact congrArg (·.getD false) hno
  · exact congrArg (·.getD false) hyes

end Ring

end BaseTable
end SandboxLint
