import Mathlib.Logic.Relation
import SandboxLint.Proofs.Corpus.Sketch

/-!
Inheritance from the sandboxed base. The search keeps answers in a memo while other
types are still being visited. Every type being visited reaches the type at hand, so
meeting one again means a circle, and an answer found for a type that reaches no
circle is final. The order in which types are visited therefore matters only on
circles.
-/

namespace SandboxLint
namespace BaseTable

/-- A base graph over a table: names tell types apart, every type has an entry, and bases are
types of the table. -/
structure Over (bases : BaseTable) (table : TypeTable) : Prop where
  eq_of_name : ∀ a ∈ table, ∀ b ∈ table, a.qualifiedName = b.qualifiedName → a = b
  get?_eq : ∀ decl ∈ table, bases.get? decl.qualifiedName = some (bases.basesOf decl)
  base_mem : ∀ decl ∈ table, ∀ base ∈ bases.basesOf decl, base ∈ table

def Extends (bases : BaseTable) (decl base : TypeDecl) : Prop :=
  base ∈ bases.basesOf decl

/-- A chain of base lists leads from a type to one that names the sandboxed base. -/
def Inherits (bases : BaseTable) (baseType : String) (decl : TypeDecl) : Prop :=
  ∃ top, Relation.ReflTransGen bases.Extends decl top ∧
    ∃ name ∈ top.baseNames, TypeName.simple name = baseType

/-- No type that a type reaches lies on a circle. -/
def ReachesNoCircle (bases : BaseTable) (decl : TypeDecl) : Prop :=
  ∀ reached, Relation.ReflTransGen bases.Extends decl reached →
    ¬ Relation.TransGen bases.Extends reached reached

variable {bases : BaseTable} {baseType : String} {table : TypeTable}

theorem Inherits.of_names {decl : TypeDecl} (h : namesBase baseType decl = true) :
    bases.Inherits baseType decl := by
  obtain ⟨name, hname, hsimple⟩ := List.any_eq_true.1 h
  exact ⟨decl, .refl, name, hname, by simpa using hsimple⟩

theorem Inherits.of_base {decl base : TypeDecl} (hbase : bases.Extends decl base)
    (h : bases.Inherits baseType base) : bases.Inherits baseType decl := by
  obtain ⟨top, hchain, hnames⟩ := h
  exact ⟨top, hchain.head hbase, hnames⟩

theorem Inherits.cases {decl : TypeDecl} (h : bases.Inherits baseType decl) :
    namesBase baseType decl = true ∨
      ∃ base, bases.Extends decl base ∧ bases.Inherits baseType base := by
  obtain ⟨top, hchain, name, hname, hsimple⟩ := h
  cases hchain.cases_head with
  | inl hsame =>
      subst hsame
      exact .inl (List.any_eq_true.2 ⟨name, hname, by simpa using hsimple⟩)
  | inr hstep =>
      obtain ⟨base, hbase, hrest⟩ := hstep
      exact .inr ⟨base, hbase, top, hrest, name, hname, hsimple⟩

theorem ReachesNoCircle.base {decl base : TypeDecl} (h : bases.ReachesNoCircle decl)
    (hbase : bases.Extends decl base) : bases.ReachesNoCircle base :=
  fun reached hreached => h reached (hreached.head hbase)

theorem ReachesNoCircle.of_bases {decl : TypeDecl}
    (h : ∀ base, bases.Extends decl base → bases.ReachesNoCircle base) :
    bases.ReachesNoCircle decl := by
  intro reached hreached hcircle
  cases hreached.cases_head with
  | inl hsame =>
      subst hsame
      obtain ⟨base, hbase, hback⟩ := Relation.TransGen.head'_iff.1 hcircle
      exact h base hbase decl hback hcircle
  | inr hstep =>
      obtain ⟨base, hbase, hrest⟩ := hstep
      exact h base hbase reached hrest hcircle

/-- An answer is right about a type: a yes always, a no as far as no circle is reached. -/
def Fits (bases : BaseTable) (baseType : String) (decl : TypeDecl) (answer : Bool) : Prop :=
  (answer = true → bases.Inherits baseType decl) ∧
    (bases.ReachesNoCircle decl → bases.Inherits baseType decl → answer = true)

def FitsAny (bases : BaseTable) (baseType : String) (decls : List TypeDecl) (answer : Bool) :
    Prop :=
  (answer = true → ∃ decl ∈ decls, bases.Inherits baseType decl) ∧
    ∀ decl ∈ decls, bases.ReachesNoCircle decl → bases.Inherits baseType decl → answer = true

def RightMemo (bases : BaseTable) (baseType : String) (table : TypeTable) (memo : Memo) : Prop :=
  ∀ decl ∈ table, ∀ answer, memo.get? decl.qualifiedName = some answer →
    bases.Fits baseType decl answer

/-- Every type of the table that is being visited reaches a type. -/
def VisitingReach (bases : BaseTable) (table : TypeTable) (visiting : List String)
    (decl : TypeDecl) : Prop :=
  ∀ started ∈ table, started.qualifiedName ∈ visiting → Relation.TransGen bases.Extends started decl

theorem VisitingReach.base {visiting : List String} {decl base : TypeDecl}
    (hover : bases.Over table) (hdecl : decl ∈ table)
    (h : bases.VisitingReach table visiting decl) (hbase : bases.Extends decl base) :
    bases.VisitingReach table (decl.qualifiedName :: visiting) base := by
  intro started hstarted hmem
  cases List.mem_cons.1 hmem with
  | inl hname =>
      rw [hover.eq_of_name started hstarted decl hdecl hname]
      exact .single hbase
  | inr hrest => exact (h started hstarted hrest).tail hbase

/-- A fresh answer for a type follows from the answer for its bases. -/
theorem Fits.of_bases {decl : TypeDecl} {answer : Bool}
    (hnames : ¬ namesBase baseType decl = true)
    (h : bases.FitsAny baseType (bases.basesOf decl) answer) :
    bases.Fits baseType decl answer := by
  constructor
  · intro hyes
    obtain ⟨base, hbase, hinherits⟩ := h.1 hyes
    exact .of_base hbase hinherits
  · intro hcircle hinherits
    cases hinherits.cases with
    | inl hself => exact absurd hself hnames
    | inr hstep =>
        obtain ⟨base, hbase, hrest⟩ := hstep
        exact h.2 base hbase (hcircle.base hbase) hrest

/-- What holds of a new answer and of every answer kept so far holds of all of them together. -/
theorem Over.forall_get?_put {P : TypeDecl → Bool → Prop} {memo : Memo} {decl : TypeDecl}
    {answer : Bool} (hover : bases.Over table) (hdecl : decl ∈ table)
    (hmemo : ∀ other ∈ table, ∀ found, memo.get? other.qualifiedName = some found → P other found)
    (h : P decl answer) :
    ∀ other ∈ table, ∀ found,
      (memo.put decl.qualifiedName answer).get? other.qualifiedName = some found →
        P other found := by
  intro other hother found hfound
  by_cases hname : other.qualifiedName = decl.qualifiedName
  · rw [hname, Assoc.get?_put_self] at hfound
    cases hfound
    rwa [hover.eq_of_name other hother decl hdecl hname]
  · rw [Assoc.get?_put_of_ne memo answer hname] at hfound
    exact hmemo other hother found hfound

theorem RightMemo.put {memo : Memo} {decl : TypeDecl} {answer : Bool} (hover : bases.Over table)
    (hdecl : decl ∈ table) (hmemo : bases.RightMemo baseType table memo)
    (h : bases.Fits baseType decl answer) :
    bases.RightMemo baseType table (memo.put decl.qualifiedName answer) :=
  hover.forall_get?_put hdecl hmemo h

/-- The memo after a search has all keys that it had before. -/
def Grows (memo after : Memo) : Prop :=
  ∀ name, (memo.get? name).isSome → (after.get? name).isSome

theorem Grows.put {memo after : Memo} (h : Grows memo after) (name : String) (answer : Bool) :
    Grows memo (after.put name answer) := by
  intro other hother
  by_cases hname : other = name
  · rw [hname, Assoc.get?_put_self]
    rfl
  · rw [Assoc.get?_put_of_ne after answer hname]
    exact h other hother

theorem Grows.trans {a b c : Memo} (hab : Grows a b) (hbc : Grows b c) : Grows a c :=
  fun name h => hbc name (hab name h)

/-- What visiting a type gives: a right answer, a memo that stays right and loses no key. -/
structure Visit (bases : BaseTable) (baseType : String) (table : TypeTable) (memo : Memo)
    (fits : Bool → Prop) (outcome : Bool × Memo) : Prop where
  fits : fits outcome.1
  right : bases.RightMemo baseType table outcome.2
  grows : Grows memo outcome.2

theorem inheritsFrom_known {visiting : List String} {decl : TypeDecl} {memo : Memo}
    {answer : Bool} (h : memo.get? decl.qualifiedName = some answer) :
    bases.inheritsFrom baseType visiting decl memo = (answer, memo) := by
  rw [inheritsFrom, h]

theorem inheritsFrom_visiting {visiting : List String} {decl : TypeDecl} {memo : Memo}
    (h : memo.get? decl.qualifiedName = none)
    (hseen : visiting.contains decl.qualifiedName = true) :
    bases.inheritsFrom baseType visiting decl memo = (false, memo) := by
  rw [inheritsFrom, h]
  exact dif_pos hseen

/-- A type that is new is asked itself, then its bases, and its answer is kept. -/
theorem inheritsFrom_of_get? {visiting : List String} {decl : TypeDecl} {memo : Memo}
    {more : List TypeDecl} (hmore : bases.get? decl.qualifiedName = some more)
    (h : memo.get? decl.qualifiedName = none)
    (hseen : ¬ visiting.contains decl.qualifiedName = true) :
    bases.inheritsFrom baseType visiting decl memo =
      let found := if namesBase baseType decl then (true, memo)
        else bases.anyInheritsFrom baseType (decl.qualifiedName :: visiting) more memo
      (found.1, found.2.put decl.qualifiedName found.1) := by
  rw [inheritsFrom, h]
  refine (dif_neg hseen).trans ?_
  by_cases hnames : namesBase baseType decl = true
  · simp only [hnames, ite_true]
  · simp only [hnames, Bool.false_eq_true, ite_false]
    split
    · next hnone =>
        rw [hmore] at hnone
        cases hnone
    · next found hfound =>
        cases hmore.symm.trans hfound
        rfl

theorem inheritsFrom_new {visiting : List String} {decl : TypeDecl} {memo : Memo}
    (hover : bases.Over table) (hdecl : decl ∈ table)
    (h : memo.get? decl.qualifiedName = none)
    (hseen : ¬ visiting.contains decl.qualifiedName = true) :
    bases.inheritsFrom baseType visiting decl memo =
      let found := if namesBase baseType decl then (true, memo)
        else bases.anyInheritsFrom baseType (decl.qualifiedName :: visiting)
          (bases.basesOf decl) memo
      (found.1, found.2.put decl.qualifiedName found.1) :=
  inheritsFrom_of_get? (hover.get?_eq decl hdecl) h hseen

/-- Of several types the first that inherits ends the search. -/
theorem anyInheritsFrom_cons (visiting : List String) (decl : TypeDecl) (rest : List TypeDecl)
    (memo : Memo) :
    bases.anyInheritsFrom baseType visiting (decl :: rest) memo =
      let found := bases.inheritsFrom baseType visiting decl memo
      if found.1 then (true, found.2)
      else bases.anyInheritsFrom baseType visiting rest found.2 := by
  rw [anyInheritsFrom]
  rcases bases.inheritsFrom baseType visiting decl memo with ⟨answer, after⟩
  cases answer <;> rfl

/-- The cases of a search, told apart by what it comes upon. What holds of each of them holds of
every search over the types of a table. -/
theorem inheritsFrom_induction (hover : bases.Over table)
    {P : List String → TypeDecl → Memo → Bool × Memo → Prop}
    {Q : List String → List TypeDecl → Memo → Bool × Memo → Prop}
    (known : ∀ visiting decl memo answer, decl ∈ table →
      memo.get? decl.qualifiedName = some answer → P visiting decl memo (answer, memo))
    (visited : ∀ visiting decl memo, decl ∈ table → decl.qualifiedName ∈ visiting →
      P visiting decl memo (false, memo))
    (named : ∀ visiting decl memo, decl ∈ table → memo.get? decl.qualifiedName = none →
      decl.qualifiedName ∉ visiting → namesBase baseType decl = true →
      P visiting decl memo (true, memo.put decl.qualifiedName true))
    (asked : ∀ visiting decl memo found, decl ∈ table → memo.get? decl.qualifiedName = none →
      decl.qualifiedName ∉ visiting → ¬ namesBase baseType decl = true →
      Q (decl.qualifiedName :: visiting) (bases.basesOf decl) memo found →
      P visiting decl memo (found.1, found.2.put decl.qualifiedName found.1))
    (nothing : ∀ visiting memo, Q visiting [] memo (false, memo))
    (yes : ∀ visiting decl rest memo after, decl ∈ table →
      P visiting decl memo (true, after) → Q visiting (decl :: rest) memo (true, after))
    (no : ∀ visiting decl rest memo after, decl ∈ table → (∀ d ∈ rest, d ∈ table) →
      P visiting decl memo (false, after) →
      Q visiting rest after (bases.anyInheritsFrom baseType visiting rest after) →
      Q visiting (decl :: rest) memo (bases.anyInheritsFrom baseType visiting rest after)) :
    (∀ visiting decl memo, decl ∈ table →
      P visiting decl memo (bases.inheritsFrom baseType visiting decl memo)) ∧
    ∀ visiting decls memo, (∀ decl ∈ decls, decl ∈ table) →
      Q visiting decls memo (bases.anyInheritsFrom baseType visiting decls memo) := by
  apply inheritsFrom.mutual_induct bases baseType
    (fun visiting decl memo => decl ∈ table →
      P visiting decl memo (bases.inheritsFrom baseType visiting decl memo))
    (fun visiting decls memo => (∀ decl ∈ decls, decl ∈ table) →
      Q visiting decls memo (bases.anyInheritsFrom baseType visiting decls memo))
  case case1 =>
    intro visiting decl memo answer hknown hdecl
    rw [inheritsFrom_known hknown]
    exact known visiting decl memo answer hdecl hknown
  case case2 =>
    intro visiting decl memo hnone hseen hdecl
    rw [inheritsFrom_visiting hnone hseen]
    exact visited visiting decl memo hdecl (List.contains_iff_mem.1 hseen)
  case case3 =>
    intro visiting decl memo hnone hseen _ _ _ ih hdecl
    have hnew : decl.qualifiedName ∉ visiting := fun hmem =>
      hseen (List.contains_iff_mem.2 hmem)
    rw [inheritsFrom_new hover hdecl hnone hseen]
    by_cases hnames : namesBase baseType decl = true
    · simp only [hnames, ite_true]
      exact named visiting decl memo hdecl hnone hnew hnames
    · have hbases := ih (bases.basesOf decl) (hover.get?_eq decl hdecl) (hover.base_mem decl hdecl)
      simp only [hnames]
      exact asked visiting decl memo _ hdecl hnone hnew hnames hbases
  case case4 =>
    intro visiting memo _
    rw [anyInheritsFrom]
    exact nothing visiting memo
  case case5 =>
    intro visiting memo decl rest after hfound ih hmem
    have hdecl := hmem decl List.mem_cons_self
    have hstep := ih hdecl
    rw [hfound] at hstep
    rw [anyInheritsFrom, hfound]
    exact yes visiting decl rest memo after hdecl hstep
  case case6 =>
    intro visiting memo decl rest after hfound ih ihrest hmem
    obtain ⟨hdecl, hrest⟩ := List.forall_mem_cons.1 hmem
    have hstep := ih hdecl
    rw [hfound] at hstep
    rw [anyInheritsFrom, hfound]
    exact no visiting decl rest memo after hdecl hrest hstep (ihrest hrest)

/-- One search answers rightly and leaves a right memo, and so does a search over several types.
The types being visited reach the type at hand, so one that is met again lies on a circle. -/
theorem inheritsFrom_visit (hover : bases.Over table) :
    (∀ visiting decl memo, decl ∈ table → bases.RightMemo baseType table memo →
      bases.VisitingReach table visiting decl →
      Visit bases baseType table memo (bases.Fits baseType decl)
        (bases.inheritsFrom baseType visiting decl memo)) ∧
    ∀ visiting decls memo, (∀ decl ∈ decls, decl ∈ table) →
      bases.RightMemo baseType table memo →
      (∀ decl ∈ decls, bases.VisitingReach table visiting decl) →
      Visit bases baseType table memo (bases.FitsAny baseType decls)
        (bases.anyInheritsFrom baseType visiting decls memo) := by
  refine inheritsFrom_induction hover
    (P := fun visiting decl memo found => bases.RightMemo baseType table memo →
      bases.VisitingReach table visiting decl →
      Visit bases baseType table memo (bases.Fits baseType decl) found)
    (Q := fun visiting decls memo found => bases.RightMemo baseType table memo →
      (∀ decl ∈ decls, bases.VisitingReach table visiting decl) →
      Visit bases baseType table memo (bases.FitsAny baseType decls) found)
    ?known ?visited ?named ?asked ?nothing ?yes ?no
  case known =>
    intro visiting decl memo answer hdecl hknown hmemo _
    exact ⟨hmemo decl hdecl answer hknown, hmemo, fun _ h => h⟩
  case visited =>
    intro visiting decl memo hdecl hseen hmemo hreach
    -- A type met again on the way to itself: the no is owed only where no circle is reached.
    have hcircle := hreach decl hdecl hseen
    refine ⟨⟨nofun, fun hno _ => ?_⟩, hmemo, fun _ h => h⟩
    exact absurd hcircle (hno decl .refl)
  case named =>
    intro visiting decl memo hdecl _ _ hnames hmemo _
    have hfits : bases.Fits baseType decl true := ⟨fun _ => .of_names hnames, fun _ _ => rfl⟩
    exact ⟨hfits, hmemo.put hover hdecl hfits, Grows.put (fun _ h => h) _ _⟩
  case asked =>
    intro visiting decl memo found hdecl _ _ hnames hsearch hmemo hreach
    have hbases := hsearch hmemo fun base hbase => hreach.base hover hdecl hbase
    have hfits := Fits.of_bases hnames hbases.fits
    exact ⟨hfits, hbases.right.put hover hdecl hfits, hbases.grows.put _ _⟩
  case nothing =>
    exact fun _ _ hmemo _ => ⟨⟨nofun, nofun⟩, hmemo, fun _ h => h⟩
  case yes =>
    intro visiting decl rest memo after _ hfirst hmemo hreach
    have hvisit := hfirst hmemo (hreach decl List.mem_cons_self)
    exact ⟨⟨fun _ => ⟨decl, List.mem_cons_self, hvisit.fits.1 rfl⟩, fun _ _ _ _ => rfl⟩,
      hvisit.right, hvisit.grows⟩
  case no =>
    intro visiting decl rest memo after _ _ hfirst hlater hmemo hreach
    obtain ⟨hself, hothers⟩ := List.forall_mem_cons.1 hreach
    have hvisit := hfirst hmemo hself
    have hrest := hlater hvisit.right hothers
    refine ⟨⟨fun hyes => ?_, List.forall_mem_cons.2 ⟨fun hcircle hinherits => ?_, hrest.fits.2⟩⟩,
      hrest.right, hvisit.grows.trans hrest.grows⟩
    · obtain ⟨found, hmem, hinherits⟩ := hrest.fits.1 hyes
      exact ⟨found, List.mem_cons_of_mem _ hmem, hinherits⟩
    · cases hvisit.fits.2 hcircle hinherits

theorem isSome_after_inheritsFrom (hover : bases.Over table) {decl : TypeDecl}
    (hdecl : decl ∈ table) (memo : Memo) :
    ((bases.inheritsFrom baseType [] decl memo).2.get? decl.qualifiedName).isSome := by
  cases hknown : memo.get? decl.qualifiedName with
  | some answer => simp [inheritsFrom_known hknown, hknown]
  | none => simp [inheritsFrom_new hover hdecl hknown, Assoc.get?_put_self]

/-- Visiting types one after the other answers all of them, whatever their order. -/
theorem inheritance_right (baseType : String) (hover : bases.Over table)
    (order : List TypeDecl) (horder : ∀ decl ∈ order, decl ∈ table) :
    bases.RightMemo baseType table (bases.inheritance baseType order) ∧
      ∀ decl ∈ order, ((bases.inheritance baseType order).get? decl.qualifiedName).isSome := by
  have hrun : ∀ memo, bases.RightMemo baseType table memo →
      let after := order.foldl
        (fun memo decl => (bases.inheritsFrom baseType [] decl memo).2) memo
      bases.RightMemo baseType table after ∧ Grows memo after ∧
        ∀ decl ∈ order, (after.get? decl.qualifiedName).isSome := by
    induction order with
    | nil => exact fun memo hmemo => ⟨hmemo, fun _ h => h, by simp⟩
    | cons decl rest ih =>
        intro memo hmemo
        have hdecl := horder decl List.mem_cons_self
        have hvisit := (inheritsFrom_visit hover).1 [] decl memo hdecl hmemo nofun
        obtain ⟨hright, hgrows, hall⟩ :=
          ih (fun d hd => horder d (List.mem_cons_of_mem _ hd)) _ hvisit.right
        refine ⟨hright, hvisit.grows.trans hgrows, List.forall_mem_cons.2 ⟨?_, hall⟩⟩
        exact hgrows _ (isSome_after_inheritsFrom hover hdecl memo)
  obtain ⟨hright, -, hall⟩ := hrun [] nofun
  exact ⟨hright, hall⟩

end BaseTable

namespace SymbolSpace

theorem Built.over {analysis : AnalysisSettings} {files : List OutlinedFile}
    {space : SymbolSpace} (built : Built analysis files space) : space.bases.Over space.types where
  eq_of_name _ ha _ hb h := built.eq_of_qualifiedName_eq ha hb h
  get?_eq decl hdecl := by
    obtain ⟨bases, hget, -⟩ := built.get?_bases hdecl
    rw [BaseTable.basesOf, hget, Option.getD_some]
  base_mem _ hdecl _ hbase := built.mem_types_of_mem_basesOf hdecl hbase

theorem Built.fits_inheritsBase {analysis : AnalysisSettings} {files : List OutlinedFile}
    {space : SymbolSpace} (built : Built analysis files space) {decl : TypeDecl}
    (hdecl : decl ∈ space.types) :
    space.bases.Fits analysis.baseType decl (space.inheritsBase decl) := by
  obtain ⟨hright, hall⟩ := BaseTable.inheritance_right analysis.baseType built.over space.types
    fun _ h => h
  obtain ⟨answer, hanswer⟩ := Option.isSome_iff_exists.1 (hall decl hdecl)
  rw [inheritsBase, built.inheriting_eq, hanswer]
  exact hright decl hdecl answer hanswer

/-- The space with its types visited in an order of one's own. -/
def visitedIn (space : SymbolSpace) (order : List TypeDecl) : SymbolSpace :=
  { space with inheriting := space.bases.inheritance space.analysis.baseType order }

/-- Inheritance is exact: a yes comes with a chain of base lists, and where no circle is reached a
chain makes it a yes, in whatever order the types are visited. -/
theorem inheritsBase_exact {analysis : AnalysisSettings} {files : List OutlinedFile}
    {space : SymbolSpace} (hbuild : build analysis files = .ok space) :
    space.visitedIn space.types = space ∧
      ∀ order : List TypeDecl, order.Perm space.types → ∀ decl ∈ space.types,
        ((space.visitedIn order).inheritsBase decl = true →
          space.bases.Inherits analysis.baseType decl) ∧
        (space.bases.ReachesNoCircle decl → space.bases.Inherits analysis.baseType decl →
          (space.visitedIn order).inheritsBase decl = true) := by
  have built := built_of_build hbuild
  refine ⟨?_, fun order horder decl hdecl => ?_⟩
  · have hsame : space.bases.inheritance space.analysis.baseType space.types =
        space.inheriting := by
      rw [built.inheriting_eq, built.analysis_eq]
    rw [visitedIn, hsame]
  · obtain ⟨hright, hall⟩ := BaseTable.inheritance_right analysis.baseType built.over order
      (fun d hd => horder.mem_iff.1 hd)
    obtain ⟨answer, hanswer⟩ := Option.isSome_iff_exists.1 (hall decl (horder.mem_iff.2 hdecl))
    have hfits := hright decl hdecl answer hanswer
    have hvisited : (space.visitedIn order).inheritsBase decl = answer := by
      simp only [inheritsBase, visitedIn, built.analysis_eq, hanswer, Option.getD_some]
    rw [hvisited]
    exact hfits

/-- A door that is a gate, a gate that is sandboxed, and a circle beside them. -/
def gates : List OutlinedFile :=
  Sketch.outlined
    [Sketch.file "Door.cs" [Sketch.classDecl [] "Door" ["Gate"] []],
      Sketch.file "Gate.cs" [Sketch.classDecl [] "Gate" ["UdonSharpBehaviour"] []],
      Sketch.file "Loop.cs"
        [Sketch.classDecl [] "Left" ["Right"] [], Sketch.classDecl [] "Right" ["Left"] []]]

/-- Visited from the end, behind the circle, the door is still found to inherit. -/
theorem inheritsBase_exact_gates : ∃ space door, build {} gates = .ok space ∧
    door ∈ space.types ∧ door.name = "Door" ∧ space.bases.ReachesNoCircle door ∧
      (space.visitedIn space.types.reverse).inheritsBase door = true := by
  have hrun : ((buildInOrder {} gates).toOption.any fun space =>
      space.types.any fun door => door.name == "Door" &&
        (space.basesOf door).any (BaseTable.namesBase "UdonSharpBehaviour") &&
        (space.basesOf door).all fun gate => (space.basesOf gate).isEmpty) = true := by
    decide
  obtain ⟨space, hbuild, hrun⟩ :=
    exists_build_of_any (by decide) (by decide) hrun
  obtain ⟨door, hdoor, hrun⟩ := List.any_eq_true.1 hrun
  simp only [Bool.and_eq_true, beq_iff_eq, List.any_eq_true, List.all_eq_true,
    List.isEmpty_iff] at hrun
  obtain ⟨⟨hname, gate, hgate, hnames⟩, hends⟩ := hrun
  have hcircle : space.bases.ReachesNoCircle door := by
    refine .of_bases fun base hbase => .of_bases fun next hnext => ?_
    have hmem : next ∈ space.basesOf base := hnext
    rw [hends base hbase] at hmem
    cases hmem
  have hinherits : space.bases.Inherits "UdonSharpBehaviour" door :=
    .of_base hgate (.of_names hnames)
  exact ⟨space, door, hbuild, hdoor, hname, hcircle,
    ((inheritsBase_exact hbuild).2 _ (List.reverse_perm _) door hdoor).2 hcircle hinherits⟩

end SymbolSpace
end SandboxLint
