import SandboxLint.Proofs.Corpus.Agreement
import SandboxLint.Proofs.Corpus.Inheritance

/-!
Inheritance in base graphs that agree. From a type with a near name the search takes the
same steps in both graphs and leaves answers for types with near names only, so visiting
other types in between, as the longer of two tables makes it do, changes none of the
answers that the shorter one has.
-/

namespace SandboxLint
namespace BaseTable

variable {near away : String → Prop} {table : TypeTable} {a b : BaseTable} {baseType : String}

/-- Memos with the same answers for the types of a table with near names. -/
def MemoAgree (near : String → Prop) (table : TypeTable) (memo memo' : Memo) : Prop :=
  ∀ decl, table.Own near decl →
    memo'.get? decl.qualifiedName = memo.get? decl.qualifiedName

/-- A name that no type with a near name has. -/
def Elsewhere (near : String → Prop) (table : TypeTable) (name : String) : Prop :=
  ∀ decl, table.Own near decl → decl.qualifiedName ≠ name

/-- What a search from a memo gives in two graphs: the same answer, memos that agree, and nothing
new elsewhere. -/
structure Lockstep (near : String → Prop) (table : TypeTable) (memo : Memo)
    (found found' : Bool × Memo) : Prop where
  answer : found'.1 = found.1
  memos : MemoAgree near table found.2 found'.2
  frame : ∀ name, Elsewhere near table name → found.2.get? name = memo.get? name

theorem MemoAgree.put {memo memo' : Memo} (h : MemoAgree near table memo memo') (name : String)
    (answer : Bool) : MemoAgree near table (memo.put name answer) (memo'.put name answer) := by
  intro decl hdecl
  by_cases hname : decl.qualifiedName = name
  · rw [hname, Assoc.get?_put_self, Assoc.get?_put_self]
  · rw [Assoc.get?_put_of_ne _ _ hname, Assoc.get?_put_of_ne _ _ hname, h decl hdecl]

theorem Lockstep.put {memo : Memo} {found found' : Bool × Memo}
    (h : Lockstep near table memo found found') {decl : TypeDecl} (hdecl : table.Own near decl) :
    Lockstep near table memo (found.1, found.2.put decl.qualifiedName found.1)
      (found'.1, found'.2.put decl.qualifiedName found'.1) where
  answer := h.answer
  memos := by
    rw [h.answer]
    exact h.memos.put _ _
  frame name hname := by
    rw [Assoc.get?_put_of_ne _ _ (hname decl hdecl).symm]
    exact h.frame name hname

/-- The search takes the same steps in both graphs. The induction follows the two functions in the
first graph; the types that come up all have near names. -/
theorem inheritsFrom_lockstep (hagree : Agree near table a b) :
    (∀ visiting decl memo, table.Own near decl → ∀ memo', MemoAgree near table memo memo' →
      Lockstep near table memo (a.inheritsFrom baseType visiting decl memo)
        (b.inheritsFrom baseType visiting decl memo')) ∧
    ∀ visiting decls memo, (∀ decl ∈ decls, table.Own near decl) →
      ∀ memo', MemoAgree near table memo memo' →
        Lockstep near table memo (a.anyInheritsFrom baseType visiting decls memo)
          (b.anyInheritsFrom baseType visiting decls memo') := by
  apply inheritsFrom.mutual_induct a baseType
    (fun visiting decl memo => table.Own near decl → ∀ memo', MemoAgree near table memo memo' →
      Lockstep near table memo (a.inheritsFrom baseType visiting decl memo)
        (b.inheritsFrom baseType visiting decl memo'))
    (fun visiting decls memo => (∀ decl ∈ decls, table.Own near decl) →
      ∀ memo', MemoAgree near table memo memo' →
        Lockstep near table memo (a.anyInheritsFrom baseType visiting decls memo)
          (b.anyInheritsFrom baseType visiting decls memo'))
  case case1 =>
    intro visiting decl memo answer hknown hdecl memo' hmemo
    have hknown' := (hmemo decl hdecl).trans hknown
    rw [inheritsFrom_known hknown, inheritsFrom_known hknown']
    exact ⟨rfl, hmemo, fun _ _ => rfl⟩
  case case2 =>
    intro visiting decl memo hnone hseen hdecl memo' hmemo
    have hnone' := (hmemo decl hdecl).trans hnone
    rw [inheritsFrom_visiting hnone hseen, inheritsFrom_visiting hnone' hseen]
    exact ⟨rfl, hmemo, fun _ _ => rfl⟩
  case case3 =>
    intro visiting decl memo hnone hseen _ _ _ ih hdecl memo' hmemo
    have hnone' := (hmemo decl hdecl).trans hnone
    obtain ⟨more, ha, hb, hmore⟩ := hagree decl hdecl
    rw [inheritsFrom_of_get? ha hnone hseen, inheritsFrom_of_get? hb hnone' hseen]
    refine Lockstep.put ?_ hdecl
    split
    · exact ⟨rfl, hmemo, fun _ _ => rfl⟩
    · exact ih more ha hmore memo' hmemo
  case case4 =>
    intro visiting memo _ memo' hmemo
    rw [anyInheritsFrom, anyInheritsFrom]
    exact ⟨rfl, hmemo, fun _ _ => rfl⟩
  case case5 =>
    intro visiting memo decl rest after hfound ih hdecls memo' hmemo
    have hstep := ih (hdecls decl List.mem_cons_self) memo' hmemo
    rw [anyInheritsFrom_cons, anyInheritsFrom_cons]
    simp only [hstep.answer]
    rw [hfound] at hstep ⊢
    exact ⟨rfl, hstep.memos, hstep.frame⟩
  case case6 =>
    intro visiting memo decl rest after hfound ih ihrest hdecls memo' hmemo
    obtain ⟨hdecl, hrest⟩ := List.forall_mem_cons.1 hdecls
    have hstep := ih hdecl memo' hmemo
    rw [anyInheritsFrom_cons, anyInheritsFrom_cons]
    simp only [hstep.answer]
    rw [hfound] at hstep ⊢
    have hlater := ihrest hrest _ hstep.memos
    exact ⟨hlater.answer, hlater.memos,
      fun name hname => (hlater.frame name hname).trans (hstep.frame name hname)⟩

/-- Visiting a type with a near name in both graphs keeps memos in agreement. -/
theorem MemoAgree.visit (hagree : Agree near table a b) {decl : TypeDecl}
    (hdecl : table.Own near decl) {memo memo' : Memo} (h : MemoAgree near table memo memo') :
    MemoAgree near table (a.inheritsFrom baseType [] decl memo).2
      (b.inheritsFrom baseType [] decl memo').2 :=
  ((inheritsFrom_lockstep hagree).1 [] decl memo hdecl memo' h).memos

/-- Visiting a type of another kind of names in one graph keeps memos in agreement. -/
theorem MemoAgree.visit_away (haway : Agree away table a a) {decl : TypeDecl}
    (hdecl : table.Own away decl)
    (hapart : ∀ own, table.Own near own → Elsewhere away table own.qualifiedName)
    {memo memo' : Memo} (h : MemoAgree near table memo memo') :
    MemoAgree near table (a.inheritsFrom baseType [] decl memo).2 memo' := by
  intro own hown
  -- a search in one graph is in lockstep with itself, which says what it leaves alone
  have hself : MemoAgree away table memo memo := fun _ _ => rfl
  have hstep : Lockstep away table memo (a.inheritsFrom baseType [] decl memo) _ :=
    (inheritsFrom_lockstep haway).1 [] decl memo hdecl memo hself
  rw [hstep.frame own.qualifiedName (hapart own hown), h own hown]

/-- The answers for types with near names are those of the graph in which only these types are
visited. -/
theorem inheritance_agree (hagree : Agree near table a b) (haway : Agree away table a a)
    (hapart : ∀ own, table.Own near own → Elsewhere away table own.qualifiedName)
    {keep : TypeDecl → Bool}
    (hsides : ∀ decl ∈ table, if keep decl then near decl.name else away decl.name) :
    MemoAgree near table (a.inheritance baseType table)
      (b.inheritance baseType (table.filter keep)) := by
  have hrun : ∀ order : List TypeDecl, (∀ decl ∈ order, decl ∈ table) → ∀ memo memo',
      MemoAgree near table memo memo' →
        MemoAgree near table
          (order.foldl (fun memo decl => (a.inheritsFrom baseType [] decl memo).2) memo)
          ((order.filter keep).foldl
            (fun memo decl => (b.inheritsFrom baseType [] decl memo).2) memo') := by
    intro order
    induction order with
    | nil => exact fun _ _ _ hmemo => hmemo
    | cons decl rest ih =>
        intro horder memo memo' hmemo
        obtain ⟨hdecl, hrest⟩ := List.forall_mem_cons.1 horder
        have hside := hsides decl hdecl
        rw [List.foldl_cons, List.filter_cons]
        split at hside
        · next hkeep =>
            rw [if_pos hkeep, List.foldl_cons]
            exact ih hrest _ _ (hmemo.visit hagree ⟨hdecl, hside⟩)
        · next hkeep =>
            rw [if_neg hkeep]
            exact ih hrest _ _ (hmemo.visit_away haway ⟨hdecl, hside⟩ hapart)
  exact hrun table (fun _ h => h) [] [] fun _ _ => rfl

end BaseTable
end SandboxLint
