import SandboxLint.Corpus.TypeTable

/-!
The base graph of a corpus: for every type the corpus types in its base list. Both
searches over it, the chain of a type and inheritance from the sandboxed base,
end because every step that goes on takes one key of the table out of the
keys not yet seen.
-/

namespace SandboxLint

/-- For each qualified name the types in its base list. -/
abbrev BaseTable := Assoc String (List TypeDecl)

namespace BaseTable

def basesOf (bases : BaseTable) (decl : TypeDecl) : List TypeDecl :=
  (bases.get? decl.qualifiedName).getD []

/-- The keys that are not among the names seen. -/
def unseen (bases : BaseTable) (seen : List String) : List String :=
  (Assoc.keys bases).filter (!seen.contains ·)

theorem unseen_cons (bases : BaseTable) (seen : List String) (name : String) :
    unseen bases (name :: seen) = (unseen bases seen).filter (· != name) := by
  simp only [unseen, List.filter_filter]
  apply List.filter_congr
  intro key _
  by_cases h : key = name <;> simp [h]

theorem unseen_cons_length_le (bases : BaseTable) (seen : List String) (name : String) :
    (unseen bases (name :: seen)).length ≤ (unseen bases seen).length := by
  rw [unseen_cons]
  exact List.length_filter_le _ _

theorem mem_keys_of_get? {bases : BaseTable} {name : String} {decls : List TypeDecl}
    (h : bases.get? name = some decls) : name ∈ Assoc.keys bases := by
  have hsome : (List.lookup name bases).isSome = true := by
    rw [show List.lookup name bases = some decls from h]
    rfl
  obtain ⟨pair, hmem, hkey⟩ := List.lookup_isSome_iff.1 hsome
  rw [beq_iff_eq.1 hkey]
  exact List.mem_map_of_mem hmem

theorem unseen_cons_length_lt {bases : BaseTable} {seen : List String} {name : String}
    {decls : List TypeDecl} (hkey : bases.get? name = some decls)
    (hnew : ¬ seen.contains name = true) :
    (unseen bases (name :: seen)).length < (unseen bases seen).length := by
  rw [unseen_cons]
  refine List.length_filter_lt_length_iff_exists.2 ⟨name, ?_, by simp⟩
  have hmem : name ∈ Assoc.keys bases := mem_keys_of_get? hkey
  simp only [unseen, List.mem_filter]
  exact ⟨hmem, by simpa using hnew⟩

/-- The types reached from those that are pending, nearer ones first, each name once. -/
def chainFrom (bases : BaseTable) (seen : List String) (pending : List TypeDecl) :
    List TypeDecl :=
  match pending with
  | [] => []
  | decl :: rest =>
      if _hseen : seen.contains decl.qualifiedName then chainFrom bases seen rest
      else
        match _hbases : bases.get? decl.qualifiedName with
        | none => decl :: chainFrom bases (decl.qualifiedName :: seen) rest
        | some more => decl :: chainFrom bases (decl.qualifiedName :: seen) (rest ++ more)
termination_by ((unseen bases seen).length, pending.length)
decreasing_by
  · exact Prod.Lex.right _ (by simp)
  · rcases Nat.lt_or_eq_of_le (unseen_cons_length_le bases seen decl.qualifiedName) with h | h
    · exact Prod.Lex.left _ _ h
    · rw [h]
      exact Prod.Lex.right _ (by simp)
  · exact Prod.Lex.left _ _ (unseen_cons_length_lt _hbases _hseen)

/-- A type and the types it reaches through base lists, breadth first. -/
def chain (bases : BaseTable) (decl : TypeDecl) : List TypeDecl :=
  bases.chainFrom [] [decl]

/-- The nearest declaration of a field or property, with the type that declares it. -/
def findField (bases : BaseTable) (decl : TypeDecl) (name : String) :
    Option (TypeDecl × FieldDecl) :=
  (bases.chain decl).findSome? fun owner => (owner.fields.get? name).map (owner, ·)

/-- The methods of a name on the nearest type that declares any. -/
def findMethods (bases : BaseTable) (decl : TypeDecl) (name : String) :
    Option (TypeDecl × List MethodDecl) :=
  (bases.chain decl).findSome? fun owner => (owner.methods.get? name).map (owner, ·)

/-- Answers found so far to whether a type inherits the sandboxed base. -/
abbrev Memo := Assoc String Bool

/-- Whether a base list names the sandboxed base itself. -/
def namesBase (baseType : String) (decl : TypeDecl) : Bool :=
  decl.baseNames.any fun base => TypeName.simple base == baseType

mutual

/-- Whether a type inherits the sandboxed base, with the answers found on the way. -/
def inheritsFrom (bases : BaseTable) (baseType : String) (visiting : List String)
    (decl : TypeDecl) (memo : Memo) : Bool × Memo :=
  match memo.get? decl.qualifiedName with
  | some answer => (answer, memo)
  | none =>
      -- a type met again while it is being visited gets no answer of its own
      if _hseen : visiting.contains decl.qualifiedName then (false, memo)
      else
        let (answer, memo) :=
          if namesBase baseType decl then (true, memo)
          else
            match _hbases : bases.get? decl.qualifiedName with
            | none => (false, memo)
            | some more =>
                anyInheritsFrom bases baseType (decl.qualifiedName :: visiting) more memo
        -- kept also where the answer hangs on a type that is still being visited
        (answer, memo.put decl.qualifiedName answer)
termination_by ((unseen bases visiting).length, 0)
decreasing_by exact Prod.Lex.left _ _ (unseen_cons_length_lt _hbases _hseen)

/-- Whether one of several types inherits the sandboxed base; the first that does ends the
search. -/
def anyInheritsFrom (bases : BaseTable) (baseType : String) (visiting : List String)
    (decls : List TypeDecl) (memo : Memo) : Bool × Memo :=
  match decls with
  | [] => (false, memo)
  | decl :: rest =>
      match inheritsFrom bases baseType visiting decl memo with
      | (true, memo) => (true, memo)
      | (false, memo) => anyInheritsFrom bases baseType visiting rest memo
termination_by ((unseen bases visiting).length, decls.length)

end

/-- The answers for all types of a table, found in the table's order. -/
def inheritance (bases : BaseTable) (baseType : String) (table : TypeTable) : Memo :=
  table.foldl (fun memo decl => (inheritsFrom bases baseType [] decl memo).2) []

end BaseTable
end SandboxLint
