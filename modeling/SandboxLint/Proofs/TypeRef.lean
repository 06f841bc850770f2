import SandboxLint.Proofs.Text.Split
import SandboxLint.TypeRef

/-!
Names in type texts. Reading a type text only cuts: it takes blanks, brackets,
arguments and qualifiers away from one end or the other, so the simple name that is
left stands in the text as a run of neighbours.
-/

namespace SandboxLint
namespace TypeName

theorem simpleChars_isInfix (cs : List Char) : simpleChars cs <:+: cs := by
  have hhead : Text.beforeFirst '<' (Text.trim cs) <:+: cs :=
    (List.takeWhile_prefix _).isInfix.trans (Text.trim_isInfix cs)
  have hscope : Text.dropEndWhile isTrailer (Text.afterScope (Text.beforeFirst '<' (Text.trim cs)))
      <:+: cs :=
    (Text.dropEndWhile_isPrefix _ _).isInfix.trans ((Text.afterScope_suffix _).isInfix.trans hhead)
  refine (Text.trim_isInfix _).trans ((Text.afterLast_suffix '.' _).isInfix.trans ?_)
  exact (List.takeWhile_prefix _).isInfix.trans hscope

end TypeName

namespace TypeRef

theorem withoutGroup_suffix (rev : List Char) : withoutGroup rev <:+ rev :=
  (List.dropWhile_suffix _).trans ((List.drop_suffix 1 _).trans (List.dropWhile_suffix _))

theorem peelGroups_suffix (rev : List Char) (rank : Nat) : (peelGroups rev rank).1 <:+ rev := by
  fun_induction peelGroups rev rank with
  | case1 rev rank _ ih => exact ih.trans (withoutGroup_suffix rev)
  | case2 rev rank _ => exact List.suffix_refl rev

theorem core_isInfix (cs : List Char) : core cs <:+: cs :=
  (Text.trim_isInfix _).trans
    ((Text.dropEndWhile_isPrefix _ _).isInfix.trans (Text.trim_isInfix cs))

/-- The name of a reference stands in the text that it was read from. -/
theorem name_isInfix_of_parse {text : String} {ref : TypeRef} (h : parse text = some ref) :
    ref.name.toList <:+: text.toList := by
  simp only [parse, parseChars] at h
  split at h
  · cases h
  · split at h
    · cases h
    · have hpeeled : (peelGroups (core text.toList).reverse 0).1.reverse <:+: text.toList := by
        have hprefix := List.reverse_prefix.2 (peelGroups_suffix (core text.toList).reverse 0)
        rw [List.reverse_reverse] at hprefix
        exact hprefix.isInfix.trans (core_isInfix _)
      rw [← Option.some.inj h, String.toList_ofList]
      refine (TypeName.simpleChars_isInfix _).trans ((Text.afterScope_suffix _).isInfix.trans ?_)
      exact (List.takeWhile_prefix _).isInfix.trans hpeeled

end TypeRef
end SandboxLint
