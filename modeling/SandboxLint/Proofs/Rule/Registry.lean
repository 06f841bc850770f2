import Mathlib.Data.List.Induction
import Mathlib.Data.List.Nodup
import Mathlib.Tactic.Tauto
import SandboxLint.Proofs.Fallible
import SandboxLint.Rule.Registry

/-!
Registries over any history of registrations and clearings. A code is given to the first
rule that asks for it behind the last clearing, unless it is never given; whoever else asks
is refused and changes nothing. Every view of a registry lists these rules and no others,
by increasing code.
-/

namespace SandboxLint

/-- A code that rules may be given. -/
def LintCode.Assignable (code : Int) : Prop :=
  code ∉ reserved ∧ code ∉ retired ∧ code ≠ fileFailure

namespace Registry

variable {registry next : Registry} {rule : Rule} {code : Int}

theorem contains_iff :
    registry.contains code = true ↔ ∃ rule ∈ registry.rules, rule.code = code := by
  simp [contains]

theorem get?_eq_none_iff : registry.get? code = none ↔ ¬ registry.contains code = true := by
  simp [get?, contains_iff]

theorem register_of_taken {holder : Rule} (h : registry.get? rule.code = some holder) :
    registry.register rule = .error (.taken rule.code holder.name) := by
  rw [register, h]

theorem register_of_free (hfree : registry.get? rule.code = none)
    (hcode : LintCode.Assignable rule.code) :
    registry.register rule = .ok { rules := registry.rules ++ [rule] } := by
  obtain ⟨hreserved, hretired, hfailure⟩ := hcode
  simp [register, hfree, hreserved, hretired, hfailure]

theorem register_of_unassignable (hfree : registry.get? rule.code = none)
    (hcode : ¬ LintCode.Assignable rule.code) :
    registry.register rule = .error (.notAssignable rule.code) := by
  have hrefused : (rule.code ∈ LintCode.reserved ∨ rule.code ∈ LintCode.retired) ∨
      rule.code = LintCode.fileFailure := by
    simpa only [LintCode.Assignable, not_and_or, not_not, or_assoc] using hcode
  simp [register, hfree, hrefused]

/-- A rule is taken in behind the others when its code is free and may be given. -/
theorem register_eq_ok_iff : registry.register rule = .ok next ↔
    ¬ registry.contains rule.code = true ∧ LintCode.Assignable rule.code ∧
      next = { rules := registry.rules ++ [rule] } := by
  rw [← get?_eq_none_iff]
  cases hholder : registry.get? rule.code with
  | some holder => simp [register_of_taken hholder]
  | none =>
      by_cases hcode : LintCode.Assignable rule.code
      · simp [register_of_free hholder hcode, hcode, eq_comm]
      · simp [register_of_unassignable hholder hcode, hcode]

theorem register_isError_iff : (∃ error, registry.register rule = .error error) ↔
    registry.contains rule.code = true ∨ ¬ LintCode.Assignable rule.code := by
  cases hnext : registry.register rule with
  | ok next =>
      obtain ⟨hfree, hcode, -⟩ := register_eq_ok_iff.1 hnext
      simp [hfree, hcode]
  | error error =>
      have hrefused := mt register_eq_ok_iff.2 (by simp [hnext] :
        registry.register rule ≠ .ok { rules := registry.rules ++ [rule] })
      simp only [and_true, not_and_or, not_not] at hrefused
      simpa using hrefused

/-- A registry in which every rule was given its code, and no other rule was. -/
structure WellFormed (registry : Registry) : Prop where
  assignable : ∀ rule ∈ registry.rules, LintCode.Assignable rule.code
  nodup : (registry.rules.map (·.code)).Nodup

namespace WellFormed

theorem empty : WellFormed {} :=
  ⟨by simp, List.nodup_nil⟩

theorem register (h : registry.WellFormed) (hnext : registry.register rule = .ok next) :
    next.WellFormed := by
  obtain ⟨hfree, hcode, rfl⟩ := register_eq_ok_iff.1 hnext
  refine ⟨List.forall_mem_append.2 ⟨h.assignable, by simpa using hcode⟩, ?_⟩
  rw [List.map_append, List.nodup_append]
  refine ⟨h.nodup, by simp, ?_⟩
  simpa [contains_iff] using hfree

theorem eq_of_code (h : registry.WellFormed) {a b : Rule} (ha : a ∈ registry.rules)
    (hb : b ∈ registry.rules) (hcode : a.code = b.code) : a = b :=
  List.inj_on_of_nodup_map h.nodup ha hb hcode

theorem get?_eq_some_iff (h : registry.WellFormed) :
    registry.get? code = some rule ↔ rule ∈ registry.rules ∧ rule.code = code := by
  constructor
  · intro hfound
    exact ⟨List.mem_of_find?_eq_some hfound, by simpa using List.find?_some hfound⟩
  · rintro ⟨hrule, rfl⟩
    cases hfound : registry.get? rule.code with
    | none => exact absurd (contains_iff.2 ⟨rule, hrule, rfl⟩) (get?_eq_none_iff.1 hfound)
    | some other =>
        have hcode : other.code = rule.code := by simpa using List.find?_some hfound
        rw [h.eq_of_code (List.mem_of_find?_eq_some hfound) hrule hcode]

/-- All rules stand by increasing code, no two of them with one code. -/
theorem all_ascending (h : registry.WellFormed) :
    registry.all.Pairwise (·.code < ·.code) := by
  have hperm : registry.all.Perm registry.rules := List.mergeSort_perm _ _
  have hsorted : registry.all.Pairwise fun a b => decide (a.code ≤ b.code) = true :=
    List.pairwise_mergeSort (fun a b c => by simpa using Int.le_trans)
      (fun a b => by simpa using Int.le_total a.code b.code) _
  have hdistinct : registry.all.Pairwise (·.code ≠ ·.code) :=
    List.pairwise_map.1 (((hperm.map _).nodup_iff).2 h.nodup)
  refine (hsorted.and hdistinct).imp ?_
  rintro a b ⟨hle, hne⟩
  exact Int.lt_iff_le_and_ne.2 ⟨of_decide_eq_true hle, hne⟩

end WellFormed

theorem mem_all : rule ∈ registry.all ↔ rule ∈ registry.rules :=
  List.mem_mergeSort

section Views

variable {family : RuleFamily} {disabled : List Int}

/-- The rules of a family that are not disabled, as they were registered. -/
def enabled (registry : Registry) (family : RuleFamily) (disabled : List Int) : List Rule :=
  registry.rules.filter fun rule => rule.family == family && !disabled.contains rule.code

theorem ofFamily_perm (registry : Registry) (family : RuleFamily) (disabled : List Int) :
    (registry.ofFamily family disabled).Perm (registry.enabled family disabled) :=
  (List.mergeSort_perm registry.rules _).filter _

/-- Disabling further rules leaves out those of the further codes. -/
theorem ofFamily_append (registry : Registry) (family : RuleFamily) (disabled codes : List Int) :
    registry.ofFamily family (disabled ++ codes) =
      (registry.ofFamily family disabled).filter (!codes.contains ·.code) := by
  rw [ofFamily, ofFamily, List.filter_filter]
  refine List.filter_congr fun rule _ => ?_
  cases hdisabled : disabled.contains rule.code <;> cases hcodes : codes.contains rule.code <;>
    simp_all

theorem mem_of_mem_ofFamily (h : rule ∈ registry.ofFamily family disabled) :
    rule ∈ registry.rules :=
  List.mem_mergeSort.1 (List.mem_filter.1 h).1

theorem family_of_mem_ofFamily (h : rule ∈ registry.ofFamily family disabled) :
    rule.family = family := by
  have hkept := (List.mem_filter.1 h).2
  simp only [Bool.and_eq_true, beq_iff_eq] at hkept
  exact hkept.1

end Views

/-- A registry that rules were registered in. -/
def Registered (registry : Registry) : Prop :=
  ∃ rules, ({} : Registry).registerAll rules = .ok registry

/-- What holds of the empty registry and is kept by registering holds of registered rules. -/
@[elab_as_elim]
theorem Registered.induction {registry : Registry} (h : registry.Registered)
    {P : Registry → Prop} (empty : P {})
    (register : ∀ {start next : Registry} {rule : Rule}, P start →
      start.register rule = .ok next → P next) : P registry := by
  obtain ⟨rules, hrules⟩ := h
  have hfold : ∀ start : Registry, P start → start.registerAll rules = .ok registry →
      P registry := by
    clear hrules
    induction rules with
    | nil =>
        intro start hstart h
        cases h
        exact hstart
    | cons rule rest ih =>
        intro start hstart h
        obtain ⟨next, hnext, hrest⟩ := Fallible.bind_eq_ok.1 h
        exact ih next (register hstart hnext) hrest
  exact hfold {} empty hrules

theorem Registered.wellFormed (h : registry.Registered) : registry.WellFormed :=
  h.induction .empty fun hstart hnext => hstart.register hnext

/-- Registered rules have different codes, none of them that of file failures. -/
theorem Registered.apart (h : registry.Registered) :
    (∀ rule ∈ registry.rules, rule.code ≠ LintCode.fileFailure) ∧
      ∀ a ∈ registry.rules, ∀ b ∈ registry.rules, a.code = b.code → a = b :=
  ⟨fun rule hrule => (h.wellFormed.assignable rule hrule).2.2,
    fun _ ha _ hb hcode => h.wellFormed.eq_of_code ha hb hcode⟩

theorem Registered.ofFamily_ascending (h : registry.Registered) (family : RuleFamily)
    (disabled : List Int) : (registry.ofFamily family disabled).Pairwise (·.code < ·.code) :=
  h.wellFormed.all_ascending.filter _

section History

/-- What is done to a registry. -/
inductive Change where
  | register (rule : Rule)
  | clear

/-- A registry after a change. A rule that is refused changes nothing. -/
def apply (registry : Registry) : Change → Registry
  | .register rule =>
      match registry.register rule with
      | .ok next => next
      | .error _ => registry
  | .clear => {}

def after (changes : List Change) : Registry :=
  changes.foldl apply {}

/-- Some rule asks for the code behind the last clearing. -/
def Asked (changes : List Change) (code : Int) : Prop :=
  ∃ before rule rest, changes = before ++ .register rule :: rest ∧ .clear ∉ rest ∧
    rule.code = code

/-- The rule asks for a code that may be given, behind the last clearing and before all others
that ask for it there. -/
def Present (changes : List Change) (rule : Rule) : Prop :=
  ∃ before rest, changes = before ++ .register rule :: rest ∧ .clear ∉ rest ∧
    LintCode.Assignable rule.code ∧ ¬ Asked before rule.code

variable {changes : List Change}

theorem after_concat (changes : List Change) (change : Change) :
    after (changes ++ [change]) = (after changes).apply change := by
  rw [after, List.foldl_append]
  rfl

/-- A registration among changes is the last of them, or stands before it. -/
theorem concat_eq_iff {before rest : List Change} {change : Change} :
    changes ++ [change] = before ++ .register rule :: rest ↔
      rest = [] ∧ changes = before ∧ change = .register rule ∨
        ∃ rest', rest = rest' ++ [change] ∧ changes = before ++ .register rule :: rest' := by
  cases rest using List.reverseRecOn with
  | nil => simp [List.append_singleton_inj]
  | append_singleton rest last =>
      have hsplit : before ++ .register rule :: (rest ++ [last]) =
          (before ++ .register rule :: rest) ++ [last] := by simp
      rw [hsplit, List.append_singleton_inj]
      simp only [List.append_eq_nil_iff, List.cons_ne_self, and_false, false_and, false_or,
        List.append_singleton_inj]
      grind

theorem not_asked_clear (changes : List Change) (code : Int) :
    ¬ Asked (changes ++ [.clear]) code := by
  rintro ⟨before, rule, rest, hchanges, hclear, -⟩
  obtain ⟨-, -, hchange⟩ | ⟨rest', rfl, -⟩ := concat_eq_iff.1 hchanges
  · cases hchange
  · simp at hclear

theorem Present.asked (h : Present changes rule) : Asked changes rule.code := by
  obtain ⟨before, rest, hchanges, hclear, -⟩ := h
  exact ⟨before, rule, rest, hchanges, hclear, rfl⟩

/-- A rule that was registered behind the last clearing is the last one, or was registered before
the last one, with the same behind it. -/
theorem exists_registered_concat_iff {last : Rule} {P : List Change → Prop} :
    (∃ before rest, changes ++ [.register last] = before ++ .register rule :: rest ∧
      .clear ∉ rest ∧ P before) ↔
    (∃ before rest, changes = before ++ .register rule :: rest ∧ .clear ∉ rest ∧ P before) ∨
      rule = last ∧ P changes := by
  constructor
  · rintro ⟨before, rest, hchanges, hclear, hbefore⟩
    obtain ⟨-, rfl, hchange⟩ | ⟨rest', rfl, rfl⟩ := concat_eq_iff.1 hchanges
    · cases hchange
      exact .inr ⟨rfl, hbefore⟩
    · exact .inl ⟨before, rest', rfl, by simpa using hclear, hbefore⟩
  · rintro (⟨before, rest, rfl, hclear, hbefore⟩ | ⟨rfl, hbefore⟩)
    · exact ⟨before, rest ++ [.register last], by simp, by simpa using hclear, hbefore⟩
    · exact ⟨changes, [], rfl, by simp, hbefore⟩

theorem asked_register_iff {last : Rule} : Asked (changes ++ [.register last]) code ↔
    Asked changes code ∨ last.code = code := by
  rw [Asked, exists_comm]
  simp only [exists_registered_concat_iff, exists_or, exists_eq_left]
  exact or_congr_left exists_comm

theorem present_register_iff {last : Rule} : Present (changes ++ [.register last]) rule ↔
    Present changes rule ∨
      rule = last ∧ LintCode.Assignable last.code ∧ ¬ Asked changes last.code := by
  refine exists_registered_concat_iff.trans (or_congr_right (and_congr_right ?_))
  rintro rfl
  rfl

/-- A registration adds its rule if the code may be given and is free, and nothing else. -/
theorem mem_apply_register_iff {registry : Registry} {last rule : Rule} :
    rule ∈ (registry.apply (.register last)).rules ↔ rule ∈ registry.rules ∨
      rule = last ∧ LintCode.Assignable last.code ∧ ¬ registry.contains last.code = true := by
  by_cases hfree : ¬ registry.contains last.code = true ∧ LintCode.Assignable last.code
  · simp [apply, register_eq_ok_iff.2 ⟨hfree.1, hfree.2, rfl⟩, hfree.1, hfree.2]
  · obtain ⟨error, herror⟩ :=
      register_isError_iff.2 (not_and_or.1 hfree |>.imp not_not.1 id)
    rw [apply, herror]
    exact (or_iff_left fun hadded => hfree ⟨hadded.2.2, hadded.2.1⟩).symm

theorem contains_apply_register_iff {registry : Registry} {last : Rule} {code : Int} :
    (registry.apply (.register last)).contains code = true ↔
      registry.contains code = true ∨ last.code = code ∧ LintCode.Assignable code := by
  simp only [contains_iff, mem_apply_register_iff]
  grind

/-- A history gives its codes to those rules that are first to ask for them. -/
theorem mem_after_iff (changes : List Change) :
    (∀ rule, rule ∈ (after changes).rules ↔ Present changes rule) ∧
      ∀ code, (after changes).contains code = true ↔
        LintCode.Assignable code ∧ Asked changes code := by
  induction changes using List.reverseRecOn with
  | nil => simp [after, Present, Asked, contains]
  | append_singleton changes change ih =>
      obtain ⟨hrules, hcodes⟩ := ih
      rw [after_concat]
      cases change with
      | clear =>
          have hnone : ∀ rule, ¬ Present (changes ++ [.clear]) rule := fun rule hpresent =>
            not_asked_clear changes rule.code hpresent.asked
          simp [apply, hnone, not_asked_clear, contains]
      | register last =>
          refine ⟨fun rule => ?_, fun code => ?_⟩
          · -- a code that may be given is free as long as nobody has asked for it
            rw [mem_apply_register_iff, present_register_iff, hrules, hcodes]
            refine or_congr_right (and_congr_right fun _ => and_congr_right fun hcode => ?_)
            rw [and_iff_right hcode]
          · rw [contains_apply_register_iff, asked_register_iff, hcodes, and_or_left,
              and_comm (a := last.code = code)]

theorem wellFormed_apply (h : registry.WellFormed) (change : Change) :
    (registry.apply change).WellFormed := by
  cases change with
  | clear => exact .empty
  | register rule =>
      rw [apply]
      split
      · next next hnext => exact h.register hnext
      · exact h

theorem wellFormed_after (changes : List Change) : (after changes).WellFormed := by
  induction changes using List.reverseRecOn with
  | nil => exact .empty
  | append_singleton changes change ih =>
      rw [after_concat]
      exact wellFormed_apply ih change

/-- Exactly the rules that are refused leave a registry as it was. -/
theorem apply_register_eq_self_iff : registry.apply (.register rule) = registry ↔
    ∃ error, registry.register rule = .error error := by
  cases hnext : registry.register rule with
  | error error => simp [apply, hnext]
  | ok next =>
      obtain ⟨-, -, rfl⟩ := register_eq_ok_iff.1 hnext
      obtain ⟨rules⟩ := registry
      simp [apply, hnext]

/-- Lists of rules, one for each index, that take a list apart: each keeps the order of the list,
and every rule of the list is in exactly one of them. -/
structure TakesApart {ι : Type} (parts : ι → List Rule) (whole : List Rule) : Prop where
  sublist : ∀ index, (parts index).Sublist whole
  existsUnique : ∀ rule ∈ whole, ∃! index, rule ∈ parts index

theorem takesApart_filter {ι : Type} [DecidableEq ι] (index : Rule → ι) (whole : List Rule) :
    TakesApart (fun i => whole.filter (index · == i)) whole where
  sublist _ := List.filter_sublist
  existsUnique rule hrule := ⟨index rule, by simp [hrule], by simp +contextual⟩

theorem ofFamily_nil (registry : Registry) (family : RuleFamily) :
    registry.ofFamily family [] = registry.all.filter (·.family == family) := by
  simp [ofFamily]

/-- After any history a rule is refused exactly when its code is held or never given, and a refusal
is what changes nothing. All rules are those that came first to their codes, by increasing code;
looking a code up, families and categories show the same rules, and disabling takes out exactly
the codes that are disabled. -/
theorem after_integrity (changes : List Change) :
    (∀ rule,
      ((∃ error, (after changes).register rule = .error error) ↔
        (after changes).contains rule.code = true ∨ rule.code ∈ LintCode.reserved ∨
          rule.code ∈ LintCode.retired ∨ rule.code = 0) ∧
      ((∃ error, (after changes).register rule = .error error) ↔
        after (changes ++ [.register rule]) = after changes)) ∧
    ((after changes).all.Pairwise (·.code < ·.code) ∧
      ∀ rule, rule ∈ (after changes).all ↔ Present changes rule) ∧
    ((∀ code rule, (after changes).get? code = some rule ↔
        rule ∈ (after changes).all ∧ rule.code = code) ∧
      (∀ code, (after changes).contains code = true ↔
        ∃ rule ∈ (after changes).all, rule.code = code) ∧
      (after changes).size = (after changes).all.length) ∧
    TakesApart (fun family => (after changes).ofFamily family []) (after changes).all ∧
    TakesApart (after changes).ofCategory (after changes).all ∧
    ∀ family disabled, (after changes).ofFamily family disabled =
      ((after changes).ofFamily family []).filter fun rule => decide (rule.code ∉ disabled) := by
  have hwell := wellFormed_after changes
  refine ⟨fun rule => ⟨?_, ?_⟩, ⟨hwell.all_ascending, fun rule => ?_⟩,
    ⟨fun code rule => ?_, fun code => ?_, ?_⟩, ?_, takesApart_filter _ _, ?_⟩
  · rw [register_isError_iff, LintCode.Assignable, not_and_or, not_and_or, not_not, not_not,
      not_not]
    rfl
  · rw [after_concat, apply_register_eq_self_iff]
  · rw [mem_all, (mem_after_iff changes).1]
  · rw [mem_all, hwell.get?_eq_some_iff]
  · simp only [mem_all, contains_iff]
  · exact (List.length_mergeSort _).symm
  · simp only [ofFamily_nil]
    exact takesApart_filter _ _
  · intro family disabled
    have hfurther := (after changes).ofFamily_append family [] disabled
    simpa using hfurther

end History

end Registry
end SandboxLint
