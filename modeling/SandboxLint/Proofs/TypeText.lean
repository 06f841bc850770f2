import Mathlib.Data.List.Induction
import SandboxLint.Proofs.Text.Split
import SandboxLint.TypeRef

/-!
The written forms of types. A type text is a name behind the names around it, with
arguments in angle brackets, marks of nullability and bracket groups behind it. The
reader of references cuts groups and marks off before it looks for the name, the
reader of simple names cuts at the arguments first; on type texts they find the same
name. Arguments are arbitrary: whatever structure they have is cut off with them.
-/

namespace SandboxLint
namespace NamePart

/-- The characters that give a type text its shape. -/
def shaping : List Char := ['<', '>', '[', ']', '?', ',', '.', ':']

/-- Whether a character can stand in a name of a type text. -/
def isPlain (c : Char) : Bool :=
  !Text.isBlank c && !shaping.contains c

end NamePart

/-- A name inside a type text. -/
structure NamePart where
  chars : List Char
  nonempty : chars ≠ []
  plain : ∀ c ∈ chars, NamePart.isPlain c = true

namespace NamePart

def text (part : NamePart) : String :=
  .ofList part.chars

theorem ne_of_isPlain {c d : Char} (hc : isPlain c = true) (hd : isPlain d = false) : c ≠ d := by
  rintro rfl
  cases hc.symm.trans hd

theorem notMem_chars (part : NamePart) {d : Char} (hd : isPlain d = false) : d ∉ part.chars :=
  fun hmem => ne_of_isPlain (part.plain d hmem) hd rfl

/-- No character of a name belongs to a class. -/
def Foreign (p : Char → Bool) : Prop :=
  ∀ c, isPlain c = true → p c = false

theorem foreign_blank : Foreign Text.isBlank := by
  intro c hc
  rw [isPlain, Bool.and_eq_true, Bool.not_eq_true'] at hc
  exact hc.1

theorem foreign_eq {d : Char} (hd : isPlain d = false) : Foreign (· == d) :=
  fun _ hc => beq_eq_false_iff_ne.2 (ne_of_isPlain hc hd)

theorem foreign_trailer : Foreign TypeName.isTrailer := by
  intro c hc
  have hne : ∀ d : Char, isPlain d = false → (c == d) = false := fun _ hd => foreign_eq hd c hc
  rw [TypeName.isTrailer, hne '[' (by decide), hne ']' (by decide), hne '?' (by decide),
    hne ',' (by decide), hne ' ' (by decide)]
  rfl

theorem endsOutside (part : NamePart) {p : Char → Bool} (h : Foreign p) :
    Text.EndsOutside p part.chars := by
  obtain ⟨front, c, hchars⟩ := (List.eq_nil_or_concat' part.chars).resolve_left part.nonempty
  exact ⟨front, c, hchars, h c (part.plain c (by simp [hchars]))⟩

theorem trimmed (part : NamePart) : Text.Trimmed part.chars := by
  obtain ⟨c, rest, hchars⟩ := List.exists_cons_of_ne_nil part.nonempty
  have hc := foreign_blank c (part.plain c (by simp [hchars]))
  exact ⟨⟨c, rest, hchars, hc⟩, part.endsOutside foreign_blank⟩

end NamePart

/-- Blank characters. -/
abbrev Blanks := { cs : List Char // ∀ c ∈ cs, Text.isBlank c = true }

instance : Inhabited Blanks := ⟨⟨[], fun _ hc => nomatch hc⟩⟩

/-- A written type: the name in front of `::`, the names around its own and its own, what stands
between angle brackets, a mark of nullability, bracket groups with so many commas each, another
mark, and blanks at both ends. -/
structure TypeText where
  before : Blanks := default
  scope : Option NamePart := none
  around : List NamePart := []
  name : NamePart
  arguments : Option (List Char) := none
  nullable : Bool := false
  groups : List Nat := []
  nullableArray : Bool := false
  after : Blanks := default

namespace TypeText

def scopeChars : Option NamePart → List Char
  | none => []
  | some part => part.chars ++ [':', ':']

def argumentChars : Option (List Char) → List Char
  | none => []
  | some cs => '<' :: (cs ++ ['>'])

def markChars (nullable : Bool) : List Char :=
  if nullable then ['?'] else []

def groupChars (commas : Nat) : List Char :=
  '[' :: (List.replicate commas ',' ++ [']'])

/-- The names around the type's own, each with a dot behind it, and its own. -/
def path (type : TypeText) : List Char :=
  type.around.flatMap (fun part => part.chars ++ ['.']) ++ type.name.chars

/-- Everything up to the arguments. -/
def head (type : TypeText) : List Char :=
  scopeChars type.scope ++ (type.path ++ argumentChars type.arguments)

/-- Everything behind the arguments. -/
def tail (type : TypeText) : List Char :=
  markChars type.nullable ++ (type.groups.flatMap groupChars ++ markChars type.nullableArray)

/-- The type as it is written. -/
def text (type : TypeText) : String :=
  .ofList (type.before.1 ++ (type.head ++ type.tail) ++ type.after.1)

/-- What can stand behind the arguments is made of these. -/
def IsTail (cs : List Char) : Prop :=
  ∀ c ∈ cs, c ∈ ['?', '[', ',', ']']

theorem IsTail.append {cs more : List Char} (h : IsTail cs) (hmore : IsTail more) :
    IsTail (cs ++ more) :=
  List.forall_mem_append.2 ⟨h, hmore⟩

theorem IsTail.notMem {cs : List Char} (h : IsTail cs) {d : Char} (hd : d ∉ ['?', '[', ',', ']']) :
    d ∉ cs :=
  fun hmem => hd (h d hmem)

theorem IsTail.trailer {cs : List Char} (h : IsTail cs) :
    ∀ c ∈ cs, TypeName.isTrailer c = true := by
  have hall : ∀ c ∈ ['?', '[', ',', ']'], TypeName.isTrailer c = true := by
    simp [TypeName.isTrailer]
  exact fun c hc => hall c (h c hc)

theorem isTail_nil : IsTail [] :=
  fun _ hc => nomatch hc

theorem isTail_marks (nullable : Bool) : IsTail (markChars nullable) := by
  cases nullable <;> simp [IsTail, markChars]

theorem isTail_groups (groups : List Nat) : IsTail (groups.flatMap groupChars) := by
  intro c hc
  obtain ⟨commas, -, hc⟩ := List.mem_flatMap.1 hc
  simp only [groupChars, List.mem_cons, List.mem_append, List.mem_replicate, List.not_mem_nil,
    or_false] at hc ⊢
  tauto

theorem isTail_tail (type : TypeText) : IsTail type.tail :=
  (isTail_marks _).append ((isTail_groups _).append (isTail_marks _))

section Ends

variable {type : TypeText} {p : Char → Bool}

theorem endsOutside_path (h : NamePart.Foreign p) : Text.EndsOutside p type.path :=
  (type.name.endsOutside h).append _

theorem endsOutside_head (h : NamePart.Foreign p) (hangle : p '>' = false) :
    Text.EndsOutside p type.head := by
  apply Text.EndsOutside.append
  apply (endsOutside_path h).add
  cases type.arguments with
  | none => exact .inl rfl
  | some cs => exact .inr ⟨'<' :: cs, '>', rfl, hangle⟩

theorem endsOutside_marks (nullable : Bool) (hmark : p '?' = false) :
    markChars nullable = [] ∨ Text.EndsOutside p (markChars nullable) := by
  cases nullable
  · exact .inl rfl
  · exact .inr ⟨[], '?', rfl, hmark⟩

theorem endsOutside_groups (groups : List Nat) (hclose : p ']' = false) :
    groups.flatMap groupChars = [] ∨ Text.EndsOutside p (groups.flatMap groupChars) := by
  cases groups using List.reverseRecOn with
  | nil => exact .inl rfl
  | append_singleton groups commas =>
      refine .inr ⟨groups.flatMap groupChars ++ '[' :: List.replicate commas ',', ']', ?_, hclose⟩
      simp [groupChars]

theorem exists_head : ∃ c rest, type.head = c :: rest ∧ Text.isBlank c = false := by
  -- The first name is that of the scope, or the first one around, or the type's own.
  obtain ⟨part, rest, hhead⟩ : ∃ (part : NamePart) (rest : List Char),
      type.head = part.chars ++ rest := by
    rw [head, path]
    cases type.scope with
    | some part => exact ⟨part, _, List.append_assoc ..⟩
    | none =>
        cases type.around with
        | nil => exact ⟨type.name, _, rfl⟩
        | cons part more =>
            rw [scopeChars, List.nil_append, List.flatMap_cons, List.append_assoc,
              List.append_assoc, List.append_assoc]
            exact ⟨part, _, rfl⟩
  obtain ⟨⟨c, more, hchars, hc⟩, -⟩ := part.trimmed
  exact ⟨c, more ++ rest, by rw [hhead, hchars, List.cons_append], hc⟩

theorem trimmed_of_head {cs : List Char} (h : cs = [] ∨ Text.EndsOutside Text.isBlank cs) :
    Text.Trimmed (type.head ++ cs) := by
  obtain ⟨c, rest, hhead, hc⟩ := type.exists_head
  refine ⟨⟨c, rest ++ cs, by rw [hhead, List.cons_append], hc⟩, ?_⟩
  exact (endsOutside_head NamePart.foreign_blank (by decide)).add h

theorem endsOutside_of_or {cs more : List Char} (h : cs = [] ∨ Text.EndsOutside p cs)
    (hmore : more = [] ∨ Text.EndsOutside p more) :
    cs ++ more = [] ∨ Text.EndsOutside p (cs ++ more) := by
  obtain rfl | h := h
  · exact hmore
  · exact .inr (h.add hmore)

/-- The blanks around a written type are what is trimmed off it. -/
theorem trim_text : Text.trim type.text.toList = type.head ++ type.tail := by
  have htail : type.tail = [] ∨ Text.EndsOutside Text.isBlank type.tail :=
    endsOutside_of_or (endsOutside_marks _ (by decide))
      (endsOutside_of_or (endsOutside_groups _ (by decide)) (endsOutside_marks _ (by decide)))
  rw [text, String.toList_ofList]
  exact (trimmed_of_head htail).trim_blanks type.before.2 type.after.2

end Ends

section Names

variable {type : TypeText}

theorem notMem_path {d : Char} (hplain : NamePart.isPlain d = false) (hdot : d ≠ '.') :
    d ∉ type.path := by
  intro hmem
  rcases List.mem_append.1 hmem with haround | hname
  · obtain ⟨part, -, hpart⟩ := List.mem_flatMap.1 haround
    rcases List.mem_append.1 hpart with hchars | hend
    · exact part.notMem_chars hplain hchars
    · exact hdot (List.mem_singleton.1 hend)
  · exact type.name.notMem_chars hplain hname

theorem notMem_path_append {cs : List Char} (hcs : IsTail cs) {d : Char}
    (hplain : NamePart.isPlain d = false) (hdot : d ≠ '.') (htail : d ∉ ['?', '[', ',', ']']) :
    d ∉ type.path ++ cs := by
  rw [List.mem_append, not_or]
  exact ⟨notMem_path hplain hdot, hcs.notMem htail⟩

/-- Cutting at the first angle bracket and behind the double colon leaves the path, and without
arguments what stands behind it. -/
theorem afterScope_beforeFirst_head {cs : List Char} (hcs : IsTail cs) :
    Text.afterScope (Text.beforeFirst '<' (type.head ++ cs)) =
      type.path ++ if type.arguments.isSome then [] else cs := by
  have hkept : IsTail (if type.arguments.isSome then [] else cs) := by
    split
    · exact isTail_nil
    · exact hcs
  have hangle : Text.beforeFirst '<' (argumentChars type.arguments ++ cs) =
      if type.arguments.isSome then [] else cs := by
    cases type.arguments with
    | none => exact Text.beforeFirst_of_notMem (hcs.notMem (by decide))
    | some arguments => rfl
  have hscope : '<' ∉ scopeChars type.scope := by
    cases type.scope with
    | none => exact List.not_mem_nil
    | some part => simpa [scopeChars] using part.notMem_chars (by decide)
  have hpath : '<' ∉ type.path := notMem_path (by decide) (by decide)
  have hcolon : ':' ∉ type.path ++ if type.arguments.isSome then [] else cs :=
    notMem_path_append hkept (by decide) (by decide) (by decide)
  rw [head, List.append_assoc, List.append_assoc, Text.beforeFirst_append_of_notMem hscope,
    Text.beforeFirst_append_of_notMem hpath, hangle]
  cases type.scope with
  | none => exact Text.afterScope_of_notMem hcolon
  | some part =>
      rw [scopeChars, List.append_assoc]
      exact (Text.afterScope_append _ (part.notMem_chars (by decide))).trans
        (Text.afterScope_of_notMem hcolon)

/-- Names with a dot behind each are the names joined by dots, and a last dot. -/
theorem flatMap_dotted {parts : List NamePart} (h : parts ≠ []) :
    parts.flatMap (fun part => part.chars ++ ['.']) =
      ['.'].intercalate (parts.map (·.chars)) ++ ['.'] := by
  induction parts with
  | nil => exact absurd rfl h
  | cons part parts ih =>
      cases parts with
      | nil => simp
      | cons next parts =>
          rw [List.flatMap_cons, ih (by simp)]
          simp [List.intercalate_cons_cons]

theorem beforeLast_path {cs : List Char} (hcs : IsTail cs) :
    Text.beforeLast '.' (type.path ++ cs) = ['.'].intercalate (type.around.map (·.chars)) := by
  have hname : '.' ∉ type.name.chars ++ cs := by
    rw [List.mem_append, not_or]
    exact ⟨type.name.notMem_chars (by decide), hcs.notMem (by decide)⟩
  by_cases haround : type.around = []
  · rw [path, haround]
    exact Text.beforeLast_of_notMem hname
  · rw [path, flatMap_dotted haround, List.append_assoc, List.append_assoc]
    exact Text.beforeLast_append _ hname

theorem afterLast_path : Text.afterLast '.' type.path = type.name.chars := by
  have hname : '.' ∉ type.name.chars := type.name.notMem_chars (by decide)
  by_cases haround : type.around = []
  · rw [path, haround]
    exact Text.afterLast_of_notMem hname
  · rw [path, flatMap_dotted haround, List.append_assoc]
    exact Text.afterLast_append _ hname

/-- What trails a path is cut off to reach the last name. -/
theorem lastName_path {cs : List Char} (hcs : IsTail cs) :
    Text.trim (Text.afterLast '.' (Text.beforeFirst '['
      (Text.dropEndWhile TypeName.isTrailer (type.path ++ cs)))) = type.name.chars := by
  have hopen : '[' ∉ type.path := notMem_path (by decide) (by decide)
  rw [(endsOutside_path NamePart.foreign_trailer).dropEndWhile_append hcs.trailer,
    Text.beforeFirst_of_notMem hopen, afterLast_path, type.name.trimmed.trim_eq]

/-- The simple name in a written type is its own name. -/
theorem simpleChars_text (type : TypeText) :
    TypeName.simpleChars type.text.toList = type.name.chars := by
  rw [TypeName.simpleChars, trim_text, afterScope_beforeFirst_head type.isTail_tail]
  apply lastName_path
  split
  · exact isTail_nil
  · exact type.isTail_tail

end Names

section Stem

variable {type : TypeText}

/-- The mark of nullability that stands in front of bracket groups. -/
def elementMark (type : TypeText) : List Char :=
  if type.groups = [] then [] else markChars type.nullable

theorem isTail_elementMark : IsTail type.elementMark := by
  rw [elementMark]
  split
  · exact isTail_nil
  · exact isTail_marks _

theorem endsOutside_elementMark {p : Char → Bool} (hmark : p '?' = false) :
    type.elementMark = [] ∨ Text.EndsOutside p type.elementMark := by
  rw [elementMark]
  split
  · exact .inl rfl
  · exact endsOutside_marks _ hmark

/-- Cutting blanks and marks of nullability off the end of a written type leaves its bracket groups
with what stands in front of them. -/
theorem core_text : TypeRef.core type.text.toList =
    type.head ++ type.elementMark ++ type.groups.flatMap groupChars := by
  have hmarks : ∀ nullable, ∀ c ∈ markChars nullable, (c == '?') = true := by
    rintro (_ | _) <;> simp [markChars]
  have hcut : Text.dropEndWhile (· == '?') (type.head ++ type.tail) =
      type.head ++ (type.elementMark ++ type.groups.flatMap groupChars) := by
    rw [tail, elementMark]
    cases hgroups : type.groups with
    | nil =>
        -- With no brackets both question marks stand at the end and fall together.
        have hhead : Text.EndsOutside (· == '?') type.head :=
          endsOutside_head (NamePart.foreign_eq (by decide)) (by decide)
        have hboth : ∀ c ∈ markChars type.nullable ++ markChars type.nullableArray,
            (c == '?') = true := List.forall_mem_append.2 ⟨hmarks _, hmarks _⟩
        simpa using hhead.dropEndWhile_append hboth
    | cons commas more =>
        have hends : Text.EndsOutside (· == '?') ((commas :: more).flatMap groupChars) :=
          (endsOutside_groups (commas :: more) (by decide)).resolve_left (by simp [groupChars])
        rw [← List.append_assoc, ← List.append_assoc,
          (hends.append _).dropEndWhile_append (hmarks _), if_neg (by simp), List.append_assoc]
  rw [TypeRef.core, trim_text, hcut, List.append_assoc]
  exact (trimmed_of_head (endsOutside_of_or (endsOutside_elementMark (by decide))
    (endsOutside_groups _ (by decide)))).trim_eq

end Stem

end TypeText

namespace TypeRef

/-- Peeling takes a bracket group off the end of a text. -/
theorem peelGroups_group {cs : List Char} (h : Text.EndsOutside Text.isBlank cs)
    (commas rank : Nat) :
    peelGroups (cs ++ TypeText.groupChars commas).reverse rank =
      peelGroups cs.reverse (rank + 1) := by
  have hreverse : (cs ++ TypeText.groupChars commas).reverse =
      (']' :: List.replicate commas ',') ++ '[' :: cs.reverse := by
    simp [TypeText.groupChars]
  have hleft : withoutGroup ((']' :: List.replicate commas ',') ++ '[' :: cs.reverse) =
      cs.reverse := by
    have hinside : ∀ c ∈ ']' :: List.replicate commas ',', (c != '[') = true := by
      simp only [List.mem_cons, List.mem_replicate]
      rintro c (rfl | ⟨-, rfl⟩) <;> rfl
    rw [withoutGroup, List.dropWhile_append_of_pos hinside]
    obtain ⟨front, c, rfl, hc⟩ := h
    simp [hc]
  rw [hreverse, peelGroups, dif_pos (by simp), hleft]

/-- Peeling takes off all bracket groups at the end of a text, and counts them. -/
theorem peelGroups_groups {cs : List Char} (hblank : Text.EndsOutside Text.isBlank cs)
    (hclose : Text.EndsOutside (· == ']') cs) (groups : List Nat) (rank : Nat) :
    peelGroups (cs ++ groups.flatMap TypeText.groupChars).reverse rank =
      (cs.reverse, rank + groups.length) := by
  induction groups using List.reverseRecOn generalizing rank with
  | nil =>
      obtain ⟨front, c, rfl, hc⟩ := hclose
      have hother : c ≠ ']' := beq_eq_false_iff_ne.1 hc
      rw [peelGroups, dif_neg (by simp [hother])]
      simp
  | append_singleton groups commas ih =>
      have hends : Text.EndsOutside Text.isBlank (cs ++ groups.flatMap TypeText.groupChars) :=
        hblank.add (TypeText.endsOutside_groups groups (by decide))
      rw [List.flatMap_append, List.flatMap_singleton, ← List.append_assoc, peelGroups_group hends,
        ih, List.length_append, List.length_singleton, Nat.add_assoc, Nat.add_comm 1]

end TypeRef

namespace TypeText

/-- A written type without blanks, scope, arguments and groups, in front of which a mark is left
only where nothing else stands between it and the name. -/
def base (type : TypeText) : TypeText :=
  { around := type.around
    name := type.name
    nullable := type.arguments.isNone && !type.groups.isEmpty && type.nullable }

theorem text_base (type : TypeText) : type.base.text =
    .ofList (type.path ++ if type.arguments.isSome then [] else type.elementMark) := by
  rw [text, head, tail, base, elementMark]
  cases type.arguments <;> cases type.groups <;>
    simp [default, scopeChars, argumentChars, markChars, path]

/-- A written type reads as its name, with the names around it joined by dots as qualifier and the
number of its bracket groups as rank, and its simple name is that name. -/
theorem parse_text (type : TypeText) :
    TypeRef.parse type.text =
        some
          { name := type.name.text
            arrayRank := type.groups.length
            qualifier := ".".intercalate (type.around.map (·.text)) } ∧
      TypeName.simple type.text = type.name.text := by
  have hsimple : TypeName.simple type.text = type.name.text :=
    congrArg String.ofList type.simpleChars_text
  refine ⟨?_, hsimple⟩
  have hblank : Text.EndsOutside Text.isBlank (type.head ++ type.elementMark) :=
    (endsOutside_head NamePart.foreign_blank (by decide)).add (endsOutside_elementMark (by decide))
  have hclose : Text.EndsOutside (· == ']') (type.head ++ type.elementMark) :=
    (endsOutside_head (NamePart.foreign_eq (by decide)) (by decide)).add
      (endsOutside_elementMark (by decide))
  have hsome : (type.head ++ type.elementMark ++ type.groups.flatMap groupChars).isEmpty =
      false := by
    obtain ⟨c, rest, hhead, -⟩ := type.exists_head
    simp [hhead]
  have hname : TypeName.simpleChars
      (type.path ++ if type.arguments.isSome then [] else type.elementMark) = type.name.chars := by
    have hbase : TypeName.simpleChars type.base.text.toList = type.name.chars :=
      type.base.simpleChars_text
    rwa [text_base, String.toList_ofList] at hbase
  have hnamed : type.name.chars.isEmpty = false := List.isEmpty_eq_false_iff.2 type.name.nonempty
  have hqualifier : String.ofList (['.'].intercalate (type.around.map (·.chars))) =
      ".".intercalate (type.around.map (·.text)) := by
    have hdot : ".".toList = ['.'] := rfl
    rw [← String.toList_inj, String.toList_ofList, String.toList_intercalate, List.map_map, hdot]
    simp only [Function.comp_def, NamePart.text, String.toList_ofList]
  have htail : IsTail (if type.arguments.isSome then [] else type.elementMark) := by
    split
    · exact isTail_nil
    · exact isTail_elementMark
  simp only [TypeRef.parse, TypeRef.parseChars, core_text, hsome, Bool.false_eq_true, if_false,
    TypeRef.peelGroups_groups hblank hclose, List.reverse_reverse, Nat.zero_add,
    afterScope_beforeFirst_head isTail_elementMark, hname, hnamed, beforeLast_path htail,
    hqualifier]
  rfl

/-- What stands between angle brackets may look like anything. -/
example : TypeText.text
    { scope := some ⟨"global".toList, by decide, List.all_eq_true.1 (by decide)⟩
      around := [⟨"Game".toList, by decide, List.all_eq_true.1 (by decide)⟩]
      name := ⟨"Box".toList, by decide, List.all_eq_true.1 (by decide)⟩
      arguments := some "A::B[], C<D>.E?".toList
      nullable := true
      groups := [1, 0]
      nullableArray := true } = "global::Game.Box<A::B[], C<D>.E?>?[,][]?" := by
  decide

end TypeText
end SandboxLint
