import SandboxLint.Proofs.Sorting
import SandboxLint.Proofs.Text.Split
import SandboxLint.Proofs.Text.Utf8
import SandboxLint.Rule.Catalog

/-!
Positions of characters. An offset between two characters of a text splits it in what stands
before and after. The line and column of the offset count newlines and characters before it, by
whichever way the column was found, and a later offset has a later position. So what is sorted by
position is sorted by offset.
-/

namespace SandboxLint
namespace Text

theorem encode_cons (c : Char) (cs : List Char) :
    encode (c :: cs) = String.utf8EncodeChar c ++ encode cs :=
  List.flatMap_cons

theorem encode_append (front back : List Char) :
    encode (front ++ back) = encode front ++ encode back :=
  List.flatMap_append

theorem high_of_add {n : Nat} (hlow : 0x80 ≤ n) (hhigh : n < 256) : 0x80 ≤ UInt8.ofNat n := by
  rw [UInt8.le_iff_toNat_le, toNat_ofNat_of_lt hhigh]
  exact hlow

/-- A character takes one low byte, or all its bytes are high. -/
theorem utf8EncodeChar_cases (c : Char) :
    (c.toNat < 0x80 ∧ String.utf8EncodeChar c = [UInt8.ofNat c.toNat]) ∨
      ∀ b ∈ String.utf8EncodeChar c, 0x80 ≤ b := by
  obtain ⟨n, hn⟩ : ∃ n, n = c.toNat := ⟨_, rfl⟩
  have hval : c.val.toNat = n := hn.symm
  have hvalid : n < 0xD800 ∨ 0xDFFF < n ∧ n < 0x110000 := hn ▸ c.valid
  simp only [String.utf8EncodeChar, hval, ← hn]
  split
  · next hlow => exact .inl ⟨by omega, rfl⟩
  right
  split
  · intro b hb
    simp only [List.mem_cons, List.not_mem_nil, or_false] at hb
    rcases hb with rfl | rfl <;> exact high_of_add (by omega) (by omega)
  split
  · intro b hb
    simp only [List.mem_cons, List.not_mem_nil, or_false] at hb
    rcases hb with rfl | rfl | rfl <;> exact high_of_add (by omega) (by omega)
  · intro b hb
    simp only [List.mem_cons, List.not_mem_nil, or_false] at hb
    rcases hb with rfl | rfl | rfl | rfl <;> exact high_of_add (by omega) (by omega)

theorem newline_notMem_utf8EncodeChar {c : Char} (h : c ≠ '\n') :
    Source.newline ∉ String.utf8EncodeChar c := by
  intro hmem
  cases utf8EncodeChar_cases c with
  | inl hlow =>
      obtain ⟨hlow, hbytes⟩ := hlow
      rw [hbytes, List.mem_singleton] at hmem
      have hnumber : c.toNat = '\n'.toNat := by
        rw [← toNat_ofNat_of_lt (show c.toNat < 256 by omega), ← hmem]
        rfl
      exact h (Char.toNat_inj.1 hnumber)
  | inr hhigh => exact absurd (hhigh _ hmem) (by decide)

theorem count_newline_encode (cs : List Char) :
    (encode cs).count Source.newline = cs.count '\n' := by
  induction cs with
  | nil => rfl
  | cons c cs ih =>
      rw [encode_cons, List.count_append, ih, List.count_cons]
      by_cases hc : c = '\n'
      · subst hc
        exact Nat.add_comm 1 _
      · rw [List.count_eq_zero.2 (newline_notMem_utf8EncodeChar hc)]
        simp [hc]

theorem length_encode_of_low {cs : List Char} (h : ∀ b ∈ encode cs, b < 0x80) :
    (encode cs).length = cs.length := by
  induction cs with
  | nil => rfl
  | cons c cs ih =>
      rw [encode_cons] at h ⊢
      rw [List.length_append, ih fun b hb => h b (List.mem_append_right _ hb), List.length_cons,
        Nat.add_comm]
      cases utf8EncodeChar_cases c with
      | inl hlow => rw [hlow.2, List.length_singleton]
      | inr hhigh =>
          obtain ⟨b, rest, hbytes⟩ := List.exists_cons_of_ne_nil String.utf8EncodeChar_ne_nil
          have hb : b ∈ String.utf8EncodeChar c := hbytes ▸ List.mem_cons_self
          exact absurd (h b (List.mem_append_left _ hb)) (UInt8.not_lt.2 (hhigh b hb))

/-- The bytes of the last line are those behind the last newline byte. -/
theorem encode_afterLast (cs : List Char) :
    encode (afterLast '\n' cs) =
      ((encode cs).reverse.takeWhile (· != Source.newline)).reverse := by
  induction cs using List.reverseRecOn with
  | nil => rfl
  | append_singleton cs c ih =>
      have hlast : encode [c] = String.utf8EncodeChar c := List.append_nil _
      rw [encode_append, List.reverse_append, hlast]
      by_cases hc : c = '\n'
      · subst hc
        rw [afterLast_append cs List.not_mem_nil]
        rfl
      · have hbytes : ∀ b ∈ (String.utf8EncodeChar c).reverse, (b != Source.newline) = true := by
          intro b hb
          rw [List.mem_reverse] at hb
          exact bne_iff_ne.2 fun hsame => newline_notMem_utf8EncodeChar hc (hsame ▸ hb)
        have hnew : '\n' ∉ [c] := by simpa using Ne.symm hc
        rw [afterLast_append_of_notMem cs hnew, encode_append, hlast,
          List.takeWhile_append_of_pos hbytes, List.reverse_append, List.reverse_reverse, ih]

end Text

/-- An offset between characters of a text, with the characters before it. -/
structure Source.Boundary (text : String) (offset : Nat) (before : List Char) : Prop where
  start : before <+: text.toList
  offset_eq : offset = (Text.encode before).length

namespace Source.Boundary

variable {text : String} {offset : Nat} {before : List Char}

theorem bytes_take (h : Boundary text offset before) :
    (ofText text).bytes.take offset = Text.encode before := by
  obtain ⟨after, htext⟩ := h.start
  show (Text.encode text.toList).take offset = _
  rw [← htext, Text.encode_append, h.offset_eq, List.take_left]

theorem offset_le (h : Boundary text offset before) : offset ≤ (ofText text).bytes.length := by
  have hlength := congrArg List.length h.bytes_take
  rw [List.length_take, ← h.offset_eq] at hlength
  omega

theorem row_eq (h : Boundary text offset before) :
    (ofText text).row offset = before.count '\n' := by
  rw [row, h.bytes_take, Text.count_newline_encode]

theorem lineBytes_eq (h : Boundary text offset before) :
    (ofText text).lineBytes offset = Text.encode (Text.afterLast '\n' before) := by
  rw [lineBytes, h.bytes_take, Text.encode_afterLast]

theorem decode_lineBytes (h : Boundary text offset before) :
    Text.decode ((ofText text).lineBytes offset) = Text.afterLast '\n' before := by
  rw [h.lineBytes_eq, Text.decode_encode]

theorem length_lineBytes (h : Boundary text offset before)
    (hlow : ∀ b ∈ (ofText text).lineBytes offset, b < 0x80) :
    ((ofText text).lineBytes offset).length = (Text.afterLast '\n' before).length := by
  rw [h.lineBytes_eq] at hlow ⊢
  exact Text.length_encode_of_low hlow

theorem charColumn_eq (h : Boundary text offset before) :
    (ofText text).charColumn offset = (Text.afterLast '\n' before).length := by
  rw [charColumn]
  split
  · next hlow =>
      rw [h.length_lineBytes fun b hb => of_decide_eq_true (List.all_eq_true.1 hlow b hb),
        Nat.sub_eq_zero_of_le h.offset_le, Nat.add_zero]
  · rw [h.decode_lineBytes]

theorem position_eq (h : Boundary text offset before) :
    (ofText text).position offset =
      { line := before.count '\n' + 1, column := (Text.afterLast '\n' before).length + 1 } := by
  rw [position, h.row_eq, h.charColumn_eq]

/-- Behind more characters an offset is greater, so a smaller offset has fewer before it. -/
theorem exists_between {a b : Nat} {front back : List Char} (ha : Boundary text a front)
    (hb : Boundary text b back) (h : a < b) : ∃ c middle, back = front ++ c :: middle := by
  rcases List.prefix_or_prefix_of_prefix ha.start hb.start with hmore | hless
  · obtain ⟨_ | ⟨c, middle⟩, rfl⟩ := hmore
    · rw [ha.offset_eq, hb.offset_eq, List.append_nil] at h
      exact absurd h (Nat.lt_irrefl _)
    · exact ⟨c, middle, rfl⟩
  · obtain ⟨middle, rfl⟩ := hless
    rw [ha.offset_eq, hb.offset_eq, Text.encode_append, List.length_append] at h
    omega

end Source.Boundary

/-- One position comes before another: on an earlier line, or on the same line further left. -/
def Position.Precedes (p q : Position) : Prop :=
  p.line < q.line ∨ p.line = q.line ∧ p.column < q.column

namespace Source.Boundary

variable {text : String} {a b : Nat} {front back : List Char}

theorem position_precedes (ha : Boundary text a front) (hb : Boundary text b back) (h : a < b) :
    ((ofText text).position a).Precedes ((ofText text).position b) := by
  obtain ⟨c, middle, rfl⟩ := ha.exists_between hb h
  rw [ha.position_eq, hb.position_eq, Position.Precedes]
  by_cases hnew : '\n' ∈ c :: middle
  · have hmore : 0 < (c :: middle).count '\n' := List.count_pos_iff.2 hnew
    rw [List.count_append]
    exact .inl (Nat.succ_lt_succ (Nat.lt_add_of_pos_right hmore))
  · have hsame : (c :: middle).count '\n' = 0 := List.count_eq_zero.2 hnew
    rw [List.count_append, hsame, Text.afterLast_append_of_notMem front hnew, List.length_append,
      List.length_cons]
    exact .inr ⟨rfl, Nat.succ_lt_succ (Nat.lt_add_of_pos_right (Nat.succ_pos _))⟩

/-- Offsets are in order exactly when their positions are. -/
theorem le_iff (ha : Boundary text a front) (hb : Boundary text b back) :
    a ≤ b ↔ ¬ ((ofText text).position b).Precedes ((ofText text).position a) := by
  constructor
  · intro hle hprecedes
    rcases Nat.lt_or_eq_of_le hle with hlt | rfl
    · have hforth := ha.position_precedes hb hlt
      simp only [Position.Precedes] at hforth hprecedes
      omega
    · simp only [Position.Precedes] at hprecedes
      omega
  · intro hnot
    by_contra hgreater
    exact hnot (hb.position_precedes ha (Nat.lt_of_not_le hgreater))

end Source.Boundary

/-- Whether one diagnostic stands no later than another by line and column. -/
def Diagnostic.standsBy (a b : Diagnostic) : Bool :=
  decide (a.line < b.line ∨ a.line = b.line ∧ a.column ≤ b.column)

namespace Diagnostic

variable {a b c : Diagnostic}

theorem standsBy_trans (hab : a.standsBy b = true) (hbc : b.standsBy c = true) :
    a.standsBy c = true := by
  simp only [standsBy, decide_eq_true_iff] at *
  omega

theorem standsBy_total (a b : Diagnostic) : (a.standsBy b || b.standsBy a) = true := by
  simp only [standsBy, Bool.or_eq_true, decide_eq_true_iff]
  omega

/-- In one file the order of diagnostics begins with lines and columns. -/
theorem standsBy_of_ordered (hpath : a.path = b.path) (h : a.ordered b = true) :
    a.standsBy b = true := by
  rw [ordered_iff, hpath] at h
  rw [standsBy, decide_eq_true_iff]
  rcases h with hpath | ⟨-, hline | ⟨hline, hcolumn | ⟨hcolumn, -⟩⟩⟩
  · exact absurd hpath (String.lt_irrefl b.path)
  · exact .inl hline
  · exact .inr ⟨hline, Int.le_of_lt hcolumn⟩
  · exact .inr ⟨hline, Int.le_of_eq hcolumn⟩

end Diagnostic

namespace Rule

variable {input : RuleInput} {text : String} {items : List (Rule × Finding)}

theorem standsBy_diagnostic_iff (hsource : input.unit.file.source = .ofText text)
    {a b : Rule × Finding} {front back : List Char}
    (ha : Source.Boundary text a.2.1.start front) (hb : Source.Boundary text b.2.1.start back) :
    (a.1.diagnostic input a.2).standsBy (b.1.diagnostic input b.2) = true ↔
      a.2.1.start ≤ b.2.1.start := by
  rw [ha.le_iff hb, Diagnostic.standsBy, decide_eq_true_iff]
  simp only [diagnostic, SourceFile.span, Node.span, hsource, Source.span, Position.Precedes]
  omega

end Rule

/-- Positions are exact and in the order of offsets. The span of a place between characters tells
the lines before it and the characters before it on its line; the shorter way to the column, for
a line whose bytes are low, gives what decoding gives; of two offsets the smaller has the earlier
position; and the findings of a file, sorted by the lines and columns of their diagnostics, are
sorted by their offsets, also where the order goes on with code and message. -/
theorem Source.positions_exact (text : String) :
    (∀ (node : Node) (before through : List Char), Boundary text node.start before →
      Boundary text node.stop through → node.span (ofText text) =
        { line := before.count '\n' + 1
          column := (Text.afterLast '\n' before).length + 1
          endLine := through.count '\n' + 1
          endColumn := (Text.afterLast '\n' through).length + 1
          startByte := node.start
          endByte := node.stop }) ∧
    (∀ (offset : Nat) (before : List Char), Boundary text offset before →
      Text.decode ((ofText text).lineBytes offset) = Text.afterLast '\n' before ∧
      ((∀ b ∈ (ofText text).lineBytes offset, b < 0x80) →
        ((ofText text).lineBytes offset).length =
          (Text.decode ((ofText text).lineBytes offset)).length)) ∧
    (∀ (a b : Nat) (front back : List Char), Boundary text a front → Boundary text b back →
      a < b → ((ofText text).position a).Precedes ((ofText text).position b)) ∧
    ∀ (input : RuleInput) (items : List (Rule × Finding)),
      input.unit.file.source = ofText text →
      (∀ item ∈ items, ∃ before, Boundary text item.2.1.start before) →
      (items.mergeSort fun a b =>
        (a.1.diagnostic input a.2).standsBy (b.1.diagnostic input b.2)) =
          (items.mergeSort fun a b => decide (a.2.1.start ≤ b.2.1.start)) ∧
      (items.mergeSort fun a b =>
        (a.1.diagnostic input a.2).ordered (b.1.diagnostic input b.2)).Pairwise
          fun a b => a.2.1.start ≤ b.2.1.start := by
  refine ⟨fun node before through hstart hstop => ?_, fun offset before h => ⟨h.decode_lineBytes,
    fun hlow => ?_⟩, fun a b front back ha hb => ha.position_precedes hb,
    fun input items hsource hitems => ⟨?_, ?_⟩⟩
  · rw [Node.span, span, hstart.position_eq, hstop.position_eq]
  · rw [h.length_lineBytes hlow, h.decode_lineBytes]
  · refine Sorting.mergeSort_congr _ _ ?_ ?_ ?_ ?_ fun a ha b hb => ?_
    · exact fun _ _ _ => Diagnostic.standsBy_trans
    · exact fun _ _ => Diagnostic.standsBy_total _ _
    · exact fun _ _ _ hab hbc =>
        decide_eq_true (Nat.le_trans (of_decide_eq_true hab) (of_decide_eq_true hbc))
    · exact fun a b => by simpa using Nat.le_total a.2.1.start b.2.1.start
    · obtain ⟨front, hfront⟩ := hitems a ha
      obtain ⟨back, hback⟩ := hitems b hb
      rw [Bool.eq_iff_iff, Rule.standsBy_diagnostic_iff hsource hfront hback, decide_eq_true_iff]
  · refine (List.pairwise_mergeSort ?_ ?_ items).imp_of_mem fun ha hb hordered => ?_
    · exact fun _ _ _ => Diagnostic.ordered_trans _ _ _
    · exact fun _ _ => Diagnostic.ordered_total _ _
    · obtain ⟨front, hfront⟩ := hitems _ (List.mem_mergeSort.1 ha)
      obtain ⟨back, hback⟩ := hitems _ (List.mem_mergeSort.1 hb)
      exact (Rule.standsBy_diagnostic_iff hsource hfront hback).1
        (Diagnostic.standsBy_of_ordered rfl hordered)

namespace Source

def wideText : String := "π\né😀=1"

/-- A place in the text from one offset to another. -/
def widePlace (start stop : Nat) : Node :=
  .ofTree (.node { (default : NodeInfo) with start, stop } [])

def wideInput : RuleInput :=
  { unit := .ofFile { path := "Wide.cs", source := .ofText wideText, tree := default } ""
    entryTypes := []
    analysis := {} }

def wideItems : List (Rule × Finding) :=
  [(.language 2 "throw" "" Rule.throwing, (widePlace 9 10, "sign")),
    (.language 1 "try-catch" "" Rule.tryCatch, (widePlace 3 5, "letter"))]

theorem boundary_wide : Boundary wideText 3 ['π', '\n'] ∧
    Boundary wideText 9 ['π', '\n', 'é', '😀'] ∧
      Boundary wideText 10 ['π', '\n', 'é', '😀', '='] :=
  ⟨⟨by decide, by decide⟩, ⟨by decide, by decide⟩, ⟨by decide, by decide⟩⟩

/-- The sign stands in the third column of the second line, six bytes from its start. -/
theorem positions_exact_wide :
    (widePlace 9 10).span (ofText wideText) =
      { line := 2, column := 3, endLine := 2, endColumn := 4, startByte := 9, endByte := 10 } ∧
    ((ofText wideText).position 3).Precedes ((ofText wideText).position 9) ∧
    (wideItems.mergeSort fun a b =>
      (a.1.diagnostic wideInput a.2).ordered (b.1.diagnostic wideInput b.2)).Pairwise
        fun a b => a.2.1.start ≤ b.2.1.start := by
  obtain ⟨hspan, -, horder, hsort⟩ := positions_exact wideText
  obtain ⟨hletter, hsign, hend⟩ := boundary_wide
  refine ⟨hspan (widePlace 9 10) _ _ hsign hend, horder 3 9 _ _ hletter hsign (by decide), ?_⟩
  refine (hsort wideInput wideItems rfl ?_).2
  exact List.forall_mem_cons.2 ⟨⟨_, hsign⟩, List.forall_mem_singleton.2 ⟨_, hletter⟩⟩

end Source
end SandboxLint
