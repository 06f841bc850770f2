import Mathlib.Data.List.Basic
import SandboxLint.Report

/-!
Diagnostics that take one line. Paths, numbers, severities and codes are written without
line breaks unless a path has one, so the line of a diagnostic is broken exactly where its
message is.
-/

namespace SandboxLint

namespace Text

/-- The characters that end a line. -/
def lineBreaks : List Char :=
  ['\n', '\r', '\x0b', '\x0c', '\x1c', '\x1d', '\x1e', '\u0085', '\u2028', '\u2029']

/-- A text without line breaks. -/
def OneLine (text : String) : Prop :=
  ∀ c ∈ text.toList, c ∉ lineBreaks

instance (text : String) : Decidable (OneLine text) :=
  List.decidableBAll _ text.toList

variable {a b : String}

@[simp] theorem oneLine_append : OneLine (a ++ b) ↔ OneLine a ∧ OneLine b := by
  simp only [OneLine, String.toList_append, List.forall_mem_append]

theorem OneLine.append (ha : OneLine a) (hb : OneLine b) : OneLine (a ++ b) :=
  oneLine_append.2 ⟨ha, hb⟩

theorem oneLine_append_left (hb : OneLine b) : OneLine (a ++ b) ↔ OneLine a := by
  rw [oneLine_append, and_iff_left hb]

theorem oneLine_append_right (ha : OneLine a) : OneLine (a ++ b) ↔ OneLine b := by
  rw [oneLine_append, and_iff_right ha]

/-- Letters, digits, blanks and marks take one line. Words of a message are best compared as lists,
since taking a text apart again is slow. -/
theorem OneLine.words {cs : List Char}
    (h : cs.all (fun c => Nat.ble 32 c.toNat && Nat.ble c.toNat 126) = true) :
    OneLine (String.ofList cs) := by
  have hbreaks : lineBreaks.all (fun c => !(Nat.ble 32 c.toNat && Nat.ble c.toNat 126)) = true :=
    rfl
  intro c hc hbreak
  have hplain := List.all_eq_true.1 h c (by simpa using hc)
  have hmarked := List.all_eq_true.1 hbreaks c hbreak
  rw [hplain] at hmarked
  cases hmarked

theorem OneLine.of_subset (hb : OneLine b) (h : ∀ c ∈ a.toList, c ∈ b.toList) : OneLine a :=
  fun c hc => hb c (h c hc)

theorem oneLine_ofList_digits {cs : List Char}
    (h : ∀ c ∈ cs, c.isDigit = true ∨ c = '-') : OneLine (String.ofList cs) := by
  have hbreaks : lineBreaks.all (fun c => !c.isDigit && c != '-') = true := rfl
  intro c hc hbreak
  have hmarked := List.all_eq_true.1 hbreaks c hbreak
  obtain hdigit | rfl := h c (by simpa using hc)
  · rw [hdigit] at hmarked
    cases hmarked
  · cases hmarked

theorem isDigit_of_mem_toDigits {n : Nat} {c : Char} (h : c ∈ Nat.toDigits 10 n) :
    c.isDigit = true :=
  Nat.isDigit_of_mem_toDigits (by decide) (by decide) h

@[simp] theorem oneLine_nat (n : Nat) : OneLine (toString n) :=
  oneLine_ofList_digits fun _ hc => .inl (isDigit_of_mem_toDigits hc)

@[simp] theorem oneLine_int (n : Int) : OneLine (toString n) := by
  cases n with
  | ofNat n => exact oneLine_nat n
  | negSucc n =>
      have hsign : toString (Int.negSucc n) = "-" ++ toString (n + 1) := rfl
      rw [hsign, oneLine_append]
      exact ⟨by decide, oneLine_nat _⟩

@[simp] theorem oneLine_paddedCode (code : Int) : OneLine (paddedCode code) := by
  have hzeros : ∀ count, ∀ c ∈ List.replicate count '0' ++ Nat.toDigits 10 code.natAbs,
      c.isDigit = true := by
    intro count c hc
    obtain hzero | hdigit := List.mem_append.1 hc
    · rw [List.eq_of_mem_replicate hzero]
      decide
    · exact isDigit_of_mem_toDigits hdigit
  rw [paddedCode]
  split
  · refine oneLine_ofList_digits fun c hc => ?_
    obtain rfl | hrest := List.mem_cons.1 hc
    · exact .inr rfl
    · exact .inl (hzeros _ c hrest)
  · exact oneLine_ofList_digits fun c hc => .inl (hzeros _ c hc)

theorem oneLine_intercalate {separator : String} {parts : List String}
    (hseparator : OneLine separator) (hparts : ∀ part ∈ parts, OneLine part) :
    OneLine (separator.intercalate parts) := by
  induction parts with
  | nil => exact (by decide : OneLine "")
  | cons part rest ih =>
      obtain ⟨hpart, hrest⟩ := List.forall_mem_cons.1 hparts
      by_cases hnil : rest = []
      · subst hnil
        simpa using hpart
      · have hsplit : separator.intercalate (part :: rest) =
            part ++ separator ++ separator.intercalate rest := by
          have happend := String.intercalate_append_of_ne_nil (l := [part]) (s := separator)
            (by simp) hnil
          simpa using happend
        simp only [hsplit, oneLine_append]
        exact ⟨⟨hpart, hseparator⟩, ih hrest⟩

theorem mem_of_mem_splitAt {c d : Char} {cs part : List Char} (h : part ∈ splitAt c cs)
    (hd : d ∈ part) : d ∈ cs := by
  induction cs generalizing part with
  | nil =>
      rw [List.mem_singleton.1 h] at hd
      cases hd
  | cons e rest ih =>
      rw [splitAt] at h
      split at h
      · obtain rfl | hrest := List.mem_cons.1 h
        · cases hd
        · exact List.mem_cons_of_mem _ (ih hrest hd)
      · split at h
        · next first parts hparts =>
            rw [hparts] at ih
            obtain rfl | hrest := List.mem_cons.1 h
            · obtain rfl | hd := List.mem_cons.1 hd
              · exact List.mem_cons_self
              · exact List.mem_cons_of_mem _ (ih List.mem_cons_self hd)
            · exact List.mem_cons_of_mem _ (ih (List.mem_cons_of_mem _ hrest) hd)
        · rw [List.mem_singleton.1 h, List.mem_singleton] at hd
          exact hd ▸ List.mem_cons_self

end Text

open Text

namespace Path

theorem oneLine_of_mem_parse {text part : String} (htext : OneLine text)
    (hpart : part ∈ (parse text).parts) : OneLine part := by
  obtain ⟨hsplit, -⟩ := List.mem_filter.1 hpart
  obtain ⟨cs, hcs, rfl⟩ := List.mem_map.1 hsplit
  exact htext.of_subset fun c hc => mem_of_mem_splitAt hcs (by simpa using hc)

theorem oneLine_toText {path : Path} (h : ∀ part ∈ path.parts, OneLine part) :
    OneLine path.toText := by
  have hlabel : OneLine path.root.label := by
    cases path.root <;> decide
  rw [toText]
  split
  · decide
  · rw [oneLine_append]
    exact ⟨hlabel, oneLine_intercalate (by decide) h⟩

end Path

namespace Report

theorem oneLine_displayPath {path : String} (h : OneLine path) (base : Path) :
    OneLine (displayPath path base) := by
  simp only [displayPath]
  split
  · next relative hrelative =>
      refine Path.oneLine_toText fun part hpart => Path.oneLine_of_mem_parse h ?_
      rw [Path.relativeTo?] at hrelative
      split at hrelative
      · cases hrelative
        exact List.mem_of_mem_drop hpart
      · cases hrelative
  · exact Path.oneLine_toText fun part hpart => Path.oneLine_of_mem_parse h hpart

/-- Beside its message nothing breaks the line of a diagnostic. -/
theorem oneLine_line_iff {d : Diagnostic} {codePrefix : String} (hpath : OneLine d.path)
    (hletters : OneLine codePrefix) (base : Path) :
    OneLine (line d base codePrefix) ↔ OneLine d.message := by
  have hseverity : OneLine d.severity.label := by
    cases d.severity <;> decide
  have hmarks : OneLine "(" ∧ OneLine "," ∧ OneLine "): " ∧ OneLine " " ∧ OneLine ": " := by
    decide
  simp only [line, diagnosticId, oneLine_append, oneLine_displayPath hpath base, hletters,
    hseverity, hmarks, oneLine_int, oneLine_paddedCode, true_and]

end Report
end SandboxLint
