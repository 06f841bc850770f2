import Mathlib.Data.List.Basic
import SandboxLint.Path

/-!
Plain paths, such as reading a path gives: no part is empty or holds a slash. The
text of a plain path from the root tells all its parts. A tidy path has no part that is
a single dot either and is read back from its text.
-/

namespace SandboxLint

theorem Text.not_mem_of_mem_splitAt {c : Char} {cs part : List Char}
    (h : part ∈ Text.splitAt c cs) : c ∉ part := by
  induction cs generalizing part with
  | nil => simp_all [splitAt]
  | cons d rest ih =>
      simp only [splitAt] at h
      split at h
      · cases List.mem_cons.1 h with
        | inl hempty => simp [hempty]
        | inr hrest => exact ih hrest
      · next hne =>
          split at h
          · next first parts hparts =>
              rw [hparts] at ih
              cases List.mem_cons.1 h with
              | inl hfirst =>
                  have hnot := ih List.mem_cons_self
                  simp [hfirst, Ne.symm hne, hnot]
              | inr hrest => exact ih (List.mem_cons_of_mem _ hrest)
          · simp_all [Ne.symm hne]

theorem Text.splitAt_eq_splitOn (c : Char) (cs : List Char) :
    Text.splitAt c cs = List.splitOn c cs := by
  induction cs with
  | nil => rfl
  | cons d rest ih =>
      rw [List.splitOn] at ih ⊢
      rw [splitAt, List.splitOnP_cons_eq_if_modifyHead, ih]
      by_cases hd : d = c
      · simp [hd]
      · cases hparts : List.splitOnP (· == c) rest with
        | nil => exact absurd hparts (List.splitOnP_ne_nil _ _)
        | cons first parts => simp [hd]

namespace Path

/-- A part that stands for itself between slashes. -/
def PlainPart (part : String) : Prop :=
  part ≠ "" ∧ '/' ∉ part.toList

/-- A path whose parts stand for themselves between slashes. -/
def Plain (path : Path) : Prop :=
  ∀ part ∈ path.parts, PlainPart part

theorem plain_parse (text : String) : (parse text).Plain := by
  intro part hpart
  obtain ⟨hsplit, hkept⟩ := List.mem_filter.1 hpart
  obtain ⟨cs, hcs, rfl⟩ := List.mem_map.1 hsplit
  refine ⟨?_, by simpa using Text.not_mem_of_mem_splitAt hcs⟩
  simp only [Bool.and_eq_true, bne_iff_ne] at hkept
  exact hkept.1

theorem plain_join {base path : Path} (hbase : base.Plain) (hpath : path.Plain) :
    (base.join path).Plain := by
  rw [join]
  split
  · exact hpath
  · intro part hpart
    cases List.mem_append.1 hpart with
    | inl hmem => exact hbase part hmem
    | inr hmem => exact hpath part hmem

/-- Parts are told by what stands between the slashes. -/
theorem parts_eq_of_intercalate {parts parts' : List String} (h : ∀ part ∈ parts, PlainPart part)
    (h' : ∀ part ∈ parts', PlainPart part)
    (heq : "/".intercalate parts = "/".intercalate parts') : parts = parts' := by
  have hlists : ['/'].intercalate (parts.map String.toList) =
      ['/'].intercalate (parts'.map String.toList) := by
    simpa [String.toList_intercalate] using congrArg String.toList heq
  have hsplit : ∀ names : List String, (∀ part ∈ names, PlainPart part) → names ≠ [] →
      List.splitOn '/' (['/'].intercalate (names.map String.toList)) =
        names.map String.toList := by
    intro names hnames hsome
    refine List.splitOn_intercalate '/' (fun cs hcs => ?_) (by simpa using hsome)
    obtain ⟨part, hpart, rfl⟩ := List.mem_map.1 hcs
    exact (hnames part hpart).2
  -- No parts and one empty part are written the same, but an empty part is not plain.
  have hempty : ∀ names : List String, (∀ part ∈ names, PlainPart part) →
      ['/'].intercalate (names.map String.toList) = [] → names = [] := by
    intro names hnames hnil
    by_contra hsome
    have hone := hsplit names hnames hsome
    rw [hnil] at hone
    obtain ⟨part, rest, rfl⟩ := List.exists_cons_of_ne_nil hsome
    have hpart : part.toList = [] := (List.cons.inj hone).1.symm
    exact (hnames part List.mem_cons_self).1 (by simpa using hpart)
  by_cases hsome : parts = []
  · subst hsome
    exact (hempty parts' h' (by simpa using hlists.symm)).symm
  · have hsome' : parts' ≠ [] := by
      rintro rfl
      exact hsome (hempty parts h (by simpa using hlists))
    have hsame : parts.map String.toList = parts'.map String.toList := by
      rw [← hsplit parts h hsome, hlists, hsplit parts' h' hsome']
    exact List.map_injective_iff.2 (fun _ _ => String.toList_inj.1) hsame

/-- The text of a plain path from the root tells the path. -/
theorem eq_of_toText {path path' : Path} (hroot : path.root = .slash)
    (hroot' : path'.root = .slash) (hplain : path.Plain) (hplain' : path'.Plain)
    (h : path.toText = path'.toText) : path = path' := by
  obtain ⟨root, parts⟩ := path
  obtain ⟨root', parts'⟩ := path'
  cases hroot
  cases hroot'
  have htexts : "/" ++ "/".intercalate parts = "/" ++ "/".intercalate parts' := h
  have hrest : "/".intercalate parts = "/".intercalate parts' := by
    have hlists := congrArg String.toList htexts
    rw [String.toList_append, String.toList_append] at hlists
    exact String.toList_inj.1 (List.append_cancel_left hlists)
  exact congrArg (Path.mk .slash) (parts_eq_of_intercalate hplain hplain' hrest)

/-- A path whose parts are all kept when its text is read. -/
structure Tidy (path : Path) : Prop where
  plain : path.Plain
  notDot : ∀ part ∈ path.parts, part ≠ "."

theorem tidy_parse (text : String) : (parse text).Tidy := by
  refine ⟨plain_parse text, fun part hpart => ?_⟩
  have hkept := (List.mem_filter.1 hpart).2
  simp only [Bool.and_eq_true, bne_iff_ne] at hkept
  exact hkept.2

theorem tidy_join {base path : Path} (hbase : base.Tidy) (hpath : path.Tidy) :
    (base.join path).Tidy := by
  refine ⟨plain_join hbase.plain hpath.plain, fun part hpart => ?_⟩
  rw [join] at hpart
  split at hpart
  · exact hpath.notDot part hpart
  · cases List.mem_append.1 hpart with
    | inl hmem => exact hbase.notDot part hmem
    | inr hmem => exact hpath.notDot part hmem

/-- Plain parts joined by slashes do not begin with one. -/
theorem head?_intercalate_ne {parts : List String} (h : ∀ part ∈ parts, PlainPart part) :
    (['/'].intercalate (parts.map String.toList)).head? ≠ some '/' := by
  cases parts with
  | nil => simp
  | cons first rest =>
      obtain ⟨hsome, hslash⟩ := h first List.mem_cons_self
      obtain ⟨c, cs, hfirst⟩ : ∃ c cs, first.toList = c :: cs :=
        List.exists_cons_of_ne_nil (by simpa using hsome)
      rw [hfirst] at hslash
      have hc : c ≠ '/' := fun heq => hslash (by simp [heq])
      cases rest <;> simp [hfirst, hc, List.intercalate]

theorem rootOf_label_append {root : PathRoot} {cs : List Char} (h : cs.head? ≠ some '/') :
    rootOf (root.label.toList ++ cs) = root := by
  cases root with
  | relative =>
      change rootOf cs = .relative
      cases cs with
      | nil => rfl
      | cons c rest => simp_all [rootOf]
  | slash =>
      change rootOf ('/' :: cs) = .slash
      cases cs with
      | nil => rfl
      | cons c rest => simp_all [rootOf]
  | doubleSlash =>
      change rootOf ('/' :: '/' :: cs) = .doubleSlash
      cases cs with
      | nil => rfl
      | cons c rest => simp_all [rootOf]

/-- Reading the slashes of a root drops them, whatever stands behind them. -/
theorem parts_parse_label_append {root : PathRoot} (cs : List Char) :
    (parse (String.ofList (root.label.toList ++ cs))).parts = (parse (String.ofList cs)).parts := by
  cases root <;> simp [parse, PathRoot.label, Text.splitAt]

theorem parts_parse_intercalate {parts : List String} (h : ∀ part ∈ parts, PlainPart part)
    (hdots : ∀ part ∈ parts, part ≠ ".") :
    (parse ("/".intercalate parts)).parts = parts := by
  have hkept : ∀ part ∈ parts, (part != "" && part != ".") = true := fun part hpart => by
    simpa using ⟨(h part hpart).1, hdots part hpart⟩
  by_cases hsome : parts = []
  · subst hsome
    rfl
  · have hlists : ∀ cs ∈ parts.map String.toList, '/' ∉ cs := by
      simpa using fun part hpart => (h part hpart).2
    have hsplit := List.splitOn_intercalate '/' hlists (by simpa using hsome)
    rw [parse, Text.splitAt_eq_splitOn]
    simp only [String.toList_intercalate]
    rw [show ("/" : String).toList = ['/'] from rfl, hsplit]
    simpa using hkept

/-- Reading the text of a tidy path gives the path back. -/
theorem parse_toText {path : Path} (h : path.Tidy) : parse path.toText = path := by
  obtain ⟨root, parts⟩ := path
  by_cases hempty : root = .relative ∧ parts = []
  · obtain ⟨rfl, rfl⟩ := hempty
    rfl
  · have htext : Path.toText ⟨root, parts⟩ =
        String.ofList (root.label.toList ++ ("/".intercalate parts).toList) := by
      apply String.toList_inj.1
      simp [toText, hempty]
    have hparts : (parse (Path.toText ⟨root, parts⟩)).parts = parts := by
      rw [htext, parts_parse_label_append, String.ofList_toList]
      exact parts_parse_intercalate h.plain h.notDot
    have hstart : (parse (Path.toText ⟨root, parts⟩)).root = root := by
      rw [htext, parse]
      simpa [String.toList_intercalate] using rootOf_label_append (head?_intercalate_ne h.plain)
    exact congr (congrArg Path.mk hstart) hparts

end Path
end SandboxLint
