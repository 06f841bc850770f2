import SandboxLint.Proofs.Path
import SandboxLint.Report

/-!
Paths as they are shown. A path that is a base directory or lies below it, component by
component, is shown by its components behind the base, any other in full; either way what
is shown tells the path, so no two files are shown alike.
-/

namespace SandboxLint

namespace Path

variable {path base relative : Path}

/-- A path that is another or lies below it, component by component. -/
def LiesIn (path base : Path) : Prop :=
  path.root = base.root ∧ base.parts <+: path.parts

theorem relativeTo?_eq_some_iff : path.relativeTo? base = some relative ↔
    relative.root = .relative ∧ base.join relative = path := by
  obtain ⟨root, parts⟩ := path
  obtain ⟨root', rest⟩ := relative
  rw [relativeTo?]
  constructor
  · intro h
    split at h
    · next hbelow =>
        cases h
        simp only [Bool.and_eq_true, beq_iff_eq, List.isPrefixOf_iff_prefix] at hbelow
        obtain ⟨rfl, behind, rfl⟩ := hbelow
        simp [join, isAbsolute]
    · cases h
  · rintro ⟨rfl, hjoin⟩
    simp only [join, isAbsolute, bne_self_eq_false, Bool.false_eq_true, if_false, mk.injEq] at hjoin
    obtain ⟨rfl, rfl⟩ := hjoin
    simp

theorem relativeTo?_eq_none_iff : path.relativeTo? base = none ↔ ¬ path.LiesIn base := by
  simp [relativeTo?, LiesIn]

/-- A path behind a base has components of the path and no others. -/
theorem tidy_of_relativeTo? (h : path.Tidy) (hrelative : path.relativeTo? base = some relative) :
    relative.Tidy := by
  obtain ⟨hroot, rfl⟩ := relativeTo?_eq_some_iff.1 hrelative
  have hparts : ∀ part ∈ relative.parts, part ∈ (base.join relative).parts := by
    intro part hpart
    simp [join, isAbsolute, hroot, hpart]
  exact ⟨fun part hpart => h.plain part (hparts part hpart),
    fun part hpart => h.notDot part (hparts part hpart)⟩

end Path

namespace Report

variable {base path : Path}

theorem displayPath_toText (hbase : Path.resolve {} base = base) (hpath : path.Tidy) :
    displayPath path.toText base = ((path.relativeTo? base).getD path).toText := by
  rw [displayPath, Path.parse_toText hpath, hbase]
  cases path.relativeTo? base <;> rfl

/-- What is shown of a path reads as its components behind the base, or as the path itself. -/
theorem parse_displayPath (hbase : Path.resolve {} base = base) (hpath : path.Tidy) :
    Path.parse (displayPath path.toText base) = (path.relativeTo? base).getD path := by
  rw [displayPath_toText hbase hpath, Path.parse_toText]
  cases hrelative : path.relativeTo? base with
  | some relative => exact Path.tidy_of_relativeTo? hpath hrelative
  | none => exact hpath

theorem isAbsolute_parse_displayPath_iff (hbase : Path.resolve {} base = base)
    (habsolute : path.isAbsolute = true) (hpath : path.Tidy) :
    (Path.parse (displayPath path.toText base)).isAbsolute = true ↔ ¬ path.LiesIn base := by
  rw [parse_displayPath hbase hpath, ← Path.relativeTo?_eq_none_iff]
  cases hrelative : path.relativeTo? base with
  | some relative =>
      obtain ⟨hroot, -⟩ := Path.relativeTo?_eq_some_iff.1 hrelative
      simp [Path.isAbsolute, hroot]
  | none => simp [habsolute]

/-- A base and what is shown of a path lead to the path, whichever way it is shown. -/
theorem join_parse_displayPath (hbase : Path.resolve {} base = base)
    (habsolute : path.isAbsolute = true) (hpath : path.Tidy) :
    base.join (Path.parse (displayPath path.toText base)) = path := by
  rw [parse_displayPath hbase hpath]
  cases hrelative : path.relativeTo? base with
  | some relative => exact (Path.relativeTo?_eq_some_iff.1 hrelative).2
  | none => simp [Path.join, habsolute]

/-- From a base directory that resolves to itself, exactly the tidy absolute paths that lie in it
are shown as relative paths, which lead from the base to the path; all others are shown as they
are, and no two paths are shown alike. -/
theorem displayPath_identifies {base p q : Path} (hbase : Path.resolve {} base = base)
    (hp : p.isAbsolute = true) (hptidy : p.Tidy) (hq : q.isAbsolute = true) (hqtidy : q.Tidy) :
    ((Path.parse (displayPath p.toText base)).isAbsolute = false ↔ p.LiesIn base) ∧
    ((Path.parse (displayPath p.toText base)).isAbsolute = false →
      base.join (Path.parse (displayPath p.toText base)) = p) ∧
    ((Path.parse (displayPath p.toText base)).isAbsolute = true →
      displayPath p.toText base = p.toText) ∧
    (displayPath p.toText base = displayPath q.toText base → p = q) := by
  have hshown := isAbsolute_parse_displayPath_iff hbase hp hptidy
  refine ⟨?_, fun _ => join_parse_displayPath hbase hp hptidy, fun habsolute => ?_, fun hsame => ?_⟩
  · rw [← Bool.not_eq_true, hshown, not_not]
  · rw [displayPath_toText hbase hptidy, Path.relativeTo?_eq_none_iff.2 (hshown.1 habsolute)]
    rfl
  · rw [← join_parse_displayPath hbase hp hptidy, hsame, join_parse_displayPath hbase hq hqtidy]

section Siblings

def projectBase : Path := ⟨.slash, ["proj"]⟩

def projectFile : Path := ⟨.slash, ["proj", "Assets", "Door.cs"]⟩

/-- A file in a directory whose name begins with that of the base. -/
def siblingFile : Path := ⟨.slash, ["project", "Door.cs"]⟩

theorem tidy_projectFile : projectFile.Tidy :=
  ⟨by simp [Path.Plain, Path.PlainPart, projectFile], by simp [projectFile]⟩

theorem tidy_siblingFile : siblingFile.Tidy :=
  ⟨by simp [Path.Plain, Path.PlainPart, siblingFile], by simp [siblingFile]⟩

theorem displayPath_identifies_siblings : Path.resolve {} projectBase = projectBase ∧
    projectBase.join (Path.parse (displayPath projectFile.toText projectBase)) = projectFile ∧
    displayPath siblingFile.toText projectBase = siblingFile.toText ∧
    displayPath projectFile.toText projectBase ≠ displayPath siblingFile.toText projectBase := by
  have hbase : Path.resolve {} projectBase = projectBase := by decide
  obtain ⟨hrelative, hjoin, -, hdistinct⟩ :=
    displayPath_identifies hbase rfl tidy_projectFile rfl tidy_siblingFile
  obtain ⟨hrelative', -, hfull, -⟩ :=
    displayPath_identifies hbase rfl tidy_siblingFile rfl tidy_projectFile
  have hinside : projectFile.LiesIn projectBase := ⟨rfl, by decide⟩
  have houtside : ¬ siblingFile.LiesIn projectBase := fun h => absurd h.2 (by decide)
  refine ⟨hbase, hjoin (hrelative.2 hinside), hfull ?_, fun hsame => ?_⟩
  · simpa using mt hrelative'.1 houtside
  · exact absurd (hdistinct hsame) (by decide)

end Siblings

end Report
end SandboxLint
