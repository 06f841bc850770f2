import Mathlib.Data.List.Nodup
import Mathlib.Data.List.Perm.Subperm
import SandboxLint.FileTree
import SandboxLint.Proofs.Assoc
import SandboxLint.Proofs.Path

/-!
Opening and resolving a path take the same way through a disk. A way follows a number
of links; it never comes back to a link that is being followed, since it would have to
follow more links than it does. So a path that can be opened resolves to the place
of what it opens, and paths with one resolution open the same. A place that is reached
from the root without links resolves to itself.
-/

namespace SandboxLint
namespace FileTree

theorem find?_append (tree : FileTree) (front back : List String) :
    tree.find? (front ++ back) = (tree.find? front).bind (·.find? back) := by
  fun_induction find? tree front with
  | case1 tree => rfl
  | case2 entries part rest tree hlookup ih => simp only [List.cons_append, find?, hlookup, ih]
  | case3 entries part rest hlookup =>
      simp only [List.cons_append, find?, hlookup, Option.bind_none]
  | case4 tree part rest hother => cases tree <;> simp_all [find?]

/-- Whether something other than a directory stands at the end of parts. -/
def HasFile (tree : FileTree) (parts : List String) : Prop :=
  ∃ entry, tree.find? parts = some entry ∧ entry.isDirectory = false

theorem hasFile_iff_of_not_isDirectory {tree : FileTree} (h : tree.isDirectory = false)
    {parts : List String} : tree.HasFile parts ↔ parts = [] := by
  constructor
  · rintro ⟨entry, hfound, -⟩
    cases parts with
    | nil => rfl
    | cons part rest => cases tree <;> simp_all [find?, isDirectory]
  · rintro rfl
    exact ⟨tree, rfl, h⟩

theorem HasFile.ne_nil {tree : FileTree} {parts : List String} (h : tree.HasFile parts)
    (hdirectory : tree.isDirectory = true) : parts ≠ [] := by
  rintro rfl
  obtain ⟨entry, hfound, hfile⟩ := h
  cases hfound
  simp [hdirectory] at hfile

/-- A file below a directory is an entry or stands below one. -/
theorem hasFile_directory_iff {entries : List (String × FileTree)}
    (distinct : (Assoc.keys entries).Nodup) {parts : List String} :
    (directory entries).HasFile parts ↔
      ∃ entry ∈ entries, ∃ rest, parts = entry.1 :: rest ∧ entry.2.HasFile rest := by
  constructor
  · intro h
    obtain ⟨part, rest, rfl⟩ := List.exists_cons_of_ne_nil (h.ne_nil rfl)
    obtain ⟨entry, hfound, hfile⟩ := h
    rw [find?] at hfound
    split at hfound
    · next tree hlookup =>
        exact ⟨(part, tree), Assoc.mem_of_get? hlookup, rest, rfl, entry, hfound, hfile⟩
    · cases hfound
  · rintro ⟨⟨part, tree⟩, hmem, rest, rfl, entry, hfound, hfile⟩
    have hlookup : List.lookup part entries = some tree :=
      (Assoc.get?_eq_some_iff_mem distinct).2 hmem
    refine ⟨entry, ?_, hfile⟩
    simpa only [find?, hlookup] using hfound

/-- A tree without links. As on any disk, the names in a directory are distinct, and the name that
leads up is none of them. -/
inductive Plain : FileTree → Prop
  | file {content : FileContent} : Plain (.file content)
  | device : Plain .device
  | directory {entries : List (String × FileTree)} (distinct : (Assoc.keys entries).Nodup)
      (down : ".." ∉ Assoc.keys entries) (inner : ∀ entry ∈ entries, Plain entry.2) :
      Plain (.directory entries)

/-- What parts lead to in a plain tree is plain, and no part leads up. -/
theorem Plain.of_find? {tree entry : FileTree} {parts : List String} (h : tree.Plain)
    (hfound : tree.find? parts = some entry) : entry.Plain ∧ ".." ∉ parts := by
  fun_induction find? tree parts with
  | case1 tree =>
      cases hfound
      exact ⟨h, List.not_mem_nil⟩
  | case2 entries part rest tree hlookup ih =>
      cases h with
      | directory distinct down inner =>
          have hmem : (part, tree) ∈ entries := Assoc.mem_of_get? hlookup
          obtain ⟨hplain, hrest⟩ := ih (inner _ hmem) hfound
          have hpart : ".." ≠ part := by
            rintro rfl
            exact down (List.mem_map_of_mem hmem)
          exact ⟨hplain, List.not_mem_cons_of_ne_of_not_mem hpart hrest⟩
  | case3 => cases hfound
  | case4 => cases hfound

/-- Whether a link stands at the end of parts. -/
def LinkAt (tree : FileTree) (parts : List String) : Prop :=
  ∃ target, tree.find? parts = some (.link target)

mutual

/-- There are at most as many places of links as links. -/
theorem length_le_linkCount : (tree : FileTree) → {places : List (List String)} →
    places.Nodup → (∀ place ∈ places, tree.LinkAt place) → places.length ≤ tree.linkCount
  | .file _, places, _, hlinks => by
      have hnone : places = [] := List.eq_nil_iff_forall_not_mem.2 fun place hplace => by
        obtain ⟨target, htarget⟩ := hlinks place hplace
        cases place <;> simp [find?] at htarget
      simp [hnone]
  | .device, places, _, hlinks => by
      have hnone : places = [] := List.eq_nil_iff_forall_not_mem.2 fun place hplace => by
        obtain ⟨target, htarget⟩ := hlinks place hplace
        cases place <;> simp [find?] at htarget
      simp [hnone]
  | .link _, places, hnodup, hlinks => by
      have hhere : ∀ place ∈ places, place ∈ [([] : List String)] := fun place hplace => by
        obtain ⟨target, htarget⟩ := hlinks place hplace
        cases place with
        | nil => exact List.mem_singleton_self _
        | cons part rest => simp [find?] at htarget
      simpa [linkCount] using (List.subperm_of_subset hnodup hhere).length_le
  | .directory entries, places, hnodup, hlinks => length_le_linkCountAll entries hnodup hlinks

theorem length_le_linkCountAll : (entries : List (String × FileTree)) →
    {places : List (List String)} → places.Nodup →
    (∀ place ∈ places, (FileTree.directory entries).LinkAt place) →
      places.length ≤ linkCountAll entries
  | [], places, _, hlinks => by
      have hnone : places = [] := List.eq_nil_iff_forall_not_mem.2 fun place hplace => by
        obtain ⟨target, htarget⟩ := hlinks place hplace
        cases place <;> simp [find?] at htarget
      simp [hnone]
  | (name, tree) :: entries, places, hnodup, hlinks => by
      -- The places below the first entry, and those below the others.
      let own := (places.filter (·.head? == some name)).map List.tail
      let others := places.filter fun place => !(place.head? == some name)
      have hown : own.length ≤ tree.linkCount := by
        refine length_le_linkCount tree ?_ ?_
        · refine List.Nodup.map_on (fun place hplace place' hplace' htail => ?_) (hnodup.filter _)
          have hhead := (List.mem_filter.1 hplace).2
          have hhead' := (List.mem_filter.1 hplace').2
          cases place <;> cases place' <;> simp_all
        · intro rest hrest
          obtain ⟨place, hplace, rfl⟩ := List.mem_map.1 hrest
          obtain ⟨hmem, hhead⟩ := List.mem_filter.1 hplace
          obtain ⟨target, htarget⟩ := hlinks place hmem
          cases place with
          | nil => simp at hhead
          | cons part rest =>
              have hpart : part = name := by simpa using hhead
              subst hpart
              exact ⟨target, by simpa [find?] using htarget⟩
      have hothers : others.length ≤ linkCountAll entries := by
        refine length_le_linkCountAll entries (hnodup.filter _) fun place hplace => ?_
        obtain ⟨hmem, hhead⟩ := List.mem_filter.1 hplace
        obtain ⟨target, htarget⟩ := hlinks place hmem
        cases place with
        | nil => simp [find?] at htarget
        | cons part rest =>
            have hpart : (part == name) = false := by simpa using hhead
            exact ⟨target, by simpa [find?, List.lookup_cons, hpart] using htarget⟩
      have hsplit : places.length = own.length + others.length := by
        rw [List.length_map]
        exact List.length_eq_length_filter_add _
      simp only [linkCountAll, linkCountOf]
      omega

end

end FileTree

namespace Disk

variable {disk : Disk}

/-- Where the target of a link is looked for, for a link in the directory at `done`. -/
def startOf (target : String) (done : List String) : List String :=
  if (Path.parse target).isAbsolute then [] else done

/-- The way through a disk from one place along parts to another, with the number of links that
it follows. -/
inductive Walk (disk : Disk) : List String → List String → Nat → List String → Prop
  | here {done : List String} : Walk disk done [] 0 done
  | up {done rest final : List String} {links : Nat}
      (next : Walk disk done.dropLast rest links final) : Walk disk done (".." :: rest) links final
  | link {done rest middle final : List String} {part target : String} {inner links : Nat}
      (named : part ≠ "..") (found : disk.root.find? (done ++ [part]) = some (.link target))
      (follow : Walk disk (startOf target done) (Path.parse target).parts inner middle)
      (next : Walk disk middle rest links final) :
      Walk disk done (part :: rest) (inner + 1 + links) final
  | down {done rest final : List String} {part : String} {links : Nat} (named : part ≠ "..")
      (plain : ¬ disk.root.LinkAt (done ++ [part]))
      (next : Walk disk (done ++ [part]) rest links final) :
      Walk disk done (part :: rest) links final

namespace Walk

/-- A place and parts lead to one place only, along one number of links. -/
theorem unique {done rest final final' : List String} {links links' : Nat}
    (h : Walk disk done rest links final) (h' : Walk disk done rest links' final') :
    links = links' ∧ final = final' := by
  induction h generalizing links' final' with
  | here =>
      cases h'
      exact ⟨rfl, rfl⟩
  | up _ ih =>
      cases h' with
      | up next => exact ih next
      | link named => exact absurd rfl named
      | down named => exact absurd rfl named
  | link named found _ _ ihfollow ihnext =>
      cases h' with
      | up => exact absurd rfl named
      | link _ found' follow next =>
          rw [found] at found'
          cases found'
          obtain ⟨rfl, rfl⟩ := ihfollow follow
          obtain ⟨rfl, rfl⟩ := ihnext next
          exact ⟨rfl, rfl⟩
      | down _ plain => exact absurd ⟨_, found⟩ plain
  | down named plain _ ih =>
      cases h' with
      | up => exact absurd rfl named
      | link _ found => exact absurd ⟨_, found⟩ plain
      | down _ _ next => exact ih next

/-- A way along some parts and then others goes through a place in between. -/
theorem split {done final : List String} {links : Nat} {front back : List String}
    (h : Walk disk done (front ++ back) links final) :
    ∃ middle first second, Walk disk done front first middle ∧
      Walk disk middle back second final ∧ links = first + second := by
  generalize hparts : front ++ back = parts at h
  induction h generalizing front with
  | here =>
      obtain ⟨rfl, rfl⟩ := List.append_eq_nil_iff.1 hparts
      exact ⟨_, 0, 0, .here, .here, rfl⟩
  | @up done rest final links next ih =>
      cases front with
      | nil =>
          cases hparts
          exact ⟨_, 0, _, .here, .up next, by omega⟩
      | cons part front =>
          cases hparts
          obtain ⟨middle, first, second, hfirst, hsecond, rfl⟩ := ih rfl
          exact ⟨middle, first, second, .up hfirst, hsecond, rfl⟩
  | @link done rest middle final part target inner links named found follow next _ ih =>
      cases front with
      | nil =>
          cases hparts
          exact ⟨_, 0, _, .here, .link named found follow next, by omega⟩
      | cons part front =>
          cases hparts
          obtain ⟨between, first, second, hfirst, hsecond, rfl⟩ := ih rfl
          exact ⟨between, _, second, .link named found follow hfirst, hsecond, by omega⟩
  | @down done rest final part links named plain next ih =>
      cases front with
      | nil =>
          cases hparts
          exact ⟨_, 0, _, .here, .down named plain next, by omega⟩
      | cons part front =>
          cases hparts
          obtain ⟨middle, first, second, hfirst, hsecond, rfl⟩ := ih rfl
          exact ⟨middle, first, second, .down named plain hfirst, hsecond, rfl⟩

/-- A way ends at a place without double dots, as it started. -/
theorem not_dots {done rest final : List String} {links : Nat}
    (h : Walk disk done rest links final) (hdone : ".." ∉ done) : ".." ∉ final := by
  induction h with
  | here => exact hdone
  | up _ ih => exact ih fun hmem => hdone ((List.dropLast_sublist _).subset hmem)
  | @link done _ _ _ _ target _ _ _ _ _ _ ihfollow ihnext =>
      refine ihnext (ihfollow ?_)
      simp only [startOf]
      split
      · exact List.not_mem_nil
      · exact hdone
  | down named _ _ ih =>
      refine ih fun hmem => ?_
      cases List.mem_append.1 hmem with
      | inl hmem => exact hdone hmem
      | inr hmem => exact named (List.mem_singleton.1 hmem).symm

/-- A way along plain parts leads from plain parts to plain parts. -/
theorem plain {done rest final : List String} {links : Nat} (h : Walk disk done rest links final)
    (hdone : ∀ part ∈ done, Path.PlainPart part) (hrest : ∀ part ∈ rest, Path.PlainPart part) :
    ∀ part ∈ final, Path.PlainPart part := by
  induction h with
  | here => exact hdone
  | up _ ih =>
      exact ih (fun part hpart => hdone part ((List.dropLast_sublist _).subset hpart))
        (List.forall_mem_cons.1 hrest).2
  | @link done _ _ _ _ target _ _ _ _ _ _ ihfollow ihnext =>
      refine ihnext (ihfollow ?_ (Path.plain_parse target)) (List.forall_mem_cons.1 hrest).2
      simp only [startOf]
      split
      · simp
      · exact hdone
  | down _ _ _ ih =>
      obtain ⟨hpart, hrest⟩ := List.forall_mem_cons.1 hrest
      refine ih (List.forall_mem_append.2 ⟨hdone, ?_⟩) hrest
      simpa using hpart

end Walk

/-- What can be opened is at the end of a way. -/
theorem walk_of_openFrom {links : Nat} {done rest : List String} {tree : FileTree}
    (h : disk.openFrom links done rest = .ok tree) :
    ∃ count final, Walk disk done rest count final ∧ disk.root.find? final = some tree := by
  fun_induction openFrom disk links done rest with
  | case1 => cases h
  | case2 links done tree hfind =>
      cases h
      exact ⟨0, done, .here, hfind⟩
  | case3 => cases h
  | case4 => cases h
  | case5 links done tree hfind part rest hdirectory hshort hup ih =>
      obtain ⟨count, final, hwalk, hfinal⟩ := ih h
      rw [beq_iff_eq.1 hup]
      exact ⟨count, final, .up hwalk, hfinal⟩
  | case6 links done tree hfind part rest hdirectory hshort hup target hlink parsed hlinks ih =>
      obtain ⟨count, final, hwalk, hfinal⟩ := ih h
      obtain ⟨middle, first, second, hfirst, hsecond, rfl⟩ := hwalk.split
      exact ⟨_, final, .link (by simpa using hup) hlink hfirst hsecond, hfinal⟩
  | case7 => cases h
  | case8 links done tree hfind part rest hdirectory hshort hup hplain ih =>
      obtain ⟨count, final, hwalk, hfinal⟩ := ih h
      refine ⟨count, final, .down (by simpa using hup) ?_ hwalk, hfinal⟩
      rintro ⟨target, htarget⟩
      exact hplain target htarget

/-- What the links that are being followed must satisfy while a way of some links is taken: they
are places of links, each once, and from each on there are at least as many links to follow. -/
structure Following (disk : Disk) (active : List (List String)) (links : Nat) : Prop where
  nodup : active.Nodup
  ahead : ∀ place ∈ active, ∃ done part target inner final, place = done ++ [part] ∧
    disk.root.find? place = some (.link target) ∧
    Walk disk (startOf target done) (Path.parse target).parts inner final ∧ links ≤ inner

namespace Following

theorem mono {active : List (List String)} {links links' : Nat}
    (h : Following disk active links) (hle : links' ≤ links) : Following disk active links' where
  nodup := h.nodup
  ahead place hplace := by
    obtain ⟨done, part, target, inner, final, hplace, hlink, hwalk, hahead⟩ := h.ahead place hplace
    exact ⟨done, part, target, inner, final, hplace, hlink, hwalk, Nat.le_trans hle hahead⟩

/-- A link that is followed on the way is none of those that are being followed. -/
theorem not_mem {active : List (List String)} {links inner : Nat} {done middle : List String}
    {part target : String} (h : Following disk active (inner + 1 + links))
    (found : disk.root.find? (done ++ [part]) = some (.link target))
    (follow : Walk disk (startOf target done) (Path.parse target).parts inner middle) :
    done ++ [part] ∉ active := by
  intro hmem
  obtain ⟨done', part', target', inner', final, hplace, hlink, hwalk, hahead⟩ := h.ahead _ hmem
  obtain ⟨rfl, hpart⟩ := List.append_inj' hplace rfl
  rw [found] at hlink
  cases hlink
  obtain ⟨rfl, -⟩ := follow.unique hwalk
  omega

theorem cons {active : List (List String)} {links inner : Nat} {done middle : List String}
    {part target : String} (h : Following disk active (inner + 1 + links))
    (found : disk.root.find? (done ++ [part]) = some (.link target))
    (follow : Walk disk (startOf target done) (Path.parse target).parts inner middle) :
    Following disk ((done ++ [part]) :: active) inner where
  nodup := List.nodup_cons.2 ⟨h.not_mem found follow, h.nodup⟩
  ahead place hplace := by
    cases List.mem_cons.1 hplace with
    | inl hsame =>
        subst hsame
        exact ⟨done, part, target, inner, middle, rfl, found, follow, Nat.le_refl _⟩
    | inr hactive => exact (h.mono (by omega)).ahead place hactive

theorem length_le {active : List (List String)} {links : Nat} (h : Following disk active links) :
    active.length ≤ disk.root.linkCount := by
  refine FileTree.length_le_linkCount disk.root h.nodup fun place hplace => ?_
  obtain ⟨_, _, target, _, _, -, hlink, -⟩ := h.ahead place hplace
  exact ⟨target, hlink⟩

end Following

/-- Resolving follows the way to its end. -/
theorem resolveFrom_of_walk {fuel : Nat} {active : List (List String)}
    {done rest final : List String}
    {links : Nat} (h : Walk disk done rest links final) (hactive : Following disk active links)
    (hfuel : disk.root.linkCount < active.length + fuel) :
    disk.resolveFrom fuel active done rest = { parts := final } := by
  induction h generalizing fuel active with
  | here => simp [resolveFrom]
  | up _ ih =>
      rw [resolveFrom]
      simpa using ih hactive hfuel
  | @link done rest middle final part target inner links named found follow next ihfollow ihnext =>
      have hinner := hactive.cons found follow
      -- Links being followed are distinct places of the tree, so there are never more of them
      -- than links in it.
      obtain ⟨fuel, rfl⟩ : ∃ more, fuel = more + 1 := by
        have hlength := hinner.length_le
        rw [List.length_cons] at hlength
        exact ⟨fuel - 1, by omega⟩
      have hfollow : disk.resolveFrom fuel ((done ++ [part]) :: active)
          (if (Path.parse target).isAbsolute then [] else done) (Path.parse target).parts =
            { parts := middle } :=
        ihfollow hinner (by rw [List.length_cons]; omega)
      have hnext := ihnext (hactive.mono (by omega)) hfuel
      have hnew : active.contains (done ++ [part]) = false := by
        simpa using hactive.not_mem found follow
      rw [resolveFrom]
      simp only [beq_iff_eq, named, if_false, found, hnew, Bool.false_eq_true, hfollow, if_true,
        hnext]
  | @down done rest final part links named plain next ih =>
      have hnext := ih hactive hfuel
      rw [resolveFrom]
      simp only [beq_iff_eq, named, if_false]
      split
      · next target htarget => exact absurd ⟨target, htarget⟩ plain
      · exact hnext

theorem collapse_of_not_dots {parts : List String} (h : ".." ∉ parts) :
    Path.collapse parts = parts := by
  have hfold : ∀ start, parts.foldl
      (fun acc part => if part == ".." then acc.dropLast else acc ++ [part]) start =
        start ++ parts := by
    induction parts with
    | nil => simp
    | cons part rest ih =>
        intro start
        obtain ⟨hpart, hrest⟩ : ".." ≠ part ∧ ".." ∉ rest := by simpa using h
        rw [List.foldl_cons, ih hrest]
        simp [Ne.symm hpart]
  simpa [Path.collapse] using hfold []

/-- A path resolves to the end of its way, unless that cannot be opened for a circle of links. -/
theorem resolve_eq_ok_iff_of_walk {path resolved : Path} {links : Nat} {final : List String}
    (h : Walk disk [] (disk.working.join path).parts links final) :
    disk.resolve path = .ok resolved ↔
      resolved = ⟨.slash, final⟩ ∧ disk.entry ⟨.slash, final⟩ ≠ .error .tooManyLinks := by
  have hparts : disk.resolveFrom (disk.root.linkCount + 1) [] [] (disk.working.join path).parts =
      { parts := final } :=
    resolveFrom_of_walk h ⟨List.nodup_nil, by simp⟩ (by simp)
  have hcollapse : Path.collapse final = final :=
    collapse_of_not_dots (h.not_dots List.not_mem_nil)
  rw [resolve, hparts, hcollapse]
  cases hentry : disk.entry ⟨.slash, final⟩ with
  | ok tree => simp [eq_comm]
  | error error => cases error <;> simp [eq_comm]

theorem walk_of_entry {path : Path} {tree : FileTree} (h : disk.entry path = .ok tree) :
    ∃ links final, Walk disk [] (disk.working.join path).parts links final ∧
      disk.root.find? final = some tree := by
  rw [entry] at h
  split at h
  · cases h
  · split at h
    · cases h
    · exact walk_of_openFrom h

/-- What a plain path opens stands where the path resolves to, which is a plain path from the
root. -/
theorem find?_of_entry {path resolved : Path} {tree : FileTree} (hworking : disk.working.Plain)
    (hpath : path.Plain) (h : disk.entry path = .ok tree)
    (hresolved : disk.resolve path = .ok resolved) :
    disk.root.find? resolved.parts = some tree ∧ resolved.root = .slash ∧ resolved.Plain := by
  obtain ⟨links, final, hwalk, hfinal⟩ := walk_of_entry h
  obtain ⟨rfl, -⟩ := (resolve_eq_ok_iff_of_walk hwalk).1 hresolved
  exact ⟨hfinal, rfl, hwalk.plain (by simp) (Path.plain_join hworking hpath)⟩

theorem entry_of_readBytes {path : Path} {bytes : List UInt8}
    (h : disk.readBytes path = .ok bytes) :
    ∃ tree, disk.entry path = .ok tree := by
  cases hentry : disk.entry path with
  | ok tree => exact ⟨tree, rfl⟩
  | error e => simp [readBytes, content, hentry] at h

/-- Plain paths that resolve to the same text hold the same. -/
theorem readBytes_eq_of_resolve {path path' resolved resolved' : Path} {bytes bytes' : List UInt8}
    (hworking : disk.working.Plain) (hpath : path.Plain) (hpath' : path'.Plain)
    (h : disk.readBytes path = .ok bytes) (h' : disk.readBytes path' = .ok bytes')
    (hresolved : disk.resolve path = .ok resolved)
    (hresolved' : disk.resolve path' = .ok resolved')
    (htext : resolved.toText = resolved'.toText) : bytes = bytes' := by
  obtain ⟨tree, htree⟩ := entry_of_readBytes h
  obtain ⟨tree', htree'⟩ := entry_of_readBytes h'
  obtain ⟨hfind, hroot, hplain⟩ := find?_of_entry hworking hpath htree hresolved
  obtain ⟨hfind', hroot', hplain'⟩ := find?_of_entry hworking hpath' htree' hresolved'
  rw [Path.eq_of_toText hroot hroot' hplain hplain' htext, hfind', Option.some.injEq] at hfind
  have hentries : disk.entry path = disk.entry path' := by rw [htree, htree', hfind]
  have hreads : disk.readBytes path = disk.readBytes path' := by
    simp only [readBytes, content, hentries]
  rw [h, h'] at hreads
  exact Except.ok.inj hreads

/-- Parts that lead to something other than a link are a way without links. -/
theorem walk_of_find? {tree : FileTree} (done : List String) {rest : List String}
    (hfound : disk.root.find? (done ++ rest) = some tree) (hplain : ∀ target, tree ≠ .link target)
    (hdots : ".." ∉ rest) : Walk disk done rest 0 (done ++ rest) := by
  induction rest generalizing done with
  | nil =>
      rw [List.append_nil]
      exact .here
  | cons part rest ih =>
      obtain ⟨hpart, hrest⟩ : ".." ≠ part ∧ ".." ∉ rest := by simpa using hdots
      rw [List.append_cons] at hfound ⊢
      refine .down (Ne.symm hpart) ?_ (ih _ hfound hrest)
      rintro ⟨target, hlink⟩
      -- Below a link nothing is found, and what is found at the end is no link.
      rw [FileTree.find?_append, hlink] at hfound
      cases rest with
      | nil => exact hplain target (Option.some.inj hfound).symm
      | cons next rest => cases hfound

/-- On a way without links there are never too many. -/
theorem openFrom_ne_tooManyLinks {links count : Nat} {done rest final : List String}
    (h : Walk disk done rest count final) (hnone : count = 0) :
    disk.openFrom links done rest ≠ .error .tooManyLinks := by
  induction h generalizing links with
  | here =>
      rw [openFrom]
      split <;> simp
  | up _ ih =>
      rw [openFrom]
      simp only [beq_self_eq_true, if_true]
      split
      · simp
      · split
        · simp
        · split
          · simp
          · exact ih hnone
  | link => omega
  | down named plain _ ih =>
      rw [openFrom]
      simp only [beq_iff_eq, named, if_false]
      split
      · simp
      · split
        · simp
        · split
          · simp
          · split
            · next target htarget => exact absurd ⟨target, htarget⟩ plain
            · exact ih hnone

/-- A path resolves to the end of its way, if a way without links leads there as well. -/
theorem resolve_of_walk {path : Path} {links : Nat} {final : List String}
    (h : Walk disk [] (disk.working.join path).parts links final)
    (hfinal : Walk disk [] final 0 final) : disk.resolve path = .ok ⟨.slash, final⟩ := by
  refine (resolve_eq_ok_iff_of_walk h).2 ⟨rfl, ?_⟩
  rw [entry]
  split
  · simp
  · split
    · simp
    · exact openFrom_ne_tooManyLinks hfinal rfl

/-- A place without links on the way resolves to itself. -/
theorem resolve_of_find? {tree : FileTree} {parts : List String}
    (hfound : disk.root.find? parts = some tree) (hplain : ∀ target, tree ≠ .link target)
    (hdots : ".." ∉ parts) : disk.resolve ⟨.slash, parts⟩ = .ok ⟨.slash, parts⟩ := by
  have hwalk : Walk disk [] parts 0 parts := walk_of_find? [] hfound hplain hdots
  exact resolve_of_walk hwalk hwalk

/-- What a path opens stands where the path resolves to, if it is no link. -/
theorem resolve_of_lookup {path : Path} {tree : FileTree} (h : disk.lookup path = .ok (some tree))
    (hplain : ∀ target, tree ≠ .link target) :
    ∃ parts, disk.resolve path = .ok ⟨.slash, parts⟩ ∧ disk.root.find? parts = some tree ∧
      ".." ∉ parts := by
  have hentry : disk.entry path = .ok tree := by
    rw [lookup] at h
    split at h <;> simp_all
  obtain ⟨links, parts, hwalk, hfound⟩ := walk_of_entry hentry
  have hdots : ".." ∉ parts := hwalk.not_dots List.not_mem_nil
  exact ⟨parts, resolve_of_walk hwalk (walk_of_find? [] hfound hplain hdots), hfound, hdots⟩

section Top

variable {entries : List (String × FileTree)} {name : String} {found : Option FileTree}

theorem find?_top (hroot : disk.root = .directory entries)
    (hfound : List.lookup name entries = found) : disk.root.find? [name] = found := by
  rw [hroot, FileTree.find?, hfound]
  cases found <;> rfl

/-- A name in the root directory that is no link opens what stands there. -/
theorem entry_top (hroot : disk.root = .directory entries)
    (hfound : List.lookup name entries = found) (hplain : ∀ target, found ≠ some (.link target))
    (hnull : Path.hasNull ⟨.slash, [name]⟩ = false) (hdots : name ≠ "..")
    (hshort : name.utf8ByteSize ≤ nameLimit) :
    disk.entry ⟨.slash, [name]⟩ = found.elim (.error .notFound) .ok := by
  have hpath : ¬ pathLimit < (Path.toText ⟨.slash, [name]⟩).utf8ByteSize := by
    have hsize : (Path.toText ⟨.slash, [name]⟩).utf8ByteSize = 1 + name.utf8ByteSize := by
      simp [Path.toText, PathRoot.label, String.utf8ByteSize_append]
      rfl
    simp only [hsize, pathLimit, nameLimit] at hshort ⊢
    omega
  have hparts : (disk.working.join ⟨.slash, [name]⟩).parts = [name] := rfl
  have hname : ¬ nameLimit < name.utf8ByteSize := Nat.not_lt.2 hshort
  have hdirectory : disk.root.isDirectory = true := by rw [hroot]; rfl
  have htop := find?_top hroot hfound
  simp only [entry, hnull, hpath, hparts, Bool.false_eq_true, if_false]
  rw [openFrom]
  simp only [FileTree.find?, hdirectory, hname, hdots, htop, beq_iff_eq, Bool.not_true,
    Bool.false_eq_true, if_false, List.nil_append]
  rw [openFrom, htop]
  cases found <;> rfl

theorem resolve_top (hroot : disk.root = .directory entries)
    (hfound : List.lookup name entries = found) (hplain : ∀ target, found ≠ some (.link target))
    (hnull : Path.hasNull ⟨.slash, [name]⟩ = false) (hdots : name ≠ "..")
    (hshort : name.utf8ByteSize ≤ nameLimit) :
    disk.resolve ⟨.slash, [name]⟩ = .ok ⟨.slash, [name]⟩ := by
  have hwalk : Walk disk [] [name] 0 [name] := by
    refine .down hdots ?_ .here
    rintro ⟨target, hlink⟩
    exact hplain target (find?_top hroot hfound ▸ hlink)
  refine (resolve_eq_ok_iff_of_walk hwalk).2 ⟨rfl, ?_⟩
  rw [entry_top hroot hfound hplain hnull hdots hshort]
  cases found <;> simp

end Top

end Disk
end SandboxLint
