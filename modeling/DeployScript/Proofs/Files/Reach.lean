import DeployScript.Proofs.Files.Climb
import DeployScript.Proofs.Files.Size

/-!
# Paths that write locations out

A location is written out by the path that starts at the root and has a part for each name. Such a
path leads to its location from every current directory, as long as it is short enough; and what
leads to a directory can be written out, by resolving it.
-/

namespace DeployScript

open FileTree (nameOf nextLocation)

/-! ### Names -/

/-- The text can be the part of a path that names an entry. -/
structure CanName (part : Text) : Prop where
  ne_dots : part ≠ ".."
  bytes : part.nameBytes? ≠ none
  size : part.nameSize ≤ FileTree.maxNameBytes
  nul : CodePoint.char '\x00' ∉ part

/-- The text is the name of an entry. -/
structure IsFileName (name : Text) : Prop extends IsEntryName name, CanName name

instance (part : Text) : Decidable (CanName part) :=
  decidable_of_iff (part ≠ ".." ∧ part.nameBytes? ≠ none ∧
      part.nameSize ≤ FileTree.maxNameBytes ∧ CodePoint.char '\x00' ∉ part)
    ⟨fun h => ⟨h.1, h.2.1, h.2.2.1, h.2.2.2⟩, fun h => ⟨h.ne_dots, h.bytes, h.size, h.nul⟩⟩

instance (name : Text) : Decidable (IsFileName name) :=
  decidable_of_iff (IsEntryName name ∧ CanName name)
    ⟨fun h => ⟨h.1, h.2.bytes, h.2.size, h.2.nul⟩, fun h => ⟨h.toIsEntryName, h.toCanName⟩⟩

theorem CanName.exists_diskName? {part : Text} (h : CanName part) :
    ∃ name, part.diskName? = some name := by
  obtain ⟨bytes, hbytes⟩ := Option.ne_none_iff_exists'.1 h.bytes
  rw [Text.diskName?, hbytes]
  split
  · exact ⟨_, rfl⟩
  · exact ⟨_, rfl⟩

/-! ### Walking along names -/

namespace FileTree

variable {t : FileTree} {cwd s : Standing} {l : Location} {p : Path}

theorem stepFrom_of_canName {part : Text} (h : CanName part) (hl : t.kind? l = some .directory) :
    t.stepFrom (.on l) part = .ok (.on (l ++ [nameOf part])) := by
  obtain ⟨name, hname⟩ := h.exists_diskName?
  have hsize : ¬ part.nameSize > maxNameBytes := Nat.not_lt.2 h.size
  simp [stepFrom, Standing.on, hl, h.ne_dots, hsize, hname, nameOf]

theorem foldlM_stepFrom_of_directory {parts : List Text} (h : ∀ part ∈ parts, CanName part)
    (hdirectory : t.kind? (l ++ parts.map nameOf) = some .directory) :
    parts.foldlM t.stepFrom (.on l) = .ok (.on (l ++ parts.map nameOf)) := by
  induction parts generalizing l with
  | nil =>
    rw [List.map_nil, List.append_nil]
    rfl
  | cons part rest ih =>
    obtain ⟨hpart, hrest⟩ := List.forall_mem_cons.1 h
    have hsplit : l ++ (part :: rest).map nameOf = l ++ [nameOf part] ++ rest.map nameOf := by simp
    have hl : t.kind? l = some .directory := kind?_of_isPrefix (List.prefix_append _ _) hdirectory
    rw [hsplit] at hdirectory ⊢
    rw [List.foldlM_cons, stepFrom_of_canName hpart hl]
    exact ih hrest hdirectory

/-- A part that was followed, and is not the way up, can name an entry but for NUL characters. -/
theorem size_le_of_foldlM {parts : List Text} (h : parts.foldlM t.stepFrom cwd = .ok s) :
    ∀ part ∈ parts, part ≠ ".." → part.nameSize ≤ maxNameBytes := by
  induction parts generalizing cwd with
  | nil => simp
  | cons first rest ih =>
    rw [List.foldlM_cons] at h
    obtain ⟨middle, hstep, hrest⟩ := exists_of_bind_eq_ok h
    intro part hpart hdots
    rcases List.mem_cons.1 hpart with rfl | hpart
    · rcases stepFrom_cases hstep with ⟨-, heq, -⟩ | ⟨-, -, heq, -⟩ | ⟨-, -, -, hsize, -⟩
      · exact absurd heq hdots
      · exact absurd heq hdots
      · exact hsize
    · exact ih hrest part hpart hdots

theorem foldlM_of_locate (h : t.locate cwd p = .ok s) :
    p.text.nameSize < maxPathBytes ∧
      p.parts.foldlM t.stepFrom (if p.isAbsolute then .on [] else cwd) = .ok s := by
  rw [locate] at h
  split at h
  · simp at h
  · next hsize => exact ⟨Nat.lt_of_not_le hsize, h⟩

theorem locate_of_tooLong (h : maxPathBytes ≤ p.text.nameSize) :
    t.locate cwd p = .error .nameTooLong := by
  rw [locate, if_pos h]

/-- What a path that leads somewhere is made of. -/
theorem canName_of_locate (hpath : Action.badPath? p = none) (h : t.locate cwd p = .ok s) :
    ∀ part ∈ p.parts, part ≠ ".." → CanName part := by
  intro part hpart hdots
  obtain ⟨hbytes, hnul⟩ := Path.badPath?_eq_none_iff.1 hpath part hpart
  exact ⟨hdots, hbytes, size_le_of_foldlM (foldlM_of_locate h).2 part hpart hdots, hnul⟩

end FileTree

/-! ### Writing locations out -/

namespace Path

variable {p : Path} {l : Location} {t : FileTree} {cwd : Standing}

/-- The path writes the location out: it starts at the root, and has a part for each name. -/
structure Spells (p : Path) (l : Location) : Prop where
  root : p.root = .slash
  names : p.parts.map nameOf = l
  parts : ∀ part ∈ p.parts, CanName part

namespace Spells

theorem isAbsolute (h : p.Spells l) : p.isAbsolute = true := by
  rw [Path.isAbsolute, h.root]
  rfl

theorem badPath? (h : p.Spells l) : Action.badPath? p = none :=
  badPath?_eq_none_iff.2 fun part hpart => ⟨(h.parts part hpart).bytes, (h.parts part hpart).nul⟩

theorem parent (h : p.Spells l) : p.parent.Spells l.dropLast := by
  refine ⟨h.root, ?_, ?_⟩
  · rw [parts_parent, List.map_dropLast, h.names]
  · intro part hpart
    exact h.parts part (List.dropLast_subset _ hpart)

theorem iterate (h : p.Spells l) (d : Nat) :
    (Path.parent^[d] p).Spells (List.dropLast^[d] l) := by
  induction d generalizing p l with
  | zero => exact h
  | succ d ih => exact ih h.parent

theorem child (h : p.Spells l) {part : Text} (hpart : isPathPart part = true)
    (hname : CanName part) : (p.child part).Spells (l ++ [nameOf part]) := by
  have hparts := parts_child_of_isPathPart p hpart
  refine ⟨by rw [root_child_of_isPathPart p hpart, h.root], ?_, ?_⟩
  · rw [hparts, List.map_append, h.names, List.map_singleton]
  · intro other hother
    rw [hparts] at hother
    rcases List.mem_append.1 hother with hother | hother
    · exact h.parts other hother
    · rw [List.mem_singleton.1 hother]
      exact hname

/-- A location in a directory is where the path that writes it out leads. -/
theorem locate (h : p.Spells l) (hdirectory : t.kind? l.dropLast = some .directory)
    (hsize : p.text.nameSize < FileTree.maxPathBytes) : t.locate cwd p = .ok (.on l) := by
  rw [FileTree.locate, if_neg (Nat.not_le.2 hsize), if_pos h.isAbsolute]
  rcases List.eq_nil_or_concat' p.parts with hnil | ⟨front, last, hparts⟩
  · rw [← h.names, hnil]
    rfl
  · have hnames := h.names
    have hall := h.parts
    rw [hparts] at hnames hall
    rw [List.map_append, List.map_singleton] at hnames
    rw [← hnames, List.dropLast_concat, ← List.nil_append (front.map nameOf)] at hdirectory
    have hfront := FileTree.foldlM_stepFrom_of_directory
      (fun part hpart => hall part (List.mem_append_left _ hpart)) hdirectory
    have hlast : CanName last := hall last (List.mem_append_right _ (List.mem_singleton.2 rfl))
    rw [hparts, List.foldlM_append, hfront, ← hnames]
    change [last].foldlM t.stepFrom (.on ([] ++ front.map nameOf)) = _
    rw [List.foldlM_cons, FileTree.stepFrom_of_canName hlast hdirectory]
    rfl

end Spells

theorem ne_dots_of_mem_climb {parts : List Text} {part : Text} (h : part ∈ climb parts) :
    part ≠ ".." := by
  have go : ∀ l done : List Text, (∀ x ∈ done, x ≠ "..") →
      ∀ x ∈ l.foldl climbStep done, x ≠ ".." := by
    intro l
    induction l with
    | nil => exact fun done hdone => hdone
    | cons first rest ih =>
      intro done hdone
      apply ih
      intro x hx
      rw [climbStep] at hx
      split at hx
      · exact hdone x (List.dropLast_subset _ hx)
      · next hfirst =>
        rcases List.mem_append.1 hx with hx | hx
        · exact hdone x hx
        · rw [List.mem_singleton.1 hx]
          exact hfirst
  exact go parts [] (by simp) part h

end Path

/-! ### The current directory -/

namespace Machine

variable {w : Machine} {p : Path} {l : Location}

/-- The current directory is there, and its names are those that entries can have. -/
structure InReach (w : Machine) : Prop where
  lost : w.directory.lost = 0
  grounds : w.tree.Grounds w.directory
  names : ∀ name ∈ w.directory.location, IsFileName name

theorem InReach.inPlace (h : w.InReach) : w.InPlace :=
  ⟨h.lost, fun name hname => (h.names name hname).toIsEntryName⟩

theorem InReach.directory_eq (h : w.InReach) : w.directory = .on w.directory.location := by
  rw [Standing.on, ← h.lost]

theorem InReach.map_location (h : w.InReach) :
    w.directory.location.map nameOf = w.directory.location :=
  FileTree.map_nameOf_of_spelled fun name hname => (h.names name hname).spelled

theorem InReach.directoryPath (h : w.InReach) :
    ∃ cwd : Path, w.directoryPath = .ok cwd ∧ cwd.parts = w.directory.location ∧
      cwd.Spells w.directory.location := by
  obtain ⟨cwd, hpath, hparts⟩ := h.inPlace.directoryPath
  have hroot : cwd.root = .slash := by
    rw [Machine.directoryPath, if_neg (by rw [h.lost]; omega), Except.ok.injEq] at hpath
    rw [← hpath]
    rfl
  refine ⟨cwd, hpath, hparts, hroot, ?_, ?_⟩
  · rw [hparts, h.map_location]
  · intro name hname
    rw [hparts] at hname
    exact (h.names name hname).toCanName

/-- Resolving a path that leads somewhere writes out where that is. -/
theorem on_absolute_spells (hpath : Action.badPath? p = none)
    (hlocate : w.tree.locate w.directory p = .ok (.on l))
    (hcwd : p.isAbsolute = false → w.InReach) :
    ∃ q : Path, (Action.absolute p : Action OnMachine Path).on w = (.ok q, w) ∧ q.Spells l := by
  have hnames := FileTree.canName_of_locate hpath hlocate
  have hwalk := (FileTree.foldlM_of_locate hlocate).2
  rw [Action.on_absolute]
  by_cases habsolute : p.isAbsolute = true
  · rw [if_pos habsolute]
    refine ⟨_, rfl, rfl, ?_, ?_⟩
    · rw [if_pos habsolute] at hwalk
      have heq := FileTree.foldlM_stepFrom_eq_next hwalk
      rw [Standing.on, Standing.on, Standing.mk.injEq] at heq
      rw [Path.parts_resolve, Path.parts_join_top, Path.climb, FileTree.map_nameOf_climb, heq.1]
      rfl
    · intro part hpart
      rw [Path.parts_resolve, Path.parts_join_top] at hpart
      exact hnames part (Path.mem_climb hpart) (Path.ne_dots_of_mem_climb hpart)
  · rw [Bool.not_eq_true] at habsolute
    have hreach := hcwd habsolute
    obtain ⟨cwd, hcwdpath, hparts, -⟩ := hreach.directoryPath
    have hjoin : (cwd.join p).parts = w.directory.location ++ p.parts := by
      rw [Path.parts_join_of_relative cwd habsolute, hparts]
    rw [if_neg (by rw [habsolute]; simp), hcwdpath]
    refine ⟨_, rfl, rfl, ?_, ?_⟩
    · rw [if_neg (by rw [habsolute]; simp), hreach.directory_eq] at hwalk
      have heq := FileTree.foldlM_stepFrom_eq_next hwalk
      rw [Standing.on, Standing.on, Standing.mk.injEq] at heq
      rw [Path.parts_resolve, hjoin, Path.climb_append, hreach.inPlace.climb_location,
        FileTree.map_nameOf_climb, heq.1, hreach.map_location]
    · intro part hpart
      rw [Path.parts_resolve, hjoin] at hpart
      rcases List.mem_append.1 (Path.mem_climb hpart) with hmem | hmem
      · exact (hreach.names part hmem).toCanName
      · exact hnames part hmem (Path.ne_dots_of_mem_climb hpart)

end Machine

end DeployScript
