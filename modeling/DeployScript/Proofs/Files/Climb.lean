import DeployScript.Proofs.Files.Effect
import DeployScript.Path.Lemmas
import DeployScript.Proofs.Host.Action

/-!
# Paths that are spelled like where they lead

Two dots can be taken out of the parts of a path, or be followed in the file system. Without links
both come to the same place, as long as every other part is spelled like the name that it stands
for: the location of a path is then what its parts climb to, from the root or from the current
directory.
-/

namespace DeployScript

/-! ### Climbing -/

namespace Path

theorem foldl_climbStep_of_ne_dots {parts : List Text} (h : ∀ part ∈ parts, part ≠ "..")
    (done : List Text) : parts.foldl climbStep done = done ++ parts := by
  induction parts generalizing done with
  | nil => simp
  | cons part rest ih =>
    obtain ⟨hpart, hrest⟩ := List.forall_mem_cons.1 h
    rw [List.foldl_cons, climbStep, if_neg hpart, ih hrest, List.append_assoc,
      List.singleton_append]

theorem climb_append (front rest : List Text) :
    climb (front ++ rest) = rest.foldl climbStep (climb front) := by
  rw [climb, climb, List.foldl_append]

theorem parts_join_top (p : Path) : (top.join p).parts = p.parts := by
  rw [join]
  split <;> rfl

theorem parts_parent (p : Path) : p.parent.parts = p.parts.dropLast := rfl

theorem parts_resolve (cwd p : Path) : (resolve cwd p).parts = climb (cwd.join p).parts := rfl

end Path

/-! ### Walking -/

/-- The text is a name that an entry has, and not another spelling of one. -/
structure IsEntryName (name : Text) : Prop where
  part : isPathPart name = true
  ne_dots : name ≠ ".."
  spelled : name.diskName? = some name

instance (name : Text) : Decidable (IsEntryName name) :=
  decidable_of_iff (isPathPart name = true ∧ name ≠ ".." ∧ name.diskName? = some name)
    ⟨fun h => ⟨h.1, h.2.1, h.2.2⟩, fun h => ⟨h.part, h.ne_dots, h.spelled⟩⟩

namespace FileTree

variable {t : FileTree} {cwd s : Standing} {l place : Location} {p : Path}

/-- The name that a part of a path stands for. -/
def nameOf (part : Text) : Text := part.diskName?.getD part

def nextLocation (l : Location) (part : Text) : Location :=
  if part = ".." then l.dropLast else l ++ [nameOf part]

theorem stepFrom_eq_next {part : Text} (h : t.stepFrom (.on l) part = .ok s) :
    s = .on (nextLocation l part) := by
  rcases stepFrom_cases h with ⟨hlost, -, -⟩ | ⟨-, -, hdots, rfl⟩ |
    ⟨-, -, hdots, -, name, hname, rfl⟩
  · simp [Standing.on] at hlost
  · rw [nextLocation, if_pos hdots]
    rfl
  · rw [nextLocation, if_neg hdots, nameOf, hname, Option.getD_some]
    rfl

/-- Where parts lead is told by the parts alone. -/
theorem foldlM_stepFrom_eq_next {parts : List Text} (h : parts.foldlM t.stepFrom (.on l) = .ok s) :
    s = .on (parts.foldl nextLocation l) := by
  induction parts generalizing l with
  | nil =>
    cases h
    rfl
  | cons part rest ih =>
    rw [List.foldlM_cons] at h
    obtain ⟨middle, hstep, h⟩ := exists_of_bind_eq_ok h
    rw [stepFrom_eq_next hstep] at h
    exact ih h

/-- Climbing and naming the parts comes to the same as following their names. -/
theorem map_nameOf_climb (parts done : List Text) :
    (parts.foldl Path.climbStep done).map nameOf = parts.foldl nextLocation (done.map nameOf) := by
  induction parts generalizing done with
  | nil => rfl
  | cons part rest ih =>
    rw [List.foldl_cons, List.foldl_cons, ih, Path.climbStep, nextLocation]
    split
    · rw [List.map_dropLast]
    · rw [List.map_append, List.map_singleton]

theorem map_nameOf_of_spelled {parts : List Text}
    (h : ∀ part ∈ parts, part.diskName? = some part) : parts.map nameOf = parts := by
  rw [List.map_congr_left (g := id), List.map_id]
  intro part hpart
  rw [nameOf, h part hpart]
  rfl

theorem foldl_nextLocation_of_spelled {parts : List Text}
    (h : ∀ part ∈ parts, part.diskName? = some part) (l : Location) :
    parts.foldl nextLocation l = parts.foldl Path.climbStep l := by
  induction parts generalizing l with
  | nil => rfl
  | cons part rest ih =>
    obtain ⟨hpart, hrest⟩ := List.forall_mem_cons.1 h
    rw [List.foldl_cons, List.foldl_cons, ih hrest, nextLocation, nameOf, hpart, Option.getD_some,
      Path.climbStep]

/-- Parts that are spelled like their names lead to what they climb to. -/
theorem foldlM_stepFrom_eq_climb {parts : List Text}
    (hspelled : ∀ part ∈ parts, part.diskName? = some part)
    (h : parts.foldlM t.stepFrom (.on l) = .ok s) : s = .on (parts.foldl Path.climbStep l) := by
  rw [foldlM_stepFrom_eq_next h, foldl_nextLocation_of_spelled hspelled]

/-- Where a path starts. -/
def base (cwd : Standing) (p : Path) : Location := if p.isAbsolute then [] else cwd.location

theorem start_eq_on_base (hcwd : p.isAbsolute = false → cwd.lost = 0) :
    (if p.isAbsolute then Standing.on [] else cwd) = .on (base cwd p) := by
  rw [base]
  split
  · rfl
  · next hrelative =>
    obtain ⟨location, lost⟩ := cwd
    rw [Standing.on, Standing.mk.injEq]
    exact ⟨rfl, hcwd (by simpa using hrelative)⟩

theorem kind?_base (hcwd : t.Grounds cwd) (p : Path) : t.kind? (base cwd p) = some .directory := by
  rw [base]
  split
  · exact kind?_root t
  · exact hcwd

/-- What the parts before the last one climb to is the directory of the file that the path leads
to. -/
theorem foldl_climbStep_parent {bytes : ByteArray} (hgrounds : t.Grounds cwd)
    (hcwd : p.isAbsolute = false → cwd.lost = 0)
    (hspelled : ∀ part ∈ p.parts, part.diskName? = some part)
    (h : t.locate cwd p = .ok (.on place)) (hfile : t.kind? place = some (.file bytes)) :
    p.parent.parts.foldl Path.climbStep (base cwd p) = place.dropLast := by
  rcases List.eq_nil_or_concat' p.parts with hnil | ⟨front, last, hparts⟩
  · -- a path without parts leads to a directory
    rw [locate, hnil, start_eq_on_base hcwd] at h
    split at h
    · simp at h
    · cases h
      rw [kind?_base hgrounds p] at hfile
      simp at hfile
  · obtain ⟨middle, hfront, hstep⟩ := locate_last hparts h
    have hparent : p.parent.parts = front := by
      rw [Path.parts_parent, hparts, List.dropLast_concat]
    rw [hparts] at hspelled
    rw [start_eq_on_base hcwd] at hfront
    have hmiddle := foldlM_stepFrom_eq_climb
      (fun part hpart => hspelled part (List.mem_append_left _ hpart)) hfront
    rw [hparent]
    rcases stepFrom_cases hstep with ⟨hlost, -, -⟩ | ⟨-, hkind, -, hplace⟩ |
      ⟨-, -, -, -, name, -, hplace⟩
    · rw [hmiddle] at hlost
      simp [Standing.on] at hlost
    · -- two dots at the end lead to a directory
      rw [Standing.on, Standing.on, Standing.mk.injEq] at hplace
      rw [hplace.1, kind?_of_isPrefix (List.dropLast_prefix _) hkind] at hfile
      simp at hfile
    · rw [Standing.on, Standing.on, Standing.mk.injEq] at hplace
      rw [hplace.1, List.dropLast_concat, hmiddle]
      rfl

end FileTree

/-! ### The current directory -/

namespace Machine

variable {w : Machine}

/-- The current directory is there, under the names that its entries have. -/
structure InPlace (w : Machine) : Prop where
  lost : w.directory.lost = 0
  names : ∀ name ∈ w.directory.location, IsEntryName name

theorem InPlace.climb_location (h : w.InPlace) :
    Path.climb w.directory.location = w.directory.location := by
  rw [Path.climb, Path.foldl_climbStep_of_ne_dots fun name hname => (h.names name hname).ne_dots,
    List.nil_append]

theorem InPlace.directoryPath (h : w.InPlace) :
    ∃ cwd : Path, w.directoryPath = .ok cwd ∧ cwd.parts = w.directory.location := by
  have hlost : ¬ w.directory.lost > 0 := by rw [h.lost]; omega
  have hparts : w.directory.location.all isPathPart = true :=
    List.all_eq_true.2 fun name hname => (h.names name hname).part
  have hparse : (Path.parse (Text.join "/" w.directory.location)).parts = w.directory.location :=
    Path.partsOf_join hparts
  refine ⟨_, by rw [Machine.directoryPath, if_neg hlost], ?_⟩
  rw [Path.parts_resolve, Path.parts_join_top, hparse, h.climb_location]

end Machine

end DeployScript
