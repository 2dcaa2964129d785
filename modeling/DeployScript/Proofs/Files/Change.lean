import DeployScript.Proofs.Files.Directories
import DeployScript.Proofs.Files.Texts

/-!
# What is changed

Making the directories above a path and then writing its file is told here as one change: which
regular files are the same, where new directories are, and that what is read elsewhere stays as it
was.
-/

namespace DeployScript

theorem Standing.eq_on {s : Standing} (h : s.lost = 0) : s = .on s.location := by
  obtain ⟨l, lost⟩ := s
  cases h
  rfl

namespace FileTree

/-- The regular files are the same, each with the bytes it had. -/
def SameRegularFiles (t t' : FileTree) : Prop :=
  ∀ l bytes, t'.kind? l = some (.file bytes) ↔ t.kind? l = some (.file bytes)

/-- The regular files are the same but for the one at a place. -/
def SameRegularFilesBut (t t' : FileTree) (place : Location) : Prop :=
  ∀ l bytes, ¬ t.SameFile l place →
    (t'.kind? l = some (.file bytes) ↔ t.kind? l = some (.file bytes))

/-- Every new directory is where a lexical parent of the path leads. -/
def NewDirectoriesAbove (t t' : FileTree) (cwd : Standing) (p : Path) : Prop :=
  ∀ l, t'.kind? l = some .directory → t.kind? l ≠ some .directory →
    ∃ k, t'.locate cwd (Path.parent^[k + 1] p) = .ok (.on l)

/-- Do the paths lead to the same file? -/
def SameFileAt (t : FileTree) (cwd : Standing) (p q : Path) : Prop :=
  ∃ l l', t.locate cwd p = .ok (.on l) ∧ t.locate cwd q = .ok (.on l') ∧ t.SameFile l l'

/-- Do the paths lead to one file under two of its names? -/
def LinkedAt (t : FileTree) (cwd : Standing) (p q : Path) : Prop :=
  ∃ l l', t.locate cwd p = .ok (.on l) ∧ t.locate cwd q = .ok (.on l') ∧ l ≠ l' ∧ t.SameFile l l'

variable {t t' t'' : FileTree} {cwd place s : Standing} {p q : Path} {bytes : ByteArray}

theorem sameFileAt_iff {l l' : Location} (h : t.locate cwd p = .ok (.on l))
    (h' : t.locate cwd q = .ok (.on l')) : t.SameFileAt cwd p q ↔ t.SameFile l l' := by
  constructor
  · rintro ⟨m, m', hm, hm', hsame⟩
    rw [h] at hm
    rw [h'] at hm'
    cases hm
    cases hm'
    exact hsame
  · exact fun hsame => ⟨l, l', h, h', hsame⟩

/-- A file with one name is not linked to. -/
theorem not_linkedAt_of_number? {l : Location} (h : t.locate cwd q = .ok (.on l))
    (hone : t.number? l = none) : ¬ t.LinkedAt cwd p q := by
  rintro ⟨m, m', -, hm', hne, heq | ⟨hnumber, heq⟩⟩
  · exact hne heq
  · rw [h] at hm'
    cases hm'
    exact hnumber (heq.trans hone)

namespace GrownAlong

theorem sameRegularFiles (h : t.GrownAlong t' cwd p) : t.SameRegularFiles t' :=
  fun _ _ => h.file_iff (by simp)

theorem newDirectoriesAbove (h : t.GrownAlong t' cwd p.parent) :
    t.NewDirectoriesAbove t' cwd p := by
  intro l hnow hbefore
  rcases h.kinds l with hsame | ⟨-, -, k, hplace⟩
  · exact absurd (hsame ▸ hnow) hbefore
  · exact ⟨k, hplace⟩

end GrownAlong

/-- What writing a file does, told by the place that its path leads to afterwards. -/
structure WrittenAt (t t' : FileTree) (cwd : Standing) (p : Path) (bytes : ByteArray)
    (place : Standing) : Prop where
  located : t'.locate cwd p = .ok place
  lost : place.lost = 0
  file : t.kindAt? place ≠ some .nullDevice → t'.kindAt? place = some (.file bytes)
  device : t.kindAt? place = some .nullDevice → t' = t
  others : ∀ l, ¬ t.SameFile l place.location → t'.kind? l = t.kind? l
  numbers : t'.number? = t.number?
  directories : ∀ l, t'.kind? l = some .directory ↔ t.kind? l = some .directory

theorem writtenAt_of_write (hcwd : t.Grounds cwd) (h : t.write cwd p bytes = .ok t') :
    ∃ place, t.WrittenAt t' cwd p bytes place := by
  obtain ⟨place, hlocate, ⟨hdevice, rfl⟩ | ⟨hlost, hbefore, hfilled⟩⟩ := write_ok hcwd h
  · have hlost : place.lost = 0 := lost_eq_zero_of_kindAt? (by rw [hdevice]; simp)
    exact ⟨place, hlocate, hlost, fun hne => absurd hdevice hne, fun _ => rfl, fun _ _ => rfl,
      rfl, fun _ => Iff.rfl⟩
  · have hplain : t.kind? place.location ≠ some .directory ∧
        t.kind? place.location ≠ some .nullDevice := by
      rcases hbefore with hnone | ⟨old, hold⟩
      · simp [hnone]
      · simp [hold]
    have hdirectories : ∀ l, t'.kind? l = some .directory ↔ t.kind? l = some .directory := by
      intro l
      by_cases hl : t.SameFile l place.location
      · simp [hfilled.names l hl, hl.kind?_eq, hplain.1]
      · rw [hfilled.others l hl]
    have hlocate' := locate_of_directories (fun l => (hdirectories l).2) hlocate
    refine ⟨place, hlocate', hlost, ?_, ?_, hfilled.others, hfilled.numbers, hdirectories⟩
    · intro _
      rw [kindAt?_eq_kind? hlost, hfilled.here]
    · intro hdevice
      rw [kindAt?_eq_kind? hlost] at hdevice
      exact absurd hdevice hplain.2

namespace WrittenAt

theorem sameFile_iff (h : t.WrittenAt t' cwd p bytes place) {l l' : Location} :
    t'.SameFile l l' ↔ t.SameFile l l' := by
  rw [SameFile, SameFile, h.numbers]

theorem sameRegularFilesBut (h : t'.WrittenAt t'' cwd p bytes place)
    (hgrown : t.GrownAlong t' cwd q) : t.SameRegularFilesBut t'' place.location := by
  intro l held hl
  rw [h.others l fun hsame => hl (hgrown.sameFile_iff.1 hsame)]
  exact hgrown.sameRegularFiles l held

theorem newDirectoriesAbove (h : t'.WrittenAt t'' cwd p bytes place)
    (hnew : t.NewDirectoriesAbove t' cwd p) : t.NewDirectoriesAbove t'' cwd p := by
  intro l hnow hbefore
  obtain ⟨k, hplace⟩ := hnew l ((h.directories l).1 hnow) hbefore
  exact ⟨k, locate_of_directories (fun l => (h.directories l).2) hplace⟩

theorem kindAt?_of_not_sameFile (h : t'.WrittenAt t'' cwd p bytes place)
    (hne : ¬ t'.SameFile s.location place.location) : t''.kindAt? s = t'.kindAt? s := by
  rw [kindAt?, kindAt?]
  split
  · rfl
  · exact h.others s.location hne

/-- Writing the same again changes nothing. -/
theorem write_again (h : t'.WrittenAt t'' cwd p bytes place) :
    t''.write cwd p bytes = .ok t'' := by
  by_cases hdevice : t'.kindAt? place = some .nullDevice
  · have hsame := h.device hdevice
    rw [← hsame] at hdevice
    exact write_of_nullDevice h.located hdevice bytes
  · exact write_self h.located (h.file hdevice)

end WrittenAt

/-- A text is read as before where directories were made and another file was written. -/
theorem HasText.of_written {text : String} (hgrown : t.GrownAlong t' cwd q.parent)
    (hplace : t'.WrittenAt t'' cwd q bytes place) (h : t.HasText cwd p text)
    (hne : ¬ t''.SameFileAt cwd p q) : t''.HasText cwd p text := by
  obtain ⟨hpath, held, hread, htext⟩ := h
  obtain ⟨s, hlocate, hkind⟩ := read_eq_ok_iff.1 hread
  have hlocate'' : t''.locate cwd p = .ok s :=
    locate_of_directories (fun l => (hplace.directories l).2) (hgrown.locate hlocate)
  have hlost : s.lost = 0 := by
    apply lost_eq_zero_of_kindAt? (t := t)
    rcases hkind with hfile | ⟨hdevice, -⟩
    · simp [hfile]
    · simp [hdevice]
  have hother : ¬ t'.SameFile s.location place.location := by
    intro hsame
    rw [Standing.eq_on hlost] at hlocate''
    have hplace' := hplace.located
    rw [Standing.eq_on hplace.lost] at hplace'
    exact hne ⟨_, _, hlocate'', hplace', hplace.sameFile_iff.2 hsame⟩
  have hsame := hplace.kindAt?_of_not_sameFile hother
  refine ⟨hpath, held, read_eq_ok_iff.2 ⟨s, hlocate'', ?_⟩, htext⟩
  rcases hkind with hfile | ⟨hdevice, hempty⟩
  · exact .inl (by rw [hsame, hgrown.kindAt?_iff (by simp), hfile])
  · exact .inr ⟨by rw [hsame, hgrown.kindAt?_iff (by simp), hdevice], hempty⟩

end FileTree

end DeployScript
