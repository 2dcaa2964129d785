import DeployScript.Proofs.Files.Change

/-!
# Writing at the end

A file that is open takes bytes at its end, again and again, and nothing else changes. The null
device takes them too, and keeps none.
-/

namespace DeployScript

namespace FileTree

variable {t t' t'' : FileTree} {cwd place : Standing} {p : Path} {bytes old added : ByteArray}

/-- An absolute path leads to the same place from everywhere. -/
theorem append_of_isAbsolute (h : p.isAbsolute = true) (cwd cwd' : Standing) (bytes : ByteArray) :
    t.append cwd p bytes = t.append cwd' p bytes := by
  simp only [append, update, walk, h, if_true]

/-- Where the path leads stands something that takes bytes. -/
def TakesBytes (t : FileTree) (cwd : Standing) (p : Path) : Prop :=
  ∃ place, t.locate cwd p = .ok place ∧
    (t.kindAt? place = some .nullDevice ∨ ∃ old, t.kindAt? place = some (.file old))

/-- The bytes were written at the end of the file at the path, if it keeps any, and nowhere else. -/
def Appended (t t' : FileTree) (cwd : Standing) (p : Path) (bytes : ByteArray) : Prop :=
  ∃ place, t.locate cwd p = .ok place ∧
    (t.kindAt? place = some .nullDevice ∧ t' = t ∨
      ∃ old, t.kindAt? place = some (.file old) ∧
        t.Filled t' place.location (old ++ bytes))

theorem append_of_file (h : t.locate cwd p = .ok place) (hkind : t.kindAt? place = some (.file old))
    (bytes : ByteArray) :
    t.append cwd p bytes = .ok (t.fill place.location (old ++ bytes)) :=
  update_of_file h hkind fun old => old ++ bytes

theorem append_of_nullDevice (h : t.locate cwd p = .ok place)
    (hkind : t.kindAt? place = some .nullDevice) (bytes : ByteArray) :
    t.append cwd p bytes = .ok t := update_of_nullDevice h hkind fun old => old ++ bytes

/-- Opening a file for writing at its end makes it, if it is not there. -/
theorem takesBytes_of_append (hcwd : t.Grounds cwd) (h : t.append cwd p bytes = .ok t') :
    t'.TakesBytes cwd p := by
  obtain ⟨held, hwrite⟩ := exists_update_eq_write t cwd p fun old => old ++ bytes
  rw [append, hwrite] at h
  obtain ⟨place, hplace⟩ := writtenAt_of_write hcwd h
  refine ⟨place, hplace.located, ?_⟩
  by_cases hdevice : t.kindAt? place = some .nullDevice
  · rw [hplace.device hdevice]
    exact .inl hdevice
  · exact .inr ⟨held, hplace.file hdevice⟩

theorem TakesBytes.append (h : t.TakesBytes cwd p) (bytes : ByteArray) :
    ∃ t', t.append cwd p bytes = .ok t' ∧ t.Appended t' cwd p bytes := by
  obtain ⟨place, hlocate, hdevice | ⟨old, hfile⟩⟩ := h
  · exact ⟨t, append_of_nullDevice hlocate hdevice bytes, place, hlocate, .inl ⟨hdevice, rfl⟩⟩
  · exact ⟨_, append_of_file hlocate hfile bytes, place, hlocate,
      .inr ⟨old, hfile, filled_fill_of_file hfile (old ++ bytes)⟩⟩

theorem TakesBytes.appended_empty (h : t.TakesBytes cwd p) :
    t.Appended t cwd p ByteArray.empty := by
  obtain ⟨place, hlocate, hdevice | ⟨old, hfile⟩⟩ := h
  · exact ⟨place, hlocate, .inl ⟨hdevice, rfl⟩⟩
  · refine ⟨place, hlocate, .inr ⟨old, hfile, ?_⟩⟩
    have hlost : place.lost = 0 := lost_eq_zero_of_kindAt? (by rw [hfile]; simp)
    rw [ByteArray.append_empty]
    exact .refl (by rw [← kindAt?_eq_kind? hlost, hfile])

/-- A file that bytes were written to is where it was, with the bytes at its end. -/
theorem located_of_update (hlocate : t.locate cwd p = .ok place)
    (hfile : t.kindAt? place = some (.file old))
    (hfilled : t.Filled t' place.location bytes) :
    t'.locate cwd p = .ok place ∧ t'.kindAt? place = some (.file bytes) := by
  have hlost : place.lost = 0 := lost_eq_zero_of_kindAt? (by rw [hfile]; simp)
  rw [kindAt?_eq_kind? hlost] at hfile ⊢
  constructor
  · apply locate_of_directories _ hlocate
    intro l hl
    have hother : ¬ t.SameFile l place.location := by
      intro hsame
      rw [hsame.kind?_eq, hfile] at hl
      cases hl
    rw [hfilled.others l hother, hl]
  · exact hfilled.here

theorem Appended.takesBytes (h : t.Appended t' cwd p bytes) : t'.TakesBytes cwd p := by
  obtain ⟨place, hlocate, ⟨hdevice, rfl⟩ | ⟨old, hfile, hfilled⟩⟩ := h
  · exact ⟨place, hlocate, .inl hdevice⟩
  · obtain ⟨hlocate', hfile'⟩ := located_of_update hlocate hfile hfilled
    exact ⟨place, hlocate', .inr ⟨_, hfile'⟩⟩

theorem Appended.trans (h : t.Appended t' cwd p bytes) (h' : t'.Appended t'' cwd p added) :
    t.Appended t'' cwd p (bytes ++ added) := by
  obtain ⟨place, hlocate, ⟨hdevice, rfl⟩ | ⟨old, hfile, hfilled⟩⟩ := h
  · obtain ⟨place', hlocate', ⟨-, rfl⟩ | ⟨old, hfile, -⟩⟩ := h'
    · exact ⟨place, hlocate, .inl ⟨hdevice, rfl⟩⟩
    · -- The null device is no file.
      rw [hlocate] at hlocate'
      cases hlocate'
      rw [hdevice] at hfile
      cases hfile
  · obtain ⟨hnow, hfile'⟩ := located_of_update hlocate hfile hfilled
    obtain ⟨place', hlocate', ⟨hdevice, -⟩ | ⟨old', hold, hfilled'⟩⟩ := h' <;>
      rw [hnow] at hlocate' <;> cases hlocate'
    · rw [hfile'] at hdevice
      cases hdevice
    · rw [hfile'] at hold
      cases hold
      refine ⟨place, hlocate, .inr ⟨old, hfile, ?_⟩⟩
      rw [← ByteArray.append_assoc]
      exact hfilled.trans hfilled'

end FileTree

end DeployScript
