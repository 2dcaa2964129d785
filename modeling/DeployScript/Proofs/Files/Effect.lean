import DeployScript.Proofs.Files.Locate

/-!
# What operations do

Reading, making a directory and writing, each told by where its path leads and what stands there.
What an operation does to a file system is one update of the kinds or nothing.
-/

namespace DeployScript

/-- What is read of what stands somewhere. -/
def FileKind.read : FileKind → Except FileCause ByteArray
  | .file bytes => .ok bytes
  | .directory => .error .isDirectory
  | .nullDevice => .ok ByteArray.empty

namespace FileTree

variable {t t' : FileTree} {cwd s : Standing} {p : Path} {bytes : ByteArray}

theorem found?_enter_eq_none (h : t.kindAt? s = none) : (t.enter s).found? = none := by
  rw [← kindOf_found?_enter] at h
  exact Option.map_eq_none_iff.1 h

theorem found?_enter_eq_some {k : FileKind} (h : t.kindAt? s = some k) :
    ∃ n, (t.enter s).found? = some n ∧ t.kindOf n = k := by
  rw [← kindOf_found?_enter] at h
  exact Option.map_eq_some_iff.1 h

/-! ### Finding and reading -/

theorem find_of_locate_error {cause : FileCause} (h : t.locate cwd p = .error cause) :
    t.find cwd p = .error cause := by
  rw [find, walk_eq, h]
  rfl

theorem find_of_absent (h : t.locate cwd p = .ok s) (hkind : t.kindAt? s = none) :
    t.find cwd p = .error .missing := by
  rw [find, walk_eq, h]
  simp only [Except.map, found?_enter_eq_none hkind]

theorem find_of_kind {k : FileKind} (h : t.locate cwd p = .ok s) (hkind : t.kindAt? s = some k) :
    ∃ n, t.find cwd p = .ok n ∧ t.kindOf n = k := by
  obtain ⟨n, hn, hnkind⟩ := found?_enter_eq_some hkind
  refine ⟨n, ?_, hnkind⟩
  rw [find, walk_eq, h]
  simp only [Except.map, hn]

theorem find_eq_ok {n : FileNode} (h : t.find cwd p = .ok n) :
    ∃ s, t.locate cwd p = .ok s ∧ t.kindAt? s = some (t.kindOf n) := by
  cases hlocate : t.locate cwd p with
  | error cause =>
    rw [find_of_locate_error hlocate] at h
    simp at h
  | ok s =>
    refine ⟨s, rfl, ?_⟩
    cases hkind : t.kindAt? s with
    | none =>
      rw [find_of_absent hlocate hkind] at h
      simp at h
    | some k =>
      obtain ⟨n', hn', hnkind⟩ := find_of_kind hlocate hkind
      rw [hn', Except.ok.injEq] at h
      rw [← h, hnkind]

/-- Which kind of node is found is told by where the path leads and what stands there. -/
theorem map_kindOf_find (t : FileTree) (cwd : Standing) (p : Path) :
    (t.find cwd p).map t.kindOf = (t.locate cwd p).bind fun s =>
      (t.kindAt? s).elim (.error .missing) .ok := by
  cases hlocate : t.locate cwd p with
  | error cause =>
    rw [find_of_locate_error hlocate]
    rfl
  | ok s =>
    cases hkind : t.kindAt? s with
    | none =>
      rw [find_of_absent hlocate hkind]
      simp [Except.map, Except.bind, hkind]
    | some k =>
      obtain ⟨n, hn, hnkind⟩ := find_of_kind hlocate hkind
      rw [hn]
      simp [Except.map, Except.bind, hkind, hnkind]

/-- What is read tells what kind of node is found. -/
theorem read_eq (t : FileTree) (cwd : Standing) (p : Path) :
    t.read cwd p = ((t.find cwd p).map t.kindOf).bind FileKind.read := by
  rw [read]
  rcases t.find cwd p with cause | n
  · rfl
  · cases n <;> rfl

/-- Where nodes of one kind are found the same is read. -/
theorem read_congr {cwd' : Standing} {q : Path}
    (h : (t'.find cwd' q).map t'.kindOf = (t.find cwd p).map t.kindOf) :
    t'.read cwd' q = t.read cwd p := by
  rw [read_eq, read_eq, h]

/-- A file is read where its path leads to it; the null device reads as empty. -/
theorem read_eq_ok_iff :
    t.read cwd p = .ok bytes ↔
      ∃ s, t.locate cwd p = .ok s ∧
        (t.kindAt? s = some (.file bytes) ∨
          t.kindAt? s = some .nullDevice ∧ bytes = ByteArray.empty) := by
  rw [read_eq]
  constructor
  · intro h
    rcases hfind : t.find cwd p with cause | n
    · rw [hfind] at h
      simp [Except.map, Except.bind] at h
    · rw [hfind] at h
      obtain ⟨s, hlocate, hkind⟩ := find_eq_ok hfind
      refine ⟨s, hlocate, ?_⟩
      rw [hkind]
      change (t.kindOf n).read = .ok bytes at h
      cases hread : t.kindOf n with
      | file held =>
        rw [hread, FileKind.read, Except.ok.injEq] at h
        exact .inl (by rw [h])
      | directory => simp [hread, FileKind.read] at h
      | nullDevice =>
        rw [hread, FileKind.read, Except.ok.injEq] at h
        exact .inr ⟨rfl, h.symm⟩
  · rintro ⟨s, hlocate, hfile | ⟨hnull, rfl⟩⟩
    · obtain ⟨n, hn, hnkind⟩ := find_of_kind hlocate hfile
      rw [hn]
      change (t.kindOf n).read = _
      rw [hnkind]
      rfl
    · obtain ⟨n, hn, hnkind⟩ := find_of_kind hlocate hnull
      rw [hn]
      change (t.kindOf n).read = _
      rw [hnkind]
      rfl

/-! ### Making a directory -/

theorem makeDirectory_of_locate_error {cause : FileCause} (h : t.locate cwd p = .error cause) :
    t.makeDirectory cwd p = .error cause := by
  rw [makeDirectory, walk_eq, h]
  rfl

theorem makeDirectory_of_kind {k : FileKind} (h : t.locate cwd p = .ok s)
    (hkind : t.kindAt? s = some k) : t.makeDirectory cwd p = .error .present := by
  obtain ⟨n, hn, -⟩ := found?_enter_eq_some hkind
  rw [makeDirectory, walk_eq, h]
  simp only [Except.map, hn]

theorem makeDirectory_of_absent (h : t.locate cwd p = .ok s) (hkind : t.kindAt? s = none) :
    t.makeDirectory cwd p = .ok (t.set s.location (.directory [])) := by
  rw [makeDirectory, walk_eq, h]
  simp only [Except.map, found?_enter_eq_none hkind, location_enter]

/-- A directory is made where nothing was, and all else stays. -/
theorem makeDirectory_ok (hcwd : t.Grounds cwd) (h : t.makeDirectory cwd p = .ok t') :
    ∃ l, t.locate cwd p = .ok (.on l) ∧ t.kind? l = none ∧
      t'.kind? = Function.update t.kind? l (some .directory) ∧ t'.number? = t.number? := by
  cases hlocate : t.locate cwd p with
  | error cause =>
    rw [makeDirectory_of_locate_error hlocate] at h
    simp at h
  | ok s =>
    cases hkind : t.kindAt? s with
    | some k =>
      rw [makeDirectory_of_kind hlocate hkind] at h
      simp at h
    | none =>
      rw [makeDirectory_of_absent hlocate hkind, Except.ok.injEq] at h
      obtain ⟨above, name, rfl, habove⟩ := locate_absent hcwd hlocate hkind
      rw [kindAt?_on] at hkind
      have hold : t.kind? (above ++ [name]) ≠ some .directory := by
        rw [hkind]
        simp
      have hone : t.number? (above ++ [name]) = none :=
        number?_of_kind? fun bytes => by rw [hkind]; simp
      refine ⟨above ++ [name], rfl, hkind, ?_, ?_⟩
      · rw [← h]
        exact kind?_set habove rfl hold
      · rw [← h]
        exact number?_set habove rfl rfl hold hone

/-! ### Writing -/

theorem write_of_locate_error {cause : FileCause} (h : t.locate cwd p = .error cause)
    (bytes : ByteArray) : t.write cwd p bytes = .error cause := by
  rw [write, update, walk_eq, h]
  rfl

theorem found?_enter (t : FileTree) (s : Standing) :
    (t.enter s).found? = if s.lost > 0 then some (.directory []) else t.node? s.location := by
  rw [Walk.found?, node?_enter]
  rfl

/-- How a file is changed is told by where its path leads and what stands there. -/
theorem update_of_locate (h : t.locate cwd p = .ok s) (change : ByteArray → ByteArray) :
    t.update cwd p change = match t.kindAt? s with
      | some .directory => .error .isDirectory
      | some .nullDevice => .ok t
      | some (.file old) => .ok (t.fill s.location (change old))
      | none => .ok (t.fill s.location (change ByteArray.empty)) := by
  rw [update, walk_eq, h]
  simp only [Except.map, location_enter, found?_enter, kindAt?, kind?]
  by_cases hlost : s.lost > 0
  · simp only [hlost, if_true]
  · simp only [hlost, if_false]
    cases hn : t.node? s.location with
    | none => simp only [fill, number?, hn, Option.bind_none, Option.map_none]
    | some n => cases n <;> simp [kindOf, fill, number?, hn, FileNode.number?]

theorem write_of_directory (h : t.locate cwd p = .ok s) (hkind : t.kindAt? s = some .directory)
    (bytes : ByteArray) : t.write cwd p bytes = .error .isDirectory := by
  rw [write, update_of_locate h, hkind]

theorem update_of_nullDevice (h : t.locate cwd p = .ok s) (hkind : t.kindAt? s = some .nullDevice)
    (change : ByteArray → ByteArray) : t.update cwd p change = .ok t := by
  rw [update_of_locate h, hkind]

theorem write_of_nullDevice (h : t.locate cwd p = .ok s) (hkind : t.kindAt? s = some .nullDevice)
    (bytes : ByteArray) : t.write cwd p bytes = .ok t :=
  update_of_nullDevice h hkind fun _ => bytes

theorem update_of_file {old : ByteArray} (h : t.locate cwd p = .ok s)
    (hkind : t.kindAt? s = some (.file old)) (change : ByteArray → ByteArray) :
    t.update cwd p change = .ok (t.fill s.location (change old)) := by
  rw [update_of_locate h, hkind]

theorem write_of_file {old : ByteArray} (h : t.locate cwd p = .ok s)
    (hkind : t.kindAt? s = some (.file old)) (bytes : ByteArray) :
    t.write cwd p bytes = .ok (t.fill s.location bytes) :=
  update_of_file h hkind fun _ => bytes

theorem write_of_absent (h : t.locate cwd p = .ok s) (hkind : t.kindAt? s = none)
    (bytes : ByteArray) : t.write cwd p bytes = .ok (t.fill s.location bytes) := by
  rw [write, update_of_locate h, hkind]

theorem lost_eq_zero_of_kindAt? (h : t.kindAt? s ≠ some .directory) : s.lost = 0 := by
  by_contra hne
  exact h (by rw [kindAt?, if_pos (Nat.pos_of_ne_zero hne)])

theorem kindAt?_eq_kind? (h : s.lost = 0) : t.kindAt? s = t.kind? s.location := by
  rw [kindAt?, if_neg (by omega)]

/-- A file that is there is filled under all its names, and all else stays. -/
theorem filled_fill_of_file {old : ByteArray} (h : t.kindAt? s = some (.file old))
    (bytes : ByteArray) : t.Filled (t.fill s.location bytes) s.location bytes := by
  have hlost : s.lost = 0 := lost_eq_zero_of_kindAt? (by rw [h]; simp)
  rw [kindAt?_eq_kind? hlost] at h
  obtain ⟨above, name, hconcat, habove⟩ := exists_above h (by simp)
  rw [hconcat] at h ⊢
  exact filled_fill habove (by rw [h]; simp) bytes

/-- A file is written where its path leads and all else stays; the null device takes anything and
stays as it is. -/
theorem write_ok (hcwd : t.Grounds cwd) (h : t.write cwd p bytes = .ok t') :
    ∃ s, t.locate cwd p = .ok s ∧
      ((t.kindAt? s = some .nullDevice ∧ t' = t) ∨
        (s.lost = 0 ∧ (t.kind? s.location = none ∨ ∃ old, t.kind? s.location = some (.file old)) ∧
          t.Filled t' s.location bytes)) := by
  cases hlocate : t.locate cwd p with
  | error cause =>
    rw [write_of_locate_error hlocate] at h
    simp at h
  | ok s =>
    refine ⟨s, rfl, ?_⟩
    cases hkind : t.kindAt? s with
    | none =>
      rw [write_of_absent hlocate hkind, Except.ok.injEq] at h
      obtain ⟨above, name, rfl, habove⟩ := locate_absent hcwd hlocate hkind
      rw [kindAt?_on] at hkind
      refine .inr ⟨rfl, .inl hkind, ?_⟩
      rw [← h]
      exact filled_fill habove (by rw [hkind]; simp) bytes
    | some k =>
      cases k with
      | directory =>
        rw [write_of_directory hlocate hkind] at h
        simp at h
      | nullDevice =>
        rw [write_of_nullDevice hlocate hkind, Except.ok.injEq] at h
        exact .inl ⟨rfl, h.symm⟩
      | file old =>
        rw [write_of_file hlocate hkind, Except.ok.injEq] at h
        have hlost : s.lost = 0 := lost_eq_zero_of_kindAt? (by rw [hkind]; simp)
        refine .inr ⟨hlost, .inr ⟨old, ?_⟩, ?_⟩
        · rw [← kindAt?_eq_kind? hlost, hkind]
        · rw [← h]
          exact filled_fill_of_file hkind bytes

/-- The ways in which writing can go, told by what stands where the path leads. -/
theorem write_cases {l : Location} (hcwd : t.Grounds cwd) (h : t.locate cwd p = .ok (.on l))
    (bytes : ByteArray) :
    (t.kind? l = some .directory ∧ t.write cwd p bytes = .error .isDirectory) ∨
      (t.kind? l = some .nullDevice ∧ t.write cwd p bytes = .ok t) ∨
        (t.kind? l ≠ some .directory ∧ t.kind? l ≠ some .nullDevice ∧
          ∃ t', t.write cwd p bytes = .ok t' ∧ t.Filled t' l bytes) := by
  have hkindAt := t.kindAt?_on l
  cases hkind : t.kind? l with
  | none =>
    rw [hkind] at hkindAt
    have hwrite := write_of_absent h hkindAt bytes
    obtain ⟨s, hs, ⟨hnull, -⟩ | ⟨-, -, hfilled⟩⟩ := write_ok hcwd hwrite
    · rw [h, Except.ok.injEq] at hs
      rw [← hs, hkindAt] at hnull
      cases hnull
    · rw [h, Except.ok.injEq] at hs
      rw [← hs] at hfilled
      exact .inr (.inr ⟨by simp, by simp, _, hwrite, hfilled⟩)
  | some k =>
    rw [hkind] at hkindAt
    cases k with
    | directory => exact .inl ⟨rfl, write_of_directory h hkindAt bytes⟩
    | nullDevice => exact .inr (.inl ⟨rfl, write_of_nullDevice h hkindAt bytes⟩)
    | file old =>
      exact .inr (.inr ⟨by simp, by simp, _, write_of_file h hkindAt bytes,
        filled_fill_of_file hkindAt bytes⟩)

/-- To change a file is to write to it. -/
theorem exists_update_eq_write (t : FileTree) (cwd : Standing) (p : Path)
    (change : ByteArray → ByteArray) : ∃ bytes, t.update cwd p change = t.write cwd p bytes := by
  simp only [write, update]
  split
  · exact ⟨ByteArray.empty, rfl⟩
  · split
    · exact ⟨ByteArray.empty, rfl⟩
    · exact ⟨ByteArray.empty, rfl⟩
    · exact ⟨_, rfl⟩
    · exact ⟨_, rfl⟩
    · exact ⟨_, rfl⟩

/-- Writing what a file holds changes nothing. -/
theorem write_self (h : t.locate cwd p = .ok s) (hkind : t.kindAt? s = some (.file bytes)) :
    t.write cwd p bytes = .ok t := by
  have hlost : s.lost = 0 := lost_eq_zero_of_kindAt? (by rw [hkind]; simp)
  rw [write_of_file h hkind, fill_self]
  rw [← kindAt?_eq_kind? hlost, hkind]

end FileTree

end DeployScript
