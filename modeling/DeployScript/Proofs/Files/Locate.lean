import DeployScript.Proofs.Files.Kind

/-!
# Where a path leads

A walk through a file system is known by its standing: the location it has come to and how many
directories from there down were taken away. Where a path leads depends on the kinds of locations
alone, so that it leads to the same place in every file system that has the same directories and
more. The operations on files are told again by the standing that their path leads to.
-/

namespace DeployScript

theorem exists_of_bind_eq_ok {ε α β : Type} {x : Except ε α} {f : α → Except ε β} {b : β}
    (h : (x >>= f) = .ok b) : ∃ a, x = .ok a ∧ f a = .ok b := by
  cases x with
  | error e => simp [bind, Except.bind] at h
  | ok a => exact ⟨a, rfl, h⟩

namespace FileTree

/-! ### Walks and standings -/

theorem location_foldl_into (w : Walk) (l : Location) :
    (l.foldl Walk.into w).location = w.location ++ l := by
  induction l generalizing w with
  | nil => simp
  | cons name l ih => rw [List.foldl_cons, ih]; simp [Walk.location, Walk.into, Walk.down]

theorem enter_concat (t : FileTree) (l : Location) (name : Text) :
    t.enter (.on (l ++ [name])) = (t.enter (.on l)).into name := by
  simp [enter, Standing.on, Walk.into, Walk.down]

theorem node?_enter (t : FileTree) (s : Standing) : (t.enter s).node? = t.node? s.location := by
  change (t.enter (.on s.location)).node? = t.node? s.location
  induction s.location using List.reverseRecOn with
  | nil => rfl
  | append_singleton l name ih =>
    rw [enter_concat, Walk.into, Walk.down, ih, node?_append]
    cases t.node? l with
    | none => rfl
    | some n => simp [FileNode.below?]

theorem location_enter (t : FileTree) (s : Standing) : (t.enter s).location = s.location := by
  change (s.location.foldl Walk.into t.start).location = s.location
  rw [location_foldl_into]
  rfl

/-- Stepping up from a place that something is at. -/
theorem up_enter {t : FileTree} {l : Location} (h : t.kind? l ≠ none) :
    (t.enter (.on l)).up = t.enter (.on l.dropLast) := by
  induction l using List.reverseRecOn with
  | nil => rfl
  | append_singleton l name _ =>
    have habove := kind?_of_append_ne_none (List.cons_ne_nil name []) h
    obtain ⟨n, hn, -⟩ := node?_of_kind? habove
    have hnode : (t.enter (.on l)).node? = some n := (node?_enter t (.on l)).trans hn
    rw [List.dropLast_concat, enter_concat, Walk.into, Walk.down, Walk.up, hnode, Option.getD_some]
    simp only [← hnode]

/-- What stands at a standing. A directory that was taken away is still one. -/
def kindAt? (t : FileTree) (s : Standing) : Option FileKind :=
  if s.lost > 0 then some .directory else t.kind? s.location

theorem kindOf_found?_enter (t : FileTree) (s : Standing) :
    (t.enter s).found?.map t.kindOf = t.kindAt? s := by
  have hlost : (t.enter s).lost = s.lost := rfl
  rw [Walk.found?, kindAt?, hlost]
  split
  · rfl
  · rw [node?_enter]
    rfl

/-! ### Locating -/

/-- The standing after one more part of a path. -/
def stepFrom (t : FileTree) (s : Standing) (part : Text) : Except FileCause Standing :=
  if s.lost > 0 then
    if part = ".." then .ok ⟨s.location, s.lost - 1⟩ else .error .missing
  else match t.kind? s.location with
    | none => .error .missing
    | some .directory =>
      if part = ".." then .ok (.on s.location.dropLast)
      else if part.nameSize > maxNameBytes then .error .nameTooLong
      else match part.diskName? with
        | some name => .ok (.on (s.location ++ [name]))
        | none => .error .noName
    | some _ => .error .notDirectory

def locate (t : FileTree) (cwd : Standing) (p : Path) : Except FileCause Standing :=
  if p.text.nameSize ≥ maxPathBytes then .error .nameTooLong
  else p.parts.foldlM t.stepFrom (if p.isAbsolute then .on [] else cwd)

theorem step_enter (t : FileTree) (s : Standing) (part : Text) :
    (t.enter s).step part = (t.stepFrom s part).map t.enter := by
  obtain ⟨l, lost⟩ := s
  have hlost : (t.enter ⟨l, lost⟩).lost = lost := rfl
  rw [Walk.step, stepFrom, hlost]
  by_cases hpos : lost > 0
  · simp only [hpos, if_true]
    by_cases hpart : part = ".."
    · simp only [hpart, if_true]
      rfl
    · simp only [hpart, if_false]
      rfl
  · have hzero : lost = 0 := by omega
    subst hzero
    simp only [hpos, if_false, node?_enter, kind?]
    cases hn : t.node? l with
    | none => rfl
    | some n =>
      cases n with
      | file bytes => rfl
      | shared number => rfl
      | nullDevice => rfl
      | directory entries =>
        simp only [Option.map_some, kindOf]
        by_cases hpart : part = ".."
        · simp only [hpart, if_true, Except.map]
          have hkind : t.kind? l ≠ none := by simp [kind?, hn]
          exact congrArg Except.ok (up_enter hkind)
        · simp only [hpart, if_false]
          by_cases hsize : part.nameSize > maxNameBytes
          · simp only [hsize, if_true]
            rfl
          · simp only [hsize, if_false]
            cases part.diskName? with
            | none => rfl
            | some name =>
              have hnode : (t.enter (.on l)).node? = some (.directory entries) :=
                (node?_enter t (.on l)).trans hn
              simp only [Except.map]
              rw [enter_concat, Walk.into, hnode]
              rfl

theorem foldlM_step_enter (t : FileTree) (s : Standing) (parts : List Text) :
    parts.foldlM Walk.step (t.enter s) = (parts.foldlM t.stepFrom s).map t.enter := by
  induction parts generalizing s with
  | nil => rfl
  | cons part rest ih =>
    rw [List.foldlM_cons, List.foldlM_cons, step_enter]
    cases t.stepFrom s part with
    | error cause => rfl
    | ok s' => exact ih s'

/-- A walk is where its path is located. -/
theorem walk_eq (t : FileTree) (cwd : Standing) (p : Path) :
    t.walk cwd p = (t.locate cwd p).map t.enter := by
  rw [walk, locate]
  split
  · rfl
  · have hstart : (if p.isAbsolute then t.start else t.enter cwd) =
        t.enter (if p.isAbsolute then .on [] else cwd) := by
      split
      · rfl
      · rfl
    rw [hstart, foldlM_step_enter]

/-! ### Steps -/

theorem stepFrom_cases {t : FileTree} {s s' : Standing} {part : Text}
    (h : t.stepFrom s part = .ok s') :
    (s.lost > 0 ∧ part = ".." ∧ s' = ⟨s.location, s.lost - 1⟩) ∨
      (s.lost = 0 ∧ t.kind? s.location = some .directory ∧ part = ".." ∧
        s' = .on s.location.dropLast) ∨
      (s.lost = 0 ∧ t.kind? s.location = some .directory ∧ part ≠ ".." ∧
        part.nameSize ≤ maxNameBytes ∧
          ∃ name, part.diskName? = some name ∧ s' = .on (s.location ++ [name])) := by
  rw [stepFrom] at h
  split at h
  · next hlost =>
    split at h
    · next hpart => exact .inl ⟨hlost, hpart, by simpa using h.symm⟩
    · simp at h
  · next hlost =>
    have hzero : s.lost = 0 := by omega
    split at h
    · simp at h
    · next hkind =>
      split at h
      · next hpart => exact .inr (.inl ⟨hzero, hkind, hpart, by simpa using h.symm⟩)
      · next hpart =>
        split at h
        · simp at h
        · next hsize =>
          split at h
          · next name hname =>
            exact .inr (.inr ⟨hzero, hkind, hpart, by omega, name, hname, by simpa using h.symm⟩)
          · simp at h
    · simp at h

/-- A step leads to the same place where the same directories are. -/
theorem stepFrom_of_directories {t t' : FileTree} {s s' : Standing} {part : Text}
    (hkept : ∀ l, t.kind? l = some .directory → t'.kind? l = some .directory)
    (h : t.stepFrom s part = .ok s') : t'.stepFrom s part = .ok s' := by
  rcases stepFrom_cases h with ⟨hlost, rfl, rfl⟩ | ⟨hlost, hkind, rfl, rfl⟩ |
    ⟨hlost, hkind, hpart, hsize, name, hname, rfl⟩
  · simp [stepFrom, hlost]
  · simp [stepFrom, hlost, hkept _ hkind]
  · have hsize' : ¬ part.nameSize > maxNameBytes := by omega
    simp [stepFrom, hlost, hkept _ hkind, hpart, hsize', hname]

theorem foldlM_stepFrom_of_directories {t t' : FileTree} {s s' : Standing} {parts : List Text}
    (hkept : ∀ l, t.kind? l = some .directory → t'.kind? l = some .directory)
    (h : parts.foldlM t.stepFrom s = .ok s') : parts.foldlM t'.stepFrom s = .ok s' := by
  induction parts generalizing s with
  | nil => exact h
  | cons part rest ih =>
    rw [List.foldlM_cons] at h ⊢
    obtain ⟨middle, hstep, hrest⟩ := exists_of_bind_eq_ok h
    rw [stepFrom_of_directories hkept hstep]
    exact ih hrest

/-- A path leads to the same place where the same directories are. -/
theorem locate_of_directories {t t' : FileTree} {cwd s : Standing} {p : Path}
    (hkept : ∀ l, t.kind? l = some .directory → t'.kind? l = some .directory)
    (h : t.locate cwd p = .ok s) : t'.locate cwd p = .ok s := by
  rw [locate] at h ⊢
  split at h
  · simp at h
  · next hsize =>
    rw [if_neg hsize]
    exact foldlM_stepFrom_of_directories hkept h

/-- The last part of a path is one step from where the others lead. -/
theorem locate_last {t : FileTree} {cwd s : Standing} {p : Path} {front : List Text} {last : Text}
    (hparts : p.parts = front ++ [last]) (h : t.locate cwd p = .ok s) :
    ∃ middle, front.foldlM t.stepFrom (if p.isAbsolute then .on [] else cwd) = .ok middle ∧
      t.stepFrom middle last = .ok s := by
  rw [locate] at h
  split at h
  · simp at h
  · rw [hparts, List.foldlM_append] at h
    obtain ⟨middle, hfront, hlast⟩ := exists_of_bind_eq_ok h
    rw [List.foldlM_cons] at hlast
    obtain ⟨s', hstep, hnil⟩ := exists_of_bind_eq_ok hlast
    cases hnil
    exact ⟨middle, hfront, hstep⟩

/-- A path leads to a place with the name of its last part, unless that is two dots. -/
theorem exists_name_of_locate {t : FileTree} {cwd s : Standing} {p : Path} {front : List Text}
    {last : Text} (hparts : p.parts = front ++ [last]) (hlast : last ≠ "..")
    (h : t.locate cwd p = .ok s) :
    ∃ l name, s = .on (l ++ [name]) ∧ last.diskName? = some name := by
  obtain ⟨middle, -, hstep⟩ := locate_last hparts h
  rcases stepFrom_cases hstep with ⟨-, hdots, -⟩ | ⟨-, -, hdots, -⟩ | ⟨-, -, -, -, name, hname, rfl⟩
  · exact absurd hdots hlast
  · exact absurd hdots hlast
  · exact ⟨_, name, rfl, hname⟩

/-! ### The current directory -/

/-- Is the current directory there, or the nearest one above it that is left? -/
def Grounds (t : FileTree) (cwd : Standing) : Prop := t.kind? cwd.location = some .directory

/-- As long as directories are lost, the walk stands at one that is left. -/
theorem grounds_of_foldlM {t : FileTree} {s s' : Standing} {parts : List Text}
    (hs : s.lost > 0 → t.Grounds s) (h : parts.foldlM t.stepFrom s = .ok s') :
    s'.lost > 0 → t.Grounds s' := by
  induction parts generalizing s with
  | nil =>
    cases h
    exact hs
  | cons part rest ih =>
    rw [List.foldlM_cons] at h
    obtain ⟨middle, hstep, hrest⟩ := exists_of_bind_eq_ok h
    refine ih ?_ hrest
    intro hlost
    rcases stepFrom_cases hstep with ⟨hpos, -, rfl⟩ | ⟨-, -, -, rfl⟩ | ⟨-, -, -, -, _, -, rfl⟩
    · exact hs hpos
    · simp [Standing.on] at hlost
    · simp [Standing.on] at hlost

theorem kindAt?_on (t : FileTree) (l : Location) : t.kindAt? (.on l) = t.kind? l := by
  simp [kindAt?, Standing.on]

/-- Where a path leads to nothing, a directory is above. -/
theorem locate_absent {t : FileTree} {cwd s : Standing} {p : Path} (hcwd : t.Grounds cwd)
    (h : t.locate cwd p = .ok s) (habsent : t.kindAt? s = none) :
    ∃ above name, s = .on (above ++ [name]) ∧ t.kind? above = some .directory := by
  have hlost : s.lost = 0 := by
    by_contra hne
    simp [kindAt?, Nat.pos_of_ne_zero hne] at habsent
  have hstart : t.Grounds (if p.isAbsolute then .on [] else cwd) := by
    split
    · exact kind?_root t
    · exact hcwd
  rcases List.eq_nil_or_concat' p.parts with hnil | ⟨front, last, hparts⟩
  · rw [locate] at h
    split at h
    · simp at h
    · rw [hnil] at h
      cases h
      rw [kindAt?, hlost, if_neg (Nat.lt_irrefl 0), hstart] at habsent
      exact absurd habsent (by simp)
  · obtain ⟨middle, hfront, hstep⟩ := locate_last hparts h
    rcases stepFrom_cases hstep with ⟨hpos, -, rfl⟩ | ⟨-, hkind, -, rfl⟩ |
      ⟨-, hkind, -, -, name, -, rfl⟩
    · -- the last directory that was lost has been left for one that is there
      have hground := grounds_of_foldlM (fun _ => hstart) hfront hpos
      rw [kindAt?, hlost, if_neg (Nat.lt_irrefl 0), hground] at habsent
      exact absurd habsent (by simp)
    · rw [kindAt?_on, kind?_of_isPrefix (List.dropLast_prefix _) hkind] at habsent
      exact absurd habsent (by simp)
    · exact ⟨middle.location, name, rfl, hkind⟩

end FileTree

end DeployScript
