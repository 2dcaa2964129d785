import DeployScript.Proofs.Files.Effect
import DeployScript.Proofs.Host.Action
import Mathlib.Logic.Function.Iterate

/-!
# Making directories

Making a directory with all those above it lets a file system grow: whatever stood somewhere stands
there still, and what is new are directories, each where the path or one of its lexical parents
leads.
-/

namespace DeployScript

namespace FileTree

/-- Does the path lead to a directory? -/
def DirectoryAt (t : FileTree) (cwd : Standing) (p : Path) : Prop :=
  ∃ s, t.locate cwd p = .ok s ∧ t.kindAt? s = some .directory

/-- Nothing is other than before but for new directories, each where the path or one of its lexical
parents leads now. -/
structure GrownAlong (t t' : FileTree) (cwd : Standing) (p : Path) : Prop where
  kinds : ∀ l, t'.kind? l = t.kind? l ∨
    t.kind? l = none ∧ t'.kind? l = some .directory ∧
      ∃ k, t'.locate cwd (Path.parent^[k] p) = .ok (.on l)
  numbers : t'.number? = t.number?

variable {t t' t'' : FileTree} {cwd : Standing} {p : Path} {l : Location} {k : FileKind}

theorem DirectoryAt.kept (hkept : ∀ l, t.kind? l = some .directory → t'.kind? l = some .directory)
    (h : t.DirectoryAt cwd p) : t'.DirectoryAt cwd p := by
  obtain ⟨s, hlocate, hkind⟩ := h
  refine ⟨s, locate_of_directories hkept hlocate, ?_⟩
  rw [kindAt?] at hkind ⊢
  split
  · rfl
  · next hlost =>
    rw [if_neg hlost] at hkind
    exact hkept _ hkind

namespace GrownAlong

theorem refl (t : FileTree) (cwd : Standing) (p : Path) : t.GrownAlong t cwd p :=
  ⟨fun _ => .inl rfl, rfl⟩

theorem of_eq (h : t' = t) (cwd : Standing) (p : Path) : t.GrownAlong t' cwd p :=
  h ▸ refl t cwd p

theorem kept (h : t.GrownAlong t' cwd p) (hl : t.kind? l = some k) : t'.kind? l = some k := by
  rcases h.kinds l with hsame | ⟨hnone, -, -⟩
  · rw [hsame, hl]
  · rw [hnone] at hl
    simp at hl

theorem grounds (h : t.GrownAlong t' cwd p) (hcwd : t.Grounds cwd) : t'.Grounds cwd := h.kept hcwd

theorem sameFile_iff (h : t.GrownAlong t' cwd p) {l l' : Location} :
    t'.SameFile l l' ↔ t.SameFile l l' := by
  rw [SameFile, SameFile, h.numbers]

theorem locate {q : Path} {s : Standing} (h : t.GrownAlong t' cwd p) (hs : t.locate cwd q = .ok s) :
    t'.locate cwd q = .ok s := locate_of_directories (fun _ hl => h.kept hl) hs

theorem trans (h : t.GrownAlong t' cwd p) (h' : t'.GrownAlong t'' cwd p) :
    t.GrownAlong t'' cwd p := by
  refine ⟨?_, h'.numbers.trans h.numbers⟩
  intro l
  rcases h'.kinds l with hsame | ⟨hnone, hnew, hplace⟩
  · rcases h.kinds l with hbefore | ⟨hnone, hnew, k, hplace⟩
    · exact .inl (hsame.trans hbefore)
    · exact .inr ⟨hnone, hsame.trans hnew, k, h'.locate hplace⟩
  · rcases h.kinds l with hbefore | ⟨-, hthere, -⟩
    · exact .inr ⟨hbefore ▸ hnone, hnew, hplace⟩
    · rw [hthere] at hnone
      simp at hnone

theorem of_parent (h : t.GrownAlong t' cwd p.parent) : t.GrownAlong t' cwd p := by
  refine ⟨?_, h.numbers⟩
  intro l
  rcases h.kinds l with hsame | ⟨hnone, hnew, k, hplace⟩
  · exact .inl hsame
  · exact .inr ⟨hnone, hnew, k + 1, hplace⟩

theorem file_iff (h : t.GrownAlong t' cwd p) (hk : k ≠ .directory) :
    t'.kind? l = some k ↔ t.kind? l = some k := by
  rcases h.kinds l with hsame | ⟨hnone, hnew, -⟩
  · rw [hsame]
  · rw [hnone, hnew]
    simp [Ne.symm hk]

theorem kindAt?_iff {s : Standing} (h : t.GrownAlong t' cwd p) (hk : k ≠ .directory) :
    t'.kindAt? s = some k ↔ t.kindAt? s = some k := by
  rw [kindAt?, kindAt?]
  split
  · exact Iff.rfl
  · exact h.file_iff hk

end GrownAlong

/-- A directory that was made stands where its path leads. -/
theorem grownAlong_makeDirectory (hcwd : t.Grounds cwd) (h : t.makeDirectory cwd p = .ok t') :
    t.GrownAlong t' cwd p ∧ t'.DirectoryAt cwd p := by
  obtain ⟨here, hlocate, hnone, hkinds, hnumbers⟩ := makeDirectory_ok hcwd h
  have hthere : t'.kind? here = some .directory := by rw [hkinds, Function.update_self]
  have hkept : ∀ l, t.kind? l = some .directory → t'.kind? l = some .directory := by
    intro l hl
    by_cases heq : l = here
    · rw [heq, hthere]
    · rw [hkinds, Function.update_of_ne heq, hl]
  have hlocate' := locate_of_directories hkept hlocate
  refine ⟨⟨?_, hnumbers⟩, .on here, hlocate', by rw [kindAt?_on, hthere]⟩
  intro l
  by_cases heq : l = here
  · rw [heq]
    exact .inr ⟨hnone, hthere, 0, hlocate'⟩
  · exact .inl (by rw [hkinds, Function.update_of_ne heq])

end FileTree

namespace Action

variable {w : Machine} {p : Path} {s : Standing}

/-! ### One directory -/

theorem on_makeOne_of_locate_error {cause : FileCause}
    (h : w.tree.locate w.directory p = .error cause) :
    (makeOne p).on w = (.ok (.error (Machine.fileError p cause)), w) := by
  have hmake : (liftM (Host.makeDirectory p : OnMachine _) : Action OnMachine _).on w =
      (.ok (.error (Machine.fileError p cause)), w) := by
    rw [on_lift]
    change (Except.ok (w.withTree p _).1, (w.withTree p _).2) = _
    rw [FileTree.makeDirectory_of_locate_error h]
    rfl
  have htest : (liftM (Host.isDirectory p : OnMachine _) : Action OnMachine _).on w =
      (.ok (w.testNode p FileNode.isDirectory), w) := rfl
  rw [makeOne, on_bind_ok hmake]
  by_cases hmissing : cause = .missing
  · simp [Machine.fileError, hmissing]
  · simp only [Machine.fileError, hmissing, if_false]
    rw [on_bind_ok htest, Machine.testNode, FileTree.find_of_locate_error h]
    cases cause with
    | missing => exact absurd rfl hmissing
    | _ => rfl

theorem on_makeOne_of_absent (h : w.tree.locate w.directory p = .ok s)
    (hkind : w.tree.kindAt? s = none) :
    ∃ t', w.tree.makeDirectory w.directory p = .ok t' ∧
      (makeOne p).on w = (.ok (.ok ()), { w with tree := t' }) := by
  have hmade := FileTree.makeDirectory_of_absent h hkind
  refine ⟨_, hmade, ?_⟩
  have hmake : (liftM (Host.makeDirectory p : OnMachine _) : Action OnMachine _).on w =
      (.ok (.ok ()), { w with tree := w.tree.set s.location (.directory []) }) := by
    rw [on_lift]
    change (Except.ok (w.withTree p _).1, (w.withTree p _).2) = _
    rw [hmade]
    rfl
  rw [makeOne, on_bind_ok hmake]
  rfl

/-- What stands there already is accepted if it is a directory. -/
theorem on_makeOne_of_find {n : FileNode} (hfind : w.tree.find w.directory p = .ok n) :
    (makeOne p).on w =
      (.ok (if n.isDirectory then .ok () else .error (Machine.fileError p .present)), w) := by
  obtain ⟨s, hlocate, hkind⟩ := FileTree.find_eq_ok hfind
  have hmake : (liftM (Host.makeDirectory p : OnMachine _) : Action OnMachine _).on w =
      (.ok (.error (Machine.fileError p .present)), w) := by
    rw [on_lift]
    change (Except.ok (w.withTree p _).1, (w.withTree p _).2) = _
    rw [FileTree.makeDirectory_of_kind hlocate hkind]
    rfl
  have htest : (liftM (Host.isDirectory p : OnMachine _) : Action OnMachine _).on w =
      (.ok (.ok n.isDirectory), w) := by
    rw [on_lift]
    change (Except.ok (w.testNode p FileNode.isDirectory), w) = _
    rw [Machine.testNode, hfind]
  rw [makeOne, on_bind_ok hmake]
  simp only [Machine.fileError, reduceCtorEq, if_false]
  rw [on_bind_ok htest]
  cases n.isDirectory <;> rfl

theorem on_makeOne_of_directoryAt (h : w.tree.DirectoryAt w.directory p) :
    (makeOne p).on w = (.ok (.ok ()), w) := by
  obtain ⟨s, hlocate, hkind⟩ := h
  obtain ⟨n, hn, hnkind⟩ := FileTree.find_of_kind hlocate hkind
  rw [on_makeOne_of_find hn, FileTree.isDirectory_of_kindOf hnkind]
  rfl

/-- Making one directory makes it, finds it, or refuses and changes nothing. -/
theorem on_makeOne (hcwd : w.tree.Grounds w.directory) (p : Path) :
    (∃ e, (makeOne p).on w = (.ok (.error e), w)) ∨
      ∃ t', (makeOne p).on w = (.ok (.ok ()), { w with tree := t' }) ∧
        w.tree.GrownAlong t' w.directory p ∧ t'.DirectoryAt w.directory p := by
  cases hlocate : w.tree.locate w.directory p with
  | error cause => exact .inl ⟨_, on_makeOne_of_locate_error hlocate⟩
  | ok s =>
    cases hkind : w.tree.kindAt? s with
    | none =>
      obtain ⟨t', hmade, hon⟩ := on_makeOne_of_absent hlocate hkind
      exact .inr ⟨t', hon, FileTree.grownAlong_makeDirectory hcwd hmade⟩
    | some k =>
      obtain ⟨n, hn, hnkind⟩ := FileTree.find_of_kind hlocate hkind
      have hon := on_makeOne_of_find hn
      by_cases hdirectory : n.isDirectory = true
      · rw [if_pos hdirectory] at hon
        have hthere : w.tree.DirectoryAt w.directory p :=
          ⟨s, hlocate, by rw [hkind, ← hnkind, FileTree.kindOf_of_isDirectory _ hdirectory]⟩
        exact .inr ⟨w.tree, hon, .refl _ _ _, hthere⟩
      · rw [if_neg hdirectory] at hon
        exact .inl ⟨_, hon⟩

/-! ### All directories above -/

/-- Making directories lets the files grow along the path, and ends well only where the path then
leads to a directory. -/
theorem on_makeAll (levels : Nat) (hcwd : w.tree.Grounds w.directory) (p : Path) :
    ∃ result t', (makeAll levels p).on w = (result, { w with tree := t' }) ∧
      w.tree.GrownAlong t' w.directory p ∧
        (result = .ok (.ok ()) → t'.DirectoryAt w.directory p) := by
  induction levels generalizing p with
  | zero => exact ⟨_, w.tree, rfl, .refl _ _ _, by simp⟩
  | succ levels ih =>
    rcases on_makeOne hcwd p with ⟨e, hone⟩ | ⟨t', hone, hgrown, hthere⟩
    · by_cases hstop : e.cause ≠ .missing ∨ p.parts = []
      · refine ⟨.ok (.error e), w.tree, ?_, .refl _ _ _, by simp⟩
        rw [makeAll, on_bind_ok hone]
        simp only [hstop, if_true]
        rfl
      · obtain ⟨result, t', habove, hgrown, -⟩ := ih p.parent
        have hall : (makeAll (levels + 1) p).on w = match (makeAll levels p.parent).on w with
            | (.error e, w') => (.error e, w')
            | (.ok (.error e), w') => (.ok (.error e), w')
            | (.ok (.ok ()), w') => (makeOne p).on w' := by
          rw [makeAll, on_bind_ok hone]
          simp only [hstop, if_false]
          rw [on_bind]
          rcases (makeAll levels p.parent).on w with ⟨abort | e' | ⟨⟩, w'⟩
          · rfl
          · rfl
          · rfl
        rw [hall, habove]
        rcases result with abort | ⟨e'⟩ | ⟨⟩
        · exact ⟨_, t', rfl, hgrown.of_parent, by simp⟩
        · exact ⟨.ok (.error e'), t', rfl, hgrown.of_parent, by simp⟩
        · -- the directories above are there: what is left is the last one
          have hlast := on_makeOne (w := { w with tree := t' }) (hgrown.grounds hcwd) p
          rcases hlast with ⟨e', hlast⟩ | ⟨t'', hlast, hgrown', hthere⟩
          · exact ⟨.ok (.error e'), t', hlast, hgrown.of_parent, by simp⟩
          · exact ⟨.ok (.ok ()), t'', hlast, hgrown.of_parent.trans hgrown', fun _ => hthere⟩
    · refine ⟨.ok (.ok ()), t', ?_, hgrown, fun _ => hthere⟩
      rw [makeAll, on_bind_ok hone]
      rfl

/-- Making one directory never crashes, and tells of a missing one where the path is out of
reach. -/
theorem on_makeOne_cases (w : Machine) (p : Path) :
    (w.tree.locate w.directory p = .error .missing ∧
        (makeOne p).on w = (.ok (.error (Machine.fileError p .missing)), w)) ∨
      w.tree.locate w.directory p ≠ .error .missing ∧
        ∃ x w', (makeOne p).on w = (.ok x, w') ∧ ∀ e, x = .error e → e.cause ≠ .missing := by
  cases hlocate : w.tree.locate w.directory p with
  | error cause =>
    have hon := on_makeOne_of_locate_error hlocate
    by_cases hmissing : cause = .missing
    · rw [hmissing] at hon ⊢
      exact .inl ⟨rfl, hon⟩
    · refine .inr ⟨by simpa using hmissing, _, _, hon, ?_⟩
      rintro e ⟨⟩
      exact hmissing
  | ok s =>
    refine .inr ⟨by simp, ?_⟩
    cases hkind : w.tree.kindAt? s with
    | none =>
      obtain ⟨t', -, hon⟩ := on_makeOne_of_absent hlocate hkind
      exact ⟨_, _, hon, by simp⟩
    | some k =>
      obtain ⟨n, hn, -⟩ := FileTree.find_of_kind hlocate hkind
      refine ⟨_, _, on_makeOne_of_find hn, ?_⟩
      intro e he
      split at he
      · simp at he
      · cases he
        simp [Machine.fileError]

/-- Are a path and so many of its lexical parents all out of reach? -/
def OutOfReach (w : Machine) (levels : Nat) (p : Path) : Prop :=
  ∀ k < levels, (Path.parent^[k] p).parts ≠ [] ∧
    w.tree.locate w.directory (Path.parent^[k] p) = .error .missing

theorem outOfReach_succ {levels : Nat} :
    OutOfReach w (levels + 1) p ↔
      (p.parts ≠ [] ∧ w.tree.locate w.directory p = .error .missing) ∧
        OutOfReach w levels p.parent := by
  constructor
  · intro h
    refine ⟨h 0 (by omega), ?_⟩
    intro k hk
    exact h (k + 1) (by omega)
  · rintro ⟨hhere, habove⟩ k hk
    cases k with
    | zero => exact hhere
    | succ k => exact habove k (by omega)

/-- Making directories crashes where too many of them are missing, and for no other reason. -/
theorem on_makeAll_crash_iff {levels : Nat} {c : Crash} :
    ((makeAll levels p).on w).1 = .error (.crash c) ↔
      c = .nestedTooDeeply ∧ OutOfReach w levels p := by
  induction levels generalizing p with
  | zero =>
    have hnone : OutOfReach w 0 p := fun k hk => absurd hk (Nat.not_lt_zero k)
    rw [makeAll, on_crash]
    simp only [Except.error.injEq, Abort.crash.injEq, hnone, and_true]
    exact eq_comm
  | succ levels ih =>
    rcases on_makeOne_cases w p with ⟨hmissing, hone⟩ | ⟨hfound, x, w', hone, hcause⟩
    · by_cases hparts : p.parts = []
      · rw [makeAll, on_bind_ok hone, outOfReach_succ]
        simp [Machine.fileError, hparts]
      · rw [makeAll, on_bind_ok hone, outOfReach_succ]
        simp only [Machine.fileError, hparts, hmissing, ne_eq, not_true_eq_false, or_self, if_false,
          not_false_eq_true, true_and]
        rw [← ih, on_bind]
        rcases (makeAll levels p.parent).on w with ⟨abort | e | ⟨⟩, w'⟩
        · rfl
        · simp
        · -- with the directories above made, the last one never crashes
          rcases on_makeOne_cases w' p with ⟨-, hlast⟩ | ⟨-, x, w'', hlast, -⟩
          · simp [hlast]
          · simp [hlast]
    · rw [makeAll, on_bind_ok hone, outOfReach_succ]
      rcases x with e | ⟨⟩
      · simp [hcause e rfl, hfound]
      · simp [hfound]

/-- Making directories crashes for a path that no file can have, and where too many of them are
missing. -/
theorem on_makeDirectories_crash_iff [Depths] {c : Crash} :
    ((makeDirectories p).on w).1 = .error (.crash c) ↔
      badPath? p = some c ∨
        badPath? p = none ∧ c = .nestedTooDeeply ∧ OutOfReach w (Depths.directories + 1) p := by
  rw [makeDirectories, checkPath]
  cases hbad : badPath? p with
  | some bad =>
    rw [on_bind_error (on_crash bad w)]
    simp
  | none =>
    rw [on_bind_ok (on_pure () w), on_makeAll_crash_iff]
    simp

theorem on_makeDirectories [Depths] (hcwd : w.tree.Grounds w.directory) (p : Path) :
    ∃ result t', (makeDirectories p).on w = (result, { w with tree := t' }) ∧
      w.tree.GrownAlong t' w.directory p ∧
        (result = .ok (.ok ()) → t'.DirectoryAt w.directory p) := by
  rw [makeDirectories, checkPath]
  cases badPath? p with
  | some bad => exact ⟨_, w.tree, on_bind_error (on_crash bad w), .refl _ _ _, by simp⟩
  | none =>
    rw [on_bind_ok (on_pure () w)]
    exact on_makeAll _ hcwd p

/-- Where the directory is there already nothing is done. -/
theorem on_makeDirectories_of_directoryAt [Depths] (hpath : badPath? p = none)
    (h : w.tree.DirectoryAt w.directory p) : (makeDirectories p).on w = (.ok (.ok ()), w) := by
  rw [makeDirectories, checkPath, hpath, on_bind_ok (on_pure () w), makeAll,
    on_bind_ok (on_makeOne_of_directoryAt h)]
  rfl

end Action

end DeployScript
