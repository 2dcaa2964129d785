import DeployScript.Proofs.Files.Directories
import DeployScript.Proofs.Files.OneMore
import DeployScript.Proofs.Files.Texts

/-!
# Machines beside each other

Two machines are beside each other if they are in the same directory, log to no file, and the files
of the second are those of the first and one more. Two actions match if on such machines they end
alike and leave them beside each other. What is done at a path matches what is done at its
counterpart, and what is put together from parts that match matches.
-/

namespace DeployScript

open FileTree (OneMore Counterpart Home)

variable {cwd : Standing} {root : Path} {place : Location} {bytes : ByteArray}

namespace Machine

/-- The machines are in the same directory and log to no file, and the second has one more file. -/
structure Beside (cwd : Standing) (place : Location) (bytes : ByteArray) (w u : Machine) :
    Prop where
  directory : w.directory = cwd
  directory' : u.directory = cwd
  grounds : w.tree.Grounds cwd
  trees : OneMore place bytes w.tree u.tree
  log : w.log.file = none
  log' : u.log.file = none

variable {w w' u u' : Machine}

theorem Beside.of_sameFiles (h : Beside cwd place bytes w u) (hw : w.SameFiles w')
    (hu : u.SameFiles u') : Beside cwd place bytes w' u' := by
  constructor
  · rw [hw.setting.directory, h.directory]
  · rw [hu.setting.directory, h.directory']
  · rw [hw.tree h.log]
    exact h.grounds
  · rw [hw.tree h.log, hu.tree h.log']
    exact h.trees
  · rw [hw.setting.log, h.log]
  · rw [hu.setting.log, h.log']

theorem Beside.of_trees {t t' : FileTree} (h : Beside cwd place bytes w u) (ht : t.Grounds cwd)
    (htrees : OneMore place bytes t t') :
    Beside cwd place bytes { w with tree := t } { u with tree := t' } :=
  ⟨h.directory, h.directory', ht, htrees, h.log, h.log'⟩

end Machine

open Machine (Beside)

namespace Action

variable {α β γ δ : Type} {R : α → β → Prop} {S : γ → δ → Prop} {p q : Path}

/-! ### Matching actions -/

/-- The ends are alike: related values, failures of one kind, or one crash. -/
inductive EndsAlike (R : α → β → Prop) : Except Abort α → Except Abort β → Prop
  | ok {x : α} {y : β} (h : R x y) : EndsAlike R (.ok x) (.ok y)
  | failure {f g : Failure} (h : g.kind = f.kind) :
      EndsAlike R (.error (.failure f)) (.error (.failure g))
  | crash (c : Crash) : EndsAlike R (.error (.crash c)) (.error (.crash c))

theorem EndsAlike.mono {R' : α → β → Prop} {x : Except Abort α} {y : Except Abort β}
    (h : EndsAlike R x y) (hR : ∀ x y, R x y → R' x y) : EndsAlike R' x y := by
  cases h with
  | ok hxy => exact .ok (hR _ _ hxy)
  | failure hkind => exact .failure hkind
  | crash c => exact .crash c

/-- On machines beside each other the actions end alike, and leave them beside each other. -/
structure Matches (cwd : Standing) (place : Location) (bytes : ByteArray) (R : α → β → Prop)
    (a : Action OnMachine α) (b : Action OnMachine β) : Prop where
  ends : ∀ {w u}, Beside cwd place bytes w u → EndsAlike R (a.on w).1 (b.on u).1
  beside : ∀ {w u}, Beside cwd place bytes w u → Beside cwd place bytes (a.on w).2 (b.on u).2

namespace Matches

variable {a : Action OnMachine α} {b : Action OnMachine β}

theorem of_on (h : ∀ {w u}, Beside cwd place bytes w u → ∃ x y w' u', a.on w = (x, w') ∧
    b.on u = (y, u') ∧ EndsAlike R x y ∧ Beside cwd place bytes w' u') :
    Matches cwd place bytes R a b := by
  constructor
  · intro w u hb
    obtain ⟨x, y, w', u', ha, hb', hends, -⟩ := h hb
    rw [ha, hb']
    exact hends
  · intro w u hb
    obtain ⟨x, y, w', u', ha, hb', -, hbeside⟩ := h hb
    rw [ha, hb']
    exact hbeside

theorem pure {x : α} {y : β} (h : R x y) :
    Matches cwd place bytes R (Pure.pure x) (Pure.pure y) :=
  of_on fun hb => ⟨_, _, _, _, rfl, rfl, .ok h, hb⟩

theorem fail {f g : Failure} (h : g.kind = f.kind) :
    Matches cwd place bytes R (Action.fail f) (Action.fail g) :=
  of_on fun hb => ⟨_, _, _, _, rfl, rfl, .failure h, hb⟩

theorem crash (c : Crash) : Matches cwd place bytes R (Action.crash c) (Action.crash c) :=
  of_on fun hb => ⟨_, _, _, _, rfl, rfl, .crash c, hb⟩

theorem bind {f : α → Action OnMachine γ} {g : β → Action OnMachine δ}
    (h : Matches cwd place bytes R a b)
    (hnext : ∀ x y, R x y → Matches cwd place bytes S (f x) (g y)) :
    Matches cwd place bytes S (a >>= f) (b >>= g) := by
  apply of_on
  intro w u hb
  have hends := h.ends hb
  have hbeside := h.beside hb
  rcases ha : a.on w with ⟨x, w'⟩
  rcases hb' : b.on u with ⟨y, u'⟩
  rw [ha, hb'] at hends hbeside
  cases hends with
  | ok hxy =>
    have hf := hnext _ _ hxy
    exact ⟨_, _, _, _, on_bind_ok ha, on_bind_ok hb', hf.ends hbeside, hf.beside hbeside⟩
  | failure hkind =>
    exact ⟨_, _, _, _, on_bind_error ha, on_bind_error hb', .failure hkind, hbeside⟩
  | crash c => exact ⟨_, _, _, _, on_bind_error ha, on_bind_error hb', .crash c, hbeside⟩

theorem mono {R' : α → β → Prop} (h : Matches cwd place bytes R a b)
    (hR : ∀ x y, R x y → R' x y) : Matches cwd place bytes R' a b :=
  ⟨fun hb => (h.ends hb).mono hR, h.beside⟩

theorem record (r r' : Log.Record) :
    Matches cwd place bytes (fun _ _ => True) (Action.record r) (Action.record r') :=
  of_on fun {w u} hb => ⟨_, _, _, _, rfl, rfl, .ok trivial,
    hb.of_sameFiles (w.sameFiles_takeRecord r) (u.sameFiles_takeRecord r')⟩

end Matches

/-! ### Reading -/

/-- The results are the same, but for the path that an error names. -/
inductive SameCause : Except FileError α → Except FileError α → Prop
  | error {e e' : FileError} (h : e'.cause = e.cause) : SameCause (.error e) (.error e')
  | ok (v : α) : SameCause (.ok v) (.ok v)

theorem matches_readText (hhome : Home cwd root) (h : Counterpart cwd root place p q) :
    Matches cwd place bytes SameCause (readText p) (readText q) := by
  apply Matches.of_on
  intro w u hb
  have hpath' := h.badPath?_eq hhome
  cases hpath : badPath? p with
  | some c =>
    rw [hpath] at hpath'
    exact ⟨_, _, w, u, on_readText_of_textCrash (.path hpath),
      on_readText_of_textCrash (.path hpath'), .crash c, hb⟩
  | none =>
    rw [hpath] at hpath'
    have hread : u.tree.read u.directory q = w.tree.read w.directory p := by
      rw [hb.directory, hb.directory']
      exact FileTree.read_congr (h.map_kindOf_find_eq hhome hpath hb.grounds hb.trees)
    cases hp : w.tree.read w.directory p with
    | error cause =>
      exact ⟨_, _, w, u, on_readText_of_error hpath hp,
        on_readText_of_error hpath' (hread.trans hp), .ok (.error rfl), hb⟩
    | ok content =>
      cases htext : Text.ofBytes? content with
      | none =>
        exact ⟨_, _, w, u, on_readText_of_textCrash (.bytes hpath hp htext),
          on_readText_of_textCrash (.bytes hpath' (hread.trans hp) htext), .crash _, hb⟩
      | some text =>
        exact ⟨_, _, w, u, on_readText_of_hasText ⟨hpath, content, hp, htext⟩,
          on_readText_of_hasText ⟨hpath', content, hread.trans hp, htext⟩, .ok (.ok text), hb⟩

/-! ### Writing -/

theorem matches_writeText (hhome : Home cwd root) (h : Counterpart cwd root place p q)
    (t : Text) : Matches cwd place bytes SameCause (writeText p t) (writeText q t) := by
  apply Matches.of_on
  intro w u hb
  have hpath' := h.badPath?_eq hhome
  cases hpath : badPath? p with
  | some c =>
    rw [hpath] at hpath'
    exact ⟨_, _, w, u, on_writeText_of_badPath hpath, on_writeText_of_badPath hpath', .crash c, hb⟩
  | none =>
    rw [hpath] at hpath'
    have hwrite : ∀ content,
        (∃ cause, w.tree.write w.directory p content = .error cause ∧
            u.tree.write u.directory q content = .error cause) ∨
          ∃ t₁ t₁', w.tree.write w.directory p content = .ok t₁ ∧
            u.tree.write u.directory q content = .ok t₁' ∧
              t₁.Grounds cwd ∧ OneMore place bytes t₁ t₁' := by
      rw [hb.directory, hb.directory']
      exact h.write hhome hpath hb.grounds hb.trees
    rcases hwrite (t.utf8?.getD ByteArray.empty) with ⟨cause, hw, hu⟩ |
      ⟨t₁, t₁', hw, hu, ht, htrees⟩
    · exact ⟨_, _, w, u, on_writeText_of_error hpath hw, on_writeText_of_error hpath' hu,
        .ok (.error rfl), hb⟩
    · cases htext : t.utf8? with
      | none =>
        rw [htext, Option.getD_none] at hw hu
        exact ⟨_, _, _, _, on_writeText_of_broken hpath htext hw,
          on_writeText_of_broken hpath' htext hu, .crash _, hb.of_trees ht htrees⟩
      | some content =>
        rw [htext, Option.getD_some] at hw hu
        exact ⟨_, _, _, _, on_writeText_of_utf8 hpath htext hw,
          on_writeText_of_utf8 hpath' htext hu, .ok (.ok _), hb.of_trees ht htrees⟩

/-! ### Making directories -/

/-- A directory is made, found or refused at both paths. A missing one leaves something to try: the
path has parts, and is not too long. -/
theorem matches_makeOne (hhome : Home cwd root) (h : Counterpart cwd root place p q)
    (hpath : badPath? p = none) :
    Matches cwd place bytes (fun x y => SameCause x y ∧ ∀ e, x = .error e → e.cause = .missing →
      p.parts ≠ [] ∧ p.text.nameSize < FileTree.maxPathBytes) (makeOne p) (makeOne q) := by
  apply Matches.of_on
  intro w u hb
  have hlocate : u.tree.locate u.directory q = w.tree.locate w.directory p := by
    rw [hb.directory, hb.directory']
    exact h.locate_eq hhome hpath hb.grounds hb.trees
  cases hp : w.tree.locate w.directory p with
  | error cause =>
    rw [hp] at hlocate
    refine ⟨_, _, w, u, on_makeOne_of_locate_error hp, on_makeOne_of_locate_error hlocate,
      .ok ⟨.error rfl, ?_⟩, hb⟩
    rintro e ⟨⟩ hmissing
    have hshort : p.text.nameSize < FileTree.maxPathBytes := by
      by_contra hlong
      rw [FileTree.locate_of_tooLong (Nat.le_of_not_lt hlong), Except.error.injEq] at hp
      rw [← hp] at hmissing
      cases hmissing
    refine ⟨?_, hshort⟩
    intro hnil
    rw [FileTree.locate, if_neg (Nat.not_le.2 hshort), hnil] at hp
    cases hp
  | ok s =>
    rw [hp] at hlocate
    have hp' := hp
    rw [hb.directory] at hp'
    have hkind := h.kindAt?_eq hhome hp' hb.trees
    cases hthere : w.tree.kindAt? s with
    | none =>
      obtain ⟨t, hmade, hon⟩ := on_makeOne_of_absent hp hthere
      obtain ⟨t', hmade', hon'⟩ := on_makeOne_of_absent hlocate (hkind.trans hthere)
      rw [hb.directory] at hmade
      rw [hb.directory'] at hmade'
      obtain ⟨ht, htrees⟩ := h.makeDirectory hhome hpath hb.grounds hb.trees hmade hmade'
      exact ⟨_, _, _, _, hon, hon', .ok ⟨.ok _, by simp⟩, hb.of_trees ht htrees⟩
    | some k =>
      obtain ⟨n, hfind, hn⟩ := FileTree.find_of_kind hp hthere
      obtain ⟨n', hfind', hn'⟩ := FileTree.find_of_kind hlocate (hkind.trans hthere)
      have hsame := FileTree.isDirectory_congr (hn'.trans hn.symm)
      refine ⟨_, _, w, u, on_makeOne_of_find hfind, on_makeOne_of_find hfind', .ok ⟨?_, ?_⟩, hb⟩
      · rw [hsame]
        split
        · exact .ok _
        · exact .error rfl
      · intro e he hmissing
        split at he
        · cases he
        · cases he
          cases hmissing

/-- Directories above are made, or refused, at both paths: as long as one is missing the path has
parts and is not too long, and then the paths above are counterparts too. -/
theorem matches_makeAll (hhome : Home cwd root) (levels : Nat)
    (h : Counterpart cwd root place p q) (hpath : badPath? p = none) :
    Matches cwd place bytes SameCause (makeAll levels p) (makeAll levels q) := by
  induction levels generalizing p q with
  | zero => exact .crash _
  | succ levels ih =>
    rw [makeAll, makeAll]
    apply (matches_makeOne hhome h hpath).bind
    rintro x y ⟨hcause, hmissing⟩
    cases hcause with
    | ok v => exact .pure (.ok v)
    | @error e e' he =>
      dsimp only
      by_cases hend : e.cause = .missing
      · obtain ⟨hparts, hshort⟩ := hmissing e rfl hend
        have hparent := h.parent hhome hpath hparts hshort
        have hpath' : badPath? p.parent = none := by
          rw [Path.badPath?_eq_none_iff] at hpath ⊢
          exact fun part hpart => hpath part (List.dropLast_subset _ hpart)
        rw [if_neg (by simp [hend, hparts]), if_neg (by simp [he, hend, h.parts_ne_nil hparts])]
        apply (ih hparent hpath').bind
        intro x y habove
        cases habove with
        | ok v => exact (matches_makeOne hhome h hpath).mono fun x y hxy => hxy.1
        | error habove => exact .pure (.error habove)
      · have hend' : e'.cause ≠ .missing := by rwa [he]
        rw [if_pos (.inl hend), if_pos (.inl hend')]
        exact .pure (.error he)

theorem matches_makeDirectories [Depths] (hhome : Home cwd root)
    (h : Counterpart cwd root place p q) :
    Matches cwd place bytes SameCause (makeDirectories p) (makeDirectories q) := by
  have hpath' := h.badPath?_eq hhome
  rw [makeDirectories, makeDirectories, checkPath, checkPath, hpath']
  cases hpath : badPath? p with
  | some c => exact (Matches.crash (R := fun _ _ => False) c).bind fun _ _ h => h.elim
  | none =>
    apply (Matches.pure (R := fun _ _ => True) trivial).bind
    intro _ _ _
    exact matches_makeAll hhome _ h hpath

end Action

end DeployScript
