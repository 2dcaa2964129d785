import DeployScript.Proofs.Files.Effect
import DeployScript.Proofs.Files.Reach

/-!
# A file system with one more file

Of two file systems the second has a file where the first has nothing, and is like it otherwise. A
path that does not pass through that place leads to the same in both, and what is done there keeps
them as they are to each other. The same holds if the path is read from the current directory in the
one and from the root in the other, as long as it is not too long only there.
-/

namespace DeployScript

namespace FileTree

variable {t t' t₁ t₁' : FileTree} {place l : Location} {bytes : ByteArray} {cwd s : Standing}
  {p q root : Path} {parts : List Text}

/-! ### One more file -/

/-- The second file system has a file where the first has nothing, and is like it otherwise. -/
structure OneMore (place : Location) (bytes : ByteArray) (t t' : FileTree) : Prop where
  absent : t.kind? place = none
  kinds : t'.kind? = Function.update t.kind? place (some (.file bytes))
  numbers : t'.number? = t.number?

namespace OneMore

theorem kind?_of_ne (h : OneMore place bytes t t') (hl : l ≠ place) : t'.kind? l = t.kind? l := by
  rw [h.kinds, Function.update_of_ne hl]

theorem ne_of_kind? {k : FileKind} (h : OneMore place bytes t t') (hl : t.kind? l = some k) :
    l ≠ place := by
  rintro rfl
  rw [h.absent] at hl
  cases hl

theorem grounds (h : OneMore place bytes t t') (ht : t.Grounds cwd) : t'.Grounds cwd :=
  (h.kind?_of_ne (h.ne_of_kind? ht)).trans ht

/-- What is done alike to both in another place leaves them as they were to each other. -/
theorem update {k : Option FileKind} (h : OneMore place bytes t t') (hl : l ≠ place)
    (ht : t₁.kind? = Function.update t.kind? l k ∧ t₁.number? = t.number?)
    (ht' : t₁'.kind? = Function.update t'.kind? l k ∧ t₁'.number? = t'.number?) :
    OneMore place bytes t₁ t₁' := by
  constructor
  · rw [ht.1, Function.update_of_ne (Ne.symm hl), h.absent]
  · rw [ht'.1, ht.1, h.kinds, Function.update_comm hl]
  · rw [ht'.2, ht.2, h.numbers]

theorem sameFile_iff (h : OneMore place bytes t t') {l l' : Location} :
    t'.SameFile l l' ↔ t.SameFile l l' := by
  rw [SameFile, SameFile, h.numbers]

/-- A file that both have is filled alike in both. -/
theorem fill {content : ByteArray} (h : OneMore place bytes t t') (hl : l ≠ place)
    (ht : t.Filled t₁ l content) (ht' : t'.Filled t₁' l content) : OneMore place bytes t₁ t₁' := by
  have hother : ¬ t.SameFile place l := by
    have hone : t.number? place = none := number?_of_kind? fun held => by rw [h.absent]; simp
    rintro (heq | ⟨hnumber, -⟩)
    · exact hl heq.symm
    · exact hnumber hone
  have hother' : ¬ t'.SameFile place l := fun hsame => hother (h.sameFile_iff.1 hsame)
  refine ⟨(ht.others place hother).trans h.absent, ?_, ?_⟩
  · funext x
    by_cases hx : x = place
    · rw [hx, Function.update_self, ht'.others place hother', h.kinds, Function.update_self]
    · rw [Function.update_of_ne hx]
      by_cases hsame : t.SameFile x l
      · rw [ht.names x hsame, ht'.names x (h.sameFile_iff.2 hsame)]
      · rw [ht.others x hsame, ht'.others x fun hsame' => hsame (h.sameFile_iff.1 hsame'),
          h.kind?_of_ne hx]
  · rw [ht'.numbers, ht.numbers, h.numbers]

end OneMore

/-! ### Passing through a place -/

/-- The parts, seen from a location, lead to the place or past it. -/
def PassesThrough (place : Location) : Location → List Text → Prop
  | l, [] => l = place
  | l, part :: rest => l = place ∨ PassesThrough place (nextLocation l part) rest

instance decidablePassesThrough (place : Location) :
    (l : Location) → (parts : List Text) → Decidable (PassesThrough place l parts)
  | l, [] => inferInstanceAs (Decidable (l = place))
  | l, part :: rest =>
    have := decidablePassesThrough place (nextLocation l part) rest
    inferInstanceAs (Decidable (l = place ∨ PassesThrough place (nextLocation l part) rest))

theorem passesThrough_of_end (h : parts.foldl nextLocation l = place) :
    PassesThrough place l parts := by
  induction parts generalizing l with
  | nil => exact h
  | cons part rest ih => exact .inr (ih h)

theorem PassesThrough.of_dropLast (h : PassesThrough place l parts.dropLast) :
    PassesThrough place l parts := by
  induction parts generalizing l with
  | nil => exact h
  | cons part rest ih =>
    cases rest with
    | nil => exact .inl h
    | cons next more =>
      rcases h with hstart | hrest
      · exact .inl hstart
      · exact .inr (ih hrest)

theorem OneMore.foldlM_stepFrom (h : OneMore place bytes t t')
    (havoids : ¬ PassesThrough place l parts) :
    parts.foldlM t'.stepFrom (.on l) = parts.foldlM t.stepFrom (.on l) := by
  induction parts generalizing l with
  | nil => rfl
  | cons part rest ih =>
    rw [PassesThrough, not_or] at havoids
    have hstep : t'.stepFrom (.on l) part = t.stepFrom (.on l) part := by
      have hkind : t'.kind? (Standing.on l).location = t.kind? (Standing.on l).location :=
        h.kind?_of_ne havoids.1
      rw [stepFrom, stepFrom, hkind]
    rw [List.foldlM_cons, List.foldlM_cons, hstep]
    cases hs : t.stepFrom (.on l) part with
    | error cause => rfl
    | ok s =>
      rw [stepFrom_eq_next hs]
      exact ih havoids.2

/-! ### The same path from the root -/

/-- The current directory is there, and the path writes out where. -/
structure Home (cwd : Standing) (root : Path) : Prop where
  lost : cwd.lost = 0
  spells : root.Spells cwd.location

theorem Home.directory_eq (h : Home cwd root) : cwd = .on cwd.location := by
  rw [Standing.on, ← h.lost]

theorem locate_join (h : Home cwd root) (ht : t.Grounds cwd) (hp : p.isAbsolute = false)
    (hsize : p.text.nameSize < maxPathBytes)
    (hsize' : (root.join p).text.nameSize < maxPathBytes) :
    t.locate cwd (root.join p) = t.locate cwd p := by
  have hroot : root.parts.foldlM t.stepFrom (.on []) = .ok cwd := by
    have hnames : t.kind? ([] ++ root.parts.map nameOf) = some .directory := by
      rw [List.nil_append, h.spells.names]
      exact ht
    rw [foldlM_stepFrom_of_directory h.spells.parts hnames, List.nil_append, h.spells.names,
      ← h.directory_eq]
  rw [locate, locate, if_neg (Nat.not_le.2 hsize), if_neg (Nat.not_le.2 hsize'),
    if_pos (Path.isAbsolute_join h.spells.isAbsolute p), if_neg (by rw [hp]; simp),
    Path.parts_join_of_relative root hp, List.foldlM_append, hroot]
  rfl

/-! ### Counterparts -/

/-- The second path is the first, or the first from the root; the first does not pass through the
place, and the second is not too long unless the first is. -/
structure Counterpart (cwd : Standing) (root : Path) (place : Location) (p q : Path) : Prop where
  path : q = p ∨ q = root.join p
  avoids : ¬ PassesThrough place (base cwd p) p.parts
  fits : maxPathBytes ≤ q.text.nameSize → maxPathBytes ≤ p.text.nameSize

namespace Counterpart

theorem cases (h : Counterpart cwd root place p q) :
    q = p ∨ p.isAbsolute = false ∧ q = root.join p := by
  rcases h.path with hsame | hjoin
  · exact .inl hsame
  · cases hp : p.isAbsolute with
    | true =>
      rw [Path.join_of_isAbsolute root hp] at hjoin
      exact .inl hjoin
    | false => exact .inr ⟨rfl, hjoin⟩

theorem badPath?_eq (h : Counterpart cwd root place p q) (hhome : Home cwd root) :
    Action.badPath? q = Action.badPath? p := by
  rcases h.cases with rfl | ⟨hp, rfl⟩
  · rfl
  have hparts := Path.parts_join_of_relative root hp
  have hroot := hhome.spells.parts
  have hbytes : (root.join p).text.nameBytes? = none ↔ p.text.nameBytes? = none := by
    rw [← not_iff_not]
    rw [← ne_eq, ← ne_eq, Path.nameBytes?_text_ne_none_iff, Path.nameBytes?_text_ne_none_iff,
      hparts, List.forall_mem_append]
    exact ⟨fun h => h.2, fun h => ⟨fun part hpart => (hroot part hpart).bytes, h⟩⟩
  have hnul : (root.join p).hasNul = p.hasNul := by
    have hrootNul : root.parts.any (fun part => part.contains (.char '\x00')) = false := by
      rw [List.any_eq_false]
      intro part hpart
      simpa using (hroot part hpart).nul
    rw [Path.hasNul, hparts, List.any_append, hrootNul, Bool.false_or, Path.hasNul]
  have hnone : (root.join p).text.nameBytes?.isNone = p.text.nameBytes?.isNone := by
    rw [Bool.eq_iff_iff, Option.isNone_iff_eq_none, Option.isNone_iff_eq_none, hbytes]
  rw [Action.badPath?, Action.badPath?, hnone, hnul]

theorem size_le (h : Counterpart cwd root place p q) (hhome : Home cwd root)
    (hpath : Action.badPath? p = none) : p.text.nameSize ≤ q.text.nameSize := by
  rcases h.cases with rfl | ⟨hp, rfl⟩
  · exact Nat.le_refl _
  · have hrelative : p.root = .relative := by simpa [Path.isAbsolute] using hp
    have hq : Action.badPath? (root.join p) = none := by rw [h.badPath?_eq hhome, hpath]
    refine Path.nameSize_text_le (.inr hrelative) ?_ fun part hpart =>
      (Path.badPath?_eq_none_iff.1 hq part hpart).1
    rw [Path.parts_join_of_relative root hp]
    exact List.sublist_append_right _ _

theorem parts_ne_nil (h : Counterpart cwd root place p q) (hp : p.parts ≠ []) : q.parts ≠ [] := by
  rcases h.cases with rfl | ⟨hrelative, rfl⟩
  · exact hp
  · rw [Path.parts_join_of_relative root hrelative]
    simp [hp]

theorem parent (h : Counterpart cwd root place p q) (hhome : Home cwd root)
    (hpath : Action.badPath? p = none) (hparts : p.parts ≠ [])
    (hsize : p.text.nameSize < maxPathBytes) : Counterpart cwd root place p.parent q.parent := by
  refine ⟨?_, ?_, ?_⟩
  · rcases h.path with rfl | rfl
    · exact .inl rfl
    · exact .inr (Path.parent_join root hparts)
  · intro hpasses
    exact h.avoids hpasses.of_dropLast
  · intro hlong
    have hq : Action.badPath? q = none := by rw [h.badPath?_eq hhome, hpath]
    have hle : q.parent.text.nameSize ≤ q.text.nameSize :=
      Path.nameSize_text_le (.inl rfl) (List.dropLast_sublist _) fun part hpart =>
        (Path.badPath?_eq_none_iff.1 hq part hpart).1
    exact absurd (h.fits (hlong.trans hle)) (Nat.not_le.2 hsize)

theorem locate_eq (h : Counterpart cwd root place p q) (hhome : Home cwd root)
    (hpath : Action.badPath? p = none) (ht : t.Grounds cwd) (hmore : OneMore place bytes t t') :
    t'.locate cwd q = t.locate cwd p := by
  by_cases hlong : maxPathBytes ≤ p.text.nameSize
  · rw [locate_of_tooLong hlong, locate_of_tooLong (hlong.trans (h.size_le hhome hpath))]
  have hshort : q.text.nameSize < maxPathBytes := Nat.lt_of_not_le fun hq => hlong (h.fits hq)
  have hsame : t'.locate cwd q = t'.locate cwd p := by
    rcases h.cases with rfl | ⟨hp, rfl⟩
    · rfl
    · exact locate_join hhome (hmore.grounds ht) hp (Nat.lt_of_not_le hlong) hshort
  rw [hsame, locate, locate, if_neg hlong, if_neg hlong, start_eq_on_base fun _ => hhome.lost]
  exact hmore.foldlM_stepFrom h.avoids

theorem location_of_locate (h : Counterpart cwd root place p q) (hhome : Home cwd root)
    (hs : t.locate cwd p = .ok s) : ∃ l, s = .on l ∧ l ≠ place := by
  have hwalk := (foldlM_of_locate hs).2
  rw [start_eq_on_base fun _ => hhome.lost] at hwalk
  refine ⟨_, foldlM_stepFrom_eq_next hwalk, ?_⟩
  intro heq
  exact h.avoids (passesThrough_of_end heq)

theorem kindAt?_eq (h : Counterpart cwd root place p q) (hhome : Home cwd root)
    (hs : t.locate cwd p = .ok s) (hmore : OneMore place bytes t t') :
    t'.kindAt? s = t.kindAt? s := by
  obtain ⟨l, rfl, hl⟩ := h.location_of_locate hhome hs
  rw [kindAt?_on, kindAt?_on, hmore.kind?_of_ne hl]

theorem map_kindOf_find_eq (h : Counterpart cwd root place p q) (hhome : Home cwd root)
    (hpath : Action.badPath? p = none) (ht : t.Grounds cwd) (hmore : OneMore place bytes t t') :
    (t'.find cwd q).map t'.kindOf = (t.find cwd p).map t.kindOf := by
  rw [map_kindOf_find, map_kindOf_find, h.locate_eq hhome hpath ht hmore]
  cases hs : t.locate cwd p with
  | error cause => rfl
  | ok s =>
    simp only [Except.bind]
    rw [h.kindAt?_eq hhome hs hmore]

/-- Directories that were made at both paths are one. -/
theorem makeDirectory (h : Counterpart cwd root place p q) (hhome : Home cwd root)
    (hpath : Action.badPath? p = none) (ht : t.Grounds cwd) (hmore : OneMore place bytes t t')
    (hmade : t.makeDirectory cwd p = .ok t₁) (hmade' : t'.makeDirectory cwd q = .ok t₁') :
    t₁.Grounds cwd ∧ OneMore place bytes t₁ t₁' := by
  obtain ⟨l, hlocate, hnone, hkinds⟩ := makeDirectory_ok ht hmade
  obtain ⟨l', hlocate', -, hkinds'⟩ := makeDirectory_ok (hmore.grounds ht) hmade'
  obtain ⟨_, heq, hl⟩ := h.location_of_locate hhome hlocate
  rw [h.locate_eq hhome hpath ht hmore, hlocate] at hlocate'
  cases hlocate'
  cases heq
  have hcwd : cwd.location ≠ l := by
    rintro rfl
    rw [ht] at hnone
    cases hnone
  refine ⟨?_, hmore.update hl hkinds hkinds'⟩
  rw [Grounds, hkinds.1, Function.update_of_ne hcwd]
  exact ht

/-- What a path is written to is written to by its counterpart, and what refuses the one refuses the
other. -/
theorem write (h : Counterpart cwd root place p q) (hhome : Home cwd root)
    (hpath : Action.badPath? p = none) (ht : t.Grounds cwd) (hmore : OneMore place bytes t t')
    (content : ByteArray) :
    (∃ cause, t.write cwd p content = .error cause ∧ t'.write cwd q content = .error cause) ∨
      ∃ t₁ t₁', t.write cwd p content = .ok t₁ ∧ t'.write cwd q content = .ok t₁' ∧
        t₁.Grounds cwd ∧ OneMore place bytes t₁ t₁' := by
  have hlocate := h.locate_eq hhome hpath ht hmore
  cases hs : t.locate cwd p with
  | error cause =>
    rw [hs] at hlocate
    exact .inl ⟨cause, write_of_locate_error hs content, write_of_locate_error hlocate content⟩
  | ok s =>
    rw [hs] at hlocate
    obtain ⟨l, rfl, hl⟩ := h.location_of_locate hhome hs
    have hcases := write_cases ht hs content
    have hcases' := write_cases (hmore.grounds ht) hlocate content
    rw [hmore.kind?_of_ne hl] at hcases'
    rcases hcases with ⟨hkind, hw⟩ | ⟨hkind, hw⟩ | ⟨hdirectory, hnull, t₁, hw, hfilled⟩
    · rcases hcases' with ⟨-, hw'⟩ | ⟨hnull, -⟩ | ⟨hdirectory, -⟩
      · exact .inl ⟨_, hw, hw'⟩
      · rw [hkind] at hnull
        cases hnull
      · exact absurd hkind hdirectory
    · rcases hcases' with ⟨hdirectory, -⟩ | ⟨-, hw'⟩ | ⟨-, hnull, -⟩
      · rw [hkind] at hdirectory
        cases hdirectory
      · exact .inr ⟨_, _, hw, hw', ht, hmore⟩
      · exact absurd hkind hnull
    · rcases hcases' with ⟨hkind, -⟩ | ⟨hkind, -⟩ | ⟨-, -, t₁', hw', hfilled'⟩
      · exact absurd hkind hdirectory
      · exact absurd hkind hnull
      · have hcwd : ¬ t.SameFile cwd.location l := fun hsame => hdirectory (hsame.kind?_eq ▸ ht)
        refine .inr ⟨t₁, t₁', hw, hw', ?_, hmore.fill hl hfilled hfilled'⟩
        exact (hfilled.others _ hcwd).trans ht

end Counterpart

end FileTree

end DeployScript
