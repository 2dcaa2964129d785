import DeployScript.Files.Tree
import Mathlib.Data.List.Infix
import Mathlib.Logic.Function.Basic

/-!
# What stands where

The kind of a location says what stands there and leaves out what is in it. An entry that nothing is
in can be set without a change to any other kind: so a file system is read as a function from
locations to kinds, and making a directory is one update of it. A file that has other names is the
same file at all of them, and writing it changes the kinds of all.
-/

namespace DeployScript

/-- What stands at a location. -/
inductive FileKind where
  | file (bytes : ByteArray)
  | directory
  | nullDevice

namespace FileNode

theorem below?_append (n : FileNode) (l rest : Location) :
    n.below? (l ++ rest) = (n.below? l).bind fun inner => inner.below? rest := by
  induction l generalizing n with
  | nil => rfl
  | cons name l ih =>
    cases h : n.under? name with
    | none => simp [below?, h]
    | some inner => simp [below?, h, ih]

theorem below?_cons_of_entries_nil {n : FileNode} (h : n.entries = []) (name : Text)
    (rest : Location) : n.below? (name :: rest) = none := by
  simp [below?, under?, h]

/-- What leads to a location stays a directory when something is put there. -/
theorem isDirectory_below?_put {n d : FileNode} (new : FileNode) {l rest : Location}
    (h : n.below? l = some d) (hd : d.isDirectory = true) (hrest : rest ≠ []) :
    ∃ d', (n.put (l ++ rest) new).below? l = some d' ∧ d'.isDirectory = true := by
  induction l generalizing n with
  | nil =>
    simp only [below?, Option.some.injEq] at h
    subst h
    cases rest with
    | nil => exact absurd rfl hrest
    | cons name more =>
      refine ⟨_, rfl, ?_⟩
      cases n with
      | directory entries => rfl
      | _ => simp [isDirectory] at hd
  | cons name l ih =>
    simp only [below?, Option.bind_eq_some_iff] at h
    obtain ⟨inner, hinner, h⟩ := h
    obtain ⟨d', hd', hdirectory⟩ := ih h
    refine ⟨d', ?_, hdirectory⟩
    simp [put, below?, under?_setUnder (isDirectory_of_under? hinner), hinner, hd']

theorem setEntry_self {name : Text} {node : FileNode} {entries : Entries}
    (h : entries.lookup name = some node) : setEntry name node entries = entries := by
  induction entries with
  | nil => simp at h
  | cons entry rest ih =>
    obtain ⟨here, held⟩ := entry
    rw [lookup_cons_ite] at h
    by_cases hname : name = here
    · rw [if_pos hname, Option.some.injEq] at h
      rw [setEntry, if_pos hname.symm, h, hname]
    · rw [if_neg hname] at h
      rw [setEntry, if_neg (Ne.symm hname), ih h]

/-- Putting where it stands what stands there changes nothing. -/
theorem put_self {n new : FileNode} {l : Location} (h : n.below? l = some new) :
    n.put l new = n := by
  induction l generalizing n with
  | nil =>
    rw [below?, Option.some.injEq] at h
    exact h.symm
  | cons name rest ih =>
    simp only [below?, Option.bind_eq_some_iff] at h
    obtain ⟨inner, hinner, h⟩ := h
    rw [put, hinner, Option.getD_some, ih h]
    cases n with
    | directory entries => exact congrArg directory (setEntry_self hinner)
    | _ => rfl

end FileNode

namespace FileTree

/-! ### Kinds -/

def kindOf (t : FileTree) : FileNode → FileKind
  | .file bytes => .file bytes
  | .shared number => .file (t.contents number)
  | .directory _ => .directory
  | .nullDevice => .nullDevice

theorem exists_eq_directory {t : FileTree} {n : FileNode} (h : t.kindOf n = .directory) :
    ∃ entries, n = .directory entries := by
  cases n with
  | directory entries => exact ⟨entries, rfl⟩
  | _ => simp [kindOf] at h

theorem isDirectory_of_kindOf {t : FileTree} {n : FileNode} (h : t.kindOf n = .directory) :
    n.isDirectory = true := by
  obtain ⟨entries, rfl⟩ := exists_eq_directory h
  rfl

theorem kindOf_of_isDirectory (t : FileTree) {n : FileNode} (h : n.isDirectory = true) :
    t.kindOf n = .directory := by
  cases n with
  | directory => rfl
  | _ => simp [FileNode.isDirectory] at h

theorem isDirectory_congr {t t' : FileTree} {n n' : FileNode} (h : t'.kindOf n' = t.kindOf n) :
    n'.isDirectory = n.isDirectory := by
  cases n <;> cases n' <;> simp_all [kindOf, FileNode.isDirectory]

theorem entries_of_kindOf_ne {t : FileTree} {n : FileNode} (h : t.kindOf n ≠ .directory) :
    n.entries = [] := by
  cases n with
  | directory => exact absurd rfl h
  | _ => rfl

/-- What stands at a location, if anything does. -/
def kind? (t : FileTree) (l : Location) : Option FileKind := (t.node? l).map t.kindOf

theorem node?_of_kind? {t : FileTree} {l : Location} {k : FileKind} (h : t.kind? l = some k) :
    ∃ n, t.node? l = some n ∧ t.kindOf n = k := Option.map_eq_some_iff.1 h

theorem exists_kind?_of_isFile {t : FileTree} {l : Location}
    (h : (t.node? l).any FileNode.isFile = true) : ∃ bytes, t.kind? l = some (.file bytes) := by
  rw [kind?]
  cases hn : t.node? l with
  | none => simp [hn] at h
  | some n =>
    cases n with
    | file bytes => exact ⟨bytes, rfl⟩
    | shared number => exact ⟨t.contents number, rfl⟩
    | _ => simp [hn, FileNode.isFile] at h

theorem kind?_root (t : FileTree) : t.kind? [] = some .directory := rfl

theorem node?_append (t : FileTree) (l rest : Location) :
    t.node? (l ++ rest) = (t.node? l).bind fun inner => inner.below? rest :=
  FileNode.below?_append t.root l rest

/-- What something stands in is a directory. -/
theorem kind?_of_append_ne_none {t : FileTree} {l rest : Location} (hrest : rest ≠ [])
    (h : t.kind? (l ++ rest) ≠ none) : t.kind? l = some .directory := by
  cases rest with
  | nil => exact absurd rfl hrest
  | cons name more =>
    cases hn : t.node? l with
    | none => simp [kind?, node?_append, hn] at h
    | some n =>
      by_cases hkind : t.kindOf n = .directory
      · simp [kind?, hn, hkind]
      · have hentries := entries_of_kindOf_ne hkind
        simp [kind?, node?_append, hn, FileNode.below?_cons_of_entries_nil hentries] at h

theorem kind?_append_of_ne_directory {t : FileTree} {l rest : Location} (hrest : rest ≠ [])
    (h : t.kind? l ≠ some .directory) : t.kind? (l ++ rest) = none := by
  by_contra hne
  exact h (kind?_of_append_ne_none hrest hne)

theorem kind?_of_isPrefix {t : FileTree} {l above : Location} (h : l <+: above)
    (habove : t.kind? above = some .directory) : t.kind? l = some .directory := by
  obtain ⟨rest, rfl⟩ := h
  cases rest with
  | nil => simpa using habove
  | cons first more => exact kind?_of_append_ne_none (List.cons_ne_nil _ _) (by rw [habove]; simp)

/-! ### Setting an entry -/

theorem root_set (t : FileTree) {location : Location} (h : location ≠ []) (node : FileNode) :
    (t.set location node).root = t.root.put location node := by
  cases location with
  | nil => exact absurd rfl h
  | cons name rest => rfl

/-- The way to an entry is made of directories, also after the entry was set. -/
theorem kind?_set_of_isPrefix {t : FileTree} {l above : Location} (h : l <+: above)
    (habove : t.kind? above = some .directory) (name : Text) (node : FileNode) :
    (t.set (above ++ [name]) node).kind? l = some .directory := by
  obtain ⟨n, hn, hkind⟩ := node?_of_kind? (kind?_of_isPrefix h habove)
  obtain ⟨rest, rfl⟩ := h
  have hrest : rest ++ [name] ≠ [] := by simp
  obtain ⟨n', hn', hdirectory⟩ := FileNode.isDirectory_below?_put node hn
    (isDirectory_of_kindOf hkind) hrest
  have hafter : (t.set (l ++ rest ++ [name]) node).node? l = some n' := by
    rw [node?, root_set t (by simp), List.append_assoc, hn']
  rw [kind?, hafter, Option.map_some, kindOf_of_isDirectory _ hdirectory]

/-- Setting an entry that nothing is in, where no directory was, is one update, as far as what is in
a directory is left out. -/
theorem map_node?_set {α : Type} {view : FileNode → α}
    (hview : ∀ entries entries', view (.directory entries) = view (.directory entries'))
    {t : FileTree} {above : Location} {name : Text} {node : FileNode}
    (habove : t.kind? above = some .directory) (hnode : node.entries = [])
    (hold : t.kind? (above ++ [name]) ≠ some .directory) :
    (fun l => ((t.set (above ++ [name]) node).node? l).map view) =
      Function.update (fun l => (t.node? l).map view) (above ++ [name]) (some (view node)) := by
  have hself : (t.set (above ++ [name]) node).node? (above ++ [name]) = some node := by
    obtain ⟨d, hd, hkind⟩ := node?_of_kind? habove
    obtain ⟨entries, rfl⟩ := exists_eq_directory hkind
    exact node?_set_self t hd node
  funext l
  by_cases hl : l = above ++ [name]
  · rw [hl, Function.update_self, hself, Option.map_some]
  rw [Function.update_of_ne hl]
  by_cases hbelow : above ++ [name] <+: l
  · obtain ⟨rest, rfl⟩ := hbelow
    cases rest with
    | nil => exact absurd (List.append_nil _) hl
    | cons first more =>
      have hrest : first :: more ≠ [] := List.cons_ne_nil first more
      have hnone := Option.map_eq_none_iff.1 (kind?_append_of_ne_directory hrest hold)
      rw [hnone, node?_append, hself, Option.bind_some,
        FileNode.below?_cons_of_entries_nil hnode]
  · by_cases hprefix : l <+: above ++ [name]
    · rcases List.prefix_concat_iff.1 hprefix with heq | hway
      · exact absurd heq hl
      · obtain ⟨n, hn, hkind⟩ := node?_of_kind? (kind?_of_isPrefix hway habove)
        obtain ⟨n', hn', hkind'⟩ := node?_of_kind? (kind?_set_of_isPrefix hway habove name node)
        obtain ⟨entries, rfl⟩ := exists_eq_directory hkind
        obtain ⟨entries', rfl⟩ := exists_eq_directory hkind'
        rw [hn, hn', Option.map_some, Option.map_some, hview entries' entries]
    · rw [node?_set_of_not_isPrefix t hbelow hprefix node]

/-- Setting an entry that nothing is in, where no directory was, is one update. -/
theorem kind?_set {t : FileTree} {above : Location} {name : Text} {node : FileNode}
    (habove : t.kind? above = some .directory) (hnode : node.entries = [])
    (hold : t.kind? (above ++ [name]) ≠ some .directory) :
    (t.set (above ++ [name]) node).kind? =
      Function.update t.kind? (above ++ [name]) (some (t.kindOf node)) :=
  map_node?_set (fun _ _ => rfl) habove hnode hold

/-- What is no directory stands in one. -/
theorem exists_above {t : FileTree} {l : Location} {k : FileKind} (h : t.kind? l = some k)
    (hk : k ≠ .directory) :
    ∃ above name, l = above ++ [name] ∧ t.kind? above = some .directory := by
  rcases List.eq_nil_or_concat' l with rfl | ⟨above, name, rfl⟩
  · rw [kind?_root, Option.some.injEq] at h
    exact absurd h.symm hk
  · have habove : t.kind? above = some .directory :=
      kind?_of_append_ne_none (List.cons_ne_nil name []) (by rw [h]; simp)
    exact ⟨above, name, rfl, habove⟩

theorem set_self {t : FileTree} {l : Location} {node : FileNode} (h : t.node? l = some node) :
    t.set l node = t := by
  rw [set, FileNode.put_self h]
  rfl

/-! ### Names of the same file -/

/-- The number of the file at a location, if the file may have other names. -/
def number? (t : FileTree) (l : Location) : Option Nat := (t.node? l).bind FileNode.number?

/-- Do two locations hold the same file? -/
def SameFile (t : FileTree) (l l' : Location) : Prop :=
  l = l' ∨ t.number? l ≠ none ∧ t.number? l = t.number? l'

instance (t : FileTree) (l l' : Location) : Decidable (t.SameFile l l') :=
  inferInstanceAs (Decidable (_ ∨ _))

theorem SameFile.refl (t : FileTree) (l : Location) : t.SameFile l l := .inl rfl

theorem SameFile.symm {t : FileTree} {l l' : Location} (h : t.SameFile l l') : t.SameFile l' l := by
  rcases h with rfl | ⟨hne, heq⟩
  · exact .inl rfl
  · exact .inr ⟨heq ▸ hne, heq.symm⟩

theorem kind?_of_number? {t : FileTree} {l : Location} {number : Nat}
    (h : t.number? l = some number) : t.kind? l = some (.file (t.contents number)) := by
  obtain ⟨n, hn, hnumber⟩ := Option.bind_eq_some_iff.1 h
  cases n with
  | shared other =>
    rw [FileNode.number?, Option.some.injEq] at hnumber
    rw [kind?, hn, ← hnumber]
    rfl
  | _ => simp [FileNode.number?] at hnumber

theorem number?_of_kind? {t : FileTree} {l : Location}
    (h : ∀ bytes, t.kind? l ≠ some (.file bytes)) : t.number? l = none := by
  by_contra hne
  obtain ⟨number, hnumber⟩ := Option.ne_none_iff_exists'.1 hne
  exact h _ (kind?_of_number? hnumber)

/-- Under all its names a file is the same. -/
theorem SameFile.kind?_eq {t : FileTree} {l l' : Location} (h : t.SameFile l l') :
    t.kind? l = t.kind? l' := by
  rcases h with rfl | ⟨hne, heq⟩
  · rfl
  · obtain ⟨number, hnumber⟩ := Option.ne_none_iff_exists'.1 hne
    rw [kind?_of_number? hnumber, kind?_of_number? (heq ▸ hnumber)]

/-- The file at the place holds the bytes now, under all its names, and all else is as before. -/
structure Filled (t t' : FileTree) (place : Location) (bytes : ByteArray) : Prop where
  names : ∀ l, t.SameFile l place → t'.kind? l = some (.file bytes)
  others : ∀ l, ¬ t.SameFile l place → t'.kind? l = t.kind? l
  numbers : t'.number? = t.number?

namespace Filled

variable {t t' t'' : FileTree} {place : Location} {bytes added : ByteArray}

theorem here (h : t.Filled t' place bytes) : t'.kind? place = some (.file bytes) :=
  h.names place (.refl t place)

theorem sameFile_iff (h : t.Filled t' place bytes) {l l' : Location} :
    t'.SameFile l l' ↔ t.SameFile l l' := by
  rw [SameFile, SameFile, h.numbers]

theorem refl (h : t.kind? place = some (.file bytes)) : t.Filled t place bytes :=
  ⟨fun _ hl => hl.kind?_eq.trans h, fun _ _ => rfl, rfl⟩

theorem trans (h : t.Filled t' place bytes) (h' : t'.Filled t'' place added) :
    t.Filled t'' place added := by
  refine ⟨fun l hl => h'.names l (h.sameFile_iff.2 hl), ?_, h'.numbers.trans h.numbers⟩
  intro l hl
  rw [h'.others l fun hsame => hl (h.sameFile_iff.1 hsame), h.others l hl]

end Filled

/-- The file system with `bytes` in the file at a location. -/
def fill (t : FileTree) (place : Location) (bytes : ByteArray) : FileTree :=
  match t.number? place with
  | some number => t.setContent number bytes
  | none => t.set place (.file bytes)

/-- Setting an entry to what has no number, where nothing has one, leaves the numbers alone. -/
theorem number?_set {t : FileTree} {above : Location} {name : Text} {node : FileNode}
    (habove : t.kind? above = some .directory) (hnode : node.entries = [])
    (hnumber : node.number? = none) (hold : t.kind? (above ++ [name]) ≠ some .directory)
    (hone : t.number? (above ++ [name]) = none) :
    (t.set (above ++ [name]) node).number? = t.number? := by
  have hdirectories : ∀ entries entries',
      FileNode.number? (.directory entries) = FileNode.number? (.directory entries') :=
    fun _ _ => rfl
  have hviews := map_node?_set hdirectories habove hnode hold
  funext l
  have hview := congrFun hviews l
  by_cases hl : l = above ++ [name]
  · rw [hl, Function.update_self] at hview
    rw [number?, hl, hone, Option.bind_eq_none_iff]
    rintro n hn
    rw [hn, Option.map_some, Option.some.injEq] at hview
    rw [hview, hnumber]
  · rw [Function.update_of_ne hl] at hview
    simpa only [number?, Option.bind_map, Function.id_comp] using congrArg (Option.bind · id) hview

/-- A file with one name is filled by setting its entry. -/
theorem filled_set {t : FileTree} {above : Location} {name : Text} {bytes : ByteArray}
    (habove : t.kind? above = some .directory)
    (hold : t.kind? (above ++ [name]) ≠ some .directory)
    (hone : t.number? (above ++ [name]) = none) :
    t.Filled (t.set (above ++ [name]) (.file bytes)) (above ++ [name]) bytes := by
  have hentries : (FileNode.file bytes).entries = [] := rfl
  have hkinds := kind?_set habove hentries hold
  have hnumbers := number?_set habove hentries rfl hold hone
  refine ⟨?_, ?_, hnumbers⟩
  · rintro l (rfl | ⟨hne, heq⟩)
    · rw [hkinds, Function.update_self]
      rfl
    · exact absurd (heq.trans hone) hne
  · intro l hl
    rw [hkinds, Function.update_of_ne fun heq => hl (.inl heq)]

/-- A file with other names is filled by setting its content. -/
theorem filled_setContent {t : FileTree} {place : Location} {number : Nat}
    (h : t.number? place = some number) (bytes : ByteArray) :
    t.Filled (t.setContent number bytes) place bytes := by
  refine ⟨?_, ?_, rfl⟩
  · intro l hl
    have hnumber : t.number? l = some number := by
      rcases hl with rfl | ⟨-, heq⟩
      · exact h
      · rw [heq, h]
    have hafter : (t.setContent number bytes).number? l = some number := hnumber
    rw [kind?_of_number? hafter]
    simp only [setContent, if_true]
  · intro l hl
    have hne : t.number? l ≠ some number := by
      intro heq
      exact hl (.inr ⟨by rw [heq]; simp, by rw [heq, h]⟩)
    change (t.node? l).map (t.setContent number bytes).kindOf = (t.node? l).map t.kindOf
    cases hn : t.node? l with
    | none => rfl
    | some n =>
      rw [Option.map_some, Option.map_some, Option.some.injEq]
      cases n with
      | shared other =>
        have hother : other ≠ number := by
          rintro rfl
          exact hne (by rw [number?, hn]; rfl)
        simp only [kindOf, setContent, if_neg hother]
      | _ => rfl

theorem filled_fill {t : FileTree} {above : Location} {name : Text}
    (habove : t.kind? above = some .directory)
    (hold : t.kind? (above ++ [name]) ≠ some .directory) (bytes : ByteArray) :
    t.Filled (t.fill (above ++ [name]) bytes) (above ++ [name]) bytes := by
  rw [fill]
  split
  · next number hnumber => exact filled_setContent hnumber bytes
  · next hone => exact filled_set habove hold hone

/-- Filling a file with what it holds changes nothing. -/
theorem fill_self {t : FileTree} {place : Location} {bytes : ByteArray}
    (h : t.kind? place = some (.file bytes)) : t.fill place bytes = t := by
  obtain ⟨n, hn, hkind⟩ := node?_of_kind? h
  cases n with
  | file held =>
    rw [kindOf, FileKind.file.injEq] at hkind
    rw [fill, number?, hn, ← hkind]
    exact set_self hn
  | shared number =>
    rw [kindOf, FileKind.file.injEq] at hkind
    rw [fill, number?, hn, ← hkind]
    simp only [Option.bind_some, FileNode.number?, setContent]
    congr 1
    funext other
    split
    · next heq => rw [heq]
    · rfl
  | _ => simp [kindOf] at hkind

end FileTree

end DeployScript
