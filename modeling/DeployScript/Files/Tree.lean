import DeployScript.Files.Error
import DeployScript.Path

/-!
# File trees

A file system: a directory holds files, directories and the null device. A directory has one name
only, but a file may have several, in the same directory or in others: what is written under one of
them is read under all. A symbolic link to a file counts as one more name of it. A path is looked up
one part at a time, two dots leading to the directory above; each step needs a directory to stand
in.

A relative path starts at the current directory. That directory may have been taken away while it
was in use: it is a directory still, and two dots lead out of it, but nothing is in it and nothing
can be put there.

The operations below are the ones a run needs: reading, asking what is there, making a directory,
writing and appending. Each fails with the cause that stops it first and then changes nothing. The
main statements are about `set`, by which all of them change a tree: the location that was set holds
what was put there, and no location apart from it and those above and below has changed.
-/

namespace DeployScript

/-- A place in a file system: the names from the root down. -/
abbrev Location := List Text

/-- What a location can hold. -/
inductive FileNode where
  /-- A file with no other name. -/
  | file (bytes : ByteArray)
  /-- A file that may have other names: all nodes with the same number are the same file. -/
  | shared (number : Nat)
  /-- A directory with what is under each name in it. -/
  | directory (entries : List (Text × FileNode))
  /-- Reads as empty and keeps nothing. -/
  | nullDevice

/-- What is under each name in a directory. -/
abbrev Entries := List (Text × FileNode)

namespace FileNode

def isDirectory : FileNode → Bool
  | .directory _ => true
  | _ => false

def isFile : FileNode → Bool
  | .file _ => true
  | .shared _ => true
  | _ => false

/-- The number of a file that may have other names. -/
def number? : FileNode → Option Nat
  | .shared number => some number
  | _ => none

/-- What is in a directory; in anything else is nothing. -/
def entries : FileNode → Entries
  | .directory entries => entries
  | _ => []

def under? (n : FileNode) (name : Text) : Option FileNode := n.entries.lookup name

/-- What is below a node at a location seen from it. -/
def below? (n : FileNode) : Location → Option FileNode
  | [] => some n
  | name :: rest => (n.under? name).bind fun inner => inner.below? rest

/-- Entries with `node` under a name: in place of what was there, else at the end. -/
def setEntry (name : Text) (node : FileNode) : Entries → Entries
  | [] => [(name, node)]
  | (other, held) :: rest =>
    if other = name then (name, node) :: rest else (other, held) :: setEntry name node rest

/-- A directory with `node` under a name. Anything else stays as it is. -/
def setUnder (n : FileNode) (name : Text) (node : FileNode) : FileNode :=
  match n with
  | .directory entries => .directory (setEntry name node entries)
  | other => other

/-- The node with `new` at a location below it; directories that are missing on the way come into
being. -/
def put (n : FileNode) (location : Location) (new : FileNode) : FileNode :=
  match location with
  | [] => new
  | name :: rest => n.setUnder name (((n.under? name).getD (.directory [])).put rest new)

theorem lookup_cons_ite (name here : Text) (held : FileNode) (rest : Entries) :
    ((here, held) :: rest).lookup name = if name = here then some held else rest.lookup name := by
  by_cases h : name = here
  · simp [h]
  · rw [List.lookup_cons, if_neg h, beq_eq_false_iff_ne.2 h]

theorem lookup_setEntry (name other : Text) (node : FileNode) (entries : Entries) :
    (setEntry name node entries).lookup other =
      if other = name then some node else entries.lookup other := by
  induction entries with
  | nil => rw [setEntry, lookup_cons_ite]
  | cons entry rest ih =>
    obtain ⟨here, held⟩ := entry
    unfold setEntry
    split
    · next hhere => simp +contextual only [hhere, lookup_cons_ite, ↓reduceIte]
    · next hhere => simp only [lookup_cons_ite, ih]; grind

/-- A name in a directory has what was put under it, and the others keep what they had. -/
theorem under?_setUnder {n : FileNode} (h : n.isDirectory = true) (name other : Text)
    (node : FileNode) :
    (n.setUnder name node).under? other = if other = name then some node else n.under? other := by
  cases n with
  | directory es => simp only [setUnder, under?, entries, lookup_setEntry]
  | _ => simp [isDirectory] at h

theorem isDirectory_of_under? {n inner : FileNode} {name : Text} (h : n.under? name = some inner) :
    n.isDirectory = true := by
  cases n <;> simp_all [under?, entries, isDirectory]

/-- A location in a directory holds what was put there. -/
theorem below?_put_self (new : FileNode) {n directory : FileNode} {above : Location}
    (h : n.below? above = some directory) (hd : directory.isDirectory = true) (name : Text) :
    (n.put (above ++ [name]) new).below? (above ++ [name]) = some new := by
  induction above generalizing n with
  | nil =>
    simp only [below?, Option.some.injEq] at h
    subst h
    simp [put, below?, under?_setUnder hd]
  | cons first rest ih =>
    simp only [below?, Option.bind_eq_some_iff] at h
    obtain ⟨inner, hinner, h⟩ := h
    simp [put, below?, under?_setUnder (isDirectory_of_under? hinner), hinner, ih h]

/-- Putting something at one location leaves those as they were that are neither above nor below
it. -/
theorem below?_put_of_not_isPrefix (new : FileNode) {n : FileNode} {location l : Location}
    (h₁ : ¬ location <+: l) (h₂ : ¬ l <+: location) :
    (n.put location new).below? l = n.below? l := by
  induction location generalizing n l with
  | nil => simp at h₁
  | cons first rest ih =>
    cases l with
    | nil => simp at h₂
    | cons name more =>
      by_cases hd : n.isDirectory = true
      · simp only [put, below?, under?_setUnder hd]
        by_cases hname : name = first
        · subst hname
          simp only [List.cons_prefix_cons, true_and] at h₁ h₂
          cases hu : n.under? name with
          | some inner => simp [ih h₁ h₂]
          | none =>
            simp only [if_true, Option.getD_none, Option.bind_some, ih h₁ h₂, Option.bind_none]
            cases more with
            | nil => simp at h₂
            | cons => simp [below?, under?, entries]
        · simp [hname]
      · cases n <;> simp_all [isDirectory, put, setUnder, below?, under?, entries]

end FileNode

/-- A file system: what is in its root, and what the files with several names hold. -/
structure FileTree where
  entries : Entries
  contents : Nat → ByteArray

/-- A current directory: the location of the nearest directory above it, or of itself, that is still
there, and how many were taken away from there down. -/
structure Standing where
  location : Location
  lost : Nat
deriving DecidableEq, Repr

def Standing.on (location : Location) : Standing := ⟨location, 0⟩

namespace FileTree

/-- The file system where every file has one name. -/
def ofEntries (entries : Entries) : FileTree := ⟨entries, fun _ => ByteArray.empty⟩

def empty : FileTree := .ofEntries []

def root (t : FileTree) : FileNode := .directory t.entries

/-- What a location holds; the root is always a directory. -/
def node? (t : FileTree) (location : Location) : Option FileNode := t.root.below? location

/-- The tree with `node` at a location below the root. -/
def set (t : FileTree) (location : Location) (node : FileNode) : FileTree :=
  { t with entries := (t.root.put location node).entries }

/-- The tree with `bytes` in the file with a number, under all its names. -/
def setContent (t : FileTree) (number : Nat) (bytes : ByteArray) : FileTree :=
  { t with contents := fun other => if other = number then bytes else t.contents other }

/-- A location in a directory holds what was put there. -/
theorem node?_set_self (t : FileTree) {above : Location} {name : Text} {entries : Entries}
    (h : t.node? above = some (.directory entries)) (node : FileNode) :
    (t.set (above ++ [name]) node).node? (above ++ [name]) = some node := by
  have := FileNode.below?_put_self node h rfl name
  cases above <;> simpa [node?, set, root, FileNode.put, FileNode.setUnder, FileNode.entries]
    using this

/-- Putting something at one location leaves those as they were that are neither above nor below
it. -/
theorem node?_set_of_not_isPrefix (t : FileTree) {location l : Location}
    (h₁ : ¬ location <+: l) (h₂ : ¬ l <+: location) (node : FileNode) :
    (t.set location node).node? l = t.node? l := by
  have := FileNode.below?_put_of_not_isPrefix node (n := t.root) h₁ h₂
  cases location with
  | nil => simp at h₁
  | cons => simpa [node?, set, root, FileNode.put, FileNode.setUnder, FileNode.entries] using this

/-! ### Looking paths up -/

/-- No name is longer, in bytes. -/
def maxNameBytes : Nat := 255

/-- Every path is shorter, in bytes. -/
def maxPathBytes : Nat := 4096

/-- Where a walk through a file system is. -/
structure Walk where
  /-- What is here, if anything is. -/
  node? : Option FileNode
  /-- The names that led here from the root, the last one first, each with the directory that it is
  in. -/
  trail : List (Text × FileNode)
  /-- How many directories from here down are meant that were taken away. -/
  lost : Nat

def Walk.location (w : Walk) : Location := (w.trail.map (·.1)).reverse

def start (t : FileTree) : Walk := ⟨some t.root, [], 0⟩

def Walk.down (w : Walk) (directory : FileNode) (name : Text) : Walk :=
  { w with node? := directory.under? name, trail := (name, directory) :: w.trail }

def Walk.into (w : Walk) (name : Text) : Walk := w.down (w.node?.getD (.directory [])) name

/-- The walk to the directory above; the root is above itself. -/
def Walk.up (w : Walk) : Walk :=
  match w.trail with
  | (_, directory) :: rest => { w with node? := some directory, trail := rest }
  | [] => w

def Walk.step (w : Walk) (part : Text) : Except FileCause Walk :=
  if w.lost > 0 then
    if part = ".." then .ok { w with lost := w.lost - 1 } else .error .missing
  else match w.node? with
    | none => .error .missing
    | some (.directory entries) =>
      if part = ".." then .ok w.up
      else if part.nameSize > maxNameBytes then .error .nameTooLong
      else match part.diskName? with
        | some name => .ok (w.down (.directory entries) name)
        | none => .error .noName
    | some _ => .error .notDirectory

/-- The walk from the root to a current directory. -/
def enter (t : FileTree) (cwd : Standing) : Walk :=
  { cwd.location.foldl Walk.into t.start with lost := cwd.lost }

/-- The walk that a path leads on from a current directory. Every part but the last has to be
there. -/
def walk (t : FileTree) (cwd : Standing) (p : Path) : Except FileCause Walk :=
  if p.text.nameSize ≥ maxPathBytes then .error .nameTooLong
  else p.parts.foldlM Walk.step (if p.isAbsolute then t.start else t.enter cwd)

/-- What a walk has come to. A directory that was taken away has nothing in it. -/
def Walk.found? (w : Walk) : Option FileNode :=
  if w.lost > 0 then some (.directory []) else w.node?

def find (t : FileTree) (cwd : Standing) (p : Path) : Except FileCause FileNode :=
  match t.walk cwd p with
  | .error cause => .error cause
  | .ok w =>
    match w.found? with
    | none => .error .missing
    | some node => .ok node

/-! ### Operations -/

def read (t : FileTree) (cwd : Standing) (p : Path) : Except FileCause ByteArray :=
  match t.find cwd p with
  | .error cause => .error cause
  | .ok (.file bytes) => .ok bytes
  | .ok (.shared number) => .ok (t.contents number)
  | .ok .nullDevice => .ok ByteArray.empty
  | .ok (.directory _) => .error .isDirectory

def makeDirectory (t : FileTree) (cwd : Standing) (p : Path) : Except FileCause FileTree :=
  match t.walk cwd p with
  | .error cause => .error cause
  | .ok w =>
    match w.found? with
    | some _ => .error .present
    | none => .ok (t.set w.location (.directory []))

/-- Sets the content of the file at a path to what `change` makes of the content it has, a file that
is not there having none. -/
def update (t : FileTree) (cwd : Standing) (p : Path) (change : ByteArray → ByteArray) :
    Except FileCause FileTree :=
  match t.walk cwd p with
  | .error cause => .error cause
  | .ok w =>
    match w.found? with
    | some (.directory _) => .error .isDirectory
    | some .nullDevice => .ok t
    | some (.file bytes) => .ok (t.set w.location (.file (change bytes)))
    | some (.shared number) => .ok (t.setContent number (change (t.contents number)))
    | none => .ok (t.set w.location (.file (change ByteArray.empty)))

/-- Writes a file, in place of what it held. -/
def write (t : FileTree) (cwd : Standing) (p : Path) (bytes : ByteArray) :
    Except FileCause FileTree :=
  t.update cwd p fun _ => bytes

def append (t : FileTree) (cwd : Standing) (p : Path) (bytes : ByteArray) :
    Except FileCause FileTree :=
  t.update cwd p fun old => old ++ bytes

end FileTree

end DeployScript
