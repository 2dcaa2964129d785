import DeployScript.Text.Basic

/-!
# Paths

A path is read off its text by the slashes: empty segments and single dots are dropped, two dots
stay, since only a file system can tell where they lead. A path may start at the root, which is
written with one slash or with two; three or more count as one. Joining an absolute path replaces
what stands before it.
-/

namespace DeployScript

/-! ### Segments -/

/-- The segments between the slashes, empty ones included. -/
def splitSlashes : Text → List Text
  | [] => [[]]
  | c :: rest =>
    if c = '/' then [] :: splitSlashes rest
    else match splitSlashes rest with
      | [] => [[c]]
      | segment :: more => (c :: segment) :: more

/-- Does the segment name something: is it neither empty nor a single dot? -/
def isNamingSegment (segment : Text) : Bool := segment != [] && segment != "."

def isPathPart (name : Text) : Bool := isNamingSegment name && !name.contains '/'

/-! ### Paths -/

/-- Where a path starts. -/
inductive PathRoot where
  /-- At the current directory. -/
  | relative
  /-- At the root, written with one slash. -/
  | slash
  /-- At the root, written with two slashes. -/
  | doubleSlash
deriving DecidableEq, Repr

/-- A path: where it starts and the parts that follow. -/
structure Path where
  root : PathRoot
  parts : List Text
  parts_ok : parts.all isPathPart = true
deriving DecidableEq

namespace Path

def rootOf (t : Text) : PathRoot :=
  match (t.takeWhile (· == .char '/')).length with
  | 0 => .relative
  | 2 => .doubleSlash
  | _ => .slash

/-- The segments of a text that name something. -/
def partsOf (t : Text) : List Text := (splitSlashes t).filter isNamingSegment

/-- No segment holds a slash. -/
theorem not_mem_of_mem_splitSlashes {t segment : Text} (h : segment ∈ splitSlashes t) :
    CodePoint.char '/' ∉ segment := by
  induction t generalizing segment with
  | nil => simp_all [splitSlashes]
  | cons c rest ih =>
    unfold splitSlashes at h
    split at h
    · rcases List.mem_cons.1 h with rfl | h
      · simp
      · exact ih h
    · next hc =>
      split at h
      · simp only [List.mem_singleton] at h
        subst h
        simp [Ne.symm hc]
      · next first more heq =>
        rcases List.mem_cons.1 h with rfl | h
        · have : CodePoint.char '/' ∉ first := ih (by simp [heq])
          simp [Ne.symm hc, this]
        · exact ih (by simp [heq, h])

theorem partsOf_ok (t : Text) : (partsOf t).all isPathPart = true := by
  simp only [partsOf, List.all_eq_true, List.mem_filter]
  rintro segment ⟨hmem, hname⟩
  simp [isPathPart, hname, not_mem_of_mem_splitSlashes hmem]

def parse (t : Text) : Path := ⟨rootOf t, partsOf t, partsOf_ok t⟩

def rootText : PathRoot → Text
  | .relative => []
  | .slash => "/"
  | .doubleSlash => "//"

/-- The text of a path; a single dot stands for the path without parts. -/
def text (p : Path) : Text :=
  if p.root = .relative ∧ p.parts = [] then "."
  else rootText p.root ++ Text.join "/" p.parts

def isAbsolute (p : Path) : Bool := p.root != .relative

def here : Path := ⟨.relative, [], rfl⟩

/-- The root itself. -/
def top : Path := ⟨.slash, [], rfl⟩

/-- `q` seen from `p`: an absolute `q` stands for itself. -/
def join (p q : Path) : Path :=
  if q.isAbsolute then q
  else ⟨p.root, p.parts ++ q.parts, by simp [List.all_append, p.parts_ok, q.parts_ok]⟩

def child (p : Path) (name : Text) : Path := p.join (parse name)

/-- The last part; empty if there is none. -/
def name (p : Path) : Text := p.parts.getLast?.getD []

/-- The path without its last part; a path without parts is its own parent. -/
def parent (p : Path) : Path :=
  ⟨p.root, p.parts.dropLast, by
    rw [List.all_eq_true]
    exact fun x hx => List.all_eq_true.1 p.parts_ok x (List.dropLast_subset _ hx)⟩

/-- One more part after those on the way: two dots take the last of them away. -/
def climbStep (done : List Text) (part : Text) : List Text :=
  if part = ".." then done.dropLast else done ++ [part]

/-- The parts with each two dots taking away the part before them, none being left before the
first. -/
def climb (parts : List Text) : List Text := parts.foldl climbStep []

theorem mem_climb {parts : List Text} {x : Text} (h : x ∈ climb parts) : x ∈ parts := by
  have go : ∀ l done : List Text, x ∈ l.foldl climbStep done → x ∈ done ∨ x ∈ l := by
    intro l
    induction l with
    | nil => simp
    | cons part rest ih =>
      intro done hx
      rcases ih _ hx with h | h
      · unfold climbStep at h
        split at h
        · exact .inl (List.dropLast_subset _ h)
        · rcases List.mem_append.1 h with h | h
          · exact .inl h
          · exact .inr (by simp_all)
      · exact .inr (by simp [h])
  simpa using go parts [] h

/-- The absolute path that `p` means in the directory `cwd` where no part is a link: two dots lead
to the directory above. -/
def resolve (cwd p : Path) : Path :=
  ⟨.slash, climb (cwd.join p).parts, by
    rw [List.all_eq_true]
    exact fun x hx => List.all_eq_true.1 (cwd.join p).parts_ok x (mem_climb hx)⟩

/-- Does the text of the path hold a NUL character, which no file name can? -/
def hasNul (p : Path) : Bool := p.parts.any fun part => part.contains '\x00'

/-- Every directory on the way up, from the path itself to the root. -/
def ancestors : Nat → Path → List Path
  | 0, _ => []
  | n + 1, p => p :: (if p.parts.isEmpty then [] else ancestors n p.parent)

end Path

end DeployScript
