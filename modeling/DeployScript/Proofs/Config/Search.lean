import DeployScript.Proofs.Config.Escape
import DeployScript.Proofs.Files.Reach

/-!
# Searching for a configuration

The search looks into a directory and those above it, twenty at most, and takes the first file that
has the name of a configuration; a directory of that name is passed over. So it finds the nearest
configuration, or none where there is none near enough.

The main statement says from where it does so: from every directory that is not so deep that the
path of a configuration in it is too long to be looked up. From such a directory the search does not
look further up but crashes.
-/

namespace DeployScript

namespace Path

theorem ancestors_eq (n : Nat) (p : Path) :
    p.ancestors n = (List.range (min n (p.parts.length + 1))).map fun d => parent^[d] p := by
  induction n generalizing p with
  | zero => simp [ancestors]
  | succ n ih =>
    rw [ancestors]
    split
    · next hempty =>
      have hlength : p.parts.length = 0 := by simpa using hempty
      rw [hlength, Nat.min_eq_right (by omega)]
      rfl
    · next hempty =>
      have hpos : p.parts.length ≠ 0 := by simpa using hempty
      have hparent : p.parent.parts.length + 1 = p.parts.length := by
        rw [parts_parent, List.length_dropLast]
        omega
      rw [ih, hparent, Nat.add_min_add_right, List.range_succ_eq_map, List.map_cons, List.map_map]
      rfl

theorem parts_iterate_parent_sublist (p : Path) (d : Nat) :
    (parent^[d] p).parts.Sublist p.parts := by
  induction d generalizing p with
  | zero => exact List.Sublist.refl _
  | succ d ih => exact (ih p.parent).trans (List.dropLast_sublist _)

end Path

namespace Config

variable {w : Machine} {start : Option Path} {t : FileTree} {l : Location} {p directory : Path}

/-! ### What there is to find -/

/-- A file in the directory has the name of a configuration. -/
def HasConfiguration (t : FileTree) (l : Location) : Prop :=
  ∃ bytes, t.kind? (l ++ [Text.ofString fileName]) = some (.file bytes)

instance (t : FileTree) (l : Location) : Decidable (HasConfiguration t l) :=
  match h : t.kind? (l ++ [Text.ofString fileName]) with
  | some (.file bytes) => .isTrue ⟨bytes, h⟩
  | some .directory => .isFalse fun ⟨_, hfile⟩ => by simp [h] at hfile
  | some .nullDevice => .isFalse fun ⟨_, hfile⟩ => by simp [h] at hfile
  | none => .isFalse fun ⟨_, hfile⟩ => by simp [h] at hfile

/-- Of the directory and those above it, counted from itself up to the root and as far as the search
goes, the one with this number is the first that has a configuration. -/
structure NearestAt (t : FileTree) (l : Location) (d : Nat) : Prop where
  limit : d < searchLimit
  depth : d ≤ l.length
  has : HasConfiguration t (List.dropLast^[d] l)
  first : ∀ e < d, ¬ HasConfiguration t (List.dropLast^[e] l)

/-- The search from a path that leads to the directory can start. -/
structure StartsIn (w : Machine) (start : Option Path) (l : Location) : Prop where
  path : Action.badPath? (start.getD .here) = none
  located : w.tree.locate w.directory (start.getD .here) = .ok (.on l)
  directory : w.tree.kind? l = some .directory
  cwd : (start.getD .here).isAbsolute = false → w.InReach

/-- What a search from the directory should find: the nearest configuration, by its absolute path,
or nothing if there is none. -/
inductive Nearest (w : Machine) (l : Location) : Option Path → Prop
  | found {d : Nat} {p : Path} (hnearest : NearestAt w.tree l d)
      (hspells : p.Spells (List.dropLast^[d] l ++ [Text.ofString fileName]))
      (hlocated : w.tree.locate w.directory p =
        .ok (.on (List.dropLast^[d] l ++ [Text.ofString fileName]))) : Nearest w l (some p)
  | none (h : ∀ d, ¬ NearestAt w.tree l d) : Nearest w l none

/-- The search finds the nearest configuration, or that there is none. -/
def FindsNearest (w : Machine) (start : Option Path) (l : Location) : Prop :=
  ∃ found, ((find? start).on w).1 = .ok found ∧ Nearest w l found

/-! ### Looking into one directory -/

theorem isPathPart_fileName : isPathPart fileName = true := by decide

theorem canName_fileName : CanName fileName := by decide

theorem spells_child_fileName (h : directory.Spells l) :
    (directory.child fileName).Spells (l ++ [Text.ofString fileName]) := by
  have hname : FileTree.nameOf fileName = fileName := by decide
  rw [← hname]
  exact h.child isPathPart_fileName canName_fileName

theorem fileAt_of_tooLong (h : directory.Spells l)
    (hlong : FileTree.maxPathBytes ≤ (directory.child fileName).text.nameSize) :
    fileAt w (directory.child fileName) =
      .error (Machine.fileError (directory.child fileName) .nameTooLong) := by
  have hlocate : w.tree.locate w.directory (directory.child fileName) = .error .nameTooLong :=
    FileTree.locate_of_tooLong hlong
  rw [fileAt, (spells_child_fileName h).badPath?, Machine.testNode,
    FileTree.find_of_locate_error hlocate]
  rfl

theorem locate_child_fileName (h : directory.Spells l) (hl : t.kind? l = some .directory)
    (hsize : (directory.child fileName).text.nameSize < FileTree.maxPathBytes) (cwd : Standing) :
    t.locate cwd (directory.child fileName) = .ok (.on (l ++ [Text.ofString fileName])) :=
  (spells_child_fileName h).locate (by rw [List.dropLast_concat]; exact hl) hsize

theorem fileAt_child_fileName (h : directory.Spells l) (hl : w.tree.kind? l = some .directory)
    (hsize : (directory.child fileName).text.nameSize < FileTree.maxPathBytes) :
    fileAt w (directory.child fileName) = .ok (decide (HasConfiguration w.tree l)) := by
  have hlocate := locate_child_fileName h hl hsize w.directory
  have hkindAt := w.tree.kindAt?_on (l ++ [Text.ofString fileName])
  rw [fileAt, (spells_child_fileName h).badPath?, Machine.testNode]
  cases hkind : w.tree.kind? (l ++ [Text.ofString fileName]) with
  | none =>
    rw [hkind] at hkindAt
    rw [FileTree.find_of_absent hlocate hkindAt]
    simp [HasConfiguration, hkind]
  | some k =>
    rw [hkind] at hkindAt
    obtain ⟨n, hfind, hn⟩ := FileTree.find_of_kind hlocate hkindAt
    rw [hfind]
    subst hn
    cases n <;> simp [HasConfiguration, hkind, FileTree.kindOf, FileNode.isFile]

/-! ### Looking into one directory after the other -/

theorem on_firstFile_map {ι : Type} (place : ι → Path) (found : ι → Bool) (is : List ι)
    (h : ∀ i ∈ is, fileAt w (place i) = .ok (found i)) :
    (firstFile (is.map place)).on w = (.ok ((is.find? found).map place), w) := by
  induction is with
  | nil => rfl
  | cons i rest ih =>
    obtain ⟨hi, hrest⟩ := List.forall_mem_cons.1 h
    have hon := on_isFile w (place i)
    rw [hi] at hon
    rw [List.map_cons, firstFile, Action.on_bind_ok hon, List.find?_cons]
    cases found i with
    | true => rfl
    | false => exact ih hrest

theorem nameSize_child_iterate_parent_le (h : directory.Spells l) (d : Nat) :
    ((Path.parent^[d] directory).child fileName).text.nameSize ≤
      (directory.child fileName).text.nameSize := by
  have hbelow := spells_child_fileName h
  refine Path.nameSize_text_le (.inl ?_) ?_ fun part hpart => (hbelow.parts part hpart).bytes
  · rw [(spells_child_fileName (h.iterate d)).root, hbelow.root]
  · rw [Path.parts_child_of_isPathPart _ isPathPart_fileName,
      Path.parts_child_of_isPathPart _ isPathPart_fileName]
    exact (Path.parts_iterate_parent_sublist directory d).append (List.Sublist.refl _)

theorem kind?_iterate_dropLast (h : t.kind? l = some .directory) (d : Nat) :
    t.kind? (List.dropLast^[d] l) = some .directory := by
  induction d generalizing l with
  | zero => exact h
  | succ d ih => exact ih (FileTree.kind?_of_isPrefix (List.dropLast_prefix l) h)

theorem on_firstFile_candidates (h : directory.Spells l) (hl : w.tree.kind? l = some .directory)
    (hsize : (directory.child fileName).text.nameSize < FileTree.maxPathBytes) :
    (firstFile (candidates directory)).on w =
      (.ok (((List.range (min searchLimit (l.length + 1))).find? fun d =>
        decide (HasConfiguration w.tree (List.dropLast^[d] l))).map fun d =>
          (Path.parent^[d] directory).child fileName), w) := by
  have hlength : directory.parts.length = l.length := by rw [← h.names, List.length_map]
  have hcandidates : candidates directory = (List.range (min searchLimit (l.length + 1))).map
      fun d => (Path.parent^[d] directory).child fileName := by
    rw [candidates, Path.ancestors_eq, List.map_map, hlength]
    rfl
  rw [hcandidates]
  apply on_firstFile_map
  intro d _
  exact fileAt_child_fileName (h.iterate d) (kind?_iterate_dropLast hl d)
    (Nat.lt_of_le_of_lt (nameSize_child_iterate_parent_le h d) hsize)

/-! ### The search -/

theorem on_find?_of_startsIn (h : StartsIn w start l) :
    ∃ directory : Path, directory.Spells l ∧
      ((Action.absolute (start.getD .here) : Action OnMachine Path).on w).1 = .ok directory ∧
        (find? start).on w = (firstFile (candidates directory)).on w := by
  obtain ⟨directory, hon, hspells⟩ := Machine.on_absolute_spells h.path h.located h.cwd
  have hcheck :
      (Action.checkPath (start.getD .here) : Action OnMachine Unit).on w = (.ok (), w) := by
    rw [Action.checkPath, h.path]
    rfl
  refine ⟨directory, hspells, by rw [hon], ?_⟩
  rw [find?, Action.on_bind_ok hcheck, Action.on_bind_ok hon]

theorem findsNearest_of_short (h : StartsIn w start l) (hspells : directory.Spells l)
    (hon : (find? start).on w = (firstFile (candidates directory)).on w)
    (hsize : (directory.child fileName).text.nameSize < FileTree.maxPathBytes) :
    FindsNearest w start l := by
  rw [on_firstFile_candidates hspells h.directory hsize] at hon
  refine ⟨_, by rw [hon], ?_⟩
  cases hfind : (List.range (min searchLimit (l.length + 1))).find? fun d =>
      decide (HasConfiguration w.tree (List.dropLast^[d] l)) with
  | none =>
    rw [List.find?_range_eq_none] at hfind
    apply Nearest.none
    intro d hd
    have hlt : d < min searchLimit (l.length + 1) :=
      Nat.lt_min.2 ⟨hd.limit, Nat.lt_succ_of_le hd.depth⟩
    simpa [hd.has] using hfind d hlt
  | some d =>
    obtain ⟨hhas, hmem, hfirst⟩ := List.find?_range_eq_some.1 hfind
    obtain ⟨hlimit, hdepth⟩ := Nat.lt_min.1 (List.mem_range.1 hmem)
    have hd := hspells.iterate d
    have hshort := Nat.lt_of_le_of_lt (nameSize_child_iterate_parent_le hspells d) hsize
    refine .found ⟨hlimit, Nat.le_of_lt_succ hdepth, by simpa using hhas, ?_⟩
      (spells_child_fileName hd)
      (locate_child_fileName hd (kind?_iterate_dropLast h.directory d) hshort w.directory)
    intro e he
    simpa using hfirst e he

theorem on_firstFile_of_tooLong (hspells : directory.Spells l)
    (hlong : FileTree.maxPathBytes ≤ (directory.child fileName).text.nameSize) :
    (firstFile (candidates directory)).on w =
      (.error (.crash (.file (Machine.fileError (directory.child fileName) .nameTooLong))), w) := by
  have hfirst : FirstAt w (candidates directory) (directory.child fileName) :=
    ⟨[], _, rfl, by simp⟩
  exact (on_firstFile_of_firstAt hfirst).2 _ (fileAt_of_tooLong hspells hlong)

/-- The search from a directory finds the nearest configuration, or that there is none, exactly
where the path of a configuration in that directory is not too long to be looked up; where it is too
long the search crashes. -/
theorem findsNearest_iff (h : StartsIn w start l) :
    ∃ directory : Path, directory.Spells l ∧
      ((Action.absolute (start.getD .here) : Action OnMachine Path).on w).1 = .ok directory ∧
        (FindsNearest w start l ↔
          (directory.child fileName).text.nameSize < FileTree.maxPathBytes) ∧
          (FileTree.maxPathBytes ≤ (directory.child fileName).text.nameSize →
            ((find? start).on w).1 = .error (.crash (.file
              (Machine.fileError (directory.child fileName) .nameTooLong)))) := by
  obtain ⟨directory, hspells, habsolute, hon⟩ := on_find?_of_startsIn h
  have hcrash : FileTree.maxPathBytes ≤ (directory.child fileName).text.nameSize →
      ((find? start).on w).1 = .error (.crash (.file
        (Machine.fileError (directory.child fileName) .nameTooLong))) := by
    intro hlong
    rw [hon, on_firstFile_of_tooLong hspells hlong]
  refine ⟨directory, hspells, habsolute, ⟨?_, findsNearest_of_short h hspells hon⟩, hcrash⟩
  rintro ⟨found, hfound, -⟩
  by_contra hlong
  rw [hcrash (Nat.le_of_not_lt hlong)] at hfound
  cases hfound

/-- A project with a configuration and, below it, a directory of that name. -/
def shadedMachine : Machine :=
  .ofTree (.ofEntries [("project", .directory
    [("deployer-kit.yml", .file ByteArray.empty),
      ("src", .directory [("deployer-kit.yml", .directory []), ("vaults", .directory [])])])])
    ["project", "src", "vaults"]

theorem findsNearest_iff_shaded :
    StartsIn shadedMachine (some (.parse "../vaults")) ["project", "src", "vaults"] ∧
      FindsNearest shadedMachine (some (.parse "../vaults")) ["project", "src", "vaults"] := by
  have hstarts : StartsIn shadedMachine (some (.parse "../vaults")) ["project", "src", "vaults"] :=
    ⟨by decide, by decide +kernel, rfl, fun _ => ⟨rfl, rfl, by decide +kernel⟩⟩
  obtain ⟨directory, -, habsolute, hiff, -⟩ := findsNearest_iff hstarts
  have hdirectory : ((Action.absolute (.parse "../vaults") : Action OnMachine Path).on
      shadedMachine).1 = .ok (.parse "/project/src/vaults") := by decide +kernel
  obtain rfl : directory = .parse "/project/src/vaults" :=
    Except.ok.inj (habsolute.symm.trans hdirectory)
  exact ⟨hstarts, hiff.2 (by decide +kernel)⟩

/-! ### Too deep a directory -/

/-- Directories one below the other. -/
def nest : Location → FileNode
  | [] => .directory []
  | name :: rest => .directory [(name, nest rest)]

theorem below?_nest (l : Location) : (nest l).below? l = some (.directory []) := by
  induction l with
  | nil => rfl
  | cons name rest ih => simp [nest, FileNode.below?, FileNode.under?, FileNode.entries, ih]

def deepLocation : Location := List.replicate 17 (List.replicate 239 (.char 'a'))

def deepMachine : Machine := .ofTree (.ofEntries (nest deepLocation).entries) deepLocation

def deepPath : Path := ⟨.slash, deepLocation, by decide +kernel⟩

/-- The current directory can be too deep to be searched. -/
theorem not_forall_findsNearest : ¬ ∀ w start l, StartsIn w start l → FindsNearest w start l := by
  intro hall
  have hkind : deepMachine.tree.kind? deepLocation = some .directory :=
    congrArg (Option.map deepMachine.tree.kindOf) (below?_nest deepLocation)
  have hname : IsFileName (List.replicate 239 (.char 'a')) := by decide +kernel
  have hstarts : StartsIn deepMachine none deepLocation := by
    refine ⟨by decide, rfl, hkind, fun _ => ⟨rfl, hkind, ?_⟩⟩
    intro name hmem
    rw [List.eq_of_mem_replicate hmem]
    exact hname
  obtain ⟨directory, hspells, habsolute, hon⟩ := on_find?_of_startsIn hstarts
  have hdeep :
      ((Action.absolute .here : Action OnMachine Path).on deepMachine).1 = .ok deepPath := by
    decide +kernel
  obtain rfl : directory = deepPath := Except.ok.inj (habsolute.symm.trans hdeep)
  obtain ⟨found, hfound, -⟩ := hall deepMachine none deepLocation hstarts
  rw [hon, on_firstFile_of_tooLong hspells (by decide +kernel)] at hfound
  cases hfound

end Config

end DeployScript
