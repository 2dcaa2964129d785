import DeployScript.Proofs.Config.Anchoring
import DeployScript.Proofs.Config.Escape
import DeployScript.Proofs.Files.Change
import DeployScript.Proofs.Files.Climb

/-!
# Ways to name a configuration

A configuration file can be named by an absolute path, by a path from any current directory, with
dots on the way, or not at all where the search finds it. The directory that its paths are meant
from is told by the path that was given in the one case and by the search in the other; it is the
same directory.

The main statement is that what is loaded depends on the file alone: on which one it is and what is
in it, not on how it was named or from where.
-/

namespace DeployScript

namespace Config

open DeployScript.Action (on_absolute)

variable {w u : Machine} {place : Location} {bytes : ByteArray} {config : Config} {p : Path}
  {search : Bool}

/-! ### The file -/

/-- A configuration is read from a mapping, and a document with nothing in it is an empty one. -/
theorem ofContent_eq_ok_iff {path : Text} {d : Document} :
    ofContent path d = .ok config ↔
      Config.ofDocument (match d with | .null => .mapping [] | d => d) = .ok config := by
  cases d with
  | mapping entries =>
    simp only [ofContent]
    cases Config.ofDocument (.mapping entries) with
    | error issues => simp
    | ok c => simp
  | null =>
    simp only [ofContent]
    cases Config.ofDocument (.mapping []) with
    | error issues => simp
    | ok c => simp
  | _ => exact iff_of_false nofun nofun

/-- Where a text was read is told in errors alone. -/
theorem ofText_eq_ok_of_ofText [Depths] {path : Text} (path' : Text) {text : String}
    (h : ofText path text = .ok config) : ofText path' text = .ok config := by
  rw [ofText] at h ⊢
  split at h
  · simp at h
  · simp at h
  · next d _ =>
    cases hcontent : ofContent path d with
    | error e =>
      rw [hcontent] at h
      simp [Except.mapError] at h
    | ok c =>
      have hcontent' : ofContent path' d = .ok c :=
        ofContent_eq_ok_iff.2 (ofContent_eq_ok_iff.1 hcontent)
      rw [hcontent] at h
      rw [hcontent']
      exact h

def Encodes [Depths] (bytes : ByteArray) (config : Config) : Prop :=
  ∃ text, Text.ofBytes? bytes = some text ∧ ofText [] text = .ok config

/-- The file is at the place, and is none that the log is written to. -/
structure Holds (w : Machine) (place : Location) (bytes : ByteArray) : Prop where
  file : w.tree.kind? place = some (.file bytes)
  grounds : w.tree.Grounds w.directory
  log : ∀ handler ∈ w.log.handlers, ∀ path s, handler.sink = .file path →
    w.tree.locate w.directory path = .ok s → ¬ w.tree.SameFile s.location place

/-- The file and the way to it are as they were after a handler took a record. -/
theorem Holds.handle (h : Holds w place bytes) (r : Log.Record) {handler : Log.Handler}
    (hmem : handler ∈ w.log.handlers) :
    Holds (w.handle r handler) place bytes ∧ ∀ l, w.tree.kind? l = some .directory →
      (w.handle r handler).tree.kind? l = some .directory := by
  have hsame : Holds w place bytes ∧
      ∀ l, w.tree.kind? l = some .directory → w.tree.kind? l = some .directory :=
    ⟨h, fun _ => id⟩
  rw [Machine.handle]
  split
  · exact ⟨⟨h.file, h.grounds, h.log⟩, fun _ => id⟩
  · next path hsink =>
    split
    · exact hsame
    · next text _ =>
      obtain ⟨written, hwrite⟩ := FileTree.exists_update_eq_write w.tree w.directory path
        fun old => old ++ text.toUTF8
      rw [FileTree.append, hwrite]
      cases hafter : w.tree.write w.directory path written with
      | error cause => exact hsame
      | ok tree =>
        obtain ⟨s, hwritten⟩ := FileTree.writtenAt_of_write h.grounds hafter
        have hback : ∀ l, tree.kind? l = some .directory → w.tree.kind? l = some .directory :=
          fun l => (hwritten.directories l).1
        have hlocate := FileTree.locate_of_directories hback hwritten.located
        have hother := h.log handler hmem path s hsink hlocate
        refine ⟨⟨?_, (hwritten.directories _).2 h.grounds, ?_⟩, fun l => (hwritten.directories l).2⟩
        · change tree.kind? place = _
          rw [hwritten.others place (mt FileTree.SameFile.symm hother), h.file]
        · intro handler' hmem' path' s' hsink' hlocate' hfile
          exact h.log handler' hmem' path' s' hsink'
            (FileTree.locate_of_directories hback hlocate') (hwritten.sameFile_iff.1 hfile)

theorem Holds.foldl_handle (r : Log.Record) {handlers : List Log.Handler} :
    ∀ {w : Machine}, Holds w place bytes → (∀ handler ∈ handlers, handler ∈ w.log.handlers) →
      Holds (handlers.foldl (Machine.handle r) w) place bytes ∧
        ∀ l, w.tree.kind? l = some .directory →
          (handlers.foldl (Machine.handle r) w).tree.kind? l = some .directory := by
  induction handlers with
  | nil => exact fun h _ => ⟨h, fun _ => id⟩
  | cons first rest ih =>
    intro w h hmem
    rw [List.forall_mem_cons] at hmem
    obtain ⟨hfirst, hkept⟩ := h.handle r hmem.1
    have hlog : (w.handle r first).log = w.log := by
      obtain ⟨tree, errors, heq⟩ := w.exists_handle_eq r first
      rw [heq]
    obtain ⟨hrest, hkept'⟩ := ih hfirst (by rw [hlog]; exact hmem.2)
    exact ⟨hrest, fun l hl => hkept' l (hkept l hl)⟩

/-- The file and the way to it are as they were after a record was handed to the log. -/
theorem Holds.takeRecord (h : Holds w place bytes) (r : Log.Record) :
    Holds (w.takeRecord r) place bytes ∧
      ∀ l, w.tree.kind? l = some .directory → (w.takeRecord r).tree.kind? l = some .directory :=
  Holds.foldl_handle r ⟨h.file, h.grounds, h.log⟩ fun _ => Log.State.mem_handlers_of_mem_takers

/-! ### Naming it -/

/-- The path leads to the place, and its parts are spelled like the names on the way. -/
structure LeadsTo (w : Machine) (p : Path) (place : Location) : Prop where
  path : Action.badPath? p = none
  spelled : ∀ part ∈ p.parts, part.diskName? = some part
  located : w.tree.locate w.directory p = .ok (.on place)

/-- The ways to name a file: a path that leads to it, which may be relative where the current
directory is there, or no path where the search finds it. -/
inductive Designates (w : Machine) (place : Location) : Option Path → Bool → Prop
  | named {p : Path} {search : Bool} (h : LeadsTo w p place)
      (hcwd : p.isAbsolute = false → w.InPlace) : Designates w place (some p) search
  | found {p : Path} (hcwd : w.InPlace) (h : ((find? none).on w).1 = .ok (some p))
      (hlocated : w.tree.locate w.directory p = .ok (.on place)) : Designates w place none true

/-- The directory that a file at the place is in, as a path. -/
structure IsDirectoryOf (directory : Path) (place : Location) : Prop where
  root : directory.root = .slash
  parts : directory.parts = place.dropLast

theorem IsDirectoryOf.unique {d d' : Path} (h : IsDirectoryOf d place)
    (h' : IsDirectoryOf d' place) : d = d' := by
  obtain ⟨root, parts, hparts⟩ := d
  obtain ⟨root', parts', hparts'⟩ := d'
  rw [Path.mk.injEq]
  exact ⟨h.root.trans h'.root.symm, h.parts.trans h'.parts.symm⟩

/-- The directory that the paths of the file are meant from is the one that the file is in. -/
theorem on_absolute_parent (hholds : Holds w place bytes) (h : LeadsTo w p place)
    (hcwd : p.isAbsolute = false → w.InPlace) :
    ∃ directory, ((Action.absolute p.parent).on w).1 = .ok directory ∧
      IsDirectoryOf directory place := by
  have hclimb := FileTree.foldl_climbStep_parent hholds.grounds (fun h => (hcwd h).lost) h.spelled
    h.located hholds.file
  rw [on_absolute]
  have hparent : p.parent.isAbsolute = p.isAbsolute := rfl
  by_cases habsolute : p.isAbsolute = true
  · rw [hparent, if_pos habsolute]
    refine ⟨_, rfl, rfl, ?_⟩
    rw [FileTree.base, if_pos habsolute] at hclimb
    rw [Path.parts_resolve, Path.parts_join_top]
    exact hclimb
  · rw [Bool.not_eq_true] at habsolute
    obtain ⟨cwd, hpath, hparts⟩ := (hcwd habsolute).directoryPath
    rw [hparent, if_neg (by rw [habsolute]; simp), hpath]
    refine ⟨_, rfl, rfl, ?_⟩
    rw [FileTree.base, if_neg (by rw [habsolute]; simp)] at hclimb
    have hjoin := Path.parts_join_of_relative cwd (hparent.trans habsolute)
    rw [Path.parts_resolve, hjoin, hparts, Path.climb_append, (hcwd habsolute).climb_location]
    exact hclimb

/-! ### Searching it -/

theorem mem_of_on_firstFile {paths : List Path} (h : ((firstFile paths).on w).1 = .ok (some p)) :
    p ∈ paths ∧ fileAt w p = .ok true := by
  rcases on_firstFile_cases w paths with hnone | ⟨q, hfirst, hq⟩
  · rw [hnone] at h
    simp at h
  · obtain ⟨hfound, herror⟩ := on_firstFile_of_firstAt hfirst
    obtain ⟨front, rest, hpaths, -⟩ := hfirst
    rcases hq with hq | ⟨e, hq⟩
    · rw [hfound hq, Except.ok.injEq, Option.some.injEq] at h
      subst h
      rw [hpaths]
      exact ⟨List.mem_append_right _ List.mem_cons_self, hq⟩
    · rw [herror e hq] at h
      simp at h

/-- Searching leaves the machine as it is. -/
theorem machine_on_find? (w : Machine) : ((find? none).on w).2 = w := by
  rw [on_find?_none]
  cases w.directoryPath with
  | error e => rfl
  | ok cwd =>
    rcases on_firstFile_cases w (candidates (.resolve cwd .here)) with
      hnone | ⟨p, hfirst, hfile | ⟨e, hfile⟩⟩
    · simp only [hnone]
    · simp only [(on_firstFile_of_firstAt hfirst).1 hfile]
    · simp only [(on_firstFile_of_firstAt hfirst).2 e hfile]

theorem parts_of_mem_ancestors {n : Nat} {q : Path} (h : q ∈ p.ancestors n) :
    q.parts <+: p.parts := by
  induction n generalizing p with
  | zero => simp [Path.ancestors] at h
  | succ n ih =>
    rw [Path.ancestors, List.mem_cons] at h
    rcases h with rfl | h
    · exact List.prefix_refl _
    · split at h
      · simp at h
      · exact (ih h).trans (List.dropLast_prefix _)

theorem parse_fileName : Path.parse fileName = ⟨.relative, [fileName], by decide⟩ := by
  decide

/-- What the search finds is a path that leads to the file. -/
theorem leadsTo_of_find? (hcwd : w.InPlace) (h : ((find? none).on w).1 = .ok (some p))
    (hlocated : w.tree.locate w.directory p = .ok (.on place)) : LeadsTo w p place := by
  obtain ⟨cwd, hpath, hparts⟩ := hcwd.directoryPath
  rw [on_find?_none, hpath] at h
  obtain ⟨hmem, hfile⟩ := mem_of_on_firstFile h
  obtain ⟨directory, hdirectory, rfl⟩ := List.mem_map.1 hmem
  have habove := parts_of_mem_ancestors hdirectory
  have hstart : (Path.resolve cwd .here).parts = w.directory.location := by
    have hjoin : (cwd.join .here).parts = w.directory.location ++ [] := by
      rw [← hparts]
      rfl
    rw [Path.parts_resolve, hjoin, List.append_nil, hcwd.climb_location]
  have hchild : directory.child fileName = directory.join ⟨.relative, [fileName], by decide⟩ := by
    rw [Path.child, parse_fileName]
  refine ⟨?_, ?_, hlocated⟩
  · by_contra hbad
    rw [fileAt, if_pos (Option.isSome_iff_ne_none.2 hbad)] at hfile
    simp at hfile
  · intro part hpart
    rw [hchild] at hpart
    rcases List.mem_append.1 hpart with hpart | hpart
    · rw [hstart] at habove
      exact (hcwd.names part (habove.subset hpart)).spelled
    · rw [List.mem_singleton.1 hpart]
      decide

/-! ### Loading it -/

theorem fileAt_of_leadsTo (hholds : Holds w place bytes) (h : LeadsTo w p place) :
    fileAt w p = .ok true := by
  have hkind : w.tree.kindAt? (.on place) = some (.file bytes) := by
    rw [FileTree.kindAt?_on, hholds.file]
  obtain ⟨n, hfind, hn⟩ := FileTree.find_of_kind h.located hkind
  have hpath : ¬ (Action.badPath? p).isSome = true := by rw [h.path]; simp
  rw [fileAt, if_neg hpath, Machine.testNode, hfind]
  cases n with
  | file held => rfl
  | shared number => rfl
  | _ => simp [FileTree.kindOf] at hn

/-- What a path leads to is loaded as the configuration that it holds, seen from its directory. -/
theorem on_loadFile_of_leadsTo [Depths] (hholds : Holds w place bytes)
    (hconfig : Encodes bytes config) (h : LeadsTo w p place)
    (hcwd : p.isAbsolute = false → w.InPlace) :
    ∃ directory, IsDirectoryOf directory place ∧
      ((loadFile p).on w).1 = .ok (config.anchor directory) := by
  obtain ⟨text, hbytes, hread⟩ := hconfig
  obtain ⟨directory, habsolute, hdirectory⟩ := on_absolute_parent hholds h hcwd
  obtain ⟨htaken, hkept⟩ := hholds.takeRecord (.debug logger ("Loading config from " ++ p.text))
  have hsame : (told w p).directory = w.directory := (w.sameSetting_takeRecord _).directory
  have hlocated : (told w p).tree.locate (told w p).directory p = .ok (.on place) := by
    rw [hsame]
    exact FileTree.locate_of_directories hkept h.located
  have htext : (told w p).tree.HasText (told w p).directory p text := by
    refine ⟨h.path, bytes, FileTree.read_eq_ok_iff.2 ⟨_, hlocated, .inl ?_⟩, hbytes⟩
    rw [FileTree.kindAt?_on]
    exact htaken.file
  have habsolute' : ((Action.absolute p.parent).on (told w p)).1 = .ok directory := by
    rw [← habsolute]
    simp only [on_absolute, Machine.directoryPath, hsame]
  refine ⟨directory, hdirectory, ?_⟩
  rw [on_loadFile, Action.on_bind_ok (Action.on_readText_of_hasText htext)]
  simp only [on_anchored_of_ok (ofText_eq_ok_of_ofText p.text hread), habsolute', Except.map]

theorem on_load_of_designates [Depths] {path : Option Path} {search : Bool}
    (hholds : Holds w place bytes) (hconfig : Encodes bytes config)
    (h : Designates w place path search) :
    ∃ directory, IsDirectoryOf directory place ∧
      ((load path search).on w).1 = .ok (config.anchor directory) := by
  cases h with
  | named hlead hcwd =>
    rw [on_load_some, fileAt_of_leadsTo hholds hlead]
    exact on_loadFile_of_leadsTo hholds hconfig hlead hcwd
  | found hcwd hfind hlocated =>
    have hlead := leadsTo_of_find? hcwd hfind hlocated
    have hon : (find? none).on w = (.ok (some _), w) := Prod.ext hfind (machine_on_find? w)
    rw [on_load_none, hon]
    exact on_loadFile_of_leadsTo hholds hconfig hlead fun _ => hcwd

/-! ### Absolute paths -/

/-- The directories are absolute paths, and so is the template unless it was not named. -/
structure Absolute (loaded config : Config) : Prop where
  outputDir : (Path.parse loaded.outputDir).isAbsolute = true
  artifactsDir : (Path.parse loaded.artifactsDir).isAbsolute = true
  template : (config.template? = none ∧ loaded.template = config.template) ∨
    ∃ text, loaded.template = some text ∧ (Path.parse text).isAbsolute = true

theorem absolute_anchor {directory : Path} (h : directory.root = .slash) (config : Config) :
    Absolute (config.anchor directory) config := by
  have hdirectory : directory.isAbsolute = true := by
    rw [Path.isAbsolute, h]
    rfl
  have hanchored := anchored_anchor hdirectory config
  refine ⟨hanchored.outputDir.isAbsolute, hanchored.artifactsDir.isAbsolute, ?_⟩
  cases htemplate : config.template? with
  | none => exact .inl ⟨rfl, template_anchor_of_none htemplate directory⟩
  | some text =>
    exact .inr ⟨_, template_anchor_of_some htemplate directory,
      (isAbsoluteText_anchorText hdirectory text).isAbsolute⟩

/-- However a valid configuration file is named, and from wherever, the same is loaded from it: its
settings, with the paths meant from the directory that it is in. -/
theorem load_eq_of_designates [Depths] {path path' : Option Path} {search search' : Bool}
    (hw : Holds w place bytes) (hu : Holds u place bytes) (hconfig : Encodes bytes config)
    (h : Designates w place path search) (h' : Designates u place path' search') :
    ∃ directory loaded, IsDirectoryOf directory place ∧ loaded = config.anchor directory ∧
      ((load path search).on w).1 = .ok loaded ∧ ((load path' search').on u).1 = .ok loaded ∧
      Absolute loaded config := by
  obtain ⟨directory, hdirectory, hload⟩ := on_load_of_designates hw hconfig h
  obtain ⟨directory', hdirectory', hload'⟩ := on_load_of_designates hu hconfig h'
  obtain rfl := hdirectory.unique hdirectory'
  exact ⟨directory, _, hdirectory, rfl, hload, hload', absolute_anchor hdirectory.root config⟩

def projectFile : String := "output_dir: gen\nartifacts_dir: /out\n"

def projectConfig : Config := { Config.default with outputDir := "gen", artifactsDir := "/out" }

/-- A project with a configuration, seen from a directory of it. -/
def projectMachine (directory : Location) : Machine :=
  .ofTree (.ofEntries [("project", .directory
    [("deployer-kit.yml", .file projectFile.toUTF8),
      ("src", .directory [("vaults", .directory [])])])]) directory

def projectPlace : Location := ["project", "deployer-kit.yml"]

/-- From the sources, with dots on the way. -/
def dottedPath : Path := .parse "vaults/.././../deployer-kit.yml"

theorem load_eq_of_designates_project : ∃ _ : Depths,
    Holds (projectMachine ["project", "src"]) projectPlace projectFile.toUTF8 ∧
      Holds (projectMachine ["project", "src", "vaults"]) projectPlace projectFile.toUTF8 ∧
      Encodes projectFile.toUTF8 projectConfig ∧
      Designates (projectMachine ["project", "src"]) projectPlace (some dottedPath) false ∧
      Designates (projectMachine ["project", "src", "vaults"]) projectPlace none true ∧
      ((load (some dottedPath) false).on (projectMachine ["project", "src"])).1 =
        .ok (projectConfig.anchor (.parse "/project")) ∧
      ((load none true).on (projectMachine ["project", "src", "vaults"])).1 =
        .ok (projectConfig.anchor (.parse "/project")) := by
  have hw : Holds (projectMachine ["project", "src"]) projectPlace projectFile.toUTF8 :=
    ⟨rfl, rfl, by simp [projectMachine, Machine.ofTree, Log.State.initial]⟩
  have hu : Holds (projectMachine ["project", "src", "vaults"]) projectPlace projectFile.toUTF8 :=
    ⟨rfl, rfl, by simp [projectMachine, Machine.ofTree, Log.State.initial]⟩
  have hconfig : @Encodes .ofThousand projectFile.toUTF8 projectConfig :=
    ⟨projectFile, by decide +kernel, by decide +kernel⟩
  have hnamed : Designates (projectMachine ["project", "src"]) projectPlace (some dottedPath)
      false :=
    .named ⟨by decide +kernel, by decide +kernel, by decide +kernel⟩
      fun _ => ⟨rfl, by decide +kernel⟩
  have hsearch : ((find? none).on (projectMachine ["project", "src", "vaults"])).1 =
      .ok (some (.parse "/project/deployer-kit.yml")) := by
    decide +kernel
  have hfound : Designates (projectMachine ["project", "src", "vaults"]) projectPlace none true :=
    .found ⟨rfl, by decide +kernel⟩ hsearch (by decide +kernel)
  let _ : Depths := .ofThousand
  obtain ⟨directory, loaded, hdirectory, rfl, hload, hload', -⟩ :=
    load_eq_of_designates hw hu hconfig hnamed hfound
  have hproject : IsDirectoryOf (.parse "/project") projectPlace := ⟨rfl, by decide⟩
  obtain rfl := hdirectory.unique hproject
  exact ⟨.ofThousand, hw, hu, hconfig, hnamed, hfound, hload, hload'⟩

/-- An empty configuration in a directory whose name takes two bytes for its last letter. -/
def accentedMachine : Machine :=
  .ofTree (.ofEntries [("projé", .directory [("deployer-kit.yml", .file ByteArray.empty)])]) []

def accentedPath : Path := .parse "projé/deployer-kit.yml"

/-- With the halves that stand for the two bytes. -/
def halvesPath : Path :=
  .parse (Text.ofString "proj" ++ [.half 0x4c3, .half 0x4a9] ++ Text.ofString "/deployer-kit.yml")

/-- An empty configuration that is in two directories. -/
def linkedMachine : Machine :=
  .ofTree ⟨[("a", .directory [("deployer-kit.yml", .shared 0)]),
    ("b", .directory [("deployer-kit.yml", .shared 0)])], fun _ => ByteArray.empty⟩ []

/-- An empty configuration that the log is written to. -/
def loggedMachine : Machine :=
  { Machine.ofTree (.ofEntries [("deployer-kit.yml", .file ByteArray.empty)]) [] with
    log := ⟨.debug, [Log.fileHandler .debug (.parse "/deployer-kit.yml")]⟩ }

/-- Another spelling of the same name is another text, a second name of the file is in another
directory, and a file that the log is written to is no longer what it was when it is read. -/
theorem not_forall_load_eq :
    (¬ ∀ [Depths] (w : Machine) (place : Location) (bytes : ByteArray) (config : Config)
        (p q : Path), Holds w place bytes → Encodes bytes config → w.InPlace →
      Action.badPath? p = none → w.tree.locate w.directory p = .ok (.on place) →
      Action.badPath? q = none → w.tree.locate w.directory q = .ok (.on place) →
      ((load (some p) false).on w).1 = ((load (some q) false).on w).1) ∧
    (¬ ∀ [Depths] (w : Machine) (place place' : Location) (bytes : ByteArray) (config : Config)
        (p q : Path), Holds w place bytes → Encodes bytes config → w.InPlace →
      LeadsTo w p place → LeadsTo w q place' → w.tree.SameFile place place' →
      ((load (some p) false).on w).1 = ((load (some q) false).on w).1) ∧
    ¬ ∀ [Depths] (w : Machine) (place : Location) (bytes : ByteArray) (config : Config) (p : Path),
      w.tree.kind? place = some (.file bytes) → Encodes bytes config → w.InPlace →
      LeadsTo w p place → ∃ loaded, ((load (some p) false).on w).1 = .ok loaded := by
  have hconfig : @Encodes .ofThousand ByteArray.empty .default :=
    ⟨"", by decide +kernel, by decide +kernel⟩
  refine ⟨?_, ?_, ?_⟩
  · intro hall
    have hsame := @hall .ofThousand accentedMachine ["projé", "deployer-kit.yml"] _ _ accentedPath
      halvesPath ⟨rfl, rfl, by simp [accentedMachine, Machine.ofTree, Log.State.initial]⟩ hconfig
      ⟨rfl, by decide +kernel⟩ (by decide +kernel) (by decide +kernel) (by decide +kernel)
      (by decide +kernel)
    exact absurd (congrArg (fun r => r.toOption.map Config.outputDir) hsame) (by decide +kernel)
  · intro hall
    have hsame := @hall .ofThousand linkedMachine ["a", "deployer-kit.yml"]
      ["b", "deployer-kit.yml"] _ _ (.parse "a/deployer-kit.yml") (.parse "b/deployer-kit.yml")
      ⟨rfl, rfl, by simp [linkedMachine, Machine.ofTree, Log.State.initial]⟩ hconfig
      ⟨rfl, by decide +kernel⟩
      ⟨by decide +kernel, by decide +kernel, by decide +kernel⟩
      ⟨by decide +kernel, by decide +kernel, by decide +kernel⟩ (by decide +kernel)
    exact absurd (congrArg (fun r => r.toOption.map Config.outputDir) hsame) (by decide +kernel)
  · intro hall
    obtain ⟨loaded, hloaded⟩ := @hall .ofThousand loggedMachine ["deployer-kit.yml"] _ _
      (.parse "deployer-kit.yml") rfl hconfig ⟨rfl, by decide +kernel⟩
      ⟨by decide +kernel, by decide +kernel, by decide +kernel⟩
    have hnone : (@load OnMachine _ _ .ofThousand (some (.parse "deployer-kit.yml")) false).on
        loggedMachine |>.1.toOption = none := by
      decide +kernel
    rw [hloaded] at hnone
    cases hnone

end Config

end DeployScript
