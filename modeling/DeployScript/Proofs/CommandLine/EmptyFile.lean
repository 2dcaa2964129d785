import DeployScript.Proofs.CommandLine.Course
import DeployScript.Proofs.Config.Designation
import DeployScript.Proofs.Config.Search
import DeployScript.Proofs.Generate.Counterparts

/-!
# An empty configuration beside none

An empty configuration file sets nothing, like no file at all. But its paths are meant from the
directory that the file is in and are written from the root, where the defaults are read from the
current directory. If the file is in the current directory these are the same paths, and what is
generated is the same, as long as none of them gets too long by being written from the root.
-/

namespace DeployScript

open FileTree (Counterpart OneMore PassesThrough maxPathBytes)

namespace Generate

variable {r : Request} {c c' : Config} {cwd : Standing} {place : Location} {root : Path}

/-! ### Paths seen from a directory -/

theorem artifactPath_anchorText (r : Request) (root : Path) (dir : Text) :
    r.artifactPath (anchorText root dir) = root.join (r.artifactPath dir) := by
  simp only [Request.artifactPath, anchorText, Path.parse_text, Path.child, Path.join_assoc]

theorem scriptPath_anchorText (root : Path) (dir contract : Text) :
    Deployer.scriptPath (anchorText root dir) contract =
      root.join (Deployer.scriptPath dir contract) := by
  simp only [Deployer.scriptPath, anchorText, Path.parse_text, Path.child, Path.join_assoc]

/-- A directory that the request names takes the place of the configured one, and is not seen from
another. -/
theorem target_anchor (r : Request) (c : Config) (root : Path) :
    target r (c.anchor root) = target r c ∨ target r (c.anchor root) = root.join (target r c) := by
  rw [target, target, Request.resolveOutputDir, Request.resolveOutputDir]
  cases Request.given? r.outputDir with
  | some dir => exact .inl rfl
  | none => exact .inr (scriptPath_anchorText root c.outputDir r.contractName)

theorem parts_target_ne_nil (r : Request) (c : Config) : (target r c).parts ≠ [] := by
  obtain ⟨front, x, hparts⟩ := Path.parts_child_append (Path.parse (r.resolveOutputDir c.outputDir))
    r.contractName Deployer.scriptSuffix (by decide) (by decide)
  rw [target, Deployer.scriptPath, hparts]
  simp

/-- The artifact and the script are not at the place, and the way to them does not lead through
it. -/
structure Avoids (cwd : Standing) (place : Location) (r : Request) (c : Config) : Prop where
  artifact : ¬ PassesThrough place (FileTree.base cwd (r.artifactPath c.artifactsDir))
    (r.artifactPath c.artifactsDir).parts
  script : ¬ PassesThrough place (FileTree.base cwd (target r c)) (target r c).parts

/-- No path that the run goes to is too long with the second configuration alone. -/
structure FitsLike (r : Request) (c c' : Config) : Prop where
  artifact : maxPathBytes ≤ (r.artifactPath c'.artifactsDir).text.nameSize →
    maxPathBytes ≤ (r.artifactPath c.artifactsDir).text.nameSize
  script : maxPathBytes ≤ (target r c').text.nameSize → maxPathBytes ≤ (target r c).text.nameSize
  directory : maxPathBytes ≤ (target r c').parent.text.nameSize →
    maxPathBytes ≤ (target r c).parent.text.nameSize

theorem counterpartConfigs_anchor (htemplate : c.template? = none) (havoids : Avoids cwd place r c)
    (hfits : FitsLike r c (c.anchor root)) :
    CounterpartConfigs cwd root place r c (c.anchor root) := by
  have hartifact : Counterpart cwd root place (r.artifactPath c.artifactsDir)
      (r.artifactPath (c.anchor root).artifactsDir) :=
    ⟨.inr (artifactPath_anchorText r root c.artifactsDir), havoids.artifact, hfits.artifact⟩
  have hscript : Counterpart cwd root place (target r c) (target r (c.anchor root)) :=
    ⟨target_anchor r c root, havoids.script, hfits.script⟩
  have hanchored : (c.anchor root).template? = none := by
    rw [Config.template?_anchor, htemplate, Option.map_none]
  refine ⟨rfl, rfl, htemplate, hanchored, hartifact, hscript, ?_, ?_, hfits.directory⟩
  · rcases target_anchor r c root with hsame | hjoin
    · exact .inl (congrArg Path.parent hsame)
    · rw [hjoin]
      exact .inr (Path.parent_join root (parts_target_ne_nil r c))
  · intro hpasses
    exact havoids.script hpasses.of_dropLast

end Generate

namespace Config

variable {w : Machine} {root : Path}

/-! ### The file and its loading -/

/-- Where a configuration in the current directory is. -/
def entryPlace (w : Machine) : Location := w.directory.location ++ [Text.ofString fileName]

/-- The machine with an empty configuration in its current directory. -/
def withEmptyFile (w : Machine) : Machine :=
  { w with tree := w.tree.set (entryPlace w) (.file ByteArray.empty) }

/-- No configuration is found from the current directory, and nothing in it has the name of one. -/
structure Unconfigured (w : Machine) : Prop where
  reach : w.InReach
  log : w.log.file = none
  search : ((find? none).on w).1 = .ok none
  absent : w.tree.kind? (entryPlace w) = none

theorem Unconfigured.oneMore (h : Unconfigured w) :
    OneMore (entryPlace w) ByteArray.empty w.tree (withEmptyFile w).tree := by
  have hdirectory : w.tree.kind? (entryPlace w) ≠ some .directory := by simp [h.absent]
  have hone : w.tree.number? (entryPlace w) = none :=
    FileTree.number?_of_kind? fun bytes => by simp [h.absent]
  exact ⟨h.absent, FileTree.kind?_set h.reach.grounds rfl hdirectory,
    FileTree.number?_set h.reach.grounds rfl rfl hdirectory hone⟩

theorem Unconfigured.beside (h : Unconfigured w) :
    w.Beside w.directory (entryPlace w) ByteArray.empty (withEmptyFile w) :=
  ⟨rfl, rfl, h.reach.grounds, h.oneMore, h.log, h.log⟩

theorem encodes_empty [Depths] : Encodes ByteArray.empty .default := ⟨"", by decide +kernel, rfl⟩

theorem startsIn_of_inReach (h : w.InReach) : StartsIn w none w.directory.location := by
  refine ⟨by decide, ?_, h.grounds, fun _ => h⟩
  rw [← h.directory_eq]
  rfl

theorem on_load_of_unconfigured [Depths] (h : Unconfigured w) :
    ((load none true).on w).1 = .ok .default := by
  have hon : (find? none).on w = (.ok none, w) := Prod.ext h.search (machine_on_find? w)
  rw [on_load_none, hon]

/-- The search finds the empty file, which is the first that it looks for. -/
theorem designates_emptyFile (h : Unconfigured w) :
    Designates (withEmptyFile w) (entryPlace w) none true := by
  have hreach : (withEmptyFile w).InReach :=
    ⟨h.reach.lost, h.oneMore.grounds h.reach.grounds, h.reach.names⟩
  obtain ⟨directory, hspells, habsolute, hon⟩ := on_find?_of_startsIn (startsIn_of_inReach h.reach)
  obtain ⟨directory', -, habsolute', hon'⟩ := on_find?_of_startsIn (startsIn_of_inReach hreach)
  have hsame : directory' = directory := by
    rw [Action.on_absolute] at habsolute habsolute'
    exact Except.ok.inj (habsolute'.symm.trans habsolute)
  subst hsame
  have hsize : (directory'.child fileName).text.nameSize < maxPathBytes := by
    by_contra hlong
    have hsearch := h.search
    rw [hon, on_firstFile_of_tooLong hspells (Nat.le_of_not_lt hlong)] at hsearch
    cases hsearch
  have hhas : HasConfiguration (withEmptyFile w).tree w.directory.location :=
    ⟨ByteArray.empty, by rw [h.oneMore.kinds]; exact Function.update_self ..⟩
  have hfile : fileAt (withEmptyFile w) (directory'.child fileName) = .ok true := by
    rw [fileAt_child_fileName hspells hreach.grounds hsize, decide_eq_true hhas]
  have hfirst : FirstAt (withEmptyFile w) (candidates directory') (directory'.child fileName) :=
    ⟨[], _, rfl, by simp⟩
  refine .found hreach.inPlace ?_ (locate_child_fileName hspells hreach.grounds hsize _)
  rw [hon', (on_firstFile_of_firstAt hfirst).1 hfile]

theorem on_load_withEmptyFile [Depths] (h : Unconfigured w) (hroot : w.directoryPath = .ok root) :
    ((load none true).on (withEmptyFile w)).1 = .ok (Config.default.anchor root) := by
  have hholds : Holds (withEmptyFile w) (entryPlace w) ByteArray.empty := by
    refine ⟨?_, h.oneMore.grounds h.reach.grounds, ?_⟩
    · rw [h.oneMore.kinds, Function.update_self]
    · intro handler hmem path s hsink
      have hconsole := Log.State.file_eq_none_iff.1 h.log handler hmem
      rw [hconsole] at hsink
      cases hsink
  obtain ⟨directory, hdirectory, hload⟩ :=
    on_load_of_designates hholds encodes_empty (designates_emptyFile h)
  obtain ⟨cwd, hpath, hparts, hspells⟩ := h.reach.directoryPath
  rw [hroot, Except.ok.injEq] at hpath
  subst hpath
  have hcwd : IsDirectoryOf root (entryPlace w) :=
    ⟨hspells.root, by rw [hparts, entryPlace, List.dropLast_concat]⟩
  rw [hload, hdirectory.unique hcwd]

/-- Both load, the one the defaults and the other the defaults seen from the root, and stay beside
each other. -/
theorem exists_on_load [Depths] (h : Unconfigured w) (hroot : w.directoryPath = .ok root) :
    ∃ w₁ u₁, (load none true).on w = (.ok .default, w₁) ∧
      (load none true).on (withEmptyFile w) = (.ok (Config.default.anchor root), u₁) ∧
        w₁.Beside w.directory (entryPlace w) ByteArray.empty u₁ ∧
          w.SameProgress w₁ ∧ w.SameProgress u₁ := by
  have hfiles := keeps_load Machine.lasting_sameFiles none true
  have hprogress := keeps_load Machine.lasting_sameProgress none true
  have hfile : w.SameProgress (withEmptyFile w) := ⟨rfl, rfl⟩
  exact ⟨_, _, Prod.ext (on_load_of_unconfigured h) rfl,
    Prod.ext (on_load_withEmptyFile h hroot) rfl, h.beside.of_sameFiles (hfiles _) (hfiles _),
    hprogress w, Machine.lasting_sameProgress.trans hfile (hprogress (withEmptyFile w))⟩

end Config

namespace CommandLine

open Config (Unconfigured entryPlace withEmptyFile)
open Generate (Avoids FitsLike SameEffect)

variable {w : Machine} {root : Path} {i : Invocation}

/-! ### Working with the file and without -/

/-- An empty configuration in the current directory is like none, where none is found, for a request
that does not go to the place of that file: the work ends alike, with reports that tell the same,
starts the same to build, and does the same to the files. -/
theorem work_sameEffect_of_emptyFile [Depths] (hconfig : i.config = none) (h : Unconfigured w)
    (hroot : w.directoryPath = .ok root)
    (havoids : Avoids w.directory (entryPlace w) i.request .default)
    (hfits : FitsLike i.request .default (Config.default.anchor root)) :
    w.Beside w.directory (entryPlace w) ByteArray.empty (withEmptyFile w) ∧
      SameEffect w.directory (entryPlace w) ByteArray.empty i.request .default
        (Config.default.anchor root) i.steps w.starts ((work i).on w)
        ((work i).on (withEmptyFile w)) := by
  have hload : loadConfig i = Config.load none true := by
    rw [loadConfig, hconfig]
    rfl
  obtain ⟨cwd, hpath, -, hspells⟩ := h.reach.directoryPath
  rw [hroot, Except.ok.injEq] at hpath
  subst hpath
  obtain ⟨w₁, u₁, hon, hon', hbeside, hw, hu⟩ := Config.exists_on_load h hroot
  rw [← hload] at hon hon'
  rcases hrun : (Generate.run i.request .default i.steps : OnMachine _).run w₁ with ⟨result, w'⟩
  rcases hrun' : (Generate.run i.request (Config.default.anchor root) i.steps :
    OnMachine _).run u₁ with ⟨result', u'⟩
  have hsame : w₁.SameProgress u₁ :=
    ⟨hu.outcomes.trans hw.outcomes.symm, hu.starts.trans hw.starts.symm⟩
  refine ⟨h.beside, ?_⟩
  rw [on_work_of_run hon hrun, on_work_of_run hon' hrun', ← hw.starts]
  exact Generate.run_sameEffect ⟨h.reach.lost, hspells⟩
    (Generate.counterpartConfigs_anchor rfl havoids hfits) hbeside hsame hrun hrun'

/-- A project without a configuration, with an artifact of a contract. -/
def vaultMachine (artifact : String) : Machine :=
  { Machine.ofTree (.ofEntries [("project", .directory
      [("out", .directory
        [("V.sol", .directory [("V.json", .file artifact.toUTF8)])])])]) ["project"] with
    outcomes := [.silent, .silent] }

def vaultInvocation (contract : Option Text) : Invocation :=
  ⟨⟨"src/V.sol", none, contract⟩, none, ⟨true, true⟩, false, ⟨false, false, false⟩⟩

def vaultRoot : Path := .parse "/project"

def emptyArtifact : String := "\x7b\"abi\":[]\x7d"

theorem unconfigured_vaultMachine {artifact : String}
    (hsearch : ((Config.find? none).on (vaultMachine artifact)).1 = .ok none) :
    Unconfigured (vaultMachine artifact) := by
  refine ⟨⟨rfl, rfl, ?_⟩, rfl, hsearch, rfl⟩
  intro name hname
  rw [List.mem_singleton.1 hname]
  decide

theorem work_sameEffect_of_emptyFile_vault : ∃ _ : Depths,
    Unconfigured (vaultMachine emptyArtifact) ∧
      Avoids (.on ["project"]) ["project", "deployer-kit.yml"] (vaultInvocation none).request
        .default ∧
      FitsLike (vaultInvocation none).request .default (Config.default.anchor vaultRoot) ∧
      SameEffect (.on ["project"]) ["project", "deployer-kit.yml"] ByteArray.empty
        (vaultInvocation none).request .default (Config.default.anchor vaultRoot) ⟨true, true⟩ []
        ((work (vaultInvocation none)).on (vaultMachine emptyArtifact))
        ((work (vaultInvocation none)).on (withEmptyFile (vaultMachine emptyArtifact))) := by
  have h : Unconfigured (vaultMachine emptyArtifact) :=
    unconfigured_vaultMachine (by decide +kernel)
  have havoids : Avoids (.on ["project"]) ["project", "deployer-kit.yml"]
      (vaultInvocation none).request .default := ⟨by decide +kernel, by decide +kernel⟩
  have hfits : FitsLike (vaultInvocation none).request .default
      (Config.default.anchor vaultRoot) :=
    ⟨by decide +kernel, by decide +kernel, by decide +kernel⟩
  have hroot : (vaultMachine emptyArtifact).directoryPath = .ok vaultRoot := by decide +kernel
  let _ : Depths := .ofThousand
  exact ⟨.ofThousand, h, havoids, hfits, (work_sameEffect_of_emptyFile rfl h hroot havoids hfits).2⟩

/-! ### Too long a path -/

/-- A contract that is named with many steps up and down again. -/
def roundaboutContract : Text := (List.replicate 453 (Text.ofString "../V.sol/")).flatten ++ "V"

def roundaboutInvocation : Invocation := vaultInvocation (some roundaboutContract)

/-- The kind of the failure that a report tells. -/
def failureKind? (x : Except Abort Report) : Option String :=
  x.toOption.bind fun report => report.failure.map Failure.kind

theorem failureKind?_eq {x y : Except Abort Report}
    (h : Action.EndsAlike Generate.SameVerdict x y) : failureKind? y = failureKind? x := by
  cases h with
  | ok h => exact h.kind
  | failure => rfl
  | crash => rfl

/-- The empty file can make a path too long: an artifact that is read without it is not found. -/
theorem not_forall_work_sameEffect :
    ¬ ∀ [Depths] w root i, i.config = none → Unconfigured w → w.directoryPath = .ok root →
      Avoids w.directory (entryPlace w) i.request .default →
        SameEffect w.directory (entryPlace w) ByteArray.empty i.request .default
          (Config.default.anchor root) i.steps w.starts ((work i).on w)
          ((work i).on (withEmptyFile w)) := by
  intro hall
  have heffect := @hall .ofThousand (vaultMachine "x") vaultRoot roundaboutInvocation rfl
    (unconfigured_vaultMachine (by decide +kernel)) (by decide +kernel)
    ⟨by decide +kernel, by decide +kernel⟩
  have hparse : failureKind? ((@work .ofThousand roundaboutInvocation).on (vaultMachine "x")).1 =
      some "parse" := by
    decide +kernel
  have hmissing : failureKind? ((@work .ofThousand roundaboutInvocation).on
      (withEmptyFile (vaultMachine "x"))).1 = some "artifact_not_found" := by
    decide +kernel
  have hkinds := failureKind?_eq heffect.ends
  rw [hparse, hmissing] at hkinds
  revert hkinds
  decide

end CommandLine

end DeployScript
