import DeployScript.Deployer.Script
import DeployScript.Proofs.Request.SourceName
import DeployScript.Proofs.Text.FileName

/-!
# Where scripts and artifacts are

Joining paths drops what names nothing and lets an absolute path replace what stands before it. The
file names that are put together for a contract are safe from both as long as no slash is in them:
their endings make them parts of a path, and none is the way up, whatever the contract is called.

The main statement is that a script is right in the directory that it is written to, that the
scripts of two contracts are two files, and that an artifact is two steps below the directory of
the artifacts.
-/

namespace DeployScript

/-! ### Entries of a directory -/

namespace Path

/-- The path is the one named `part` right in the directory, one step below it. -/
structure IsEntry (directory : Path) (part : Text) (p : Path) : Prop where
  parent_eq : p.parent = directory
  name_eq : p.name = part
  length_eq : p.parts.length = directory.parts.length + 1
  ne_dots : part ≠ ".."

theorem isEntry_child (p : Path) {part : Text} (h : isPathPart part = true) (hdots : part ≠ "..") :
    IsEntry p part (p.child part) := by
  have hparts := parts_child_of_isPathPart p h
  have hroot := root_child_of_isPathPart p h
  refine ⟨?_, ?_, ?_, hdots⟩
  · obtain ⟨root, parts, hok⟩ := p
    rw [parent, Path.mk.injEq]
    exact ⟨hroot, by rw [hparts, List.dropLast_concat]⟩
  · rw [name, hparts, List.getLast?_concat, Option.getD_some]
  · rw [hparts, List.length_append]
    rfl

/-- A text with an ending of some length is an entry, whatever the text is but for slashes. -/
theorem isEntry_child_append (p : Path) {t ending : Text} (ht : CodePoint.char '/' ∉ t)
    (hending : CodePoint.char '/' ∉ ending) (hlength : 3 ≤ ending.length) :
    IsEntry p (t ++ ending) (p.child (t ++ ending)) := by
  have hnaming : isNamingSegment (t ++ ending) = true := isNamingSegment_append t (by omega)
  have hslash : CodePoint.char '/' ∉ t ++ ending := List.not_mem_append ht hending
  exact isEntry_child p (isPathPart_iff.2 ⟨hnaming, hslash⟩) (append_ne_dots t hlength)

end Path

/-! ### Artifacts -/

namespace Request

variable {r : Request}

theorem slash_not_mem_stem_append_extension (r : Request) :
    CodePoint.char '/' ∉ r.stem ++ "." ++ r.extension := by
  by_cases hdot : CodePoint.char '.' ∈ r.fileName
  · by_cases hlast : r.fileName.getLast? = some (.char '.')
    · rw [stem_append_extension_of_last_dot hlast]
      exact List.not_mem_append (slash_not_mem_fileName r) (by decide)
    · rw [stem_append_extension_of_dot hdot hlast]
      exact slash_not_mem_fileName r
  · rw [stem_append_extension_of_no_dot hdot]
    exact List.not_mem_append (slash_not_mem_fileName r) (by decide)

/-- The directory of an artifact, named like the source file, is not the way up. -/
theorem stem_append_extension_ne_dots (r : Request) : r.stem ++ "." ++ r.extension ≠ ".." := by
  intro h
  obtain ⟨hne, hdot⟩ := extension_ok r
  -- the last code point of the name is one of the extension, and that has no dot
  obtain ⟨front, last, hlast⟩ := (List.eq_nil_or_concat r.extension).resolve_left hne
  have hends := congrArg List.getLast? h
  rw [hlast, List.concat_eq_append, ← List.append_assoc, List.getLast?_concat] at hends
  have hlastdot : last = .char '.' := Option.some.inj hends
  apply hdot
  rw [hlast, hlastdot]
  simp

theorem isPathPart_stem_append_extension (r : Request) :
    isPathPart (r.stem ++ "." ++ r.extension) = true := by
  refine Path.isPathPart_iff.2 ⟨?_, slash_not_mem_stem_append_extension r⟩
  rw [List.append_assoc]
  apply Path.isNamingSegment_append
  have hpos : 0 < r.extension.length := List.length_pos_iff.2 (extension_ok r).1
  have hone : (Text.ofString ".").length = 1 := rfl
  rw [List.length_append]
  omega

/-- An artifact is in a directory named like the source file, which is in that of the artifacts. -/
theorem exists_isEntry_artifactPath (artifactsDir : Text)
    (h : CodePoint.char '/' ∉ r.contractName) :
    ∃ folder, (Path.parse artifactsDir).IsEntry (r.stem ++ "." ++ r.extension) folder ∧
      folder.IsEntry (r.contractName ++ ".json") (r.artifactPath artifactsDir) :=
  ⟨_, Path.isEntry_child _ (isPathPart_stem_append_extension r) (stem_append_extension_ne_dots r),
    Path.isEntry_child_append _ h (by decide) (by decide)⟩

end Request

/-! ### Scripts -/

namespace Deployer

theorem isEntry_scriptPath (outputDir : Text) {contract : Text}
    (h : CodePoint.char '/' ∉ contract) :
    (Path.parse outputDir).IsEntry (contract ++ scriptSuffix) (scriptPath outputDir contract) :=
  Path.isEntry_child_append _ h (by decide) (by decide)

theorem scriptPath_eq_iff {outputDir outputDir' contract contract' : Text}
    (h : CodePoint.char '/' ∉ contract) (h' : CodePoint.char '/' ∉ contract') :
    scriptPath outputDir contract = scriptPath outputDir' contract' ↔
      Path.parse outputDir = Path.parse outputDir' ∧ contract = contract' := by
  have hentry := isEntry_scriptPath outputDir h
  have hentry' := isEntry_scriptPath outputDir' h'
  constructor
  · intro heq
    rw [heq] at hentry
    refine ⟨hentry.parent_eq.symm.trans hentry'.parent_eq, ?_⟩
    exact List.append_cancel_right (hentry.name_eq.symm.trans hentry'.name_eq)
  · rintro ⟨hdir, rfl⟩
    rw [scriptPath, hdir]
    rfl

/-- For names without a slash: a script is right in its directory; it is the script of one
contract only; and an artifact is two steps below the directory of the artifacts. -/
theorem isEntry_scriptPath_and_artifactPath {contract contract' : Text} {r : Request}
    (outputDir outputDir' artifactsDir : Text) (h : CodePoint.char '/' ∉ contract)
    (h' : CodePoint.char '/' ∉ contract') (hr : CodePoint.char '/' ∉ r.contractName) :
    (Path.parse outputDir).IsEntry (contract ++ scriptSuffix) (scriptPath outputDir contract) ∧
      (scriptPath outputDir contract = scriptPath outputDir' contract' ↔
        Path.parse outputDir = Path.parse outputDir' ∧ contract = contract') ∧
      ∃ folder, (Path.parse artifactsDir).IsEntry (r.stem ++ "." ++ r.extension) folder ∧
        folder.IsEntry (r.contractName ++ ".json") (r.artifactPath artifactsDir) :=
  ⟨isEntry_scriptPath outputDir h, scriptPath_eq_iff h h',
    Request.exists_isEntry_artifactPath artifactsDir hr⟩

theorem isEntry_scriptPath_and_artifactPath_dots :
    CodePoint.char '/' ∉ Text.ofString ".." ∧ CodePoint.char '/' ∉ Text.ofString "." ∧
      CodePoint.char '/' ∉ (Request.ofSource "lib\\..").contractName ∧
      (Path.parse "//").IsEntry "..Deployer.s.sol" (scriptPath "//" "..") ∧
      scriptPath "//" ".." ≠ scriptPath "//./" "." ∧
      ∃ folder, (Path.parse "").IsEntry "..sol" folder ∧
        folder.IsEntry "..json" ((Request.ofSource "lib\\..").artifactPath "") := by
  have hup : CodePoint.char '/' ∉ Text.ofString ".." := by decide
  have hhere : CodePoint.char '/' ∉ Text.ofString "." := by decide
  have hderived : CodePoint.char '/' ∉ (Request.ofSource "lib\\..").contractName := by decide
  obtain ⟨hscript, hsame, hartifact⟩ :=
    isEntry_scriptPath_and_artifactPath "//" "//./" "" hup hhere hderived
  refine ⟨hup, hhere, hderived, hscript, ?_, hartifact⟩
  intro heq
  exact absurd (hsame.1 heq).2 (by decide)

end Deployer

end DeployScript
