import DeployScript.Proofs.Files.Effect
import DeployScript.Proofs.Host.Action

/-!
# Texts in files

Reading a text comes to the text, to an error of the file system, or to a crash, and which of them
depends on the files and the current directory alone. Writing one makes a file, refuses and changes
nothing, or crashes; a text that cannot be encoded crashes after the file was emptied.
-/

namespace DeployScript

namespace FileTree

/-- The file at a path can be read, and holds the text. -/
def HasText (t : FileTree) (cwd : Standing) (p : Path) (text : String) : Prop :=
  Action.badPath? p = none ∧ ∃ bytes, t.read cwd p = .ok bytes ∧ Text.ofBytes? bytes = some text

/-- Reading a text crashes: no file can have the path, or the file is not UTF-8. -/
inductive TextCrash (t : FileTree) (cwd : Standing) (p : Path) : Crash → Prop
  | path {c : Crash} (hbad : Action.badPath? p = some c) : TextCrash t cwd p c
  | bytes {bytes : ByteArray} (hpath : Action.badPath? p = none) (hread : t.read cwd p = .ok bytes)
      (hbytes : Text.ofBytes? bytes = none) : TextCrash t cwd p .notUtf8

end FileTree

namespace Action

variable {w : Machine} {p : Path}

/-! ### Reading -/

theorem on_readText_of_textCrash {c : Crash} (h : w.tree.TextCrash w.directory p c) :
    (readText p).on w = (.error (.crash c), w) := by
  cases h with
  | path hbad =>
    rw [readText, checkPath, hbad]
    exact on_bind_error (on_crash c w)
  | bytes hpath hread hbytes =>
    have hhost : (liftM (Host.readBytes p : OnMachine _) : Action OnMachine _).on w =
        (.ok ((w.tree.read w.directory p).mapError (Machine.fileError p)), w) := rfl
    rw [readText, checkPath, hpath, on_bind_ok (on_pure () w), on_bind_ok hhost, hread]
    simp only [Except.mapError, hbytes, on_crash]

theorem on_readText_of_error {cause : FileCause} (hpath : badPath? p = none)
    (hread : w.tree.read w.directory p = .error cause) :
    (readText p).on w = (.ok (.error (Machine.fileError p cause)), w) := by
  have hhost : (liftM (Host.readBytes p : OnMachine _) : Action OnMachine _).on w =
      (.ok ((w.tree.read w.directory p).mapError (Machine.fileError p)), w) := rfl
  rw [readText, checkPath, hpath, on_bind_ok (on_pure () w), on_bind_ok hhost, hread]
  rfl

theorem on_readText_of_hasText {text : String} (h : w.tree.HasText w.directory p text) :
    (readText p).on w = (.ok (.ok text), w) := by
  obtain ⟨hpath, bytes, hread, hbytes⟩ := h
  have hhost : (liftM (Host.readBytes p : OnMachine _) : Action OnMachine _).on w =
      (.ok ((w.tree.read w.directory p).mapError (Machine.fileError p)), w) := rfl
  rw [readText, checkPath, hpath, on_bind_ok (on_pure () w), on_bind_ok hhost, hread]
  simp only [Except.mapError, hbytes, on_pure]

/-- Reading changes nothing and comes to one of three ends. -/
theorem on_readText_cases (w : Machine) (p : Path) :
    (∃ c, (readText p).on w = (.error (.crash c), w) ∧ w.tree.TextCrash w.directory p c) ∨
      (∃ e, (readText p).on w = (.ok (.error e), w)) ∨
        ∃ text, (readText p).on w = (.ok (.ok text), w) ∧ w.tree.HasText w.directory p text := by
  cases hpath : badPath? p with
  | some c => exact .inl ⟨c, on_readText_of_textCrash (.path hpath), .path hpath⟩
  | none =>
    cases hread : w.tree.read w.directory p with
    | error cause => exact .inr (.inl ⟨_, on_readText_of_error hpath hread⟩)
    | ok bytes =>
      cases hbytes : Text.ofBytes? bytes with
      | none =>
        have hcrash : w.tree.TextCrash w.directory p .notUtf8 := .bytes hpath hread hbytes
        exact .inl ⟨_, on_readText_of_textCrash hcrash, hcrash⟩
      | some text =>
        have htext : w.tree.HasText w.directory p text := ⟨hpath, bytes, hread, hbytes⟩
        exact .inr (.inr ⟨text, on_readText_of_hasText htext, htext⟩)

/-! ### Writing -/

variable {t' : FileTree} {text : Text}

theorem on_writeBytes (w : Machine) (p : Path) (bytes : ByteArray) :
    (liftM (Host.writeBytes p bytes : OnMachine _) : Action OnMachine _).on w =
      (.ok (w.withTree p (w.tree.write w.directory p bytes)).1,
        (w.withTree p (w.tree.write w.directory p bytes)).2) := rfl

theorem on_writeText_of_badPath {c : Crash} (hpath : badPath? p = some c) :
    (writeText p text).on w = (.error (.crash c), w) := by
  rw [writeText, checkPath, hpath]
  exact on_bind_error (on_crash c w)

theorem on_writeText_of_error {cause : FileCause} (hpath : badPath? p = none)
    (hwrite : w.tree.write w.directory p (text.utf8?.getD ByteArray.empty) = .error cause) :
    (writeText p text).on w = (.ok (.error (Machine.fileError p cause)), w) := by
  rw [writeText, checkPath, hpath, on_bind_ok (on_pure () w), on_bind_ok (on_writeBytes w p _),
    hwrite]
  rfl

theorem isBroken_iff_utf8?_eq_none : text.isBroken = true ↔ text.utf8? = none := by
  simp [Text.isBroken, Text.utf8?, Text.string?]

theorem on_writeText_of_broken (hpath : badPath? p = none) (htext : text.utf8? = none)
    (hwrite : w.tree.write w.directory p ByteArray.empty = .ok t') :
    (writeText p text).on w = (.error (.crash .brokenText), { w with tree := t' }) := by
  rw [writeText, checkPath, hpath, on_bind_ok (on_pure () w), on_bind_ok (on_writeBytes w p _),
    htext, Option.getD_none, hwrite, isBroken_iff_utf8?_eq_none.2 htext]
  rfl

theorem on_writeText_of_utf8 {bytes : ByteArray} (hpath : badPath? p = none)
    (htext : text.utf8? = some bytes) (hwrite : w.tree.write w.directory p bytes = .ok t') :
    (writeText p text).on w = (.ok (.ok ()), { w with tree := t' }) := by
  have hwhole : text.isBroken = false := by
    rw [← Bool.not_eq_true, isBroken_iff_utf8?_eq_none, htext]
    simp
  rw [writeText, checkPath, hpath, on_bind_ok (on_pure () w), on_bind_ok (on_writeBytes w p _),
    htext, Option.getD_some, hwrite, hwhole]
  rfl

end Action

end DeployScript
