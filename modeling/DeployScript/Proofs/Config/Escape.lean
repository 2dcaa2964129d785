import DeployScript.Config.Load
import DeployScript.Proofs.Files.Texts

/-!
# What escapes the loading of a configuration

Loading a configuration gives one, or fails with an error of its own; but some inputs stop it in
another way. `Escape` lists these inputs: paths that cannot be looked up, files that are not UTF-8
or that YAML gives up on, and a current directory that was taken away.
-/

namespace DeployScript

namespace Config

open DeployScript.Action (on_absolute)

variable {w : Machine} {p : Path} {c : Crash}

/-! ### Looking for files -/

/-- Is a file at the path? At a path that no file can have is none. -/
def fileAt (w : Machine) (p : Path) : Except FileError Bool :=
  if (Action.badPath? p).isSome then .ok false else w.testNode p FileNode.isFile

theorem on_isFile (w : Machine) (p : Path) :
    (Action.isFile p).on w =
      (match fileAt w p with
        | .ok found => .ok found
        | .error e => .error (.crash (.file e)), w) := by
  rw [Action.isFile, fileAt]
  split
  · rfl
  · have hhost : (liftM (Host.isFile p : OnMachine _) : Action OnMachine _).on w =
        (.ok (w.testNode p FileNode.isFile), w) := rfl
    rw [Action.on_bind_ok hhost]
    cases w.testNode p FileNode.isFile <;> rfl

/-- The first of the paths that is not known to have no file is this one. -/
def FirstAt (w : Machine) (paths : List Path) (p : Path) : Prop :=
  ∃ front rest, paths = front ++ p :: rest ∧ ∀ q ∈ front, fileAt w q = .ok false

theorem on_firstFile_of_firstAt {paths : List Path} (h : FirstAt w paths p) :
    (fileAt w p = .ok true → (firstFile paths).on w = (.ok (some p), w)) ∧
      ∀ e, fileAt w p = .error e → (firstFile paths).on w = (.error (.crash (.file e)), w) := by
  obtain ⟨front, rest, rfl, hfront⟩ := h
  induction front with
  | nil =>
    have hon := on_isFile w p
    constructor
    · intro hfound
      rw [hfound] at hon
      rw [List.nil_append, firstFile, Action.on_bind_ok hon]
      rfl
    · intro e he
      rw [he] at hon
      rw [List.nil_append, firstFile, Action.on_bind_error hon]
  | cons q front ih =>
    have hon := on_isFile w q
    rw [hfront q List.mem_cons_self] at hon
    have hnext : (firstFile (q :: front ++ p :: rest)).on w =
        (firstFile (front ++ p :: rest)).on w := by
      rw [List.cons_append, firstFile, Action.on_bind_ok hon]
      rfl
    rw [hnext]
    exact ih fun x hx => hfront x (List.mem_cons_of_mem _ hx)

/-- Looking for the first file finds none, or one, or stops at a path that cannot be looked up. -/
theorem on_firstFile_cases (w : Machine) (paths : List Path) :
    (firstFile paths).on w = (.ok none, w) ∨
      ∃ p, FirstAt w paths p ∧ (fileAt w p = .ok true ∨ ∃ e, fileAt w p = .error e) := by
  induction paths with
  | nil => exact .inl rfl
  | cons p rest ih =>
    cases hp : fileAt w p with
    | error e => exact .inr ⟨p, ⟨[], rest, rfl, by simp⟩, .inr ⟨e, hp⟩⟩
    | ok found =>
      cases found with
      | true => exact .inr ⟨p, ⟨[], rest, rfl, by simp⟩, .inl hp⟩
      | false =>
        rcases ih with hnone | ⟨q, ⟨front, back, rfl, hfront⟩, hq⟩
        · have hon := on_isFile w p
          rw [hp] at hon
          refine .inl ?_
          rw [firstFile, Action.on_bind_ok hon]
          exact hnone
        · refine .inr ⟨q, ⟨p :: front, back, rfl, ?_⟩, hq⟩
          intro x hx
          rcases List.mem_cons.1 hx with rfl | hx
          · exact hp
          · exact hfront x hx

/-! ### Loading a file -/

/-- A text that is no configuration fails with an error of its own. -/
theorem eq_config_of_ofText [Depths] {path : Text} {text : String} {f : Failure}
    (h : ofText path text = .error (.failure f)) : ∃ e, f = .config e := by
  rw [ofText] at h
  split at h
  · next what place _ => exact ⟨.invalidYaml path what place, by simpa using h.symm⟩
  · simp at h
  · next d _ =>
    cases hcontent : ofContent path d with
    | error e =>
      rw [hcontent] at h
      exact ⟨e, by simpa [Except.mapError] using h.symm⟩
    | ok config =>
      rw [hcontent] at h
      simp [Except.mapError] at h

/-- The machine once the log was told which file is loaded. -/
def told (w : Machine) (p : Path) : Machine :=
  w.takeRecord (.debug logger ("Loading config from " ++ p.text))

/-- What stops the loading of a file in another way than by an error of a configuration. -/
inductive FileEscape [Depths] (w : Machine) (p : Path) : Crash → Prop
  /-- No file can have the path, or the file is not UTF-8. -/
  | text {c : Crash} (h : w.tree.TextCrash w.directory p c) : FileEscape w p c
  /-- YAML gives up. -/
  | yaml {text : String} {c : Crash} (htext : w.tree.HasText w.directory p text)
      (hread : ofText p.text text = .error (.crash c)) : FileEscape w p c
  /-- The directory that the paths are meant from is not known. -/
  | directory {text : String} {config : Config} {e : FileError}
      (htext : w.tree.HasText w.directory p text) (hread : ofText p.text text = .ok config)
      (hrelative : p.parent.isAbsolute = false) (hlost : w.directoryPath = .error e) :
      FileEscape w p (.file e)

/-- The configuration that the text of a file writes, with its paths meant from the file. -/
def anchored [Depths] (p : Path) (text : String) : Action OnMachine Config := do
  let config ← ExceptT.mk (pure (ofText p.text text))
  return config.anchor (← Action.absolute p.parent)

theorem on_anchored_of_error [Depths] {text : String} {e : Abort}
    (h : ofText p.text text = .error e) (w : Machine) : (anchored p text).on w = (.error e, w) := by
  rw [anchored, h]
  rfl

theorem on_anchored_of_ok [Depths] {text : String} {config : Config}
    (h : ofText p.text text = .ok config) (w : Machine) :
    (anchored p text).on w = (((Action.absolute p.parent).on w).1.map config.anchor, w) := by
  rw [anchored, h]
  change (Action.absolute p.parent >>= fun root =>
    pure (config.anchor root) : Action OnMachine Config).on w = _
  rw [Action.on_bind_pure, on_absolute]

theorem on_loadFile [Depths] (w : Machine) (p : Path) :
    (loadFile p).on w =
      (Action.readText p >>= fun x => match x with
        | .error e => fail (.unreadable p.text e)
        | .ok text => anchored p text : Action OnMachine Config).on (told w p) := by
  rw [loadFile, Action.on_bind_ok (Action.on_record _ w)]
  rfl

theorem on_loadFile_of_fileEscape [Depths] (h : FileEscape (told w p) p c) :
    ((loadFile p).on w).1 = .error (.crash c) := by
  rw [on_loadFile]
  cases h with
  | text h => rw [Action.on_bind_error (Action.on_readText_of_textCrash h)]
  | yaml htext hread =>
    rw [Action.on_bind_ok (Action.on_readText_of_hasText htext)]
    simp only [on_anchored_of_error hread]
  | directory htext hread hrelative hlost =>
    rw [Action.on_bind_ok (Action.on_readText_of_hasText htext)]
    simp only [on_anchored_of_ok hread, on_absolute, hrelative, hlost]
    rfl

/-- Loading a file escapes, fails with an error of a configuration, or gives one. -/
theorem on_loadFile_cases [Depths] (w : Machine) (p : Path) :
    (∃ c, ((loadFile p).on w).1 = .error (.crash c) ∧ FileEscape (told w p) p c) ∨
      (∃ e, ((loadFile p).on w).1 = .error (.failure (.config e))) ∨
        ∃ config, ((loadFile p).on w).1 = .ok config := by
  have hescape := fun {c : Crash} (h : FileEscape (told w p) p c) =>
    (⟨on_loadFile_of_fileEscape h, h⟩ :
      ((loadFile p).on w).1 = .error (.crash c) ∧ FileEscape (told w p) p c)
  rcases Action.on_readText_cases (told w p) p with ⟨c, -, hcrash⟩ | ⟨e, hon⟩ | ⟨text, hon, htext⟩
  · exact .inl ⟨c, hescape (.text hcrash)⟩
  · refine .inr (.inl ⟨.unreadable p.text e, ?_⟩)
    rw [on_loadFile, Action.on_bind_ok hon]
    rfl
  · cases hread : ofText p.text text with
    | error abort =>
      cases abort with
      | crash c => exact .inl ⟨c, hescape (.yaml htext hread)⟩
      | failure f =>
        obtain ⟨e, rfl⟩ := eq_config_of_ofText hread
        refine .inr (.inl ⟨e, ?_⟩)
        rw [on_loadFile, Action.on_bind_ok hon]
        simp only [on_anchored_of_error hread]
    | ok config =>
      by_cases hrelative : p.parent.isAbsolute = true
      · refine .inr (.inr ⟨config.anchor (.resolve .top p.parent), ?_⟩)
        rw [on_loadFile, Action.on_bind_ok hon]
        simp only [on_anchored_of_ok hread, on_absolute, hrelative]
        rfl
      · rw [Bool.not_eq_true] at hrelative
        cases hcwd : (told w p).directoryPath with
        | error e => exact .inl ⟨_, hescape (.directory htext hread hrelative hcwd)⟩
        | ok cwd =>
          refine .inr (.inr ⟨config.anchor (.resolve cwd p.parent), ?_⟩)
          rw [on_loadFile, Action.on_bind_ok hon]
          simp only [on_anchored_of_ok hread, on_absolute, hrelative, hcwd]
          rfl

/-! ### Loading a configuration -/

/-- What stops the loading of a configuration in another way than by an error of its own. -/
inductive Escape [Depths] (w : Machine) (path : Option Path) (search : Bool) : Crash → Prop
  /-- The named path cannot be looked up. -/
  | lookup {p : Path} {e : FileError} (hpath : path = some p) (hfile : fileAt w p = .error e) :
      Escape w path search (.file e)
  /-- The named file cannot be loaded. -/
  | named {p : Path} {c : Crash} (hpath : path = some p) (hfile : fileAt w p = .ok true)
      (hload : FileEscape (told w p) p c) : Escape w path search c
  /-- The current directory was taken away, and the search cannot start. -/
  | start {e : FileError} (hpath : path = none) (hsearch : search = true)
      (hlost : w.directoryPath = .error e) : Escape w path search (.file e)
  /-- A path on the way up cannot be looked up. -/
  | candidate {cwd p : Path} {e : FileError} (hpath : path = none) (hsearch : search = true)
      (hcwd : w.directoryPath = .ok cwd) (hfirst : FirstAt w (candidates (.resolve cwd .here)) p)
      (hfile : fileAt w p = .error e) : Escape w path search (.file e)
  /-- The file that was found cannot be loaded. -/
  | found {cwd p : Path} {c : Crash} (hpath : path = none) (hsearch : search = true)
      (hcwd : w.directoryPath = .ok cwd) (hfirst : FirstAt w (candidates (.resolve cwd .here)) p)
      (hfile : fileAt w p = .ok true) (hload : FileEscape (told w p) p c) :
      Escape w path search c

theorem on_find?_none (w : Machine) :
    (find? none).on w = match w.directoryPath with
      | .ok cwd => (firstFile (candidates (.resolve cwd .here))).on w
      | .error e => (.error (.crash (.file e)), w) := by
  have hhere : Action.badPath? .here = none := by decide
  have habsolute := on_absolute w .here
  have hcheck : (Action.checkPath .here : Action OnMachine Unit).on w = (.ok (), w) := by
    rw [Action.checkPath, hhere]
    rfl
  rw [find?, Option.getD_none, Action.on_bind_ok hcheck]
  cases hcwd : w.directoryPath with
  | ok cwd =>
    rw [hcwd] at habsolute
    rw [Action.on_bind_ok habsolute]
  | error e =>
    rw [hcwd] at habsolute
    rw [Action.on_bind_error habsolute]

theorem on_load_some [Depths] (w : Machine) (p : Path) (search : Bool) :
    (load (some p) search).on w = match fileAt w p with
      | .ok true => (loadFile p).on w
      | .ok false => (.error (.failure (.config (.notFound p.text))), w)
      | .error e => (.error (.crash (.file e)), w) := by
  have hon := on_isFile w p
  rw [load]
  cases hfile : fileAt w p with
  | error e =>
    rw [hfile] at hon
    rw [Action.on_bind_error hon]
  | ok found =>
    rw [hfile] at hon
    rw [Action.on_bind_ok hon]
    cases found <;> rfl

theorem on_load_none [Depths] (w : Machine) :
    (load none true).on w = match (find? none).on w with
      | (.ok (some p), w') => (loadFile p).on w'
      | (.ok none, w') => (.ok .default,
          w'.takeRecord (.debug logger s!"No {fileName} found, using defaults"))
      | (.error e, w') => (.error e, w') := by
  rw [load]
  simp only [if_true]
  rw [Action.on_bind]
  rcases (find? none).on w with ⟨e | found, w'⟩
  · rfl
  · cases found <;> rfl

variable {path : Option Path} {search : Bool}

/-- What escapes stops the loading. -/
theorem on_load_of_escape [Depths] (h : Escape w path search c) :
    ((load path search).on w).1 = .error (.crash c) := by
  cases h with
  | lookup hpath hfile =>
    subst hpath
    simp only [on_load_some, hfile]
  | named hpath hfile hload =>
    subst hpath
    simp only [on_load_some, hfile]
    exact on_loadFile_of_fileEscape hload
  | start hpath hsearch hlost =>
    subst hpath hsearch
    simp only [on_load_none, on_find?_none, hlost]
  | candidate hpath hsearch hcwd hfirst hfile =>
    subst hpath hsearch
    simp only [on_load_none, on_find?_none, hcwd, (on_firstFile_of_firstAt hfirst).2 _ hfile]
  | found hpath hsearch hcwd hfirst hfile hload =>
    subst hpath hsearch
    simp only [on_load_none, on_find?_none, hcwd, (on_firstFile_of_firstAt hfirst).1 hfile]
    exact on_loadFile_of_fileEscape hload

/-- Loading a configuration escapes, fails with an error of its own, or gives one. -/
theorem on_load_cases [Depths] (path : Option Path) (search : Bool) (w : Machine) :
    (∃ c, ((load path search).on w).1 = .error (.crash c) ∧ Escape w path search c) ∨
      (∃ e, ((load path search).on w).1 = .error (.failure (.config e))) ∨
        ∃ config, ((load path search).on w).1 = .ok config := by
  have hescape := fun {c : Crash} (h : Escape w path search c) =>
    (⟨on_load_of_escape h, h⟩ :
      ((load path search).on w).1 = .error (.crash c) ∧ Escape w path search c)
  cases path with
  | some p =>
    cases hfile : fileAt w p with
    | error e => exact .inl ⟨_, hescape (.lookup rfl hfile)⟩
    | ok found =>
      cases found with
      | false => exact .inr (.inl ⟨.notFound p.text, by simp only [on_load_some, hfile]⟩)
      | true =>
        rcases on_loadFile_cases w p with ⟨c, -, hload⟩ | ⟨e, hload⟩ | ⟨config, hload⟩
        · exact .inl ⟨c, hescape (.named rfl hfile hload)⟩
        · exact .inr (.inl ⟨e, by simp only [on_load_some, hfile, hload]⟩)
        · exact .inr (.inr ⟨config, by simp only [on_load_some, hfile, hload]⟩)
  | none =>
    cases search with
    | false => exact .inr (.inr ⟨.default, rfl⟩)
    | true =>
      cases hcwd : w.directoryPath with
      | error e => exact .inl ⟨_, hescape (.start rfl rfl hcwd)⟩
      | ok cwd =>
        rcases on_firstFile_cases w (candidates (.resolve cwd .here)) with
          hnone | ⟨p, hfirst, hfile | ⟨e, hfile⟩⟩
        · exact .inr (.inr ⟨.default, by simp only [on_load_none, on_find?_none, hcwd, hnone]⟩)
        · have hon := (on_firstFile_of_firstAt hfirst).1 hfile
          rcases on_loadFile_cases w p with ⟨c, -, hload⟩ | ⟨e, hload⟩ | ⟨config, hload⟩
          · exact .inl ⟨c, hescape (.found rfl rfl hcwd hfirst hfile hload)⟩
          · exact .inr (.inl ⟨e, by simp only [on_load_none, on_find?_none, hcwd, hon, hload]⟩)
          · exact .inr (.inr ⟨config, by simp only [on_load_none, on_find?_none, hcwd, hon, hload]⟩)
        · exact .inl ⟨_, hescape (.candidate rfl rfl hcwd hfirst hfile)⟩

end Config

end DeployScript
