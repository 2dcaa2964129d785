import DeployScript.Path.Lemmas
import DeployScript.Request

/-!
# Names of source files

The name of a source file is the last part of its path: of either slash, and whatever slashes and
single dots the path ends in. It is cut at its last dot, and where there is no dot or nothing behind
it, the usual extension is put in.

The main statement is that nothing is lost on the way. The stem, a dot and the extension make the
name again, less what was put in.
-/

namespace DeployScript

/-! ### Parts of a path -/

theorem mem_of_mem_splitSlashes {t segment : Text} {c : CodePoint}
    (hsegment : segment ∈ splitSlashes t) (hc : c ∈ segment) : c ∈ t := by
  induction t generalizing segment with
  | nil =>
    rw [splitSlashes, List.mem_singleton] at hsegment
    subst hsegment
    exact hc
  | cons first rest ih =>
    rw [splitSlashes] at hsegment
    split at hsegment
    · rcases List.mem_cons.1 hsegment with rfl | hrest
      · exact absurd hc List.not_mem_nil
      · exact List.mem_cons_of_mem first (ih hrest hc)
    · split at hsegment
      · next hnone => exact absurd hnone (splitSlashes_ne_nil rest)
      · next segment' more hsplit =>
        have hfirst : segment' ∈ splitSlashes rest := by rw [hsplit]; exact List.mem_cons_self
        rcases List.mem_cons.1 hsegment with rfl | hmore
        · rcases List.mem_cons.1 hc with rfl | hc
          · exact List.mem_cons_self
          · exact List.mem_cons_of_mem first (ih hfirst hc)
        · have hmem : segment ∈ splitSlashes rest := by
            rw [hsplit]
            exact List.mem_cons_of_mem segment' hmore
          exact List.mem_cons_of_mem first (ih hmem hc)

namespace Path

theorem partsOf_append_slash (t t' : Text) :
    partsOf (t ++ CodePoint.char '/' :: t') = partsOf t ++ partsOf t' := by
  rw [partsOf, splitSlashes_append, List.filter_append]
  rfl

theorem mem_of_mem_partsOf {t part : Text} {c : CodePoint} (hpart : part ∈ partsOf t)
    (hc : c ∈ part) : c ∈ t :=
  mem_of_mem_splitSlashes (List.mem_filter.1 hpart).1 hc

/-- The name of a path is one of its parts, or there is none. -/
theorem name_mem_or_eq_nil (p : Path) : p.name ∈ p.parts ∨ p.name = [] := by
  rw [name]
  cases hlast : p.parts.getLast? with
  | none => exact .inr rfl
  | some part => exact .inl (List.mem_of_getLast? hlast)

theorem slash_not_mem_name (p : Path) : CodePoint.char '/' ∉ p.name := by
  rcases p.name_mem_or_eq_nil with hname | hname
  · exact (isPathPart_iff.1 (List.all_eq_true.1 p.parts_ok _ hname)).2
  · rw [hname]
    exact List.not_mem_nil

end Path

namespace Request

variable {r : Request}

/-! ### Either slash -/

theorem unifySlashes_append (t t' : Text) :
    unifySlashes (t ++ t') = unifySlashes t ++ unifySlashes t' :=
  List.map_append

theorem backslash_not_mem_unifySlashes (t : Text) : CodePoint.char '\\' ∉ unifySlashes t := by
  intro h
  obtain ⟨c, -, hc⟩ := List.mem_map.1 h
  cases c with
  | half offset => simp [CodePoint.map] at hc
  | char c =>
    simp only [CodePoint.map, CodePoint.char.injEq] at hc
    split at hc
    · simp at hc
    · contradiction

theorem unifySlashes_of_not_mem {t : Text} (h : CodePoint.char '\\' ∉ t) :
    unifySlashes t = t := by
  rw [unifySlashes, List.map_congr_left (g := id), List.map_id]
  intro point hpoint
  cases point with
  | half offset => rfl
  | char c =>
    have hc : c ≠ '\\' := by
      rintro rfl
      exact h hpoint
    simp [CodePoint.map, hc]

theorem fileName_eq (r : Request) :
    r.fileName = (Path.partsOf (unifySlashes r.source)).getLast?.getD [] := rfl

theorem slash_not_mem_fileName (r : Request) : CodePoint.char '/' ∉ r.fileName :=
  Path.slash_not_mem_name _

theorem backslash_not_mem_fileName (r : Request) : CodePoint.char '\\' ∉ r.fileName := by
  intro h
  rcases (Path.parse (unifySlashes r.source)).name_mem_or_eq_nil with hname | hname
  · exact backslash_not_mem_unifySlashes r.source (Path.mem_of_mem_partsOf hname h)
  · rw [fileName, hname] at h
    exact absurd h List.not_mem_nil

theorem fileName_unifySlashes (r : Request) :
    Request.fileName { r with source := unifySlashes r.source } = r.fileName := by
  rw [fileName_eq, fileName_eq,
    unifySlashes_of_not_mem (backslash_not_mem_unifySlashes r.source)]

/-- A text that names nothing behind a path: slashes, and single dots behind a slash each. -/
inductive Idle : Text → Prop
  | nil : Idle []
  | slash {t : Text} {c : Char} (h : Idle t) (hc : c = '/' ∨ c = '\\') : Idle (t ++ [.char c])
  | dot {t : Text} {c : Char} (h : Idle t) (hc : c = '/' ∨ c = '\\') :
      Idle (t ++ [.char c, .char '.'])

theorem unifySlashes_slash_cons {c : Char} (hc : c = '/' ∨ c = '\\') (t : Text) :
    unifySlashes (.char c :: t) = .char '/' :: unifySlashes t := by
  rcases hc with rfl | rfl
  · rfl
  · rfl

theorem partsOf_append_idle (t : Text) {tail : Text} (h : Idle tail) :
    Path.partsOf (t ++ unifySlashes tail) = Path.partsOf t := by
  induction h with
  | nil => exact congrArg Path.partsOf (List.append_nil t)
  | slash _ hc ih =>
    rw [unifySlashes_append, unifySlashes_slash_cons hc, ← List.append_assoc,
      Path.partsOf_append_slash, ih]
    exact List.append_nil _
  | dot _ hc ih =>
    rw [unifySlashes_append, unifySlashes_slash_cons hc, ← List.append_assoc,
      Path.partsOf_append_slash, ih]
    exact List.append_nil _

theorem fileName_append_idle (r : Request) {tail : Text} (h : Idle tail) :
    Request.fileName { r with source := r.source ++ tail } = r.fileName := by
  rw [fileName_eq, fileName_eq, unifySlashes_append, partsOf_append_idle _ h]

/-! ### The last dot -/

theorem exists_lastDot {name : Text} (h : CodePoint.char '.' ∈ name) :
    ∃ stem ext, name = stem ++ .char '.' :: ext ∧ CodePoint.char '.' ∉ ext := by
  obtain ⟨back, front, hback, hno⟩ := List.eq_append_cons_of_mem (List.mem_reverse.2 h)
  refine ⟨front.reverse, back.reverse, ?_, fun hdot => hno (List.mem_reverse.1 hdot)⟩
  rw [← List.reverse_reverse name, hback, List.reverse_append, List.reverse_cons,
    List.append_assoc]
  rfl

theorem splitLastDot?_of_not_mem {name : Text} (h : CodePoint.char '.' ∉ name) :
    splitLastDot? name = none := by
  rw [splitLastDot?, if_neg (by simpa using h)]

theorem splitLastDot?_append {stem ext : Text} (h : CodePoint.char '.' ∉ ext) :
    splitLastDot? (stem ++ .char '.' :: ext) = some (stem, ext) := by
  have hback : (stem ++ .char '.' :: ext).reverse =
      ext.reverse ++ .char '.' :: stem.reverse := by simp
  have hplain : ∀ c ∈ ext.reverse, (c != .char '.') = true := by
    intro c hc
    rw [bne_iff_ne]
    rintro rfl
    exact h (List.mem_reverse.1 hc)
  rw [splitLastDot?, if_pos (by simp), hback, List.dropWhile_append_of_pos hplain,
    List.takeWhile_append_of_pos hplain]
  simp

theorem stem_of_lastDot {stem ext : Text} (hname : r.fileName = stem ++ .char '.' :: ext)
    (hext : CodePoint.char '.' ∉ ext) : r.stem = stem := by
  rw [Request.stem, hname, splitLastDot?_append hext]

theorem extension_of_lastDot {stem ext : Text} (hname : r.fileName = stem ++ .char '.' :: ext)
    (hext : CodePoint.char '.' ∉ ext) :
    r.extension = if ext.isEmpty then ↑defaultExtension else ext := by
  rw [extension, hname, splitLastDot?_append hext]

theorem stem_of_not_mem (h : CodePoint.char '.' ∉ r.fileName) : r.stem = r.fileName := by
  rw [Request.stem, splitLastDot?_of_not_mem h]

theorem extension_of_not_mem (h : CodePoint.char '.' ∉ r.fileName) :
    r.extension = defaultExtension := by
  rw [extension, splitLastDot?_of_not_mem h]

/-- An extension is there, and has no dot. -/
theorem extension_ok (r : Request) :
    r.extension ≠ [] ∧ CodePoint.char '.' ∉ r.extension := by
  by_cases hdot : CodePoint.char '.' ∈ r.fileName
  · obtain ⟨stem, ext, hname, hext⟩ := exists_lastDot hdot
    rw [extension_of_lastDot hname hext]
    cases ext with
    | nil => exact ⟨by decide, by decide⟩
    | cons first rest => exact ⟨List.cons_ne_nil first rest, hext⟩
  · rw [extension_of_not_mem hdot]
    exact ⟨by decide, by decide⟩

theorem stem_append_extension_of_dot (hdot : CodePoint.char '.' ∈ r.fileName)
    (hlast : r.fileName.getLast? ≠ some (.char '.')) :
    r.stem ++ "." ++ r.extension = r.fileName := by
  obtain ⟨stem, ext, hname, hext⟩ := exists_lastDot hdot
  have hthere : ext.isEmpty = false := by
    cases ext with
    | nil => exact absurd (by rw [hname, List.getLast?_concat]) hlast
    | cons first rest => rfl
  rw [stem_of_lastDot hname hext, extension_of_lastDot hname hext, hthere, hname,
    List.append_assoc]
  rfl

theorem stem_append_extension_of_last_dot (hlast : r.fileName.getLast? = some (.char '.')) :
    r.stem ++ "." ++ r.extension = r.fileName ++ "sol" := by
  obtain ⟨stem, hname⟩ := List.getLast?_eq_some_iff.1 hlast
  rw [stem_of_lastDot hname List.not_mem_nil, extension_of_lastDot hname List.not_mem_nil, hname]
  rfl

theorem stem_append_extension_of_no_dot (hdot : CodePoint.char '.' ∉ r.fileName) :
    r.stem ++ "." ++ r.extension = r.fileName ++ ".sol" := by
  rw [stem_of_not_mem hdot, extension_of_not_mem hdot, List.append_assoc]
  rfl

/-- A file name holds no slash of either kind and does not depend on which of them its path is
written with, nor on slashes and single dots behind it. What it is cut into makes the name again:
as it is where there is something behind its last dot, else with the usual extension. -/
theorem fileName_and_split (r : Request) {tail : Text} (htail : Idle tail) :
    (CodePoint.char '/' ∉ r.fileName ∧ CodePoint.char '\\' ∉ r.fileName) ∧
      Request.fileName { r with source := unifySlashes r.source } = r.fileName ∧
      Request.fileName { r with source := r.source ++ tail } = r.fileName ∧
      (r.extension ≠ [] ∧ CodePoint.char '.' ∉ r.extension) ∧
      (CodePoint.char '.' ∈ r.fileName → r.fileName.getLast? ≠ some (.char '.') →
        r.stem ++ "." ++ r.extension = r.fileName) ∧
      (r.fileName.getLast? = some (.char '.') →
        r.stem ++ "." ++ r.extension = r.fileName ++ "sol") ∧
      (CodePoint.char '.' ∉ r.fileName →
        r.stem ++ "." ++ r.extension = r.fileName ++ ".sol") := by
  refine ⟨⟨slash_not_mem_fileName r, backslash_not_mem_fileName r⟩, fileName_unifySlashes r,
    fileName_append_idle r htail, extension_ok r, ?_, ?_, ?_⟩
  · exact stem_append_extension_of_dot
  · exact stem_append_extension_of_last_dot
  · exact stem_append_extension_of_no_dot

def ofSource (source : String) : Request := ⟨source, none, none⟩

theorem fileName_and_split_mixedSlashes :
    Idle "\\./" ∧
      (ofSource "src\\My.Token.sol\\./").fileName = "My.Token.sol" ∧
      (ofSource "src\\My.Token.sol").stem ++ "." ++ (ofSource "src\\My.Token.sol").extension =
        "My.Token.sol" ∧
      (ofSource "src\\..").stem ++ "." ++ (ofSource "src\\..").extension = "..sol" ∧
      (ofSource "/").stem ++ "." ++ (ofSource "/").extension = ".sol" := by
  have htail : Idle "\\./" := .slash (.dot .nil (.inr rfl)) (.inl rfl)
  obtain ⟨-, -, hbehind, -, hwhole, -⟩ := fileName_and_split (ofSource "src\\My.Token.sol") htail
  obtain ⟨-, -, -, -, -, hdots, -⟩ := fileName_and_split (ofSource "src\\..") htail
  obtain ⟨-, -, -, -, -, -, hempty⟩ := fileName_and_split (ofSource "/") htail
  refine ⟨htail, hbehind, ?_, ?_, ?_⟩
  · exact hwhole (by decide) (by decide)
  · exact hdots (by decide)
  · exact hempty (by decide)

end Request

end DeployScript
