import DeployScript.Proofs.Template.Nesting

/-!
# What is left of a text

A pass takes markers and the bodies of dropped blocks out of a text and puts nothing in, so that
what is left is a subsequence of the text, also where the neighbours of a dropped block join into a
new marker. A block starts with a marker, and its key can be read as that of a marker without a
partner. So a text that is accepted holds no block any more: it stays as it is, whatever features
are on.
-/

namespace DeployScript.Template

open DeployScript.Text (isWord)

/-! ### Readers take text away -/

theorem suffix_of_openerHead? {cs rest : List Char} {negated : Bool}
    (h : openerHead? cs = some (negated, rest)) : rest <:+ cs := by
  obtain ⟨blanks, rfl⟩ :=
    (headRest?_eq_some_iff (openingWord_mem negated)).1 (openerHead?_eq_some_iff.1 h)
  exact List.suffix_append _ rest

theorem suffix_of_opener? {cs rest : List Char} {condition : Condition}
    (h : opener? cs = some (condition, rest)) : rest <:+ cs := by
  simp only [opener?, Option.bind_eq_some_iff] at h
  obtain ⟨⟨negated, afterHead⟩, hhead, key, -, hline⟩ := h
  dsimp only at hhead hline
  split at hline
  · next after heq =>
    simp only [Option.some.injEq, Prod.mk.injEq] at hline
    obtain ⟨-, rfl⟩ := hline
    have hblanks : '\n' :: after <:+ afterHead.dropWhile isWord := by
      rw [← heq]
      exact List.dropWhile_suffix _
    calc after <:+ '\n' :: after := List.suffix_cons _ _
      _ <:+ afterHead.dropWhile isWord := hblanks
      _ <:+ afterHead := List.dropWhile_suffix _
      _ <:+ skipBlanks cs := suffix_of_openerHead? hhead
      _ <:+ cs := List.dropWhile_suffix _
  · simp at hline

theorem suffix_of_lineRest? {cs rest : List Char} (h : lineRest? cs = some rest) :
    rest <:+ cs := by
  have hblanks : skipBlanks cs <:+ cs := List.dropWhile_suffix _
  unfold lineRest? at h
  split at h
  · obtain rfl := Option.some.inj h
    exact List.nil_suffix
  · next after heq =>
    obtain rfl := Option.some.inj h
    rw [heq] at hblanks
    exact (List.suffix_cons _ _).trans hblanks
  · simp at h

theorem suffix_of_closer? {cs rest : List Char} (h : closer? cs = some rest) : rest <:+ cs := by
  rw [closer?_eq, Option.bind_eq_some_iff] at h
  obtain ⟨afterWord, hhead, hline⟩ := h
  obtain ⟨blanks, heq⟩ := (headRest?_eq_some_iff closingWord_mem).1 hhead
  calc rest <:+ afterWord := suffix_of_lineRest? hline
    _ <:+ skipBlanks cs := by
      rw [heq]
      exact List.suffix_append _ afterWord
    _ <:+ cs := List.dropWhile_suffix _

theorem sublist_of_body? {cs body rest : List Char} (h : body? cs = some (body, rest)) :
    (body ++ rest).Sublist cs := by
  fun_induction body? cs generalizing body rest with
  | case1 cs after hcloser =>
    simp only [Option.some.injEq, Prod.mk.injEq] at h
    obtain ⟨rfl, rfl⟩ := h
    exact (suffix_of_closer? hcloser).sublist
  | case2 => simp at h
  | case3 => simp at h
  | case4 c after _ _ ih =>
    simp only [Option.map_eq_some_iff, Prod.mk.injEq] at h
    obtain ⟨⟨inside, behind⟩, hbody, rfl, rfl⟩ := h
    exact (ih hbody).cons_cons c

theorem sublist_of_block? {cs rest : List Char} {b : Block} (h : block? cs = some (b, rest)) :
    (b.body ++ rest).Sublist cs := by
  simp only [block?, Option.bind_eq_some_iff, Option.map_eq_some_iff] at h
  obtain ⟨⟨condition, afterOpener⟩, hopener, ⟨body, behind⟩, hbody, heq⟩ := h
  simp only [Prod.mk.injEq] at heq
  obtain ⟨rfl, rfl⟩ := heq
  exact (sublist_of_body? hbody).trans (suffix_of_opener? hopener).sublist

theorem Block.kept_sublist (b : Block) (on : String → Bool) : (b.kept on).Sublist b.body := by
  unfold Block.kept
  split
  · exact List.Sublist.refl b.body
  · exact List.nil_sublist b.body

/-! ### Passes take text away -/

theorem pass_sublist (on : String → Bool) (cs : List Char) : (pass on cs).text.Sublist cs := by
  fun_induction pass on cs with
  | case1 cs b rest h after ih =>
    exact ((b.kept_sublist on).append ih).trans (sublist_of_block? h)
  | case2 => exact List.Sublist.refl []
  | case3 c rest _ after ih => exact ih.cons_cons c

theorem settleBlocks_sublist (on : String → Bool) (cs : List Char) :
    (settleBlocks on cs).Sublist cs := by
  fun_induction settleBlocks on cs with
  | case1 cs _ => exact pass_sublist on cs
  | case2 cs _ ih => exact ih.trans (pass_sublist on cs)

/-! ### A text without a marker -/

theorem eq_append_of_keyOfRun? {run key : List Char} (h : keyOfRun? run = some key) :
    key ≠ [] ∧ run = key ++ keyEnd := by
  unfold keyOfRun? at h
  split at h
  · next back hback =>
    split at h
    · simp at h
    · next hne =>
      obtain rfl := Option.some.inj h
      have hrun := congrArg List.reverse hback
      rw [List.reverse_reverse] at hrun
      refine ⟨?_, by simpa [keyEnd] using hrun⟩
      simpa using hne
  · simp at h

/-- The marker of an opener is found with the shortest key, which its own key starts with. -/
theorem exists_markerRest?_of_opener? {cs rest : List Char} {condition : Condition}
    (h : opener? cs = some (condition, rest)) :
    ∃ after, markerRest? (skipBlanks cs) = some after := by
  simp only [opener?, Option.bind_eq_some_iff] at h
  obtain ⟨⟨negated, afterHead⟩, hhead, key, hkey, -⟩ := h
  dsimp only at hhead hkey
  obtain ⟨hne, hrun⟩ := eq_append_of_keyOfRun? hkey
  have hword : ∀ c ∈ key, isWord c = true := by
    intro c hc
    have hmem : c ∈ afterHead.takeWhile isWord := hrun ▸ List.mem_append_left keyEnd hc
    exact List.mem_takeWhile_imp hmem
  obtain ⟨more, -, hshort⟩ := exists_shortKeyRest? hne hword
  have hread := hshort (afterHead.dropWhile isWord)
  rw [← hrun, List.takeWhile_append_dropWhile] at hread
  refine ⟨more ++ afterHead.dropWhile isWord, ?_⟩
  simp only [markerRest?, hhead, Option.bind_some, hread]

theorem firstMarker?_ne_none {cs after : List Char} (h : markerRest? cs = some after) :
    firstMarker? cs ≠ none := by
  cases cs with
  | nil =>
    have hnone : markerRest? [] = none := rfl
    exact absurd (hnone.symm.trans h) (by simp)
  | cons c rest =>
    rw [firstMarker?, h]
    exact Option.some_ne_none _

theorem block?_of_firstMarker?_eq_none {cs : List Char} (h : firstMarker? cs = none) :
    block? cs = none := by
  rw [Option.eq_none_iff_forall_ne_some]
  rintro ⟨b, rest⟩ hblock
  simp only [block?, Option.bind_eq_some_iff] at hblock
  obtain ⟨⟨condition, afterOpener⟩, hopener, -⟩ := hblock
  obtain ⟨after, hmarker⟩ := exists_markerRest?_of_opener? hopener
  obtain ⟨blanks, hblanks⟩ := exists_blanks cs
  rw [hblanks, firstMarker?_append_blanks] at h
  exact firstMarker?_ne_none hmarker h

theorem pass_of_firstMarker?_eq_none (on : String → Bool) {cs : List Char}
    (h : firstMarker? cs = none) : pass on cs = ⟨cs, 0⟩ := by
  induction cs with
  | nil => exact pass_nil on
  | cons c rest ih =>
    have hhere : markerRest? (c :: rest) = none := by
      rw [Option.eq_none_iff_forall_ne_some]
      intro after hafter
      exact firstMarker?_ne_none hafter h
    have hrest : firstMarker? rest = none := (firstMarker?_cons hhere).symm.trans h
    rw [pass_cons_of_block?_eq_none (block?_of_firstMarker?_eq_none h), ih hrest]
    rfl

/-- A text in which no marker is found is accepted as it is. -/
theorem processBlocks_of_firstMarker?_eq_none (on : String → Bool) {cs : List Char}
    (h : firstMarker? cs = none) : processBlocks on cs = .ok cs := by
  have hsettled : settleBlocks on cs = cs := by
    rw [settleBlocks, pass_of_firstMarker?_eq_none on h]
    rfl
  rw [processBlocks, hsettled, h]

theorem processBlocks_eq_ok_iff {on : String → Bool} {cs r : List Char} :
    processBlocks on cs = .ok r ↔ settleBlocks on cs = r ∧ firstMarker? r = none := by
  rw [processBlocks]
  constructor
  · intro h
    split at h
    · simp at h
    · next hmarker =>
      obtain rfl := Except.ok.inj h
      exact ⟨rfl, hmarker⟩
  · rintro ⟨rfl, hmarker⟩
    rw [hmarker]

/-- What is left of a text is a subsequence of it, and settling it again with whatever features on
leaves all of it. -/
theorem sublist_and_stable_of_processBlocks {on : String → Bool} {cs r : List Char}
    (h : processBlocks on cs = .ok r) :
    r.Sublist cs ∧ ∀ on' : String → Bool, processBlocks on' r = .ok r := by
  obtain ⟨rfl, hmarker⟩ := processBlocks_eq_ok_iff.1 h
  exact ⟨settleBlocks_sublist on cs,
    fun on' => processBlocks_of_firstMarker?_eq_none on' hmarker⟩

/-- A slash before a block and one behind it, which make an opener together once the block is
dropped. -/
def splicedText : List Char :=
  "/// __IF_FEATURE_a__\nx\n// __ENDIF__\n/ __IF_FEATURE_b__\ny\n// __ENDIF__\n".toList

theorem sublist_and_stable_splicedText :
    processBlocks (· == "b") splicedText = .ok "y\n".toList ∧
      "y\n".toList.Sublist splicedText ∧
        ∀ on : String → Bool, processBlocks on "y\n".toList = .ok "y\n".toList := by
  have hsettled : settleBlocks (· == "b") splicedText = "y\n".toList := by
    decide +kernel
  have haccepted : processBlocks (· == "b") splicedText = .ok "y\n".toList :=
    processBlocks_eq_ok_iff.2 ⟨hsettled, by decide⟩
  exact ⟨haccepted, sublist_and_stable_of_processBlocks haccepted⟩

end DeployScript.Template
