import DeployScript.Proofs.Template.Deletion
import Mathlib

/-!
# Passes over a text

A pass reads a text as characters that stay and blocks that are settled, whatever the features are.
What it puts in the place of a block is at least thirty characters shorter than the block, which is
the length of the shortest markers. Where a block is gone its neighbours may join into a new marker,
so that the markers of a text do not tell how many passes there will be. Its length does: each pass
but the last settles a block.
-/

namespace DeployScript.Template

/-! ### The text as a pass reads it -/

/-- A stretch of text as a pass reads it: a character that stays, or a block with its markers, as it
is written. -/
inductive Stretch where
  | char (c : Char)
  | block (b : Block) (written : List Char)
deriving DecidableEq, Repr

namespace Stretch

def isBlock : Stretch → Bool
  | .char _ => false
  | .block _ _ => true

def spell : Stretch → List Char
  | .char c => [c]
  | .block _ written => written

def settle (on : String → Bool) : Stretch → List Char
  | .char c => [c]
  | .block b _ => b.kept on

end Stretch

/-- The text as characters and innermost blocks, read from the front. -/
def stretchesOf (cs : List Char) : List Stretch :=
  match _h : block? cs with
  | some (b, rest) => .block b (cs.take (cs.length - rest.length)) :: stretchesOf rest
  | none =>
    match cs with
    | [] => []
    | c :: rest => .char c :: stretchesOf rest
termination_by cs.length
decreasing_by
  · have := length_of_block? _h
    omega
  · simp

/-! ### Replacements -/

theorem suffix_of_body? {cs body rest : List Char} (h : body? cs = some (body, rest)) :
    rest <:+ cs := by
  fun_induction body? cs generalizing body rest with
  | case1 cs after hcloser =>
    simp only [Option.some.injEq, Prod.mk.injEq] at h
    obtain ⟨-, rfl⟩ := h
    exact suffix_of_closer? hcloser
  | case2 => simp at h
  | case3 => simp at h
  | case4 c after _ _ ih =>
    simp only [Option.map_eq_some_iff, Prod.mk.injEq] at h
    obtain ⟨⟨inside, behind⟩, hbody, -, rfl⟩ := h
    exact (ih hbody).trans (List.suffix_cons c after)

theorem suffix_of_block? {cs rest : List Char} {b : Block} (h : block? cs = some (b, rest)) :
    rest <:+ cs := by
  simp only [block?, Option.bind_eq_some_iff, Option.map_eq_some_iff] at h
  obtain ⟨⟨condition, afterOpener⟩, hopener, ⟨body, behind⟩, hbody, heq⟩ := h
  simp only [Prod.mk.injEq] at heq
  obtain ⟨-, rfl⟩ := heq
  exact (suffix_of_body? hbody).trans (suffix_of_opener? hopener)

theorem flatMap_spell_stretchesOf (cs : List Char) :
    (stretchesOf cs).flatMap Stretch.spell = cs := by
  fun_induction stretchesOf cs with
  | case1 cs b rest h ih =>
    rw [List.flatMap_cons, ih]
    exact List.suffix_iff_eq_append.1 (suffix_of_block? h)
  | case2 => rfl
  | case3 c rest _ ih =>
    rw [List.flatMap_cons, ih]
    rfl

theorem pass_eq_stretchesOf (on : String → Bool) (cs : List Char) :
    pass on cs =
      ⟨(stretchesOf cs).flatMap (Stretch.settle on), (stretchesOf cs).countP Stretch.isBlock⟩ := by
  fun_induction stretchesOf cs with
  | case1 cs b rest h ih =>
    rw [pass_of_block?_eq_some h, ih, List.flatMap_cons, List.countP_cons_of_pos rfl]
    rfl
  | case2 => exact pass_nil on
  | case3 c rest h ih =>
    rw [pass_cons_of_block?_eq_none h, ih, List.flatMap_cons,
      List.countP_cons_of_neg (by simp [Stretch.isBlock])]
    rfl

theorem length_of_mem_stretchesOf {cs : List Char} {stretch : Stretch}
    (h : stretch ∈ stretchesOf cs) (hblock : stretch.isBlock = true) (on : String → Bool) :
    (stretch.settle on).length + 30 ≤ stretch.spell.length := by
  fun_induction stretchesOf cs with
  | case1 cs b rest hhere ih =>
    rcases List.mem_cons.1 h with rfl | hrest
    · have hwritten : (cs.take (cs.length - rest.length)).length = cs.length - rest.length := by
        rw [List.length_take]
        omega
      have hmarkers := length_of_block? hhere
      have hkept := b.length_kept_le on
      simp only [Stretch.settle, Stretch.spell, hwritten]
      omega
    · exact ih hrest
  | case2 => exact absurd h List.not_mem_nil
  | case3 c rest _ ih =>
    rcases List.mem_cons.1 h with rfl | hrest
    · exact Bool.noConfusion hblock
    · exact ih hrest

/-- What a pass does to a text: it replaces blocks and nothing else, and each replacement takes
thirty characters away or more. -/
structure Replaces (on : String → Bool) (cs : List Char) (stretches : List Stretch) : Prop where
  spell : stretches.flatMap Stretch.spell = cs
  text : (pass on cs).text = stretches.flatMap (Stretch.settle on)
  settled : (pass on cs).settled = stretches.countP Stretch.isBlock
  shorter : ∀ stretch ∈ stretches, stretch.isBlock = true →
    (stretch.settle on).length + 30 ≤ stretch.spell.length

theorem replaces_stretchesOf (on : String → Bool) (cs : List Char) :
    Replaces on cs (stretchesOf cs) where
  spell := flatMap_spell_stretchesOf cs
  text := congrArg Pass.text (pass_eq_stretchesOf on cs)
  settled := congrArg Pass.settled (pass_eq_stretchesOf on cs)
  shorter _ hmem hblock := length_of_mem_stretchesOf hmem hblock on

-- a block of thirty characters, with a key of one and no blanks
example : pass (fun _ => true) "//__IF_FEATURE_a__\n//__ENDIF__".toList = ⟨[], 1⟩ := by
  decide +kernel

/-- A pass that settles no block leaves the text as it is. -/
theorem text_pass_of_settled_eq_zero {on : String → Bool} {cs : List Char}
    (h : (pass on cs).settled = 0) : (pass on cs).text = cs := by
  have hpass := replaces_stretchesOf on cs
  rw [hpass.settled, List.countP_eq_zero] at h
  have hsame : ∀ stretch ∈ stretchesOf cs, stretch.settle on = stretch.spell := by
    intro stretch hmem
    cases stretch with
    | char c => rfl
    | block b written => exact absurd rfl (h _ hmem)
  calc (pass on cs).text
    _ = (stretchesOf cs).flatMap (Stretch.settle on) := hpass.text
    _ = (stretchesOf cs).flatMap Stretch.spell := List.flatMap_congr hsame
    _ = cs := hpass.spell

/-! ### Passes one after another -/

/-- The passes over a text until one settles nothing: how many blocks each of the others settles,
and the text in the end. -/
inductive Passes (on : String → Bool) : List Char → List Nat → List Char → Prop where
  | last {cs : List Char} (h : (pass on cs).settled = 0) : Passes on cs [] cs
  | next {cs r : List Char} {counts : List Nat} (h : (pass on cs).settled ≠ 0)
      (rest : Passes on (pass on cs).text counts r) :
      Passes on cs ((pass on cs).settled :: counts) r

theorem settleBlocks_of_settled_eq_zero {on : String → Bool} {cs : List Char}
    (h : (pass on cs).settled = 0) : settleBlocks on cs = cs := by
  rw [settleBlocks, dif_pos h, text_pass_of_settled_eq_zero h]

theorem settleBlocks_of_settled_ne_zero {on : String → Bool} {cs : List Char}
    (h : (pass on cs).settled ≠ 0) : settleBlocks on cs = settleBlocks on (pass on cs).text := by
  rw [settleBlocks, dif_neg h]

theorem exists_passes (on : String → Bool) (cs : List Char) :
    ∃ counts, Passes on cs counts (settleBlocks on cs) := by
  fun_induction settleBlocks on cs with
  | case1 cs h =>
    rw [text_pass_of_settled_eq_zero h]
    exact ⟨[], .last h⟩
  | case2 cs h ih =>
    obtain ⟨counts, hrest⟩ := ih
    exact ⟨_, .next h hrest⟩

namespace Passes

variable {on : String → Bool} {cs r : List Char} {counts : List Nat}

theorem eq_settleBlocks (h : Passes on cs counts r) : r = settleBlocks on cs := by
  induction h with
  | last hnone => exact (settleBlocks_of_settled_eq_zero hnone).symm
  | next hsome _ ih => rw [settleBlocks_of_settled_ne_zero hsome, ih]

theorem length_add_le (h : Passes on cs counts r) : r.length + 30 * counts.sum ≤ cs.length := by
  induction h with
  | last => simp
  | @next cs r counts _ _ ih =>
    have hpass := length_pass on cs
    rw [List.sum_cons]
    omega

theorem length_le_sum (h : Passes on cs counts r) : counts.length ≤ counts.sum := by
  induction h with
  | last => exact Nat.le_refl 0
  | next hsome _ ih =>
    -- a pass that is not the last settles one block at least
    rw [List.length_cons, List.sum_cons]
    omega

end Passes

/-- Each replacement that a pass makes takes thirty characters away or more. So the passes come to
an end, and before the one that settles nothing there are no more than one for every thirty
characters of the text. -/
theorem settleBlocks_passes_bounded (on : String → Bool) (cs : List Char) :
    (∀ t, Replaces on t (stretchesOf t)) ∧ (∃ counts, Passes on cs counts (settleBlocks on cs)) ∧
      ∀ counts r, Passes on cs counts r →
        r = settleBlocks on cs ∧ r.length + 30 * counts.sum ≤ cs.length ∧
          counts.length ≤ cs.length / 30 := by
  refine ⟨replaces_stretchesOf on, exists_passes on cs, ?_⟩
  intro counts r h
  have hlength := h.length_add_le
  have hcounts := h.length_le_sum
  refine ⟨h.eq_settleBlocks, hlength, ?_⟩
  rw [Nat.le_div_iff_mul_le (by decide)]
  omega

end DeployScript.Template
