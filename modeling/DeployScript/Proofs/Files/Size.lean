import DeployScript.Files.Access
import DeployScript.Proofs.Text.FileName

/-!
# How long paths are

The size of a path is that of its text in bytes. A text has bytes if each of its code points has,
and leaving code points out never makes it longer: so a path is no longer than one with more parts,
and whether a file can have a path is seen from its parts.
-/

namespace DeployScript

/-! ### Sizes of texts -/

theorem CodePoint.length_pos_of_nameBytes? {c : CodePoint} {bytes : List UInt8}
    (h : c.nameBytes? = some bytes) : 0 < bytes.length := by
  cases c with
  | char c =>
    rw [nameBytes?, Option.some.injEq] at h
    rw [← h, String.length_utf8EncodeChar]
    exact Char.utf8Size_pos c
  | half offset =>
    rw [nameBytes?] at h
    split at h
    · cases h
      simp
    · simp at h

namespace Text

variable {a b t : Text}

theorem nameBytes?_eq_none_iff : nameBytes? t = none ↔ ∃ c ∈ t, c.nameBytes? = none := by
  induction t with
  | nil => simp [nameBytes?]
  | cons c t ih =>
    rw [nameBytes?_cons, List.exists_mem_cons_iff, ← ih]
    cases c.nameBytes? with
    | none => simp
    | some bytes => simp

theorem nameBytes?_ne_none_iff : nameBytes? t ≠ none ↔ ∀ c ∈ t, c.nameBytes? ≠ none := by
  rw [ne_eq, nameBytes?_eq_none_iff]
  push Not
  rfl

theorem nameSize_cons_of_ne_none {c : CodePoint} (h : nameBytes? (c :: t) ≠ none) :
    ∃ bytes, c.nameBytes? = some bytes ∧ nameSize (c :: t) = bytes.length + nameSize t := by
  have hall := nameBytes?_ne_none_iff.1 h
  obtain ⟨bytes, hc⟩ := Option.ne_none_iff_exists'.1 (hall c List.mem_cons_self)
  have htail : nameBytes? t ≠ none :=
    nameBytes?_ne_none_iff.2 fun x hx => hall x (List.mem_cons_of_mem c hx)
  obtain ⟨more, ht⟩ := Option.ne_none_iff_exists'.1 htail
  refine ⟨bytes, hc, ?_⟩
  simp [nameSize, nameBytes?_cons, hc, ht]

/-- A text is no longer than one with more code points. -/
theorem nameSize_le_of_sublist (h : a.Sublist b) (hb : nameBytes? b ≠ none) :
    nameSize a ≤ nameSize b := by
  induction h with
  | slnil => exact Nat.le_refl _
  | @cons a b c _ ih =>
    obtain ⟨bytes, -, hsize⟩ := nameSize_cons_of_ne_none hb
    have htail : nameBytes? b ≠ none :=
      nameBytes?_ne_none_iff.2 fun x hx => nameBytes?_ne_none_iff.1 hb x (List.mem_cons_of_mem c hx)
    have hle := ih htail
    omega
  | @cons_cons a b c h ih =>
    have hall := nameBytes?_ne_none_iff.1 hb
    have htail : nameBytes? b ≠ none :=
      nameBytes?_ne_none_iff.2 fun x hx => hall x (List.mem_cons_of_mem c hx)
    have hfront : nameBytes? (c :: a) ≠ none :=
      nameBytes?_ne_none_iff.2 fun x hx => hall x ((h.cons_cons c).subset hx)
    obtain ⟨bytes, hc, hsize⟩ := nameSize_cons_of_ne_none hb
    obtain ⟨bytes', hc', hsize'⟩ := nameSize_cons_of_ne_none hfront
    rw [hc, Option.some.injEq] at hc'
    have hle := ih htail
    rw [hsize, hsize', ← hc']
    omega

theorem join_sublist {parts parts' : List Text} (h : parts.Sublist parts') :
    (join "/" parts).Sublist (join "/" parts') := by
  induction h with
  | slnil => exact List.Sublist.refl _
  | @cons parts parts' part h ih =>
    refine ih.trans ?_
    cases parts' with
    | nil => exact List.nil_sublist _
    | cons next more =>
      rw [join_slash_cons_cons]
      exact (List.sublist_cons_self _ _).trans (List.sublist_append_right _ _)
  | @cons_cons parts parts' part h ih =>
    cases parts with
    | nil =>
      cases parts' with
      | nil => exact List.Sublist.refl _
      | cons next more =>
        rw [join_slash_cons_cons]
        simp [join]
    | cons first rest =>
      cases parts' with
      | nil => simp at h
      | cons next more =>
        rw [join_slash_cons_cons, join_slash_cons_cons]
        exact (List.Sublist.refl part).append (ih.cons_cons _)

theorem mem_of_mem_join {parts : List Text} {c : CodePoint} (h : c ∈ join "/" parts) :
    c = .char '/' ∨ ∃ part ∈ parts, c ∈ part := by
  induction parts with
  | nil => simp [join] at h
  | cons part rest ih =>
    cases rest with
    | nil => exact .inr ⟨part, List.mem_cons_self, by simpa [join] using h⟩
    | cons next more =>
      rw [join_slash_cons_cons] at h
      rcases List.mem_append.1 h with hpart | htail
      · exact .inr ⟨part, List.mem_cons_self, hpart⟩
      · rcases List.mem_cons.1 htail with hslash | hmore
        · exact .inl hslash
        · rcases ih hmore with hslash | ⟨other, hother, hc⟩
          · exact .inl hslash
          · exact .inr ⟨other, List.mem_cons_of_mem part hother, hc⟩

end Text

/-! ### Sizes of paths -/

namespace Path

variable {p q : Path}

theorem nameBytes?_text_ne_none_iff :
    p.text.nameBytes? ≠ none ↔ ∀ part ∈ p.parts, part.nameBytes? ≠ none := by
  have hslash : (CodePoint.char '/').nameBytes? ≠ none := by simp [CodePoint.nameBytes?]
  by_cases hdot : p.root = .relative ∧ p.parts = []
  · rw [text, if_pos hdot, hdot.2]
    simp [Text.nameBytes?_ofString]
  · rw [text, if_neg hdot]
    simp only [Text.nameBytes?_ne_none_iff]
    constructor
    · intro h part hpart c hc
      have hsub : part.Sublist <| Text.join "/" p.parts := by
        have hone := Text.join_sublist (List.singleton_sublist.2 hpart)
        simpa [Text.join] using hone
      exact h c (List.mem_append_right _ (hsub.subset hc))
    · intro h c hc
      rcases List.mem_append.1 hc with hroot | hjoin
      · have heq : c = .char '/' := by
          cases hr : p.root <;> rw [hr] at hroot <;>
            simp_all [rootText, Text.ofString, Text.ofChars]
        rw [heq]
        exact hslash
      · rcases Text.mem_of_mem_join hjoin with rfl | ⟨part, hpart, hmem⟩
        · exact hslash
        · exact h part hpart c hmem

/-- A file can have a path if each part can stand in one. -/
theorem badPath?_eq_none_iff :
    Action.badPath? p = none ↔
      ∀ part ∈ p.parts, part.nameBytes? ≠ none ∧ CodePoint.char '\x00' ∉ part := by
  have hbytes := nameBytes?_text_ne_none_iff (p := p)
  have hnul : p.hasNul = false ↔ ∀ part ∈ p.parts, CodePoint.char '\x00' ∉ part := by
    simp [hasNul]
  rw [Action.badPath?]
  simp only [forall_and]
  by_cases htext : p.text.nameBytes? = none
  · simp [htext, ← hbytes]
  · cases hp : p.hasNul with
    | true => simp_all
    | false => simp_all

/-- A path is no longer than one with more parts that starts where it does, unless it starts at the
current directory. -/
theorem nameSize_text_le (hroot : p.root = q.root ∨ p.root = .relative)
    (hparts : p.parts.Sublist q.parts) (hbytes : ∀ part ∈ q.parts, part.nameBytes? ≠ none) :
    p.text.nameSize ≤ q.text.nameSize := by
  have hq := nameBytes?_text_ne_none_iff.2 hbytes
  by_cases hdot : p.root = .relative ∧ p.parts = []
  · have hp : p.text = "." := by rw [text, if_pos hdot]
    obtain ⟨c, rest, htext⟩ := List.exists_cons_of_ne_nil (text_ne_nil q)
    rw [htext] at hq ⊢
    obtain ⟨bytes, hc, hsize⟩ := Text.nameSize_cons_of_ne_none hq
    have hbytes := CodePoint.length_pos_of_nameBytes? hc
    have hone : Text.nameSize "." = 1 := by decide
    rw [hp, hone, hsize]
    omega
  · have hdot' : ¬ (q.root = .relative ∧ q.parts = []) := by
      rintro ⟨hrelative, hnil⟩
      rw [hnil, List.sublist_nil] at hparts
      exact hdot ⟨hroot.elim (·.trans hrelative) id, hparts⟩
    refine Text.nameSize_le_of_sublist ?_ hq
    rw [text, if_neg hdot, text, if_neg hdot']
    refine List.Sublist.append ?_ (Text.join_sublist hparts)
    rcases hroot with heq | hrelative
    · rw [heq]
    · rw [hrelative]
      exact List.nil_sublist _

end Path

end DeployScript
