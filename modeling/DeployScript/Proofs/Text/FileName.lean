import DeployScript.Path.Lemmas
import DeployScript.Text.Encoding
import Mathlib.Data.List.Basic

/-!
# Names of files

The name that a text is in a file system has the bytes of the text, so that two texts whose bytes
differ are two names. With it the last parts of paths are told apart by what their texts end in.
-/

namespace DeployScript

namespace Text

/-! ### Bytes of a name -/

theorem nameBytes?_cons (c : CodePoint) (t : Text) :
    nameBytes? (c :: t) = c.nameBytes?.bind fun bytes => (nameBytes? t).map (bytes ++ ·) := by
  rw [nameBytes?, nameBytes?, List.mapM_cons]
  cases c.nameBytes? with
  | none => rfl
  | some bytes => cases List.mapM CodePoint.nameBytes? t <;> rfl

theorem nameBytes?_append (a b : Text) :
    nameBytes? (a ++ b) =
      (nameBytes? a).bind fun bytes => (nameBytes? b).map (bytes ++ ·) := by
  induction a with
  | nil =>
    have hnil : nameBytes? [] = some [] := rfl
    rw [hnil, List.nil_append]
    cases nameBytes? b <;> rfl
  | cons c a ih =>
    rw [List.cons_append, nameBytes?_cons, nameBytes?_cons, ih]
    cases c.nameBytes? <;> cases nameBytes? a <;> cases nameBytes? b <;> simp

theorem nameBytes?_ofString (s : String) :
    nameBytes? (ofString s) = some (s.toList.flatMap String.utf8EncodeChar) := by
  rw [ofString]
  induction s.toList with
  | nil => rfl
  | cons c cs ih =>
    rw [ofChars, List.map_cons, ← ofChars, nameBytes?_cons, ih]
    rfl

theorem toUTF8_of_fromUTF8? {bytes : ByteArray} {s : String}
    (h : String.fromUTF8? bytes = some s) : s.toUTF8 = bytes := by
  rw [String.fromUTF8?] at h
  split at h
  · cases h
    rfl
  · simp at h

theorem fromUTF8?_toUTF8 (s : String) : String.fromUTF8? s.toUTF8 = some s := by
  simp only [String.fromUTF8?, String.toUTF8_eq_toByteArray, dif_pos s.isValidUTF8]
  rfl

theorem utf8Width_pos (lead : UInt8) : 0 < utf8Width lead := by
  rw [utf8Width]
  split
  · omega
  · split
    · omega
    · split <;> omega

/-- What is read off the front as a character are its bytes. -/
theorem eq_append_of_firstChar? {lead : UInt8} {rest after : List UInt8} {c : Char}
    (h : firstChar? lead rest = some (c, after)) :
    lead :: rest = String.utf8EncodeChar c ++ after := by
  simp only [firstChar?] at h
  split at h
  · next c' hchar =>
    simp only [Option.some.injEq, Prod.mk.injEq] at h
    obtain ⟨rfl, rfl⟩ := h
    obtain ⟨s, hs, hlist⟩ := Option.map_eq_some_iff.1 hchar
    have hbytes : s.toUTF8 = (String.utf8EncodeChar c').toByteArray := by
      rw [← String.ofList_toList (s := s), hlist, String.toUTF8_eq_toByteArray,
        String.toByteArray_ofList, List.utf8Encode_singleton]
    have htake : (lead :: rest).take (utf8Width lead) = String.utf8EncodeChar c' := by
      rw [toUTF8_of_fromUTF8? hs] at hbytes
      have hdata := congrArg (fun b : ByteArray => b.data.toList) hbytes
      simpa using hdata
    obtain ⟨width, hwidth⟩ := Nat.exists_eq_add_of_lt (utf8Width_pos lead)
    rw [← htake, hwidth]
    simp
  · simp at h

theorem utf8EncodeChar_of_lt :
    ∀ n : Fin 128, String.utf8EncodeChar (Char.ofNat n) = [UInt8.ofNat n] := by decide

/-- A byte below 0x80 is a character. -/
theorem firstChar?_of_lt {lead : UInt8} (h : lead < 0x80) (rest : List UInt8) :
    firstChar? lead rest = some (Char.ofNat lead.toNat, rest) := by
  have hlead : lead.toNat < 128 := h
  have hencode : String.utf8EncodeChar (Char.ofNat lead.toNat) = [lead] := by
    rw [utf8EncodeChar_of_lt ⟨lead.toNat, hlead⟩]
    simp
  have hwidth : utf8Width lead = 1 := by rw [utf8Width, if_pos h]
  have hbytes : (String.ofList [Char.ofNat lead.toNat]).toUTF8 = ⟨#[lead]⟩ := by
    rw [String.toUTF8_eq_toByteArray, String.toByteArray_ofList, List.utf8Encode_singleton, hencode]
    rfl
  have hread : String.fromUTF8? ⟨#[lead]⟩ = some (String.ofList [Char.ofNat lead.toNat]) := by
    rw [← hbytes, fromUTF8?_toUTF8]
  simp [firstChar?, hwidth, hread]

theorem nameBytes?_halfOfByte {b : UInt8} (h : ¬ b < 0x80) :
    (halfOfByte b).nameBytes? = some [b] := by
  have hlow : 128 ≤ b.toNat := Nat.le_of_not_lt h
  have hhigh := b.toNat_lt
  have hrange : 0x480 ≤ 0x400 + b.toNat ∧ 0x400 + b.toNat < 0x500 := by omega
  simp only [halfOfByte, CodePoint.nameBytes?, hrange, and_self, if_true, Nat.add_sub_cancel_left]
  simp

/-- The name with some bytes has these bytes. -/
theorem nameBytes?_ofNameBytes (bytes : List UInt8) :
    nameBytes? (ofNameBytes bytes) = some bytes := by
  induction bytes using ofNameBytes.induct with
  | case1 => simp [ofNameBytes, nameBytes?]
  | case2 lead rest c after h ih =>
    rw [ofNameBytes]
    split
    · next c' after' h' =>
      rw [h] at h'
      cases h'
      rw [nameBytes?_cons, ih, eq_append_of_firstChar? h]
      rfl
    · next h' =>
      rw [h] at h'
      simp at h'
  | case3 lead rest h ih =>
    have hlead : ¬ lead < 0x80 := by
      intro hlt
      rw [firstChar?_of_lt hlt] at h
      simp at h
    rw [ofNameBytes]
    split
    · next c' after' h' =>
      rw [h] at h'
      simp at h'
    · rw [nameBytes?_cons, ih, nameBytes?_halfOfByte hlead]
      rfl

theorem exists_nameBytes?_of_not_isBroken {t : Text} (h : ¬ isBroken t = true) :
    ∃ bytes, nameBytes? t = some bytes := by
  obtain ⟨cs, hcs⟩ : ∃ cs, chars? t = some cs := by
    simpa [isBroken, Option.ne_none_iff_exists'] using h
  rw [eq_ofChars_of_chars? hcs, ← String.toList_ofList (l := cs), ← ofString, nameBytes?_ofString]
  exact ⟨_, rfl⟩

/-- The name that a text is on disk has the bytes of the text. -/
theorem nameBytes?_of_diskName? {t name : Text} (h : t.diskName? = some name) :
    ∃ bytes, nameBytes? t = some bytes ∧ nameBytes? name = some bytes := by
  rw [diskName?] at h
  split at h
  · obtain ⟨bytes, hbytes, rfl⟩ := Option.map_eq_some_iff.1 h
    exact ⟨bytes, hbytes, nameBytes?_ofNameBytes bytes⟩
  · next hwhole =>
    cases h
    obtain ⟨bytes, hbytes⟩ := exists_nameBytes?_of_not_isBroken hwhole
    exact ⟨bytes, hbytes, hbytes⟩

theorem getLast?_nameBytes?_append {t ending : Text} {bytes : List UInt8} {pre : List UInt8}
    {b : UInt8} (hending : nameBytes? ending = some (pre ++ [b]))
    (h : nameBytes? (t ++ ending) = some bytes) : bytes.getLast? = some b := by
  rw [nameBytes?_append, hending] at h
  obtain ⟨front, -, h⟩ := Option.bind_eq_some_iff.1 h
  rw [Option.map_some, Option.some.injEq] at h
  rw [← h, ← List.append_assoc, List.getLast?_concat]

/-- Texts whose bytes end differently are two names on disk. -/
theorem diskName?_ne {t t' ending ending' : Text} {pre pre' : List UInt8} {b b' : UInt8}
    (hending : nameBytes? ending = some (pre ++ [b]))
    (hending' : nameBytes? ending' = some (pre' ++ [b'])) (hne : b ≠ b') {name name' : Text}
    (h : (t ++ ending).diskName? = some name) (h' : (t' ++ ending').diskName? = some name') :
    name ≠ name' := by
  rintro rfl
  obtain ⟨bytes, hbytes, hname⟩ := nameBytes?_of_diskName? h
  obtain ⟨bytes', hbytes', hname'⟩ := nameBytes?_of_diskName? h'
  rw [hname, Option.some.injEq] at hname'
  subst hname'
  have hlast := getLast?_nameBytes?_append hending hbytes
  rw [getLast?_nameBytes?_append hending' hbytes', Option.some.injEq] at hlast
  exact hne hlast.symm

end Text

/-! ### Last parts -/

theorem splitSlashes_append_of_not_mem (t : Text) {ending : Text}
    (h : CodePoint.char '/' ∉ ending) :
    ∃ front x, splitSlashes (t ++ ending) = front ++ [x ++ ending] := by
  induction t with
  | nil => exact ⟨[], [], splitSlashes_of_not_mem h⟩
  | cons c t ih =>
    obtain ⟨front, x, hsplit⟩ := ih
    rw [List.cons_append, splitSlashes]
    split
    · exact ⟨[] :: front, x, by rw [hsplit]; rfl⟩
    · rw [hsplit]
      cases front with
      | nil => exact ⟨[], c :: x, rfl⟩
      | cons first more => exact ⟨(c :: first) :: more, x, rfl⟩

namespace Path

/-- A text with an ending of two code points or more is no dot and not empty. -/
theorem isNamingSegment_append (t : Text) {ending : Text} (hlength : 2 ≤ ending.length) :
    isNamingSegment (t ++ ending) = true := by
  have hlong : 2 ≤ (t ++ ending).length := by
    rw [List.length_append]
    omega
  have hempty : t ++ ending ≠ [] := by
    intro h
    rw [h] at hlong
    simp at hlong
  have hdot : t ++ ending ≠ "." := by
    intro h
    rw [h] at hlong
    simp [Text.ofString, Text.ofChars] at hlong
  simp [isNamingSegment, hempty, hdot]

/-- The last part of a path made of a text with an ending has that ending. -/
theorem parts_child_append (p : Path) (t ending : Text)
    (hslash : CodePoint.char '/' ∉ ending) (hlength : 2 ≤ ending.length) :
    ∃ front x, (p.child (t ++ ending)).parts = front ++ [x ++ ending] := by
  obtain ⟨front, x, hsplit⟩ := splitSlashes_append_of_not_mem t hslash
  have hnaming : isNamingSegment (x ++ ending) = true := isNamingSegment_append x hlength
  have hparts : partsOf (t ++ ending) = front.filter isNamingSegment ++ [x ++ ending] := by
    rw [partsOf, hsplit, List.filter_append, List.filter_cons_of_pos hnaming, List.filter_nil]
  rw [child, join]
  split
  · exact ⟨_, x, hparts⟩
  · refine ⟨p.parts ++ front.filter isNamingSegment, x, ?_⟩
    rw [List.append_assoc, ← hparts]
    rfl

theorem append_ne_dots (t : Text) {ending : Text} (hlength : 3 ≤ ending.length) :
    t ++ ending ≠ ".." := by
  intro h
  have hlong : 3 ≤ (t ++ ending).length := by
    rw [List.length_append]
    omega
  rw [h] at hlong
  simp [Text.ofString, Text.ofChars] at hlong

end Path

end DeployScript
