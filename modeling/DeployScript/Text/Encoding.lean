import DeployScript.Text.Basic
import DeployScript.Text.Digit

/-!
# Texts as characters and bytes

What becomes of the halves of surrogate pairs where a text is written down. As UTF-8 a broken text
cannot be written at all. Where a text is only shown, a half is shown by its number. In the name of
a file a low half from U+DC80 on stands for a byte that is not UTF-8 there; no other half can be in
a name. So two names may be written differently and still be the same in a file system:
`diskName?` tells a name by its bytes, read again as UTF-8 as far as they are.
-/

namespace DeployScript

/-- What is shown of a code point: the character, or the number of a half. -/
def CodePoint.shown : CodePoint → List Char
  | .char c => [c]
  | .half offset => '\\' :: 'u' :: Text.toHex 4 (CodePoint.half offset).number

/-- The bytes that a code point has in the name of a file. -/
def CodePoint.nameBytes? : CodePoint → Option (List UInt8)
  | .char c => some (String.utf8EncodeChar c)
  | .half offset =>
    if 0x480 ≤ offset.val ∧ offset.val < 0x500 then some [UInt8.ofNat (offset.val - 0x400)]
    else none

namespace Text

def shown (t : Text) : String := String.ofList (t.flatMap CodePoint.shown)

def utf8? (t : Text) : Option ByteArray := (string? t).map String.toUTF8

/-! ### Names of files -/

def nameBytes? (t : Text) : Option (List UInt8) :=
  (t.mapM CodePoint.nameBytes?).map List.flatten

/-- How many bytes a character with this first byte takes in UTF-8. -/
def utf8Width (lead : UInt8) : Nat :=
  if lead < 0x80 then 1 else if lead < 0xe0 then 2 else if lead < 0xf0 then 3 else 4

/-- The character that bytes start with in UTF-8, and the bytes after it. -/
def firstChar? (lead : UInt8) (rest : List UInt8) : Option (Char × List UInt8) :=
  let width := utf8Width lead
  match (String.fromUTF8? ⟨((lead :: rest).take width).toArray⟩).map String.toList with
  | some [c] => some (c, rest.drop (width - 1))
  | _ => none

theorem length_of_firstChar? {lead : UInt8} {rest after : List UInt8} {c : Char}
    (h : firstChar? lead rest = some (c, after)) : after.length ≤ rest.length := by
  simp only [firstChar?] at h
  split at h
  · simp only [Option.some.injEq, Prod.mk.injEq] at h
    obtain ⟨-, rfl⟩ := h
    simp
  · simp at h

/-- The half that stands for a byte that is not UTF-8. -/
def halfOfByte (b : UInt8) : CodePoint := .half ⟨0x400 + b.toNat, by have := b.toNat_lt; omega⟩

def ofNameBytes : List UInt8 → Text
  | [] => []
  | lead :: rest =>
    match _h : firstChar? lead rest with
    | some (c, after) => .char c :: ofNameBytes after
    | none => halfOfByte lead :: ofNameBytes rest
termination_by bytes => bytes.length
decreasing_by
  · have := length_of_firstChar? _h
    simp only [List.length_cons]
    omega
  · simp

/-- The name that a text is in a file system, if it can be one. -/
def diskName? (t : Text) : Option Text :=
  if isBroken t then (nameBytes? t).map ofNameBytes else some t

def nameSize (t : Text) : Nat := ((nameBytes? t).getD []).length

end Text

end DeployScript
