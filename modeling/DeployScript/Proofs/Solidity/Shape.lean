import DeployScript.Proofs.Solidity.Qualifier

/-!
# Declarations by the shape of a type

A type is a base with array suffixes behind it. The rules read its text from the front and from the
end, and the first one that applies decides. Here a declaration is told by the shape alone: which
kind of base it is and whether it has a suffix. Both agree, whatever the names are and however many
suffixes there are.
-/

namespace DeployScript.Solidity

/-- A text that does not close a bracket. -/
abbrev Bracketless := { t : Text // CodePoint.char ']' ∉ t }

inductive BaseShape where
  | string
  | bytes
  | contract (name : Bracketless)
  | struct (name : Bracketless)
  | enum (name : Bracketless)
  | other (text : Bracketless) (apart : ∀ word ∈ ruleWords, startsWith word text.val = false)

namespace BaseShape

def text : BaseShape → Text
  | .string => "string"
  | .bytes => "bytes"
  | .contract name => "contract " ++ name.val
  | .struct name => "struct " ++ name.val
  | .enum name => "enum " ++ name.val
  | .other text _ => text.val

/-- What a declaration says of the base with suffixes behind it. -/
def declaration (suffixes : List ArraySuffix) : BaseShape → Text
  | .string => "string" ++ suffixText suffixes ++ memoryQualifier
  | .bytes => "bytes" ++ suffixText suffixes ++ memoryQualifier
  | .contract name => name.val ++ suffixText suffixes
  | .struct name => name.val ++ suffixText suffixes ++ memoryQualifier
  | .enum name =>
    if suffixes = [] then name.val else name.val ++ suffixText suffixes ++ memoryQualifier
  | .other text _ =>
    if suffixes = [] then text.val else text.val ++ suffixText suffixes ++ memoryQualifier

theorem bracket_not_mem_text (b : BaseShape) : CodePoint.char ']' ∉ b.text := by
  cases b with
  | string | bytes => decide
  | contract name | struct name | enum name =>
    rw [text, List.mem_append, not_or]
    exact ⟨by decide, name.property⟩
  | other text _ => exact text.property

end BaseShape

/-- The first rule that applies to a type makes of it what its shape says. -/
theorem formatType_shape (b : BaseShape) (suffixes : List ArraySuffix) :
    formatType (b.text ++ suffixText suffixes) = b.declaration suffixes := by
  rw [formatType_append_suffixText b.bracket_not_mem_text]
  cases b with
  | string | bytes | contract => rfl
  | struct => cases suffixes <;> rfl
  | enum name =>
    cases suffixes with
    | nil => exact List.append_nil name.val
    | cons => rfl
  | other text apart =>
    simp only [ruleWords, List.forall_mem_cons] at apart
    obtain ⟨hstring, hbytes, hcontract, hstruct, henum, -⟩ := apart
    rw [BaseShape.text, hstring, hbytes, hcontract, hstruct, henum]
    cases suffixes with
    | nil => exact List.append_nil text.val
    | cons => rfl

end DeployScript.Solidity
