import DeployScript.Deployer.Script
import Mathlib

/-!
# Names of instances

The variable for a contract is called like the contract, without the characters that are neither
letters nor digits and with the first of what is left in lower case. What is left first decides: a
contract whose name starts with a letter gets the name of a variable, and so does one with
underscores or dollar signs in front of a letter. In front of a digit, or of nothing, they leave a
text that no variable can be called.
-/

namespace DeployScript.Deployer

/-! ### Names -/

/-- An underscore or a dollar sign, which names may hold beside letters and digits. -/
def isMark (c : Char) : Bool := c == '_' || c == '$'

/-- A letter or a mark, and then letters, digits and marks. -/
def IsIdentifier : Text → Prop
  | [] => False
  | first :: rest =>
    (first.is Char.isAlpha = true ∨ first.is isMark = true) ∧
      ∀ c ∈ rest, c.is isPlain = true ∨ c.is isMark = true

/-- A lower-case letter, and then letters and digits. -/
def IsVariableName : Text → Prop
  | [] => False
  | first :: rest => first.is Char.isLower = true ∧ ∀ c ∈ rest, c.is isPlain = true

instance : DecidablePred IsIdentifier
  | [] => inferInstanceAs (Decidable False)
  | _ :: _ => inferInstanceAs (Decidable (_ ∧ _))

instance : DecidablePred IsVariableName
  | [] => inferInstanceAs (Decidable False)
  | _ :: _ => inferInstanceAs (Decidable (_ ∧ _))

/-! ### Letters and digits -/

theorem isPlain_toLower (c : Char) : isPlain c.toLower = isPlain c := by
  by_cases h : c.isUpper = true
  · have halpha : c.isAlpha = true := by simp [Char.isAlpha, h]
    have hlower : c.toLower.isAlpha = true := by rw [Char.isAlpha_toLower_eq_isAlpha, halpha]
    simp only [isPlain, Char.isAlphanum, halpha, hlower, Bool.true_or]
  · rw [Char.toLower_eq_of_not_isUpper h]

theorem isPlain_of_isAlpha {c : CodePoint} (h : c.is Char.isAlpha = true) :
    c.is isPlain = true := by
  cases c with
  | char c => exact Bool.or_eq_true_iff.2 (Or.inl h)
  | half => exact h

theorem is_isLower_map_toLower (c : CodePoint) :
    (c.map Char.toLower).is Char.isLower = c.is Char.isAlpha := by
  cases c with
  | char c => exact Char.isLower_toLower_eq_isAlpha c
  | half => rfl

theorem isPlain_of_mem_instanceName {contract : Text} {c : CodePoint}
    (h : c ∈ instanceName contract) : c.is isPlain = true := by
  rw [instanceName] at h
  cases hfilter : contract.filter (CodePoint.is isPlain) with
  | nil =>
    rw [hfilter] at h
    exact absurd h List.not_mem_nil
  | cons first rest =>
    have hplain : ∀ d ∈ first :: rest, d.is isPlain = true := by
      intro d hd
      rw [← hfilter] at hd
      exact (List.mem_filter.1 hd).2
    rw [hfilter] at h
    rcases List.mem_cons.1 h with rfl | hrest
    · -- only the first has changed, and lowering leaves letters letters and digits digits
      have hfirst := hplain first List.mem_cons_self
      cases first with
      | char d => exact (isPlain_toLower d).trans hfirst
      | half => exact hfirst
    · exact hplain c (List.mem_cons_of_mem first hrest)

/-! ### The first of what is left -/

theorem instanceName_append {front back : Text} {c : CodePoint}
    (hfront : ∀ d ∈ front, ¬ d.is isPlain = true) (hc : c.is isPlain = true) :
    instanceName (front ++ c :: back) =
      c.map Char.toLower :: back.filter (CodePoint.is isPlain) := by
  rw [instanceName, List.filter_append, List.filter_eq_nil_iff.2 hfront,
    List.filter_cons_of_pos hc]
  rfl

/-- What is left of a name is the name of a variable just when the first letter or digit of the name
is a letter. -/
theorem isVariableName_instanceName_iff_first (contract : Text) :
    IsVariableName (instanceName contract) ↔
      ∃ front letter back, contract = front ++ letter :: back ∧
        (∀ c ∈ front, ¬ c.is isPlain = true) ∧ letter.is Char.isAlpha = true := by
  constructor
  · intro h
    cases hfilter : contract.filter (CodePoint.is isPlain) with
    | nil =>
      rw [instanceName, hfilter] at h
      exact h.elim
    | cons first rest =>
      -- what stood before the first that is left was dropped
      obtain ⟨front, back, rfl, hfront, -, rfl⟩ := List.filter_eq_cons_iff.1 hfilter
      rw [instanceName, hfilter] at h
      exact ⟨front, first, back, rfl, hfront, (is_isLower_map_toLower first).symm.trans h.1⟩
  · rintro ⟨front, letter, back, rfl, hfront, hletter⟩
    rw [instanceName_append hfront (isPlain_of_isAlpha hletter)]
    exact ⟨(is_isLower_map_toLower letter).trans hletter, fun c hc => (List.mem_filter.1 hc).2⟩

example : instanceName "_$" = [] ∧ instanceName "$9Lives" = "9Lives" := by decide

/-! ### Identifiers -/

theorem IsIdentifier.isPlain_or_isMark {contract : Text} (h : IsIdentifier contract)
    {c : CodePoint} (hc : c ∈ contract) : c.is isPlain = true ∨ c.is isMark = true := by
  cases contract with
  | nil => exact absurd hc List.not_mem_nil
  | cons first rest =>
    obtain ⟨hfirst, hrest⟩ := h
    rcases List.mem_cons.1 hc with rfl | hc
    · exact hfirst.imp_left isPlain_of_isAlpha
    · exact hrest c hc

theorem not_isPlain_of_isMark {c : CodePoint} (h : c.is isMark = true) :
    ¬ c.is isPlain = true := by
  cases c with
  | char c =>
    simp only [CodePoint.is, isMark, Bool.or_eq_true, beq_iff_eq] at h
    rcases h with rfl | rfl <;> decide
  | half => exact Bool.noConfusion h

/-- For an identifier, only letters and digits are left, and they are the name of a variable just
when a letter stands behind the marks that the identifier starts with. -/
theorem isVariableName_instanceName_iff {contract : Text} (h : IsIdentifier contract) :
    (∀ c ∈ instanceName contract, c.is isPlain = true) ∧
      (IsVariableName (instanceName contract) ↔
        ∃ marks letter back, contract = marks ++ letter :: back ∧
          (∀ c ∈ marks, c.is isMark = true) ∧ letter.is Char.isAlpha = true) := by
  refine ⟨fun c hc => isPlain_of_mem_instanceName hc, ?_⟩
  rw [isVariableName_instanceName_iff_first]
  constructor
  · rintro ⟨front, letter, back, rfl, hfront, hletter⟩
    refine ⟨front, letter, back, rfl, ?_, hletter⟩
    -- in an identifier, what is neither letter nor digit is a mark
    intro c hc
    exact (h.isPlain_or_isMark (List.mem_append_left _ hc)).resolve_left (hfront c hc)
  · rintro ⟨marks, letter, back, heq, hmarks, hletter⟩
    exact ⟨marks, letter, back, heq, fun c hc => not_isPlain_of_isMark (hmarks c hc), hletter⟩

theorem isVariableName_instanceName_marked :
    IsIdentifier "_$Vault_2" ∧ (∀ c ∈ instanceName "_$Vault_2", c.is isPlain = true) ∧
      IsVariableName (instanceName "_$Vault_2") := by
  have hname : IsIdentifier "_$Vault_2" := by decide
  obtain ⟨hplain, hvariable⟩ := isVariableName_instanceName_iff hname
  have hmarks : Text.ofString "_$Vault_2" = "_$" ++ CodePoint.char 'V' :: "ault_2" := rfl
  exact ⟨hname, hplain, hvariable.2 ⟨_, _, _, hmarks, by decide, by decide⟩⟩

/-- A mark in front of a digit leaves the digit first. -/
theorem not_forall_isVariableName_instanceName :
    ¬ ∀ contract, IsIdentifier contract → IsVariableName (instanceName contract) := by
  intro hall
  have hname : IsVariableName (instanceName "_1Token") := hall "_1Token" (by decide)
  exact absurd hname (by decide)

end DeployScript.Deployer
