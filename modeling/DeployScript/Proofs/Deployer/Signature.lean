import DeployScript.Deployer.Script
import DeployScript.Proofs.Abi.Renaming

/-!
# Declarations and calls

The same parameters are written three times: as the end of a signature, as a signature of their own,
and by name in a call. Each place has its own rule for an empty list. Here all of them are told from
the interface: the parameters of the first constructor under their names in the signature, and those
of the first initializer under the names that they have.
-/

namespace DeployScript.Deployer

open DeployScript.Abi
open DeployScript.Solidity (Declared declare formatType)

/-! ### Parameters of an interface -/

def constructorInputs (abi : List Entry) : List Parameter :=
  ((constructor? abi).map Entry.inputs).getD []

def initializerInputs (abi : List Entry) : List Parameter :=
  ((initializer? abi).map Entry.inputs).getD []

/-- A constructor parameter beside initializer parameters with the names `init`. -/
def inSignature (init : List Text) (p : Parameter) : Parameter :=
  { p with name := signatureName init p.name }

/-- The constructor parameters under the names that they have in the signature. -/
def signatureInputs (abi : List Entry) : List Parameter :=
  (constructorInputs abi).map (inSignature (initializerNames abi))

def declarationOf (p : Parameter) : Text := formatType p.type ++ " " ++ p.name

theorem inSignature_of_not_mem {init : List Text} {p : Parameter} (h : p.name ∉ init) :
    inSignature init p = p := by
  rw [inSignature, signatureName, if_neg h]

theorem disambiguate_eq_map (constructor init : List Parameter) :
    disambiguate constructor init = constructor.map (inSignature (names init)) := by
  apply List.map_congr_left
  intro p _
  by_cases h : p.name ∈ names init
  · rw [if_pos ((clashes_iff init p).2 h), inSignature, signatureName, if_pos h]
    rfl
  · rw [if_neg fun hclash => h ((clashes_iff init p).1 hclash), inSignature_of_not_mem h]

theorem constructor_resolve (abi : List Entry) :
    (resolve abi).constructor = signatureInputs abi := by
  simp only [resolve, signatureInputs, constructorInputs, initializerNames]
  cases constructor? abi with
  | none => rfl
  | some e =>
    cases initializer? abi with
    | none =>
      -- without an initializer no name is marked
      have hkept : ∀ p, inSignature [] p = p := fun p => inSignature_of_not_mem List.not_mem_nil
      exact (List.map_id'' hkept e.inputs).symm
    | some f => exact disambiguate_eq_map e.inputs f.inputs

theorem init_resolve (abi : List Entry) :
    (resolve abi).init.getD [] = initializerInputs abi := rfl

/-! ### Lists of names -/

/-- The parts of a text between the commas that a blank follows. -/
def splitCommaBlank : Text → List Text
  | [] => [[]]
  | .char ',' :: .char ' ' :: rest => [] :: splitCommaBlank rest
  | c :: rest =>
    match splitCommaBlank rest with
    | [] => [[c]]
    | part :: more => (c :: part) :: more

def passedNames (t : Text) : List Text := if t = [] then [] else splitCommaBlank t

theorem splitCommaBlank_cons {c : CodePoint} (hc : c ≠ .char ',') (rest : Text) :
    splitCommaBlank (c :: rest) =
      match splitCommaBlank rest with
      | [] => [[c]]
      | part :: more => (c :: part) :: more := by
  rw [splitCommaBlank]
  rintro _ rfl _
  exact hc rfl

theorem splitCommaBlank_of_not_mem {t : Text} (h : CodePoint.char ',' ∉ t) :
    splitCommaBlank t = [t] := by
  induction t with
  | nil => rfl
  | cons c rest ih =>
    rw [List.mem_cons, not_or] at h
    rw [splitCommaBlank_cons (Ne.symm h.1), ih h.2]

theorem splitCommaBlank_append {t : Text} (h : CodePoint.char ',' ∉ t) (rest : Text) :
    splitCommaBlank (t ++ .char ',' :: .char ' ' :: rest) = t :: splitCommaBlank rest := by
  induction t with
  | nil => rfl
  | cons c t ih =>
    rw [List.mem_cons, not_or] at h
    rw [List.cons_append, splitCommaBlank_cons (Ne.symm h.1), ih h.2]

theorem commaSeparated_cons_cons (first second : Text) (more : List Text) :
    commaSeparated (first :: second :: more) =
      first ++ .char ',' :: .char ' ' :: commaSeparated (second :: more) := by
  rw [commaSeparated, Text.join, List.intercalate_cons_cons, List.append_assoc]
  rfl

theorem commaSeparated_ne_nil {first : Text} (h : first ≠ []) (more : List Text) :
    commaSeparated (first :: more) ≠ [] := by
  cases more with
  | nil => simpa [commaSeparated, Text.join] using h
  | cons second more => simp [commaSeparated_cons_cons]

theorem splitCommaBlank_commaSeparated {texts : List Text} (hne : texts ≠ [])
    (h : ∀ t ∈ texts, CodePoint.char ',' ∉ t) : splitCommaBlank (commaSeparated texts) = texts := by
  induction texts with
  | nil => exact absurd rfl hne
  | cons first rest ih =>
    have hfirst := h first List.mem_cons_self
    cases rest with
    | nil => simpa [commaSeparated, Text.join] using splitCommaBlank_of_not_mem hfirst
    | cons second more =>
      have hmore : ∀ t ∈ second :: more, CodePoint.char ',' ∉ t := by
        intro t ht
        exact h t (List.mem_cons_of_mem first ht)
      rw [commaSeparated_cons_cons, splitCommaBlank_append hfirst,
        ih (List.cons_ne_nil second more) hmore]

/-- Names that are neither empty nor hold a comma are passed as they are. -/
theorem passedNames_commaSeparated {texts : List Text}
    (h : ∀ t ∈ texts, t ≠ [] ∧ CodePoint.char ',' ∉ t) :
    passedNames (commaSeparated texts) = texts := by
  cases texts with
  | nil => rfl
  | cons first more =>
    have hne := commaSeparated_ne_nil (h first List.mem_cons_self).1 more
    rw [passedNames, if_neg hne]
    exact splitCommaBlank_commaSeparated (List.cons_ne_nil first more) fun t ht => (h t ht).2

/-! ### The signature -/

theorem commaSeparated_append_furtherDeclarations (t : Text) (front : List Text)
    (params : List Declared) :
    commaSeparated (t :: front) ++ furtherDeclarations params =
      commaSeparated (t :: (front ++ params.map Declared.declaration)) := by
  -- a separator stands in front of the further declarations exactly if there are any
  induction front generalizing t with
  | nil =>
    cases params with
    | nil => simp [furtherDeclarations]
    | cons p params =>
      rw [List.nil_append, List.map_cons, commaSeparated_cons_cons]
      simp [commaSeparated, Text.join, furtherDeclarations, Text.ofString, Text.ofChars]
  | cons second front ih =>
    rw [commaSeparated_cons_cons, List.cons_append, commaSeparated_cons_cons, ← ih second]
    simp

/-- Two lists that a signature goes on with after its first declaration. -/
theorem append_furtherDeclarations (t : Text) (first second : List Declared) :
    t ++ furtherDeclarations first ++ furtherDeclarations second =
      commaSeparated
        (t :: (first.map Declared.declaration ++ second.map Declared.declaration)) := by
  have halone : t = commaSeparated [t] := by simp [commaSeparated, Text.join]
  have hfirst := commaSeparated_append_furtherDeclarations t [] first
  rw [← halone, List.nil_append] at hfirst
  rw [hfirst, commaSeparated_append_furtherDeclarations]

theorem map_declaration_declare (params : List Parameter) :
    (params.map declare).map Declared.declaration = params.map declarationOf := by
  rw [List.map_map]
  rfl

theorem argumentNames_declare (params : List Parameter) :
    argumentNames (params.map declare) = commaSeparated (names params) := by
  rw [argumentNames, List.map_map]
  rfl

theorem init_map_declare (a : Arguments) :
    (a.init.map (List.map declare)).getD [] = (a.init.getD []).map declare := by
  cases a.init <;> rfl

theorem names_signatureInputs (abi : List Entry) :
    names (signatureInputs abi) =
      (constructorNames abi).map (signatureName (initializerNames abi)) := by
  rw [names, signatureInputs, List.map_map, constructorNames, names, List.map_map]
  rfl

theorem signatureName_ne_nil (init : List Text) {name : Text} (h : name ≠ []) :
    signatureName init name ≠ [] := by
  rw [signatureName]
  split
  · exact List.append_ne_nil_of_right_ne_nil _ h
  · exact h

theorem comma_not_mem_signatureName (init : List Text) {name : Text}
    (h : CodePoint.char ',' ∉ name) : CodePoint.char ',' ∉ signatureName init name := by
  rw [signatureName]
  split
  · have hmark : CodePoint.char ',' ∉ Text.ofString renameMark := by decide
    rw [List.mem_append, not_or]
    exact ⟨hmark, h⟩
  · exact h

/-- What a signature declares is what a call passes. The signature goes on after the owner with the
parameters of the first constructor, under their names in it, and with those of the first
initializer; names that are neither empty nor hold a comma are read back from the calls in the same
order. -/
theorem holeValues_declare_and_pass (r : Request) (abi : List Entry) :
    ∃ further furtherInit passed passedInit : Text,
      (holeValues r (resolve abi)).lookup "CONSTRUCTOR_ARGS" = some further ∧
      (holeValues r (resolve abi)).lookup "INIT_ARGS" = some furtherInit ∧
      (holeValues r (resolve abi)).lookup "CONSTRUCTOR_ARG_NAMES" = some passed ∧
      (holeValues r (resolve abi)).lookup "INIT_ARG_NAMES" = some passedInit ∧
      (holeValues r (resolve abi)).lookup "CONSTRUCTOR_PARAMS" =
        some (Text.join ", " ((signatureInputs abi).map declarationOf)) ∧
      "address proxyAdminOwner" ++ further ++ furtherInit =
        Text.join ", " ("address proxyAdminOwner" ::
          ((signatureInputs abi).map declarationOf ++
            (initializerInputs abi).map declarationOf)) ∧
      ((∀ name ∈ constructorNames abi ++ initializerNames abi,
          name ≠ [] ∧ CodePoint.char ',' ∉ name) →
        passedNames passed = names (signatureInputs abi) ∧
          passedNames passedInit = names (initializerInputs abi)) := by
  refine ⟨_, _, _, _, rfl, rfl, rfl, rfl, ?_, ?_, ?_⟩
  · rw [← map_declaration_declare, ← constructor_resolve]
    rfl
  · rw [init_map_declare, constructor_resolve, init_resolve, append_furtherDeclarations,
      map_declaration_declare, map_declaration_declare]
    rfl
  · -- marking a name leaves it without a comma and not empty
    intro hnames
    rw [init_map_declare, constructor_resolve, init_resolve, argumentNames_declare,
      argumentNames_declare]
    constructor
    · apply passedNames_commaSeparated
      intro name hname
      rw [names_signatureInputs] at hname
      obtain ⟨old, hold, rfl⟩ := List.mem_map.1 hname
      obtain ⟨hne, hcomma⟩ := hnames old (List.mem_append_left _ hold)
      exact ⟨signatureName_ne_nil _ hne, comma_not_mem_signatureName _ hcomma⟩
    · apply passedNames_commaSeparated
      intro name hname
      exact hnames name (List.mem_append_right _ hname)

theorem holeValues_pass_renamed_owner :
    (∀ name ∈ constructorNames (interfaceOf ["owner", "cap"] ["owner"]) ++
        initializerNames (interfaceOf ["owner", "cap"] ["owner"]),
      name ≠ [] ∧ CodePoint.char ',' ∉ name) ∧
    ∃ passed passedInit : Text,
      (holeValues ⟨"V.sol", none, none⟩
        (resolve (interfaceOf ["owner", "cap"] ["owner"]))).lookup "CONSTRUCTOR_ARG_NAMES" =
          some passed ∧
      (holeValues ⟨"V.sol", none, none⟩
        (resolve (interfaceOf ["owner", "cap"] ["owner"]))).lookup "INIT_ARG_NAMES" =
          some passedInit ∧
      passedNames passed = ["c_owner", "cap"] ∧ passedNames passedInit = ["owner"] := by
  have hnames : ∀ name ∈ constructorNames (interfaceOf ["owner", "cap"] ["owner"]) ++
      initializerNames (interfaceOf ["owner", "cap"] ["owner"]),
      name ≠ [] ∧ CodePoint.char ',' ∉ name := by decide
  obtain ⟨_, _, passed, passedInit, -, -, hpassed, hpassedInit, -, -, hread⟩ :=
    holeValues_declare_and_pass ⟨"V.sol", none, none⟩ (interfaceOf ["owner", "cap"] ["owner"])
  exact ⟨hnames, passed, passedInit, hpassed, hpassedInit, hread hnames⟩

end DeployScript.Deployer
