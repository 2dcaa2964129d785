import DeployScript.Abi.Arguments
import Mathlib.Data.List.Nodup

/-!
# Names of one signature

The parameters of the constructor and of the initializer end up in one signature. A constructor
parameter with the name of an initializer parameter is marked, but the marked name is not compared
with the others: it can be taken itself. The names of the signature are distinct exactly if no
marked name is.
-/

namespace DeployScript.Abi

/-! ### Names -/

def names (params : List Parameter) : List Text := params.map Parameter.name

/-- The names of the signature: those of the constructor parameters, then those of the
initializer. -/
def Arguments.names (a : Arguments) : List Text :=
  Abi.names a.constructor ++ Abi.names (a.init.getD [])

def constructorNames (abi : List Entry) : List Text :=
  names (((constructor? abi).map Entry.inputs).getD [])

def initializerNames (abi : List Entry) : List Text :=
  names (((initializer? abi).map Entry.inputs).getD [])

/-- The name of a constructor parameter beside initializer parameters with the names `init`. -/
def signatureName (init : List Text) (name : Text) : Text :=
  if name ∈ init then renameMark ++ name else name

/-- No name that has to be marked is taken with its mark, on either side. -/
def MarksFree (constructor init : List Text) : Prop :=
  ∀ name ∈ constructor, name ∈ init →
    renameMark ++ name ∉ constructor ∧ renameMark ++ name ∉ init

instance (constructor init : List Text) : Decidable (MarksFree constructor init) :=
  inferInstanceAs (Decidable (∀ name ∈ constructor, name ∈ init →
    renameMark ++ name ∉ constructor ∧ renameMark ++ name ∉ init))

theorem mark_append_ne (name : Text) : renameMark ++ name ≠ name := by
  intro h
  have hlength := congrArg List.length h
  simp only [renameMark, Text.ofString, Text.ofChars, List.length_append, List.length_map]
    at hlength
  have htwo : "c_".toList.length = 2 := rfl
  omega

theorem clashes_iff (others : List Parameter) (p : Parameter) :
    p.clashes others = true ↔ p.name ∈ names others := by
  simp [Parameter.clashes, names]

theorem name_of_disambiguated (init : List Parameter) (p : Parameter) :
    (if p.clashes init then p.renamed else p).name = signatureName (names init) p.name := by
  rw [signatureName]
  by_cases h : p.name ∈ names init
  · rw [if_pos ((clashes_iff init p).2 h), if_pos h]
    rfl
  · rw [if_neg fun hclash => h ((clashes_iff init p).1 hclash), if_neg h]

theorem names_disambiguate (constructor init : List Parameter) :
    names (disambiguate constructor init) =
      (names constructor).map (signatureName (names init)) := by
  have hnames : names constructor = constructor.map Parameter.name := rfl
  rw [hnames, names, disambiguate, List.map_map, List.map_map]
  exact List.map_congr_left fun p _ => name_of_disambiguated init p

theorem map_signatureName_nil (constructor : List Text) :
    constructor.map (signatureName []) = constructor := by
  induction constructor with
  | nil => rfl
  | cons name rest ih => rw [List.map_cons, ih, signatureName, if_neg (List.not_mem_nil)]

theorem names_resolve (abi : List Entry) :
    (resolve abi).names =
      (constructorNames abi).map (signatureName (initializerNames abi)) ++
        initializerNames abi := by
  simp only [Arguments.names, resolve, constructorNames, initializerNames]
  cases constructor? abi with
  | none => cases initializer? abi <;> rfl
  | some e =>
    cases initializer? abi with
    | none =>
      simp only [Option.map_none, Option.map_some, Option.getD_none, Option.getD_some]
      exact congrArg (· ++ names []) (map_signatureName_nil (names e.inputs)).symm
    | some f => exact congrArg (· ++ names f.inputs) (names_disambiguate e.inputs f.inputs)

/-! ### Clashes -/

/-- Two constructor parameters get one name only if one of them has the other's marked name. -/
theorem signatureName_inj {constructor init : List Text} (hfree : MarksFree constructor init)
    {first second : Text} (hfirst : first ∈ constructor) (hsecond : second ∈ constructor)
    (heq : signatureName init first = signatureName init second) : first = second := by
  simp only [signatureName] at heq
  by_cases h₁ : first ∈ init
  · rw [if_pos h₁] at heq
    by_cases h₂ : second ∈ init
    · rw [if_pos h₂] at heq
      exact List.append_cancel_left heq
    · rw [if_neg h₂] at heq
      exact absurd (heq ▸ hsecond) (hfree first hfirst h₁).1
  · rw [if_neg h₁] at heq
    by_cases h₂ : second ∈ init
    · rw [if_pos h₂] at heq
      exact absurd (heq ▸ hfirst) (hfree second hsecond h₂).1
    · rwa [if_neg h₂] at heq

/-- The names after the renaming are distinct and none is an initializer's, exactly if no marked
name is taken. -/
theorem signatureNames_distinct_iff {constructor init : List Text} (hnodup : constructor.Nodup) :
    ((constructor.map (signatureName init)).Nodup ∧
        ∀ name ∈ constructor.map (signatureName init), name ∉ init) ↔
      MarksFree constructor init := by
  constructor
  · rintro ⟨hdistinct, hapart⟩ name hname hinit
    have hmarked : signatureName init name = renameMark ++ name := if_pos hinit
    have hnotinit : renameMark ++ name ∉ init := by
      rw [← hmarked]
      exact hapart _ (List.mem_map_of_mem hname)
    refine ⟨?_, hnotinit⟩
    intro htaken
    -- the parameter that has the marked name keeps it, so that two parameters end up with it
    have hkept : signatureName init (renameMark ++ name) = renameMark ++ name := if_neg hnotinit
    exact mark_append_ne name
      (List.inj_on_of_nodup_map hdistinct htaken hname (hkept.trans hmarked.symm))
  · intro hfree
    constructor
    · exact hnodup.map_on fun _ hfirst _ hsecond => signatureName_inj hfree hfirst hsecond
    · intro name hname
      obtain ⟨old, hold, rfl⟩ := List.mem_map.1 hname
      simp only [signatureName]
      by_cases hinit : old ∈ init
      · rw [if_pos hinit]
        exact (hfree old hold hinit).2
      · rw [if_neg hinit]
        exact hinit

/-- Parameters with distinct names are renamed to distinct names that no initializer parameter has,
exactly if no name on both sides is on either side with its mark. The names of the initializer
parameters need not be distinct. -/
theorem names_disambiguate_distinct_iff (constructor init : List Parameter)
    (hnodup : (names constructor).Nodup) :
    ((names (disambiguate constructor init)).Nodup ∧
        (names (disambiguate constructor init)).Disjoint (names init)) ↔
      MarksFree (names constructor) (names init) := by
  rw [names_disambiguate, ← signatureNames_distinct_iff hnodup]
  simp only [List.Disjoint]

def parametersOf (names : List String) : List Parameter :=
  names.map fun name => ⟨name, "uint256"⟩

/-- A marked name can be marked again. That keeps the names apart as long as the mark leads to no
name of the initializer: of `x` and `c_x`, both on both sides, the first gets the name `c_x` that
the initializer has. -/
theorem names_disambiguate_marked_twice :
    (names (parametersOf ["x", "c_c_x", "c_y"])).Nodup ∧
      (names (disambiguate (parametersOf ["x", "c_c_x", "c_y"])
        (parametersOf ["c_c_x", "x", "x"]))).Nodup ∧
      (names (disambiguate (parametersOf ["x", "c_c_x", "c_y"])
        (parametersOf ["c_c_x", "x", "x"]))).Disjoint (names (parametersOf ["c_c_x", "x", "x"])) ∧
      (names (parametersOf ["x", "c_x"])).Nodup ∧
      ¬ ((names (disambiguate (parametersOf ["x", "c_x"]) (parametersOf ["x", "c_x"]))).Nodup ∧
        (names (disambiguate (parametersOf ["x", "c_x"]) (parametersOf ["x", "c_x"]))).Disjoint
          (names (parametersOf ["x", "c_x"]))) := by
  have hfree : (names (parametersOf ["x", "c_c_x", "c_y"])).Nodup := by decide
  have hchain : (names (parametersOf ["x", "c_x"])).Nodup := by decide
  obtain ⟨hdistinct, hapart⟩ :=
    (names_disambiguate_distinct_iff _ (parametersOf ["c_c_x", "x", "x"]) hfree).2 (by decide)
  refine ⟨hfree, hdistinct, hapart, hchain, ?_⟩
  intro h
  have hmarks := (names_disambiguate_distinct_iff _ (parametersOf ["x", "c_x"]) hchain).1 h
  exact absurd hmarks (by decide)

/-- The names of a signature are distinct exactly if no name that both sides declare is declared
with its mark by either side. -/
theorem nodup_names_resolve_iff (abi : List Entry) (hconstructor : (constructorNames abi).Nodup)
    (hinit : (initializerNames abi).Nodup) :
    (resolve abi).names.Nodup ↔ MarksFree (constructorNames abi) (initializerNames abi) := by
  rw [names_resolve, List.nodup_append', ← signatureNames_distinct_iff hconstructor]
  simp only [hinit, true_and, List.Disjoint]

/-- An interface whose constructor and initializer declare parameters with these names. -/
def interfaceOf (constructor init : List String) : List Entry :=
  [ ⟨"constructor", none, constructor.map fun name => ⟨name, "uint256"⟩⟩,
    ⟨"function", some initializerName, init.map fun name => ⟨name, "uint256"⟩⟩ ]

theorem nodup_names_resolve_owner :
    (constructorNames (interfaceOf ["owner", "c_cap"] ["owner", "cap"])).Nodup ∧
      (initializerNames (interfaceOf ["owner", "c_cap"] ["owner", "cap"])).Nodup ∧
        (resolve (interfaceOf ["owner", "c_cap"] ["owner", "cap"])).names.Nodup :=
  ⟨by decide, by decide,
    (nodup_names_resolve_iff (interfaceOf ["owner", "c_cap"] ["owner", "cap"]) (by decide)
      (by decide)).2 (by decide)⟩

/-- Distinct names on either side are not enough: a marked name can be taken by another constructor
parameter. -/
theorem not_forall_nodup_names_resolve :
    ¬ ∀ abi : List Entry,
      (constructorNames abi).Nodup → [] ∉ constructorNames abi →
        (initializerNames abi).Nodup → [] ∉ initializerNames abi → (resolve abi).names.Nodup := by
  intro h
  have hclash : ¬ (resolve (interfaceOf ["x", "c_x"] ["x"])).names.Nodup := by decide
  exact hclash (h _ (by decide) (by decide) (by decide) (by decide))

end DeployScript.Abi
