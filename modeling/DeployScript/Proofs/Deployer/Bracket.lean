import DeployScript.Proofs.Deployer.BuiltIn
import DeployScript.Proofs.Deployer.InstanceName
import DeployScript.Proofs.Deployer.Signature
import DeployScript.Proofs.Text.Bracket

/-!
# Brackets of a script

The literals of the built-in template open brackets around its holes and close them behind. Every
value that is put in is properly nested, so that it leaves the brackets that wait as they are, and
what the literals open is closed whether there is an initializer or not. Shortening runs of line
ends takes no bracket away. So scripts are properly nested if names have no brackets and the types
in declarations are properly nested.
-/

namespace DeployScript.Deployer

open DeployScript.Abi (Arguments Parameter)
open DeployScript.Solidity (Declared declare formatType)
open DeployScript.Template
open DeployScript.Text (isBracket readBrackets? Unbracketed WellBracketed)

def parametersOf (a : Arguments) : List Parameter := a.constructor ++ a.init.getD []

/-- No name has a bracket, and the brackets of every type are properly nested in its declaration. -/
structure Tidy (r : Request) (a : Arguments) : Prop where
  contract : Unbracketed r.contractName
  source : Unbracketed r.source
  name : ∀ p ∈ parametersOf a, Unbracketed p.name
  type : ∀ p ∈ parametersOf a, WellBracketed (formatType p.type)

/-! ### Values -/

theorem isBracket_of_isAlphanum {c : Char} (h : c.isAlphanum = true) :
    isBracket (.char c) = false := by
  rcases Text.bracket_cases (.char c) with ⟨b, hb⟩ | ⟨b, hb⟩ | hc
  · rw [CodePoint.char.inj hb] at h
    cases b <;> exact absurd h (by decide)
  · rw [CodePoint.char.inj hb] at h
    cases b <;> exact absurd h (by decide)
  · exact hc

theorem unbracketed_instanceName (contract : Text) : Unbracketed (instanceName contract) := by
  intro c hc
  have hplain : c.is isPlain = true := isPlain_of_mem_instanceName hc
  cases c with
  | char c => exact isBracket_of_isAlphanum hplain
  | half => exact Bool.noConfusion hplain

theorem wellBracketed_commaSeparated {texts : List Text} (h : ∀ t ∈ texts, WellBracketed t) :
    WellBracketed (commaSeparated texts) :=
  WellBracketed.join (by decide) h

section Parameters

variable {params : List Parameter}

theorem wellBracketed_declarations (hname : ∀ p ∈ params, Unbracketed p.name)
    (htype : ∀ p ∈ params, WellBracketed (formatType p.type)) :
    ∀ t ∈ (params.map declare).map Declared.declaration, WellBracketed t := by
  rw [map_declaration_declare]
  intro t ht
  obtain ⟨p, hp, rfl⟩ := List.mem_map.1 ht
  have hblank : WellBracketed (" " : String) := by decide
  exact ((htype p hp).append hblank).append (hname p hp).wellBracketed

theorem wellBracketed_furtherDeclarations (hname : ∀ p ∈ params, Unbracketed p.name)
    (htype : ∀ p ∈ params, WellBracketed (formatType p.type)) :
    WellBracketed (furtherDeclarations (params.map declare)) := by
  have hdeclarations := wellBracketed_declarations hname htype
  have hcomma : WellBracketed (", " : String) := by decide
  rw [furtherDeclarations]
  split
  · exact .nil
  · exact hcomma.append (wellBracketed_commaSeparated hdeclarations)

theorem wellBracketed_argumentNames (hname : ∀ p ∈ params, Unbracketed p.name) :
    WellBracketed (argumentNames (params.map declare)) := by
  rw [argumentNames_declare]
  apply wellBracketed_commaSeparated
  intro t ht
  obtain ⟨p, hp, rfl⟩ := List.mem_map.1 ht
  exact (hname p hp).wellBracketed

end Parameters

theorem wellBracketed_initData {contract : Text} (hcontract : Unbracketed contract)
    {init : Option (List Parameter)} (hname : ∀ p ∈ init.getD [], Unbracketed p.name) :
    WellBracketed (initData contract (init.map (List.map declare))) := by
  cases init with
  | none =>
    have hfront : readBrackets? [] ("\"\";\n        revert(\"" : String) = some [.round] := by
      decide
    exact .between hfront hcontract.wellBracketed (by decide)
  | some params =>
    have hfront : readBrackets? [] ("abi.encodeCall(" ++ contract ++ ".initialize, (") =
        some [.round, .round] := by
      have hcall : readBrackets? [] ("abi.encodeCall(" : String) = some [.round] := by decide
      rw [Text.readBrackets?_append, Text.readBrackets?_append, hcall, Option.bind_some,
        Text.readBrackets?_of_wellBracketed hcontract.wellBracketed]
      decide
    exact .between hfront (wellBracketed_argumentNames hname) (by decide)

theorem wellBracketed_of_mem_holeValues {r : Request} {a : Arguments} (h : Tidy r a) :
    ∀ entry ∈ holeValues r a, WellBracketed entry.2 := by
  obtain ⟨hname, hinitName⟩ := List.forall_mem_append.1 h.name
  obtain ⟨htype, hinitType⟩ := List.forall_mem_append.1 h.type
  simp only [holeValues, init_map_declare, List.forall_mem_cons]
  exact ⟨h.contract.wellBracketed, (unbracketed_instanceName _).wellBracketed,
    wellBracketed_furtherDeclarations hname htype,
    wellBracketed_commaSeparated (wellBracketed_declarations hname htype),
    wellBracketed_argumentNames hname,
    wellBracketed_furtherDeclarations hinitName hinitType,
    wellBracketed_argumentNames hinitName,
    wellBracketed_initData h.contract hinitName,
    h.source.wellBracketed, by simp⟩

theorem wellBracketed_lookup_holeValues {r : Request} {a : Arguments} (h : Tidy r a)
    (name : String) : WellBracketed (((holeValues r a).lookup name).getD []) := by
  cases hvalue : (holeValues r a).lookup name with
  | none => exact .nil
  | some value =>
    obtain ⟨front, back, heq, -⟩ := List.lookup_eq_some_iff.1 hvalue
    have hmem : (name, value) ∈ holeValues r a := by simp [heq]
    exact wellBracketed_of_mem_holeValues h _ hmem

/-! ### Texts with values -/

theorem readBrackets?_shortenRuns (waiting : List Text.Bracket) (before : Nat) (t : Text) :
    readBrackets? waiting (shortenRuns before t) = readBrackets? waiting t := by
  have hlineEnd (waiting : List Text.Bracket) (t : Text) :
      readBrackets? waiting (.char '\n' :: t) = readBrackets? waiting t := rfl
  fun_induction shortenRuns before t generalizing waiting with
  | case1 => rfl
  | case2 before t hbefore ih => rw [hlineEnd, hlineEnd, ih]
  | case3 before t hbefore ih => rw [hlineEnd, ih]
  | case4 before c t hc ih => simp only [Text.readBrackets?_cons, ih]

theorem readBrackets?_flatMap_fill {values : String → Option Text}
    (h : ∀ name, WellBracketed ((values name).getD [])) (waiting : List Text.Bracket)
    (segments : List Segment) :
    readBrackets? waiting (segments.flatMap (Segment.fill values)) =
      readBrackets? waiting (segments.flatMap (Segment.fill fun _ => none)) := by
  induction segments generalizing waiting with
  | nil => rfl
  | cons segment rest ih =>
    rw [List.flatMap_cons, List.flatMap_cons, Text.readBrackets?_append, Text.readBrackets?_append]
    cases segment with
    | literal chars => simp only [Segment.fill, ih]
    | hole name =>
      rw [Segment.fill, Text.readBrackets?_of_wellBracketed (h _)]
      exact ih waiting

theorem wellBracketed_builtInSegments (initializable : Bool) :
    WellBracketed ((builtInSegments initializable).flatMap (Segment.fill fun _ => none)) := by
  have hboth : ∀ initializable : Bool,
      readBrackets? [] ((builtInSegments initializable).flatMap (Segment.fill fun _ => none)) =
        some [] := by
    simp only [builtInSegments, templateChars, templateLines, adminSlot, List.map_cons,
      List.map_nil, String.toList_append]
    repeat rw [String.toList_ofList]
    decide +kernel
  exact (Text.wellBracketed_iff_readBrackets? _).2 (hboth initializable)

theorem script_builtIn (r : Request) (a : Arguments) (outputDir : Text) :
    script r a outputDir none = .ok {
      path := scriptPath outputDir r.contractName
      content := cutRuns ((builtInSegments a.initializable).flatMap
        (Segment.fill ((holeValues r a).lookup ·)))
      reason := "Deployer for " ++ r.contractName ++ " (" ++ r.source ++ ")" } := by
  have hvalues : ∀ name, .hole name ∈ builtInSegments a.initializable →
      ((holeValues r a).lookup (String.ofList name)).isSome := by
    intro name hname
    exact isSome_lookup_holeValues r a (mem_holeNames_of_mem_builtInSegments hname)
  rw [script, Option.getD_none, render_builtInTemplate a ((holeValues r a).lookup ·) hvalues]

/-- Every request gets a script from the built-in template, and its brackets are properly nested. -/
theorem wellBracketed_script {r : Request} {a : Arguments} (h : Tidy r a) (outputDir : Text) :
    ∃ s, script r a outputDir none = .ok s ∧ WellBracketed s.content := by
  refine ⟨_, script_builtIn r a outputDir, ?_⟩
  rw [Text.wellBracketed_iff_readBrackets?, ← shortenRuns_eq_cutRuns, readBrackets?_shortenRuns,
    readBrackets?_flatMap_fill (wellBracketed_lookup_holeValues h)]
  exact Text.readBrackets?_of_wellBracketed (wellBracketed_builtInSegments _) []

def vaultRequest : Request := ⟨"src/Vault.sol", none, some "Vault"⟩

/-- Arrays of an enum on one side, nested arrays of integers on the other. -/
def vaultArguments : Arguments :=
  ⟨[⟨"modes", "enum Vault.Mode[]"⟩], some [⟨"limits", "uint256[3][]"⟩, ⟨"owner", "address"⟩]⟩

theorem tidy_vault : Tidy vaultRequest vaultArguments where
  contract := by decide
  source := by decide
  name := by decide
  type := by decide

theorem wellBracketed_script_vault :
    Tidy vaultRequest vaultArguments ∧
      ∃ s, script vaultRequest vaultArguments "script" none = .ok s ∧ WellBracketed s.content :=
  ⟨tidy_vault, wellBracketed_script tidy_vault "script"⟩

end DeployScript.Deployer
