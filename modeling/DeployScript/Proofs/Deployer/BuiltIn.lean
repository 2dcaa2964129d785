import DeployScript.Deployer.Script
import DeployScript.Proofs.Template.Balance
import DeployScript.Proofs.Template.Rendering
import DeployScript.Proofs.Template.Writing

/-!
# Scripts from the built-in template

The lines of the built-in template are plain text and the markers of three blocks, all of which ask
whether there is an initializer. What the blocks leave is written without ambiguity, and its holes
are among those that every request has values for. So the template renders for every request and all
arguments, and no value is read for holes or markers.
-/

namespace DeployScript.Deployer

open DeployScript.Abi (Arguments)
open DeployScript.Template

/-! ### Lines of the template -/

def initializableKey : Key := keyOf "initializable" (by decide)

/-- Every marker of the template is indented by four blanks. -/
def templateMargins : Margins :=
  ⟨blanks [' ', ' ', ' ', ' '] (by decide), indented.between, blanks [] (by decide)⟩

def markerLines : List Line :=
  [ .opener templateMargins false initializableKey true,
    .opener templateMargins true initializableKey true,
    .closer templateMargins true ]

/-- The line with these characters, if it is plain or a marker of the template. -/
def lineOf? (cs : List Char) : Option Line :=
  match markerLines.find? fun line => decide (line.content = cs) with
  | some line => some line
  | none => if h : '\n' ∉ cs ∧ Unmarked cs then some (.text ⟨cs, h⟩ true) else none

def linesOf (lines : List (List Char)) : List Line := lines.filterMap lineOf?

def templateChars : List (List Char) := templateLines.map String.toList

def builtInLines : List Line := linesOf templateChars

theorem lineOf?_eq_some {cs : List Char} {line : Line} (h : lineOf? cs = some line) :
    line.content = cs ∧ line.ended = true := by
  unfold lineOf? at h
  split at h
  · next found hfound =>
    obtain rfl := Option.some.inj h
    have hcontent := List.find?_some hfound
    refine ⟨of_decide_eq_true hcontent, ?_⟩
    have hmem := List.mem_of_find?_eq_some hfound
    simp only [markerLines, List.mem_cons, List.not_mem_nil, or_false] at hmem
    rcases hmem with rfl | rfl | rfl <;> rfl
  · split at h
    · obtain rfl := Option.some.inj h
      exact ⟨rfl, rfl⟩
    · exact absurd h (by simp)

theorem whole_linesOf (lines : List (List Char)) : Whole (linesOf lines) := by
  apply List.pairwise_of_forall_mem_list
  intro line hline _ _
  obtain ⟨cs, -, hread⟩ := List.mem_filterMap.1 hline
  exact (lineOf?_eq_some hread).2

theorem spell_linesOf {lines : List (List Char)} (h : ∀ cs ∈ lines, (lineOf? cs).isSome) :
    spell (linesOf lines) = lines.flatMap (· ++ ['\n']) := by
  induction lines with
  | nil => rfl
  | cons cs lines ih =>
    obtain ⟨line, hline⟩ := Option.isSome_iff_exists.1 (h cs List.mem_cons_self)
    obtain ⟨hcontent, hended⟩ := lineOf?_eq_some hline
    have hrest := ih fun other hother => h other (List.mem_cons_of_mem cs hother)
    rw [linesOf, List.filterMap_cons_some hline, ← linesOf, spell_cons, hrest, hcontent, hended,
      List.flatMap_cons, List.append_assoc]
    rfl

theorem toList_builtInTemplate :
    builtInTemplate.toList = templateChars.flatMap (· ++ ['\n']) := by
  rw [builtInTemplate, String.toList_join, List.flatMap_map, templateChars, List.flatMap_map]
  congr 1
  funext line
  exact String.toList_append

/-! ### What the blocks leave -/

/-- The characters that are left of lines if there is an initializer, or none. -/
def keptChars (initializable : Bool) (lines : List (List Char)) : List Char :=
  spell (keptLines (fun feature => feature == "initializable" && initializable) []
    (linesOf lines))

def keptSegments (initializable : Bool) (lines : List (List Char)) : List Segment :=
  readSegments (keptChars initializable lines).length (keptChars initializable lines)

/-- The holes that every request has values for. -/
def holeNames : List String :=
  [ "CONTRACT", "INSTANCE", "CONSTRUCTOR_ARGS", "CONSTRUCTOR_PARAMS", "CONSTRUCTOR_ARG_NAMES",
    "INIT_ARGS", "INIT_ARG_NAMES", "INIT_DATA", "SOURCE_PATH" ]

/-- How the function starts that deploys a contract on its own. -/
def plainFunctionHead : String := "function deploy__CONTRACT__Implementation("

/-- A hole with one of the names, or a literal without two underscores together. -/
def IsSettled (names : List (List Char)) : Segment → Prop
  | .literal chars => chars.IsChain fun first second => first ≠ '_' ∨ second ≠ '_'
  | .hole name => name ∈ names

instance (names : List (List Char)) (segment : Segment) : Decidable (IsSettled names segment) :=
  match segment with
  | .literal chars => inferInstanceAs
      (Decidable (chars.IsChain fun first second => first ≠ '_' ∨ second ≠ '_'))
  | .hole name => inferInstanceAs (Decidable (name ∈ names))

/-- All lines can be read and are nested, and what is left of them is written with the holes that
are named; `head` is left exactly where there is no initializer. -/
abbrev Fit (names : List (List Char)) (head : List Char) (lines : List (List Char)) : Prop :=
  (∀ cs ∈ lines, (lineOf? cs).isSome) ∧ (unmatched? [] (linesOf lines)).isNone ∧
    ∀ initializable : Bool,
      (∀ segment ∈ keptSegments initializable lines, IsSettled names segment) ∧
        ((keptSegments initializable lines).IsChain fun first second =>
          first.isHole = true ∨ second.isHole = true) ∧
        (head <:+: keptChars initializable lines ↔ initializable = false)

-- The kernel takes quadratic time for the characters of a long string, so the strings give way to
-- lists of characters before the check is evaluated.
theorem fit_templateChars :
    Fit (holeNames.map String.toList) plainFunctionHead.toList templateChars := by
  simp only [holeNames, plainFunctionHead, templateChars, templateLines, adminSlot, List.map_cons,
    List.map_nil, String.toList_append]
  repeat rw [String.toList_ofList]
  decide +kernel

theorem nested_builtInLines : Nested builtInLines :=
  (nested_iff_unmatched? _).2 (Option.isNone_iff_eq_none.1 fit_templateChars.2.1)

theorem toList_builtInTemplate_eq_spell : builtInTemplate.toList = spell builtInLines :=
  toList_builtInTemplate.trans (spell_linesOf fit_templateChars.1).symm

def builtInSegments (initializable : Bool) : List Segment :=
  keptSegments initializable templateChars

theorem wellWritten_builtInSegments (initializable : Bool) :
    WellWritten (builtInSegments initializable) where
  name _ hname := isHoleName_of_mem_readSegments hname
  literal chars hchars :=
    holeless_of_isChain ((fit_templateChars.2.2 initializable).1 (.literal chars) hchars)
  apart := (fit_templateChars.2.2 initializable).2.1

theorem mem_holeNames_of_mem_builtInSegments {initializable : Bool} {name : List Char}
    (h : .hole name ∈ builtInSegments initializable) : String.ofList name ∈ holeNames := by
  have hname : name ∈ holeNames.map String.toList :=
    (fit_templateChars.2.2 initializable).1 (.hole name) h
  obtain ⟨hole, hhole, rfl⟩ := List.mem_map.1 hname
  rwa [String.ofList_toList]

theorem isSome_lookup_holeValues (r : Request) (a : Arguments) {name : String}
    (h : name ∈ holeNames) : ((holeValues r a).lookup name).isSome := by
  have hkeys : (holeValues r a).map Prod.fst = holeNames := rfl
  rw [← hkeys] at h
  obtain ⟨entry, hentry, rfl⟩ := List.mem_map.1 h
  exact List.lookup_isSome_iff.2 ⟨entry, hentry, beq_self_eq_true _⟩

/-! ### The script -/

theorem writing_builtInSegments (a : Arguments) :
    writing (builtInSegments a.initializable) =
      spell (keptLines (features a) [] builtInLines) :=
  writing_readSegments le_rfl

theorem plainFunctionHead_infix_iff (a : Arguments) :
    plainFunctionHead.toList <:+: writing (builtInSegments a.initializable) ↔ a.init = none := by
  have hkept := (fit_templateChars.2.2 a.initializable).2.2
  rw [writing_builtInSegments, ← Option.isNone_iff_eq_none, ← Option.not_isSome,
    Bool.not_eq_true']
  exact hkept

theorem processBlocks_builtInTemplate (a : Arguments) :
    processBlocks (features a) builtInTemplate.toList =
      .ok (writing (builtInSegments a.initializable)) := by
  have hseparated : Separated builtInLines := (whole_linesOf templateChars).separated
  rw [toList_builtInTemplate_eq_spell, writing_builtInSegments]
  exact processBlocks_spell_of_nested_lines (features a) hseparated nested_builtInLines

/-- Values for all holes make the template render to its segments filled with them. -/
theorem render_builtInTemplate (a : Arguments) (values : String → Option Text)
    (h : ∀ name, .hole name ∈ builtInSegments a.initializable →
      (values (String.ofList name)).isSome) :
    Template.render (features a) values builtInTemplate =
      .ok (cutRuns ((builtInSegments a.initializable).flatMap (Segment.fill values))) := by
  have hpieces := pieces_writing (wellWritten_builtInSegments a.initializable)
  rw [render_of_processBlocks (processBlocks_builtInTemplate a), fillHoles_of_isSome hpieces h]
  rfl

/-- Without a template of its own every request gets a script, whatever the names and types are.
Its content is what the blocks of the built-in template leave, with the value of each hole put in as
it is and runs of line ends cut to two. The function that deploys the contract on its own is left
exactly where there is no initializer. -/
theorem script_builtInTemplate (r : Request) (a : Arguments) (outputDir : Text) :
    builtInTemplate.toList = spell builtInLines ∧ Nested builtInLines ∧
      ∃ segments, WellWritten segments ∧
        writing segments = spell (keptLines (features a) [] builtInLines) ∧
        (plainFunctionHead.toList <:+: writing segments ↔ a.init = none) ∧
        (∀ name, .hole name ∈ segments →
          ((holeValues r a).lookup (String.ofList name)).isSome) ∧
        script r a outputDir none = .ok {
          path := scriptPath outputDir r.contractName
          content := cutRuns (segments.flatMap (Segment.fill ((holeValues r a).lookup ·)))
          reason := "Deployer for " ++ r.contractName ++ " (" ++ r.source ++ ")" } := by
  have hvalues : ∀ name, .hole name ∈ builtInSegments a.initializable →
      ((holeValues r a).lookup (String.ofList name)).isSome := by
    intro name hname
    exact isSome_lookup_holeValues r a (mem_holeNames_of_mem_builtInSegments hname)
  refine ⟨toList_builtInTemplate_eq_spell, nested_builtInLines, builtInSegments a.initializable,
    wellWritten_builtInSegments a.initializable, writing_builtInSegments a,
    plainFunctionHead_infix_iff a, hvalues, ?_⟩
  have hrender := render_builtInTemplate a ((holeValues r a).lookup ·) hvalues
  rw [script, Option.getD_none, hrender]

end DeployScript.Deployer
