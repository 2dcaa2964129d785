import DeployScript.Abi.Basic
import DeployScript.Proofs.Json.Members
import DeployScript.Proofs.Validation.Checked

/-!
# Spellings of an interface

The same interface can be written in many ways. The members of an object stand in any order and
among others that mean nothing here; what an entry has anyway can be left out; and a type stands
under one of three names, of which the first that is there counts. `SpellsArtifact` tells, member
by member and without reading anything, which JSON values write down given entries.

The main statement is that reading undoes every such spelling, and that nothing else is read: an
artifact is read as exactly the entries that it spells.
-/

namespace DeployScript.Abi

open DeployScript.Json
  (memberNames mem_memberNames NamesDistinct namesDistinct_array namesDistinct_object)
open DeployScript.Validation (Checked)

variable {α : Type}

/-! ### Spellings -/

def SpellsText (json : Json) (t : Text) : Prop := json = .string t

/-- A text that may be absent is written as a string or as null. -/
def SpellsOptionalText (json : Json) (t : Option Text) : Prop := json = t.elim .null .string

/-- A list is written as the array of its items. -/
def SpellsList (spells : Json → α → Prop) (json : Json) (xs : List α) : Prop :=
  ∃ items, json = .array items ∧ List.Forall₂ spells items xs

/-- A member that can be left out: `x` is written under the name, or it is the `fallback` and no
member has the name. -/
def SpellsMember (members : List (Text × Json)) (name : String) (fallback : α)
    (spells : Json → α → Prop) (x : α) : Prop :=
  (∃ value, (↑name, value) ∈ members ∧ spells value x) ∨
    (↑name ∉ memberNames members ∧ x = fallback)

/-- A type is written under the first of three names that is there. Whatever is under the later
ones means nothing then. -/
inductive SpellsType (members : List (Text × Json)) (type : Text) : Prop
  | internalType (h : (↑"internalType", .string type) ∈ members)
  | internal_type (hno : ↑"internalType" ∉ memberNames members)
      (h : (↑"internal_type", .string type) ∈ members)
  | type (hno : ↑"internalType" ∉ memberNames members)
      (hno' : ↑"internal_type" ∉ memberNames members) (h : (↑"type", .string type) ∈ members)

def SpellsParameter (json : Json) (p : Parameter) : Prop :=
  ∃ members, json = .object members ∧ SpellsMember members "name" [] SpellsText p.name ∧
    SpellsType members p.type

/-- The object of an entry. The kind can be left out of a function, and a name or parameters where
there are none. -/
def SpellsEntry (json : Json) (e : Entry) : Prop :=
  ∃ members, json = .object members ∧ SpellsMember members "type" ↑"function" SpellsText e.kind ∧
    SpellsMember members "name" none SpellsOptionalText e.name ∧
    SpellsMember members "inputs" [] (SpellsList SpellsParameter) e.inputs

def SpellsArtifact (json : Json) (entries : List Entry) : Prop :=
  ∃ members, json = .object members ∧
    ∃ value, (↑"abi", value) ∈ members ∧ SpellsList SpellsEntry value entries

/-! ### Reading what is spelled -/

/-- The check gives exactly what is spelled. -/
def Reads (check : Document → Checked α) (spells : Json → α → Prop) : Prop :=
  ∀ json, json.NamesDistinct → ∀ x, check (.ofJson json) = .ok x ↔ spells json x

theorem reads_text : Reads Validation.text SpellsText := by
  intro json _ t
  cases json <;> simp [SpellsText, Validation.text, Document.ofJson, Validation.fail]

theorem reads_nullable : Reads (Validation.nullable Validation.text) SpellsOptionalText := by
  intro json _ t
  cases json <;> cases t <;> simp [SpellsOptionalText, Validation.nullable, Validation.text,
    Document.ofJson, Validation.fail, Except.map]

theorem reads_list {check : Document → Checked α} {spells : Json → α → Prop}
    (hreads : Reads check spells) (problem : Validation.Problem) :
    Reads (Validation.list problem check) (SpellsList spells) := by
  intro json hdistinct xs
  cases json with
  | array items =>
    have hitems : List.Forall₂ (fun json x => check (.ofJson json) = .ok x) items xs ↔
        List.Forall₂ spells items xs := by
      induction items generalizing xs with
      | nil => simp
      | cons item rest ih =>
        obtain ⟨hitem, hrest⟩ := List.forall_mem_cons.1 (namesDistinct_array.1 hdistinct)
        simp only [List.forall₂_cons_left_iff, hreads item hitem,
          fun xs => ih xs (namesDistinct_array.2 hrest)]
    simp only [Document.ofJson, Validation.list, Validation.items_eq_ok_iff,
      Document.ofJsonItems_eq_map, List.forall₂_map_left_iff, hitems, SpellsList,
      Json.array.injEq, exists_eq_left']
  | _ => simp [SpellsList, Validation.list, Document.ofJson, Validation.fail]

section Members

variable {members : List (Text × Json)}

theorem isSome_lookup?_iff {name : Text} :
    (Document.lookup? name (Document.ofJsonMembers members)).isSome = true ↔
      name ∈ memberNames members := by
  rw [← Option.ne_none_iff_isSome, ne_eq, Document.lookup?_ofJsonMembers_eq_none_iff, not_not]

variable (hdistinct : (Json.object members).NamesDistinct)
include hdistinct

theorem lookup?_eq_ok_iff_spells {check : Document → Checked α} {spells : Json → α → Prop}
    (hreads : Reads check spells) (name : Text) (x : α) :
    (∃ d, Document.lookup? name (Document.ofJsonMembers members) = some d ∧ check d = .ok x) ↔
      ∃ value, (name, value) ∈ members ∧ spells value x := by
  obtain ⟨hnames, hvalues⟩ := namesDistinct_object.1 hdistinct
  simp only [Document.lookup?_ofJsonMembers_eq_some_iff hnames]
  constructor
  · rintro ⟨_, ⟨value, hmem, rfl⟩, hcheck⟩
    exact ⟨value, hmem, (hreads value (hvalues _ hmem) x).1 hcheck⟩
  · rintro ⟨value, hmem, hspells⟩
    exact ⟨_, ⟨value, hmem, rfl⟩, (hreads value (hvalues _ hmem) x).2 hspells⟩

theorem required_eq_ok_iff_spells {check : Document → Checked α} {spells : Json → α → Prop}
    (hreads : Reads check spells) (name : String) (x : α) :
    Validation.required (Document.ofJsonMembers members) name check = .ok x ↔
      ∃ value, (↑name, value) ∈ members ∧ spells value x := by
  rw [Validation.required_eq_ok_iff, lookup?_eq_ok_iff_spells hdistinct hreads]

theorem optional_eq_ok_iff_spells {check : Document → Checked α} {spells : Json → α → Prop}
    (hreads : Reads check spells) (name : String) (fallback x : α) :
    Validation.optional (Document.ofJsonMembers members) name fallback check = .ok x ↔
      SpellsMember members name fallback spells x := by
  rw [Validation.optional_eq_ok_iff, lookup?_eq_ok_iff_spells hdistinct hreads,
    Document.lookup?_ofJsonMembers_eq_none_iff, SpellsMember]

/-- The type is read as the text under its key. -/
theorem typeOf_eq_ok_iff_of_typeKey {key place : String} (type : Text)
    (hkey : typeKey (Document.ofJsonMembers members) = (key, place)) :
    typeOf (Document.ofJsonMembers members) = .ok type ↔ (↑key, .string type) ∈ members := by
  simp only [typeOf, hkey]
  rw [Checked.under_eq_ok_iff, ← @Checked.under_eq_ok_iff _ (.field key)]
  change Validation.required _ key Validation.text = .ok type ↔ _
  rw [required_eq_ok_iff_spells hdistinct reads_text]
  simp [SpellsText]

/-- The type is read as the one under the name that counts. -/
theorem typeOf_eq_ok_iff (type : Text) :
    typeOf (Document.ofJsonMembers members) = .ok type ↔ SpellsType members type := by
  by_cases hfirst : ↑"internalType" ∈ memberNames members
  · have hkey : typeKey (Document.ofJsonMembers members) = ("internalType", "internalType") := by
      rw [typeKey, if_pos (isSome_lookup?_iff.2 hfirst)]
    rw [typeOf_eq_ok_iff_of_typeKey hdistinct type hkey]
    refine ⟨.internalType, ?_⟩
    rintro (h | ⟨hno, -⟩ | ⟨hno, -, -⟩)
    · exact h
    · exact absurd hfirst hno
    · exact absurd hfirst hno
  by_cases hsecond : ↑"internal_type" ∈ memberNames members
  · have hkey : typeKey (Document.ofJsonMembers members) = ("internal_type", "internal_type") := by
      rw [typeKey, if_neg fun h => hfirst (isSome_lookup?_iff.1 h),
        if_pos (isSome_lookup?_iff.2 hsecond)]
    rw [typeOf_eq_ok_iff_of_typeKey hdistinct type hkey]
    refine ⟨.internal_type hfirst, ?_⟩
    rintro (h | ⟨-, h⟩ | ⟨-, hno, -⟩)
    · exact absurd (mem_memberNames h) hfirst
    · exact h
    · exact absurd hsecond hno
  have hkey : typeKey (Document.ofJsonMembers members) = ("type", "internalType") := by
    rw [typeKey, if_neg fun h => hfirst (isSome_lookup?_iff.1 h),
      if_neg fun h => hsecond (isSome_lookup?_iff.1 h)]
  rw [typeOf_eq_ok_iff_of_typeKey hdistinct type hkey]
  refine ⟨.type hfirst hsecond, ?_⟩
  rintro (h | ⟨-, h⟩ | ⟨-, -, h⟩)
  · exact absurd (mem_memberNames h) hfirst
  · exact absurd (mem_memberNames h) hsecond
  · exact h

end Members

/-- A record is read from an object alone, by its members. -/
theorem reads_of_members {check : Document → Checked α} {spells : List (Text × Json) → α → Prop}
    (read : List (Document × Document) → Checked α)
    (hcheck : ∀ d, check d = Validation.record d >>= read)
    (hread : ∀ members, (Json.object members).NamesDistinct → ∀ x,
      read (Document.ofJsonMembers members) = .ok x ↔ spells members x) :
    Reads check fun json x => ∃ members, json = .object members ∧ spells members x := by
  intro json hdistinct x
  rw [hcheck, Checked.bind_eq_ok_iff]
  simp only [Validation.record_eq_ok_iff]
  cases json with
  | object members => simp [Document.ofJson, hread members hdistinct]
  | _ => simp [Document.ofJson]

theorem reads_parameter : Reads Parameter.ofDocument SpellsParameter := by
  refine reads_of_members _ (fun _ => rfl) fun members hdistinct p => ?_
  obtain ⟨name, type⟩ := p
  simp [Checked.map_eq_ok_iff, Checked.both_eq_ok_iff,
    optional_eq_ok_iff_spells hdistinct reads_text, typeOf_eq_ok_iff hdistinct]

theorem reads_entry : Reads Entry.ofDocument SpellsEntry := by
  refine reads_of_members _ (fun _ => rfl) fun members hdistinct e => ?_
  obtain ⟨kind, name, inputs⟩ := e
  simp [Checked.map_eq_ok_iff, Checked.both_eq_ok_iff,
    optional_eq_ok_iff_spells hdistinct reads_text,
    optional_eq_ok_iff_spells hdistinct reads_nullable,
    optional_eq_ok_iff_spells hdistinct (reads_list reads_parameter .notTuple)]

/-- An artifact is read as exactly the entries that it spells, in their order. -/
theorem listOfArtifact_eq_ok_iff_spells {json : Json} (hdistinct : json.NamesDistinct)
    (entries : List Entry) :
    Entry.listOfArtifact (.ofJson json) = .ok entries ↔ SpellsArtifact json entries := by
  have hreads : Reads Entry.listOfArtifact SpellsArtifact :=
    reads_of_members _ (fun _ => rfl) fun _ hmembers =>
      required_eq_ok_iff_spells hmembers (reads_list reads_entry .notTuple) "abi"
  exact hreads json hdistinct entries

/-- An artifact that writes types under all three names, and leaves out what can be left out. -/
def mixedArtifact : Json :=
  let config : Json := .object
    [("type", .string "tuple"), ("internal_type", .int 7), ("name", .string "config"),
      ("internalType", .string "struct Vault.Config")]
  let asset : Json := .object
    [("type", .string "address"), ("internal_type", .string "contract IERC20")]
  let cap : Json := .object [("components", .null), ("type", .string "uint256"),
    ("name", .string "cap")]
  .object
    [("metadata", .object [("abi", .null)]),
      ("abi", .array
        [.object [("inputs", .array [config, asset]), ("type", .string "constructor")],
          .object [("name", .string "initialize"), ("inputs", .array [cap])],
          .object [("type", .string "receive"), ("name", .null)],
          .object []])]

def mixedEntries : List Entry :=
  [⟨"constructor", none, [⟨"config", "struct Vault.Config"⟩, ⟨[], "contract IERC20"⟩]⟩,
    ⟨"function", some "initialize", [⟨"cap", "uint256"⟩]⟩,
    ⟨"receive", none, []⟩,
    ⟨"function", none, []⟩]

theorem mixedArtifact_spells_mixedEntries :
    mixedArtifact.NamesDistinct ∧ SpellsArtifact mixedArtifact mixedEntries ∧
      Entry.listOfArtifact (.ofJson mixedArtifact) = .ok mixedEntries := by
  have hdistinct : mixedArtifact.NamesDistinct := by
    simp +decide [mixedArtifact, NamesDistinct, Json.ItemsNamesDistinct, Json.MembersNamesDistinct]
  have hread : Entry.listOfArtifact (.ofJson mixedArtifact) = .ok mixedEntries := by
    decide +kernel
  exact ⟨hdistinct, (listOfArtifact_eq_ok_iff_spells hdistinct mixedEntries).1 hread, hread⟩

end DeployScript.Abi
