import DeployScript.Document
import DeployScript.Proofs.Pairs

/-!
# Members of JSON objects

An object that bears each of its names once is the set of its members: what is found under a name is
the value of the member with that name, wherever the member stands.
-/

namespace DeployScript

namespace Json

def memberNames (members : List (Text × Json)) : List Text := members.map Prod.fst

mutual

/-- Each object in the value, however deep it lies, bears each of its names once. -/
def NamesDistinct : Json → Prop
  | .array items => ItemsNamesDistinct items
  | .object members => (memberNames members).Nodup ∧ MembersNamesDistinct members
  | _ => True

/-- Each object in one of the items bears each of its names once. -/
def ItemsNamesDistinct : List Json → Prop
  | [] => True
  | item :: rest => item.NamesDistinct ∧ ItemsNamesDistinct rest

/-- Each object in the value of one of the members bears each of its names once. -/
def MembersNamesDistinct : List (Text × Json) → Prop
  | [] => True
  | (_, value) :: rest => value.NamesDistinct ∧ MembersNamesDistinct rest

end

theorem itemsNamesDistinct_iff {items : List Json} :
    ItemsNamesDistinct items ↔ ∀ item ∈ items, item.NamesDistinct := by
  induction items with
  | nil => simp [ItemsNamesDistinct]
  | cons item rest ih => simp [ItemsNamesDistinct, ih]

theorem membersNamesDistinct_iff {members : List (Text × Json)} :
    MembersNamesDistinct members ↔ ∀ member ∈ members, member.2.NamesDistinct := by
  induction members with
  | nil => simp [MembersNamesDistinct]
  | cons member rest ih => simp [MembersNamesDistinct, ih]

@[simp] theorem namesDistinct_array {items : List Json} :
    (array items).NamesDistinct ↔ ∀ item ∈ items, item.NamesDistinct := by
  rw [NamesDistinct, itemsNamesDistinct_iff]

@[simp] theorem namesDistinct_object {members : List (Text × Json)} :
    (object members).NamesDistinct ↔
      (memberNames members).Nodup ∧ ∀ member ∈ members, member.2.NamesDistinct := by
  rw [NamesDistinct, membersNamesDistinct_iff]

theorem mem_memberNames {members : List (Text × Json)} {name : Text} {value : Json}
    (h : (name, value) ∈ members) : name ∈ memberNames members :=
  List.mem_map.2 ⟨_, h, rfl⟩

end Json

namespace Document

theorem ofJsonItems_eq_map (items : List Json) : ofJsonItems items = items.map ofJson := by
  induction items with
  | nil => rfl
  | cons item rest ih => rw [ofJsonItems, ih, List.map_cons]

theorem ofJsonMembers_eq_map (members : List (Text × Json)) :
    ofJsonMembers members = members.map fun m => (.text m.1, ofJson m.2) := by
  induction members with
  | nil => rfl
  | cons m rest ih => rw [ofJsonMembers, ih, List.map_cons]

theorem lookup?_ofJsonMembers (members : List (Text × Json)) (name : Text) :
    lookup? name (ofJsonMembers members) =
      (members.reverse.find? fun m => m.1 == name).map fun m => ofJson m.2 := by
  rw [lookup?, ofJsonMembers_eq_map, ← List.map_reverse, List.find?_map, Option.map_map]
  rfl

theorem lookup?_ofJsonMembers_eq_some_iff {members : List (Text × Json)}
    (hdistinct : (Json.memberNames members).Nodup) {name : Text} {d : Document} :
    lookup? name (ofJsonMembers members) = some d ↔
      ∃ value, (name, value) ∈ members ∧ ofJson value = d := by
  simp only [lookup?_ofJsonMembers, find?_key_perm hdistinct (List.reverse_perm _).symm,
    Option.map_eq_some_iff, find?_key_eq_some_iff hdistinct, Prod.exists]
  constructor
  · rintro ⟨_, value, ⟨hmem, rfl⟩, hd⟩
    exact ⟨value, hmem, hd⟩
  · rintro ⟨value, hmem, hd⟩
    exact ⟨name, value, ⟨hmem, rfl⟩, hd⟩

theorem lookup?_ofJsonMembers_eq_none_iff {members : List (Text × Json)} {name : Text} :
    lookup? name (ofJsonMembers members) = none ↔ name ∉ Json.memberNames members := by
  rw [lookup?_ofJsonMembers, Option.map_eq_none_iff, List.find?_eq_none, Json.memberNames,
    List.mem_map]
  simp only [List.mem_reverse, beq_iff_eq]
  exact ⟨fun h ⟨m, hm, hname⟩ => h m hm hname, fun h m hm hname => h ⟨m, hm, hname⟩⟩

end Document

end DeployScript
