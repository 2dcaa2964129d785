import DeployScript.Proofs.Json.Members
import DeployScript.Proofs.Json.Strings

/-!
# Values that were written

What is written for a JSON value without numbers is read back as the value: `read_render` says so
for a whole text, and its parts for every place in one. The names of an object have to be distinct,
and no more brackets may be open at once than the reader has room for. Halves of surrogate pairs
that stand side by side are read as the character of the pair.
-/

namespace DeployScript

namespace Json

mutual

/-- The value with the halves of pairs in its texts put together. -/
def paired : Json → Json
  | .string text => .string text.paired
  | .array items => .array (pairedItems items)
  | .object members => .object (pairedMembers members)
  | value => value

def pairedItems : List Json → List Json
  | [] => []
  | item :: rest => item.paired :: pairedItems rest

/-- The members with the halves of pairs in their names and texts put together. -/
def pairedMembers : List (Text × Json) → List (Text × Json)
  | [] => []
  | (name, value) :: rest => (name.paired, value.paired) :: pairedMembers rest

end

/-- The value has no numbers, its names are distinct, and so many brackets at most are open at once
in it. -/
inductive Readable : Nat → Json → Prop
  | null {room : Nat} : Readable room .null
  | bool {room : Nat} (b : Bool) : Readable room (.bool b)
  | string {room : Nat} (text : Text) : Readable room (.string text)
  | array {room : Nat} {items : List Json} (hitems : ∀ item ∈ items, Readable room item) :
      Readable (room + 1) (.array items)
  | object {room : Nat} {members : List (Text × Json)}
      (hnames : (memberNames (pairedMembers members)).Nodup)
      (hmembers : ∀ member ∈ members, Readable room member.2) :
      Readable (room + 1) (.object members)

/-! ### What is written -/

theorem renderItems_eq_map (depth : Nat) (items : List Json) :
    renderItems depth items = items.map (renderAt depth) := by
  induction items with
  | nil => rfl
  | cons item rest ih => rw [renderItems, ih, List.map_cons]

def renderMember (depth : Nat) (member : Text × Json) : String :=
  quote member.1 ++ ": " ++ renderAt depth member.2

theorem renderMembers_eq_map (depth : Nat) (members : List (Text × Json)) :
    renderMembers depth members = members.map (renderMember depth) := by
  induction members with
  | nil => rfl
  | cons member rest ih => rw [renderMembers, ih, List.map_cons, renderMember]

theorem toList_quote (text : Text) :
    (quote text).toList = '"' :: (text.flatMap escapePoint ++ ['"']) := by
  rw [quote, String.toList_ofList]

theorem length_newLine_pos (depth : Nat) : 0 < (newLine depth).toList.length := by
  rw [newLine, String.toList_ofList]
  exact Nat.succ_pos _

/-- What follows an item of a bracket: the other items and what closes the bracket. -/
def restOf (closing : List Char) (depth : Nat) : List String → List Char
  | [] => (newLine depth).toList ++ closing
  | item :: rest =>
    ',' :: ((newLine (depth + 1)).toList ++ (item.toList ++ restOf closing depth rest))

theorem toList_intercalate_cons (closing : List Char) (depth : Nat) (item : String)
    (rest : List String) :
    (("," ++ newLine (depth + 1)).intercalate (item :: rest)).toList ++
        ((newLine depth).toList ++ closing) = item.toList ++ restOf closing depth rest := by
  induction rest generalizing item with
  | nil => simp [restOf]
  | cons next rest ih =>
    have hnext := ih next
    rw [String.toList_intercalate, List.map_cons] at hnext
    rw [String.toList_intercalate, List.map_cons, List.map_cons, List.intercalate_cons_cons,
      List.append_assoc, hnext, restOf]
    simp

/-- A bracket with items: each stands on a line of its own. -/
theorem toList_bracketed_cons (opening closing : String) (depth : Nat) (item : String)
    (rest : List String) (after : List Char) :
    (bracketed opening closing depth (item :: rest)).toList ++ after =
      opening.toList ++ ((newLine (depth + 1)).toList ++
        (item.toList ++ restOf (closing.toList ++ after) depth rest)) := by
  rw [← toList_intercalate_cons]
  simp [bracketed]

theorem toList_bracketed_nil (opening closing : String) (depth : Nat) :
    (bracketed opening closing depth []).toList = opening.toList ++ closing.toList := by
  simp [bracketed]

/-- A value starts with a character that is no white space, closes no bracket and marks no byte
order. -/
def StartsValue (cs : List Char) : Prop :=
  ∃ c rest, cs = c :: rest ∧ isSpace c = false ∧ c ≠ ']' ∧ c ≠ '\x7d' ∧ c ≠ '\uFEFF'

theorem startsValue_cons {c : Char}
    (hc : isSpace c = false ∧ c ≠ ']' ∧ c ≠ '\x7d' ∧ c ≠ '\uFEFF') (rest : List Char) :
    StartsValue (c :: rest) := ⟨c, rest, rfl, hc⟩

theorem startsValue_renderAt {room : Nat} {value : Json} (h : Readable room value) (depth : Nat)
    (after : List Char) : StartsValue ((renderAt depth value).toList ++ after) := by
  cases h with
  | null =>
    simp only [renderAt, String.reduceToList]
    exact startsValue_cons (by decide) _
  | bool b =>
    cases b
    · simp only [renderAt, Bool.false_eq_true, if_false, String.reduceToList]
      exact startsValue_cons (by decide) _
    · simp only [renderAt, if_true, String.reduceToList]
      exact startsValue_cons (by decide) _
  | string text =>
    rw [renderAt, toList_quote]
    exact startsValue_cons (by decide) _
  | @array _ items _ =>
    rw [renderAt, renderItems_eq_map]
    cases items with
    | nil =>
      rw [List.map_nil, toList_bracketed_nil]
      exact startsValue_cons (by decide) _
    | cons item rest =>
      rw [List.map_cons, toList_bracketed_cons]
      exact startsValue_cons (by decide) _
  | @object _ members _ _ =>
    rw [renderAt, renderMembers_eq_map]
    cases members with
    | nil =>
      rw [List.map_nil, toList_bracketed_nil]
      exact startsValue_cons (by decide) _
    | cons member rest =>
      rw [List.map_cons, toList_bracketed_cons]
      exact startsValue_cons (by decide) _

theorem skipSpace_cons {c : Char} (hc : isSpace c = false) (rest : List Char) :
    skipSpace (c :: rest) = c :: rest := by
  rw [skipSpace, List.dropWhile_cons_of_neg (by simp [hc])]

theorem skipSpace_newLine (depth : Nat) (rest : List Char) :
    skipSpace ((newLine depth).toList ++ rest) = skipSpace rest := by
  rw [skipSpace, List.dropWhile_append_of_pos, skipSpace]
  intro c hc
  rw [newLine, String.toList_ofList, List.mem_cons, List.mem_replicate] at hc
  rcases hc with rfl | ⟨-, rfl⟩ <;> rfl

theorem skipSpace_of_startsValue {cs : List Char} (h : StartsValue cs) : skipSpace cs = cs := by
  obtain ⟨c, rest, rfl, hc, -⟩ := h
  exact skipSpace_cons hc rest

/-! ### Reading it -/

variable {room fuel depth : Nat} {after : List Char}

theorem length_le_length_flatMap (text : Text) :
    text.length ≤ (text.flatMap escapePoint).length := by
  induction text with
  | nil => exact Nat.le_refl 0
  | cons p text ih =>
    have hpos : 0 < (escapePoint p).length := by
      cases p with
      | char c => simpa [List.length_pos_iff, escapePoint] using (apart_escapeChar c []).ne_nil
      | half offset => simp [escapePoint, escapeUnit]
    rw [List.flatMap_cons, List.length_append, List.length_cons]
    omega

theorem readString_quote (text : Text)
    (hfuel : (text.flatMap escapePoint ++ '"' :: after).length < fuel) :
    readString fuel (text.flatMap escapePoint ++ '"' :: after) = .ok (text.paired, after) := by
  have hlength := length_le_length_flatMap text
  rw [List.length_append] at hfuel
  rw [readString, readPoints_flatMap (by omega)]
  rfl

/-- What is written for the value is read as the value, wherever it stands. -/
def ReadsBack (room : Nat) (value : Json) : Prop :=
  ∀ depth fuel after, ((renderAt depth value).toList ++ after).length < fuel →
    readValue fuel room ((renderAt depth value).toList ++ after) = .ok (value.paired, after)

theorem readItems_restOf {item : Json} {rest : List Json}
    (hreadable : ∀ x ∈ item :: rest, Readable room x) (hback : ∀ x ∈ item :: rest, ReadsBack room x)
    (done : List Json)
    (hfuel : ((renderAt (depth + 1) item).toList ++
      restOf (']' :: after) depth (rest.map (renderAt (depth + 1)))).length + 1 < fuel) :
    readItems fuel room done ((renderAt (depth + 1) item).toList ++
        restOf (']' :: after) depth (rest.map (renderAt (depth + 1)))) =
      .ok (.array (done.reverse ++ (item :: rest).map paired), after) := by
  induction rest generalizing item done fuel with
  | nil =>
    obtain ⟨fuel, rfl⟩ := Nat.exists_eq_succ_of_ne_zero (Nat.ne_zero_of_lt hfuel)
    have hread := hback item List.mem_cons_self (depth + 1) fuel _ (Nat.lt_of_succ_lt_succ hfuel)
    rw [readItems, hread]
    simp only [bind, Except.bind, List.map_nil, restOf, skipSpace_newLine]
    rw [skipSpace_cons rfl]
    simp
  | cons next rest ih =>
    obtain ⟨fuel, rfl⟩ := Nat.exists_eq_succ_of_ne_zero (Nat.ne_zero_of_lt hfuel)
    have hread := hback item List.mem_cons_self (depth + 1) fuel _ (Nat.lt_of_succ_lt_succ hfuel)
    have hnext := startsValue_renderAt (hreadable next (by simp)) (depth + 1)
      (restOf (']' :: after) depth (rest.map (renderAt (depth + 1))))
    rw [List.map_cons, restOf, List.length_append, List.length_cons, List.length_append] at hfuel
    rw [readItems, hread]
    simp only [bind, Except.bind, List.map_cons, restOf]
    rw [skipSpace_cons rfl]
    simp only [skipSpace_newLine, skipSpace_of_startsValue hnext]
    rw [ih (fun x hx => hreadable x (List.mem_cons_of_mem _ hx))
      (fun x hx => hback x (List.mem_cons_of_mem _ hx)) (item.paired :: done) (by omega)]
    simp

theorem setMember_of_fresh {name : Text} {members : List (Text × Json)}
    (hfresh : name ∉ memberNames members) (value : Json) :
    setMember name value members = members ++ [(name, value)] := by
  induction members with
  | nil => rfl
  | cons member rest ih =>
    obtain ⟨hne, hrest⟩ := not_or.1 (mt List.mem_cons.2 hfresh)
    rw [setMember, if_neg (Ne.symm hne), ih hrest, List.cons_append]

theorem toList_renderMember (depth : Nat) (member : Text × Json) (after : List Char) :
    (renderMember depth member).toList ++ after =
      '"' :: (member.1.flatMap escapePoint ++
        '"' :: ':' :: ' ' :: ((renderAt depth member.2).toList ++ after)) := by
  simp [renderMember, toList_quote]

/-- A member is read up to the end of its value; what follows tells whether it is the last. -/
theorem readMembers_renderMember {member : Text × Json} (hreadable : Readable room member.2)
    (hback : ReadsBack room member.2) (done : List (Text × Json))
    (hfresh : member.1.paired ∉ memberNames done)
    (hfuel : ((renderMember depth member).toList ++ after).length < fuel + 1) :
    (∀ rest, skipSpace after = '\x7d' :: rest →
        readMembers (fuel + 1) room done ((renderMember depth member).toList ++ after) =
          .ok (.object (done ++ [(member.1.paired, member.2.paired)]), rest)) ∧
      ∀ rest, skipSpace after = ',' :: rest →
        readMembers (fuel + 1) room done ((renderMember depth member).toList ++ after) =
          readMembers fuel room (done ++ [(member.1.paired, member.2.paired)])
            (skipSpace rest) := by
  have hstarts := startsValue_renderAt hreadable depth after
  rw [toList_renderMember, List.length_cons, List.length_append, List.length_cons,
    List.length_cons, List.length_cons] at hfuel
  have hname : readString fuel (member.1.flatMap escapePoint ++
      '"' :: ':' :: ' ' :: ((renderAt depth member.2).toList ++ after)) =
        .ok (member.1.paired, ':' :: ' ' :: ((renderAt depth member.2).toList ++ after)) := by
    apply readString_quote
    simp only [List.length_append, List.length_cons] at hfuel ⊢
    omega
  have hvalue := hback depth fuel after (by omega)
  have hblank : skipSpace (' ' :: ((renderAt depth member.2).toList ++ after)) =
      (renderAt depth member.2).toList ++ after := by
    have hskip := skipSpace_of_startsValue hstarts
    exact hskip
  rw [toList_renderMember, readMembers, hname]
  simp only [bind, Except.bind]
  rw [skipSpace_cons rfl]
  simp only [hblank, hvalue, setMember_of_fresh hfresh]
  constructor
  · intro rest hlast
    simp only [hlast]
  · intro rest hmore
    simp only [hmore]

theorem fresh_of_nodup_append_cons {members rest : List (Text × Json)} {name : Text} {value : Json}
    (h : (memberNames (members ++ (name, value) :: rest)).Nodup) : name ∉ memberNames members := by
  rw [memberNames, List.map_append, List.map_cons] at h
  exact fun hmem => (List.nodup_append.1 h).2.2 name hmem name List.mem_cons_self rfl

theorem readMembers_restOf {member : Text × Json} {rest : List (Text × Json)}
    (hreadable : ∀ m ∈ member :: rest, Readable room m.2)
    (hback : ∀ m ∈ member :: rest, ReadsBack room m.2) (done : List (Text × Json))
    (hnames : (memberNames (done ++ pairedMembers (member :: rest))).Nodup)
    (hfuel : ((renderMember (depth + 1) member).toList ++
      restOf ('\x7d' :: after) depth (rest.map (renderMember (depth + 1)))).length < fuel) :
    readMembers fuel room done ((renderMember (depth + 1) member).toList ++
        restOf ('\x7d' :: after) depth (rest.map (renderMember (depth + 1)))) =
      .ok (.object (done ++ pairedMembers (member :: rest)), after) := by
  induction rest generalizing member done fuel with
  | nil =>
    obtain ⟨fuel, rfl⟩ := Nat.exists_eq_succ_of_ne_zero (Nat.ne_zero_of_lt hfuel)
    have hlast : skipSpace (restOf ('\x7d' :: after) depth []) = '\x7d' :: after := by
      rw [restOf, skipSpace_newLine, skipSpace_cons rfl]
    exact (readMembers_renderMember (hreadable member (by simp)) (hback member (by simp)) done
      (fresh_of_nodup_append_cons hnames) hfuel).1 after hlast
  | cons next rest ih =>
    obtain ⟨fuel, rfl⟩ := Nat.exists_eq_succ_of_ne_zero (Nat.ne_zero_of_lt hfuel)
    have hnext : StartsValue ((renderMember (depth + 1) next).toList ++
        restOf ('\x7d' :: after) depth (rest.map (renderMember (depth + 1)))) := by
      rw [toList_renderMember]
      exact startsValue_cons (by decide) _
    have hnames' : (memberNames (done ++ [(member.1.paired, member.2.paired)] ++
        pairedMembers (next :: rest))).Nodup := by
      rw [List.append_assoc]
      exact hnames
    have hmore := (readMembers_renderMember (hreadable member (by simp)) (hback member (by simp))
      done (fresh_of_nodup_append_cons hnames) hfuel).2 _ (skipSpace_cons rfl _)
    rw [List.map_cons, restOf, List.length_append, List.length_cons, List.length_append] at hfuel
    rw [hmore, skipSpace_newLine, skipSpace_of_startsValue hnext,
      ih (fun m hm => hreadable m (List.mem_cons_of_mem _ hm))
        (fun m hm => hback m (List.mem_cons_of_mem _ hm)) _ hnames' (by omega), List.append_assoc]
    rfl

theorem pairedItems_eq_map (items : List Json) : pairedItems items = items.map paired := by
  induction items with
  | nil => rfl
  | cons item rest ih => rw [pairedItems, ih, List.map_cons]

theorem pairedMembers_eq_map (members : List (Text × Json)) :
    pairedMembers members = members.map fun member => (member.1.paired, member.2.paired) := by
  induction members with
  | nil => rfl
  | cons member rest ih => rw [pairedMembers, ih, List.map_cons]

theorem memberNames_pairedMembers (members : List (Text × Json)) :
    memberNames (pairedMembers members) = (memberNames members).map Text.paired := by
  rw [pairedMembers_eq_map, memberNames, memberNames, List.map_map, List.map_map]
  rfl

theorem readValue_array {inside : List Char} (h : StartsValue inside) :
    readValue (fuel + 1) (room + 1) ('[' :: ((newLine depth).toList ++ inside)) =
      readItems fuel room [] inside := by
  have hskip : skipSpace ((newLine depth).toList ++ inside) = inside := by
    rw [skipSpace_newLine, skipSpace_of_startsValue h]
  obtain ⟨c, rest, rfl, -, hc, -⟩ := h
  simp only [readValue, enter, hskip]
  split
  · next heq =>
    cases heq
    exact absurd rfl hc
  · rfl

theorem readValue_object {inside : List Char} (h : StartsValue inside) :
    readValue (fuel + 1) (room + 1) ('\x7b' :: ((newLine depth).toList ++ inside)) =
      readMembers fuel room [] inside := by
  have hskip : skipSpace ((newLine depth).toList ++ inside) = inside := by
    rw [skipSpace_newLine, skipSpace_of_startsValue h]
  obtain ⟨c, rest, rfl, -, -, hc, -⟩ := h
  simp only [readValue, enter, hskip]
  split
  · next heq =>
    cases heq
    exact absurd rfl hc
  · rfl

/-- What is written for a value that can be read is read as the value, wherever it stands. -/
theorem readsBack_of_readable {value : Json} (h : Readable room value) : ReadsBack room value := by
  induction h with
  | null =>
    intro depth fuel after hfuel
    obtain ⟨fuel, rfl⟩ := Nat.exists_eq_succ_of_ne_zero (Nat.ne_zero_of_lt hfuel)
    simp only [renderAt, String.reduceToList]
    rfl
  | bool b =>
    intro depth fuel after hfuel
    obtain ⟨fuel, rfl⟩ := Nat.exists_eq_succ_of_ne_zero (Nat.ne_zero_of_lt hfuel)
    cases b
    · simp only [renderAt, Bool.false_eq_true, if_false, String.reduceToList]
      rfl
    · simp only [renderAt, if_true, String.reduceToList]
      rfl
  | string text =>
    intro depth fuel after hfuel
    obtain ⟨fuel, rfl⟩ := Nat.exists_eq_succ_of_ne_zero (Nat.ne_zero_of_lt hfuel)
    rw [renderAt, toList_quote, List.cons_append, List.append_assoc, List.singleton_append,
      List.length_cons] at hfuel
    have hread := readString_quote text (Nat.lt_of_succ_lt_succ hfuel)
    rw [renderAt, toList_quote, List.cons_append, List.append_assoc, List.singleton_append,
      readValue, hread]
    rfl
  | @array room items hitems ih =>
    intro depth fuel after hfuel
    obtain ⟨fuel, rfl⟩ := Nat.exists_eq_succ_of_ne_zero (Nat.ne_zero_of_lt hfuel)
    cases items with
    | nil =>
      rw [renderAt, renderItems_eq_map, List.map_nil, toList_bracketed_nil]
      rfl
    | cons item rest =>
      have hinside := startsValue_renderAt (hitems item (by simp)) (depth + 1)
        (restOf (']' :: after) depth (rest.map (renderAt (depth + 1))))
      have htext : (renderAt depth (array (item :: rest))).toList ++ after =
          '[' :: ((newLine (depth + 1)).toList ++ ((renderAt (depth + 1) item).toList ++
            restOf (']' :: after) depth (rest.map (renderAt (depth + 1))))) := by
        rw [renderAt, renderItems_eq_map, List.map_cons, toList_bracketed_cons]
        rfl
      rw [htext, List.length_cons, List.length_append] at hfuel
      have hline := length_newLine_pos (depth + 1)
      rw [htext, readValue_array hinside, readItems_restOf hitems ih [] (by omega), paired,
        pairedItems_eq_map]
      rfl
  | @object room members hnames hmembers ih =>
    intro depth fuel after hfuel
    obtain ⟨fuel, rfl⟩ := Nat.exists_eq_succ_of_ne_zero (Nat.ne_zero_of_lt hfuel)
    cases members with
    | nil =>
      rw [renderAt, renderMembers_eq_map, List.map_nil, toList_bracketed_nil]
      rfl
    | cons member rest =>
      have hinside : StartsValue ((renderMember (depth + 1) member).toList ++
          restOf ('\x7d' :: after) depth (rest.map (renderMember (depth + 1)))) := by
        rw [toList_renderMember]
        exact startsValue_cons (by decide) _
      have htext : (renderAt depth (object (member :: rest))).toList ++ after =
          '\x7b' :: ((newLine (depth + 1)).toList ++ ((renderMember (depth + 1) member).toList ++
            restOf ('\x7d' :: after) depth (rest.map (renderMember (depth + 1))))) := by
        rw [renderAt, renderMembers_eq_map, List.map_cons, toList_bracketed_cons]
        rfl
      rw [htext, List.length_cons, List.length_append] at hfuel
      rw [htext, readValue_object hinside, readMembers_restOf hmembers ih [] hnames (by omega),
        paired]
      rfl

/-- A text that is what is written for a value and white space is read as the value. -/
theorem readWithin_render {room : Nat} {value : Json} (h : Readable room value) {space : String}
    (hspace : ∀ c ∈ space.toList, isSpace c = true) :
    readWithin room (value.render ++ space) = .ok value.paired := by
  have hstarts := startsValue_renderAt h 0 space.toList
  have hread : readValue (2 * ((renderAt 0 value).toList ++ space.toList).length + 2) room
      ((renderAt 0 value).toList ++ space.toList) = .ok (value.paired, space.toList) :=
    readsBack_of_readable h 0 _ _ (by omega)
  have hend : skipSpace space.toList = [] := by
    rw [skipSpace, ← List.append_nil space.toList, List.dropWhile_append_of_pos hspace]
    rfl
  have hmark : ¬ ((renderAt 0 value).toList ++ space.toList).head? = some '\uFEFF' := by
    obtain ⟨c, rest, heq, -, -, -, hc⟩ := hstarts
    rw [heq]
    simpa using hc
  have hall : readAll room ((renderAt 0 value).toList ++ space.toList) =
      .ok value.paired := by
    rw [readAll, if_neg hmark, skipSpace_of_startsValue hstarts, hread]
    simp only [bind, Except.bind, hend]
  rw [readWithin, render, String.toList_append, hall]

end Json

end DeployScript
