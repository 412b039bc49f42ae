import ApiSchema.Proofs.AcceptedCatalogs

/-!
# The JSON form of documentation trees

The key of an entry's own description is also a name that a field may have, and only in an object
below the top level does it have its own meaning.  So a tree is read back from what is written for
it exactly if no field below its top level has that name, and a value that can be read is written
again with the own descriptions at the end of their objects (`tree_forms_faithful`).
-/

namespace ApiSchema

namespace Keyed

variable {α : Type}

/-- The values with the one under a key at the end, if there is one. -/
def moveLast (key : String) (entries : Keyed α) : Keyed α :=
  match get? key entries with
  | some value => erase key entries ++ [(key, value)]
  | none => entries

theorem erase_cons (key : String) (entry : String × α) (rest : Keyed α) :
    erase key (entry :: rest) =
      if entry.1 = key then erase key rest else entry :: erase key rest := by
  by_cases same : entry.1 = key <;> simp [erase, same]

theorem erase_eq_self {key : String} {entries : Keyed α} (free : key ∉ keys entries) :
    erase key entries = entries := by
  refine List.filter_eq_self.2 fun entry mem => ?_
  rw [bne_iff_ne]
  rintro rfl
  exact free (List.mem_map_of_mem mem)

theorem not_mem_keys_erase (key : String) (entries : Keyed α) : key ∉ keys (erase key entries) := by
  intro mem
  obtain ⟨entry, mem, same⟩ := List.mem_map.1 mem
  have other := (List.mem_filter.1 mem).2
  rw [same, bne_self_eq_false] at other
  cases other

end Keyed

namespace Documentation

open Json (ShapeError)

/-! ## Fields and members -/

theorem get?_fieldMembers (key : String) (fields : Tree) :
    Keyed.get? key (fieldMembers fields) = (Keyed.get? key fields).map Entry.toJson := by
  induction fields with
  | nil => rfl
  | cons field rest ih =>
    rw [fieldMembers, Keyed.get?, Keyed.get?, ih]
    by_cases same : field.1 = key
    · rw [if_pos same, if_pos same]
      rfl
    · rw [if_neg same, if_neg same]

theorem fieldMembers_erase (key : String) (fields : Tree) :
    fieldMembers (Keyed.erase key fields) = Keyed.erase key (fieldMembers fields) := by
  induction fields with
  | nil => rfl
  | cons field rest ih =>
    rw [fieldMembers, Keyed.erase_cons, Keyed.erase_cons, ← ih]
    by_cases same : field.1 = key
    · rw [if_pos same, if_pos same]
    · rw [if_neg same, if_neg same, fieldMembers]

theorem fieldsOfMembers_cons_eq_ok_iff {key : String} {value : Json}
    {rest : List (String × Json)} {fields : Tree} :
    fieldsOfMembers ((key, value) :: rest) = .ok fields ↔
      ∃ entry others, entryOfJson value = .ok entry ∧ fieldsOfMembers rest = .ok others ∧
        fields = (key, entry) :: others := by
  rw [fieldsOfMembers]
  constructor
  · intro read
    rcases first : entryOfJson value with e | entry
    · rw [first] at read
      cases read
    rcases later : fieldsOfMembers rest with e | others
    · rw [first, later] at read
      cases read
    rw [first, later] at read
    cases read
    exact ⟨entry, others, rfl, rfl, rfl⟩
  · rintro ⟨entry, others, read_entry, read_others, rfl⟩
    rw [read_entry, read_others]
    rfl

section Read

variable {members : List (String × Json)} {fields : Tree}

theorem exists_read_of_mem (read : fieldsOfMembers members = .ok fields) {key : String}
    {entry : Entry} (mem : (key, entry) ∈ fields) : ∃ value, entryOfJson value = .ok entry := by
  rw [fieldsOfMembers_eq_mapM] at read
  obtain ⟨member, -, made⟩ := exists_of_mem_mapM read mem
  rcases read_entry : entryOfJson member.2 with e | entry'
  · rw [read_entry] at made
    cases made
  · rw [read_entry] at made
    cases made
    exact ⟨member.2, read_entry⟩

/-- A key that is left out of the members is left out of the fields. -/
theorem fieldsOfMembers_erase (read : fieldsOfMembers members = .ok fields) (key : String) :
    fieldsOfMembers (Keyed.erase key members) = .ok (Keyed.erase key fields) := by
  induction members generalizing fields with
  | nil =>
    cases read
    rfl
  | cons member rest ih =>
    obtain ⟨entry, others, read_entry, read_others, rfl⟩ := fieldsOfMembers_cons_eq_ok_iff.1 read
    rw [Keyed.erase_cons, Keyed.erase_cons]
    by_cases same : member.1 = key
    · rw [if_pos same, if_pos same]
      exact ih read_others
    · rw [if_neg same, if_neg same]
      exact fieldsOfMembers_cons_eq_ok_iff.2 ⟨entry, _, read_entry, ih read_others, rfl⟩

theorem fieldsOfMembers_insert (read : fieldsOfMembers members = .ok fields) (key text : String) :
    fieldsOfMembers (Keyed.insert key (.string text) members) =
      .ok (Keyed.insert key (.text text) fields) := by
  induction members generalizing fields with
  | nil =>
    cases read
    rfl
  | cons member rest ih =>
    obtain ⟨entry, others, read_entry, read_others, rfl⟩ := fieldsOfMembers_cons_eq_ok_iff.1 read
    rw [Keyed.insert, Keyed.insert]
    by_cases same : member.1 = key
    · rw [if_pos same, if_pos same]
      exact fieldsOfMembers_cons_eq_ok_iff.2 ⟨_, _, rfl, read_others, rfl⟩
    · rw [if_neg same, if_neg same]
      exact fieldsOfMembers_cons_eq_ok_iff.2 ⟨entry, _, read_entry, ih read_others, rfl⟩

end Read

/-! ## Trees that are read back -/

/-- Does a field below the top level of a tree have the name? -/
inductive NameBelow (name : String) : Tree → Prop
  | here {tree fields : Tree} {key : String} {own : Option String}
      (mem : (key, .nested own fields) ∈ tree) (named : name ∈ Keyed.keys fields) :
      NameBelow name tree
  | deeper {tree fields : Tree} {key : String} {own : Option String}
      (mem : (key, .nested own fields) ∈ tree) (below : NameBelow name fields) :
      NameBelow name tree

theorem NameBelow.cons {name : String} {tree : Tree} (below : NameBelow name tree)
    (field : String × Entry) : NameBelow name (field :: tree) := by
  cases below with
  | here mem named => exact .here (List.mem_cons_of_mem _ mem) named
  | deeper mem below => exact .deeper (List.mem_cons_of_mem _ mem) below

/-- A nested entry is read back if its fields are and none of them has the name of an own
description. -/
theorem entryOfJson_nested {own : Option String} {fields : Tree}
    (read : fieldsOfMembers (fieldMembers fields) = .ok fields)
    (free : ownTextKey ∉ Keyed.keys fields) :
    entryOfJson (Entry.nested own fields).toJson = .ok (.nested own fields) := by
  have fresh := Keyed.get?_eq_none_iff.2 free
  cases own with
  | none =>
    rw [Entry.toJson, entryOfJson, read]
    show nestedOf fields = _
    rw [nestedOf, fresh]
  | some text =>
    rw [Entry.toJson, entryOfJson, fieldsOfMembers_insert read]
    show nestedOf (Keyed.insert ownTextKey (.text text) fields) = _
    have found := Keyed.get?_insert ownTextKey ownTextKey (.text text) fields
    rw [if_pos rfl] at found
    -- The description was put at the end, so taking it out leaves the fields as they were.
    have left : Keyed.erase ownTextKey (Keyed.insert ownTextKey (.text text) fields) = fields := by
      rw [Keyed.insert_of_get?_eq_none fresh, Keyed.erase, List.filter_append]
      have others : fields.filter (·.1 != ownTextKey) = fields := Keyed.erase_eq_self free
      simp [others]
    rw [nestedOf, found]
    show Except.ok (Entry.nested (some text) _) = _
    rw [left]

/-- Fields are read back if none below them has the name of an own description. -/
theorem fieldsOfMembers_fieldMembers :
    ∀ fields : Tree, ¬ NameBelow ownTextKey fields →
      fieldsOfMembers (fieldMembers fields) = .ok fields
  | [], _ => rfl
  | (key, .text content) :: rest, free => by
    have later := fieldsOfMembers_fieldMembers rest fun below => free (below.cons _)
    exact fieldsOfMembers_cons_eq_ok_iff.2 ⟨_, _, rfl, later, rfl⟩
  | (key, .nested own fields) :: rest, free => by
    have later := fieldsOfMembers_fieldMembers rest fun below => free (below.cons _)
    have inner := fieldsOfMembers_fieldMembers fields fun below =>
      free (.deeper List.mem_cons_self below)
    have entry : entryOfJson (Entry.nested own fields).toJson = .ok (.nested own fields) :=
      entryOfJson_nested inner fun named => free (.here List.mem_cons_self named)
    exact fieldsOfMembers_cons_eq_ok_iff.2 ⟨_, _, entry, later, rfl⟩

/-! ## What is read -/

/-- The fields of a nested entry that is read are all the fields but the own description. -/
theorem eq_of_nestedOf {fields : Tree} {entry : Entry} (made : nestedOf fields = .ok entry) :
    ∃ own, entry = .nested own (Keyed.erase ownTextKey fields) ∧
      Keyed.get? ownTextKey fields = own.map .text := by
  rw [nestedOf] at made
  rcases found : Keyed.get? ownTextKey fields with _ | text | ⟨own, inner⟩
  · rw [found] at made
    cases made
    have unchanged := Keyed.erase_eq_self (Keyed.get?_eq_none_iff.1 found)
    exact ⟨none, by rw [unchanged], rfl⟩
  · rw [found] at made
    cases made
    exact ⟨some text, rfl, rfl⟩
  · rw [found] at made
    cases made

/-- The fields of a nested entry can be read on their own, and none of them has the name of an own
description. -/
theorem fields_of_entryOfJson {value : Json} {own : Option String} {fields : Tree}
    (read : entryOfJson value = .ok (.nested own fields)) :
    (∃ members, fieldsOfMembers members = .ok fields) ∧ ownTextKey ∉ Keyed.keys fields := by
  cases value with
  | object members =>
    obtain ⟨all, -, -, read_all, made, -⟩ := nested_of_entryOfJson read
    obtain ⟨own', same, -⟩ := eq_of_nestedOf made
    cases same
    exact ⟨⟨_, fieldsOfMembers_erase read_all _⟩, Keyed.not_mem_keys_erase _ _⟩
  | _ => cases read

/-- In a tree that was read, no field below the top level has the name of an own description. -/
theorem not_nameBelow_of_read {members : List (String × Json)} {tree : Tree}
    (read : fieldsOfMembers members = .ok tree) : ¬ NameBelow ownTextKey tree := by
  intro below
  induction below generalizing members with
  | here mem named =>
    obtain ⟨value, read_entry⟩ := exists_read_of_mem read mem
    exact (fields_of_entryOfJson read_entry).2 named
  | deeper mem below ih =>
    obtain ⟨value, read_entry⟩ := exists_read_of_mem read mem
    obtain ⟨⟨inner, read_inner⟩, -⟩ := fields_of_entryOfJson read_entry
    exact ih read_inner

/-! ## Values that can be read -/

/-- The JSON values that stand for entries: texts, and objects of such values in which the own
description is a text. -/
inductive IsEntry : Json → Prop
  | text (content : String) : IsEntry (.string content)
  | nested {members : List (String × Json)} (entries : ∀ member ∈ members, IsEntry member.2)
      (own : ∀ value, Keyed.get? ownTextKey members = some value →
        ∃ content, value = .string content) :
      IsEntry (.object members)

theorem eq_string_of_entryOfJson {value : Json} {content : String}
    (read : entryOfJson value = .ok (.text content)) : value = .string content := by
  cases value with
  | string text =>
    cases read
    rfl
  | object members =>
    obtain ⟨-, own, fields, -, -, same⟩ := nested_of_entryOfJson read
    cases same
  | _ => cases read

theorem exists_entry_of_isEntry {value : Json} (isEntry : IsEntry value) :
    ∃ entry, entryOfJson value = .ok entry := by
  induction isEntry with
  | text content => exact ⟨.text content, rfl⟩
  | @nested members entries own ih =>
    obtain ⟨fields, read⟩ := exists_fieldsOfMembers_iff.2 ih
    rw [entryOfJson, read]
    show ∃ entry, nestedOf fields = .ok entry
    have read_own := get?_fieldsOfMembers read ownTextKey
    rw [nestedOf]
    rcases found : Keyed.get? ownTextKey fields with _ | content | ⟨own', inner⟩
    · exact ⟨_, rfl⟩
    · exact ⟨_, rfl⟩
    · -- The value under the key is a text, which is not read as a nested entry.
      rw [found, Option.map_some, Option.map_eq_some_iff] at read_own
      obtain ⟨value, at_key, nested⟩ := read_own
      obtain ⟨content, rfl⟩ := own value at_key
      cases nested

theorem isEntry_of_read {value : Json} {entry : Entry} (read : entryOfJson value = .ok entry) :
    IsEntry value := by
  induction size : sizeOf value using Nat.strongRecOn generalizing value entry with
  | ind size ih =>
    subst size
    cases value with
    | string content => exact .text content
    | object members =>
      obtain ⟨fields, -, -, read_fields, made, -⟩ := nested_of_entryOfJson read
      constructor
      · intro member mem
        obtain ⟨inner, read_inner⟩ := exists_fieldsOfMembers_iff.1 ⟨fields, read_fields⟩ member mem
        exact ih _ (Json.sizeOf_lt_of_mem_members mem) read_inner rfl
      · intro value at_key
        obtain ⟨own, -, found⟩ := eq_of_nestedOf made
        have read_own := get?_fieldsOfMembers read_fields ownTextKey
        rw [at_key, found, Option.map_some] at read_own
        cases own with
        | none => cases read_own
        | some content => exact ⟨content, eq_string_of_entryOfJson (Option.some.inj read_own)⟩
    | _ => cases read

/-! ## Values that are written again -/

mutual

/-- The value with the own description in each object moved to the end. -/
def ownTextsLast : Json → Json
  | .object members => .object (Keyed.moveLast ownTextKey (membersOwnTextsLast members))
  | value => value

/-- The members of an object, each with its own descriptions moved to the end. -/
def membersOwnTextsLast : List (String × Json) → List (String × Json)
  | [] => []
  | (key, value) :: rest => (key, ownTextsLast value) :: membersOwnTextsLast rest

end

theorem toJson_of_nestedOf {fields : Tree} {entry : Entry} (made : nestedOf fields = .ok entry) :
    entry.toJson = .object (Keyed.moveLast ownTextKey (fieldMembers fields)) := by
  obtain ⟨own, rfl, found⟩ := eq_of_nestedOf made
  rw [Keyed.moveLast, get?_fieldMembers, found]
  cases own with
  | none =>
    rw [Entry.toJson, Keyed.erase_eq_self (Keyed.get?_eq_none_iff.1 found)]
    rfl
  | some text =>
    have free := Keyed.not_mem_keys_erase ownTextKey (fieldMembers fields)
    rw [Entry.toJson, fieldMembers_erase,
      Keyed.insert_of_get?_eq_none (Keyed.get?_eq_none_iff.2 free)]
    rfl

mutual

/-- An entry is written as the value it was read from, with the own descriptions last. -/
theorem toJson_of_read : ∀ {value : Json} {entry : Entry}, entryOfJson value = .ok entry →
    entry.toJson = ownTextsLast value
  | .string content, entry, read => by
    cases read
    rfl
  | .object members, entry, read => by
    obtain ⟨fields, -, -, read_fields, made, -⟩ := nested_of_entryOfJson read
    rw [ownTextsLast, ← fieldMembers_of_read read_fields]
    exact toJson_of_nestedOf made
  | .null, _, read => nomatch read
  | .bool _, _, read => nomatch read
  | .number _, _, read => nomatch read
  | .array _, _, read => nomatch read

theorem fieldMembers_of_read : ∀ {members : List (String × Json)} {fields : Tree},
    fieldsOfMembers members = .ok fields → fieldMembers fields = membersOwnTextsLast members
  | [], fields, read => by
    cases read
    rfl
  | (key, value) :: rest, fields, read => by
    obtain ⟨entry, others, read_entry, read_others, rfl⟩ := fieldsOfMembers_cons_eq_ok_iff.1 read
    rw [fieldMembers, membersOwnTextsLast, toJson_of_read read_entry,
      fieldMembers_of_read read_others]

end

/-- The JSON form of trees is faithful but for one name.  A tree is read back from what is written
for it exactly if no field below its top level has the name of an own description; the values that
can be read are the objects whose members stand for entries, and they are written again with the
own description in each object below the top level moved to the end. -/
theorem tree_forms_faithful :
    (∀ tree : Tree, treeOfJson (treeToJson tree) = .ok tree ↔ ¬ NameBelow ownTextKey tree) ∧
    (∀ value, (∃ tree, treeOfJson value = .ok tree) ↔
      ∃ members, value = .object members ∧ ∀ member ∈ members, IsEntry member.2) ∧
    ∀ members tree, treeOfJson (.object members) = .ok tree →
      treeToJson tree = .object (membersOwnTextsLast members) := by
  refine ⟨fun tree => ⟨not_nameBelow_of_read, fieldsOfMembers_fieldMembers tree⟩, fun value => ?_,
    fun members tree read => ?_⟩
  · constructor
    · rintro ⟨tree, read⟩
      cases value with
      | object members =>
        refine ⟨members, rfl, fun member mem => ?_⟩
        obtain ⟨entry, read_entry⟩ := exists_fieldsOfMembers_iff.1 ⟨tree, read⟩ member mem
        exact isEntry_of_read read_entry
      | _ => cases read
    · rintro ⟨members, rfl, entries⟩
      refine exists_fieldsOfMembers_iff.2 fun member mem => ?_
      exact exists_entry_of_isEntry (entries member mem)
  · rw [treeToJson, fieldMembers_of_read read]

/-- An own description before a field, inside a field of the top level that has the same name. -/
def earlyText : List (String × Json) :=
  [(ownTextKey, .object [(ownTextKey, .string "where to connect"), ("host", .string "a name")])]

theorem earlyText_written :
    ∃ tree, treeOfJson (.object earlyText) = .ok tree ∧ treeToJson tree =
      .object [(ownTextKey, .object
        [("host", .string "a name"), (ownTextKey, .string "where to connect")])] :=
  ⟨[(ownTextKey, .nested (some "where to connect") [("host", .text "a name")])], by rfl,
    tree_forms_faithful.2.2 earlyText _ (by rfl)⟩

end Documentation

end ApiSchema
