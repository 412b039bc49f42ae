import ApiSchema.Proofs.Origins
import ApiSchema.Proofs.TextLines

/-!
# Names of fields

No case mapping gives an underscore for another character, and the words of a key have none, so an
API name has no underscore.  Whatever registers an object gives it fields under distinct names that
are made from their keys; so every registered object has such fields, and every registered union has
members that do (`registered_named_by_keys`).
-/

namespace ApiSchema

open Documentation (valueTerm)

/-! ## Underscores -/

namespace Text

theorem toNat_ofNat_cases (n : Nat) : (Char.ofNat n).toNat = n ∨ (Char.ofNat n).toNat = 0 := by
  by_cases valid : n.isValidChar
  · rw [Char.ofNat, dif_pos valid]
    exact .inl rfl
  · rw [Char.ofNat, dif_neg valid]
    exact .inr rfl

/-- A character that no run maps another one to is the image of itself only. -/
theorem shiftBy_ne {runs : List CaseRun} {c d : Char} (nonzero : d.toNat ≠ 0)
    (unreached : ∀ run ∈ runs, run.covers (d.toNat - run.shift).toNat = false) (other : c ≠ d) :
    shiftBy runs c ≠ d := by
  unfold shiftBy
  split
  · rename_i run found
    intro image
    have covered : run.covers c.toNat = true := by simpa using List.find?_some found
    have code : (c.toNat + run.shift).toNat = d.toNat := by
      rcases toNat_ofNat_cases (c.toNat + run.shift).toNat with same | zero
      · rw [← same, image]
      · rw [image] at zero
        exact absurd zero nonzero
    have source : (d.toNat - run.shift).toNat = c.toNat := by omega
    rw [← source, unreached run (List.mem_of_find?_eq_some found)] at covered
    cases covered
  · exact other

theorem underscore_not_mem_capitalOf {c : Char} (other : c ≠ '_') : '_' ∉ capitalOf c := by
  have long : ∀ entry ∈ longCapitals, '_' ∉ entry.2.map Char.ofNat := by decide
  unfold capitalOf
  split
  · rename_i code codes found
    exact long _ (List.mem_of_find?_eq_some found)
  · rw [List.mem_singleton]
    exact (shiftBy_ne (by decide) (by decide +kernel) other).symm

theorem underscore_not_mem_smallOf {c : Char} (other : c ≠ '_') : '_' ∉ smallOf c := by
  unfold smallOf
  split_ifs
  · decide
  · rw [List.mem_singleton]
    exact (shiftBy_ne (by decide) (by decide +kernel) other).symm

theorem underscore_not_mem_smallAfter (before : List Char) {text : List Char}
    (clear : '_' ∉ text) : '_' ∉ smallAfter before text := by
  induction text generalizing before with
  | nil => exact List.not_mem_nil
  | cons c rest ih =>
    rw [List.mem_cons, not_or] at clear
    have here := underscore_not_mem_smallOf (Ne.symm clear.1)
    rw [smallAfter, List.mem_append, not_or]
    refine ⟨?_, ih _ clear.2⟩
    split_ifs
    · decide
    · decide
    · exact here

end Text

namespace KeyName

open Text

theorem underscore_not_mem_capitalWord {word : List Char} (clear : '_' ∉ word) :
    '_' ∉ capitalWord word := by
  rcases word with _ | ⟨c, rest⟩
  · exact List.not_mem_nil
  · rw [List.mem_cons, not_or] at clear
    rw [capitalWord, List.mem_append, not_or]
    exact ⟨underscore_not_mem_capitalOf (Ne.symm clear.1),
      underscore_not_mem_smallAfter [] clear.2⟩

theorem underscore_not_mem_toCamel (key : String) : '_' ∉ (toCamel key).toList := by
  have clear : ∀ word ∈ pieces '_' key.toList, '_' ∉ word := fun word => not_mem_of_mem_pieces
  rw [toCamel, String.toList_ofList]
  generalize pieces '_' key.toList = words at clear
  rcases words with _ | ⟨first, others⟩
  · exact List.not_mem_nil
  · obtain ⟨first_clear, others_clear⟩ := List.forall_mem_cons.1 clear
    rw [camelOfWords, List.mem_append, not_or]
    refine ⟨first_clear, fun mem => ?_⟩
    obtain ⟨text, inside, mem⟩ := List.mem_flatten.1 mem
    obtain ⟨word, word_mem, rfl⟩ := List.mem_map.1 inside
    exact underscore_not_mem_capitalWord (others_clear word word_mem) mem

end KeyName

/-! ## Registered types -/

/-- The object has fields, under names of their own; each is named after its key, without an
underscore, and is none of the system's. -/
structure ObjectType.NamedByKeys (object : ObjectType) : Prop where
  nonempty : object.fields ≠ []
  distinct : (object.fields.map Field.name).Nodup
  named : ∀ field ∈ object.fields, field.name = KeyName.toCamel field.source
  no_underscore : ∀ field ∈ object.fields, '_' ∉ field.name.toList
  no_mark : ∀ field ∈ object.fields, field.name.toList.head? ≠ some systemMark

/-- The type is an object whose fields are named by their keys, or a union of such objects. -/
def NamedType.NamedByKeys : NamedType → Prop
  | .object o => o.NamedByKeys
  | .union u => u.members ≠ [] ∧ ∀ member ∈ u.members, member.NamedByKeys

theorem MadeOfKeys.namedByKeys {keys : List String} {object : ObjectType}
    (made : MadeOfKeys keys object.fields) (nonempty : object.fields ≠ []) :
    object.NamedByKeys where
  nonempty := nonempty
  distinct := made.distinct
  named := fun field mem => (made.named field mem).1
  no_underscore := fun field mem => by
    rw [(made.named field mem).1]
    exact KeyName.underscore_not_mem_toCamel field.source
  no_mark := fun field mem => (made.named field mem).2

theorem madeOfKeys_entryRecord (serial : Nat) (value : ApiType) :
    MadeOfKeys [entryKey, entryValue] (entryRecord serial value).fields := by
  refine ⟨rfl, ?_, fun field mem => ?_⟩
  · simp only [entryRecord, Field.ofKey, List.map_cons, List.map_nil]
    decide
  · simp only [entryRecord, Field.ofKey, List.mem_cons, List.not_mem_nil, or_false] at mem
    have shown : (KeyName.toCamel entryKey).toList.head? ≠ some systemMark ∧
        (KeyName.toCamel entryValue).toList.head? ≠ some systemMark := by
      decide
    rcases mem with rfl | rfl
    · exact ⟨rfl, shown.1⟩
    · exact ⟨rfl, shown.2⟩

variable {known : Definition → Prop}

theorem ObjectOrigin.namedByKeys {object : ObjectType} (origin : ObjectOrigin known object) :
    object.NamedByKeys := by
  cases origin with
  | document _ _ _ nonempty made => exact made.namedByKeys nonempty
  | nested _ _ _ nonempty made => exact made.namedByKeys nonempty
  | record serial value =>
    exact (madeOfKeys_entryRecord serial value).namedByKeys (List.cons_ne_nil _ _)

theorem NamedType.Originates.namedByKeys {catalog : Catalog} {type : NamedType}
    (origin : type.Originates catalog known) : type.NamedByKeys := by
  cases type with
  | object object => exact ObjectOrigin.namedByKeys origin
  | union union =>
    have origin : UnionOrigin catalog known union := origin
    exact ⟨origin.nonempty, fun member mem => (origin.objects member mem).namedByKeys⟩

namespace Synthesizer

/-- After every sequence of calls, each registered object has fields under distinct names made from
their keys, without underscores and none of the system's, and each registered union has members, all
of which are such objects. -/
theorem registered_named_by_keys (catalog : Catalog) (strict : Bool) (calls : List Call) :
    ∀ type ∈ ((new catalog strict).afterCalls calls).types, type.NamedByKeys :=
  fun type mem => ((originates_afterCalls catalog strict calls).types type mem).namedByKeys

/-- An app with a mapping of objects and a choice between two objects. -/
def portsApp : Definition where
  kind := .app
  name := "App"
  description := none
  schema := .object
    [("$schema", .scalar .string),
     ("named_ports", .map (.object [("port_number", .scalar .integer)])),
     ("log_target", .union
       [.object [("log_file", .scalar .string)], .object [("host_name", .scalar .string)]])]
  docs :=
    [("named_ports", .nested none [(valueTerm, .nested none [("port_number", .text "A number")])]),
     ("log_target", .nested none
       [("log_file", .text "A file"), ("host_name", .text "A host")])]
  skipFields := []
  discriminator := none

theorem portsApp_named_by_keys :
    let s := (new ⟨[]⟩ false).afterCalls [.synthesize portsApp]
    s.types.map NamedType.name =
      ["AppNamedPorts", "EntryAppNamedPorts", "AppLogTargetAlternative1",
        "AppLogTargetAlternative2", "AppLogTarget", "App"] ∧
    (∃ record, s.lookup "EntryAppNamedPorts" = some (.object record) ∧ record.NamedByKeys) ∧
    (∃ union, s.lookup "AppLogTarget" = some (.union union) ∧
      union.members.map (fun m => m.fields.map Field.name) = [["logFile"], ["hostName"]] ∧
      ∀ member ∈ union.members, member.NamedByKeys) ∧
    ∃ app, s.lookup "App" = some (.object app) ∧ app.fields.map Field.name =
      ["namedPorts", "logTarget"] ∧ app.NamedByKeys := by
  intro s
  have named := registered_named_by_keys ⟨[]⟩ false [.synthesize portsApp]
  have record : ∃ record, s.lookup "EntryAppNamedPorts" = some (.object record) := ⟨_, rfl⟩
  have union : ∃ union, s.lookup "AppLogTarget" = some (.union union) ∧
      union.members.map (fun m => m.fields.map Field.name) = [["logFile"], ["hostName"]] :=
    ⟨_, rfl, rfl⟩
  have app : ∃ app, s.lookup "App" = some (.object app) ∧
      app.fields.map Field.name = ["namedPorts", "logTarget"] := ⟨_, rfl, rfl⟩
  obtain ⟨record, record_found⟩ := record
  obtain ⟨union, union_found, members⟩ := union
  obtain ⟨app, app_found, fields⟩ := app
  exact ⟨rfl, ⟨record, record_found, named _ (Registry.mem_of_get? record_found)⟩,
    ⟨union, union_found, members, (named _ (Registry.mem_of_get? union_found)).2⟩,
    app, app_found, fields, named _ (Registry.mem_of_get? app_found)⟩

end Synthesizer

end ApiSchema
