import ApiSchema.Instance.Projection
import ApiSchema.Proofs.MirroredWalk

/-!
# Projections of documents

Documents are rewritten by their schema alone: a `Reshaping` keeps the visible keys of every object,
renames them, and takes mappings apart and puts them together.  Projecting a document that fits its
schema is the reshaping to API names and entry records, and reshaping that back gives the visible
part of the document (`project_eq_rewritten`).
-/

namespace ApiSchema

open Documentation (Entry Tree valueTerm)

/-! ## Schemas and the documents that fit them -/

namespace SchemaNode

mutual

/-- Has a value the shape of a node?  Any value will do for a simple value, and none for a union, a
reference or a constraint. -/
def fits : SchemaNode → Json → Bool
  | .scalar _, _ => true
  | .optional _, .null => true
  | .optional inner, value => inner.fits value
  | .object fields, .object members => areFit members fields
  | .list element, .array items => items.all element.fits
  | .map inner, .object members => members.all fun (_, value) => inner.fits value
  | _, _ => false

/-- Have the values under the keys of an object the shapes of their nodes, and is there a value
under each key that needs one? -/
def areFit (members : List (String × Json)) : List (String × SchemaNode) → Bool
  | [] => true
  | (key, node) :: rest =>
    (match Keyed.get? key members with
      | some value => node.fits value
      | none => node.isOptional) && areFit members rest

end

end SchemaNode

/-! ## Reshapings -/

/-- How the objects and mappings of a document are read and written. -/
structure Reshaping where
  /-- The key under which the value of a schema's key is found. -/
  source : String → String
  /-- The key under which the value of a schema's key is put. -/
  target : String → String
  /-- The members of a mapping, if a value is one. -/
  read : Json → Option (List (String × Json))
  /-- The mapping of some members. -/
  write : List (String × Json) → Json
  read_null : read .null = none

namespace Reshaping

mutual

/-- A value reshaped by its node: each list element by element, each mapping value by value, and
of each object the visible keys, in the order of the schema. -/
def value (r : Reshaping) (docs : Option Entry) : SchemaNode → Json → Json
  | .optional inner, v => r.value docs inner v
  | .object nodes, .object members =>
    match docs with
    | some (.nested _ tree) => .object (r.fields tree [] members nodes)
    | _ => .object members
  | .list element, .array items => .array (items.map (r.value docs element))
  | .map inner, v =>
    match r.read v with
    | some members =>
      r.write (members.map fun (key, v) => (key, r.value (valueEntry docs) inner v))
    | none => v
  | _, v => v

/-- The visible keys of an object with their reshaped values, `null` where there is none. -/
def fields (r : Reshaping) (tree : Tree) (skip : List String) (members : List (String × Json)) :
    List (String × SchemaNode) → List (String × Json)
  | [] => []
  | (key, node) :: rest =>
    if isHiddenKey skip key then r.fields tree skip members rest
    else
      match Keyed.get? key tree with
      | none => r.fields tree skip members rest
      | some docs =>
        (r.target key, r.value (some docs) node ((Keyed.get? (r.source key) members).getD .null)) ::
          r.fields tree skip members rest

end

/-- An object without its hidden keys. -/
def visible : Reshaping := ⟨id, id, Json.members?, .object, rfl⟩

/-- The member that an entry record holds. -/
def memberOf (record : Json) : Option (String × Json) :=
  match record.get? entryKey, record.get? entryValue with
  | some (.string key), some value => some (key, value)
  | _, _ => none

def membersOf : Json → Option (List (String × Json))
  | .array records => records.mapM memberOf
  | _ => none

/-- Keys become API names, and mappings become lists of entry records. -/
def toApi : Reshaping := ⟨id, KeyName.toCamel, Json.members?, entriesOf, rfl⟩

/-- API names become keys, and lists of entry records become mappings. -/
def ofApi : Reshaping := ⟨KeyName.toCamel, id, membersOf, .object, rfl⟩

/-! ### Small laws -/

theorem value_null (r : Reshaping) (docs : Option Entry) :
    ∀ node : SchemaNode, r.value docs node .null = .null
  | .optional inner => by
    rw [value]
    exact value_null r docs inner
  | .map inner => by
    rw [value, r.read_null]
  | .scalar _ | .object _ | .list _ | .union _ | .reference _ | .validated _ => by
    rw [value] <;> simp

/-- The keys of a reshaped object are the names of its visible keys. -/
theorem keys_fields (r : Reshaping) (tree : Tree) (skip : List String)
    (members : List (String × Json)) (nodes : List (String × SchemaNode)) :
    Keyed.keys (r.fields tree skip members nodes) = (visibleKeys skip tree nodes).map r.target := by
  unfold visibleKeys Keyed.keys
  induction nodes with
  | nil => rfl
  | cons entry rest ih =>
    obtain ⟨key, node⟩ := entry
    rw [fields]
    split_ifs with hidden
    · rw [visibleFields_of_hidden hidden, ih]
    · rcases documented : Keyed.get? key tree with _ | docs
      · rw [visibleFields_of_undocumented documented, ih]
      · rw [visibleFields_of_visible hidden documented]
        simp only [List.map_cons, ih]

theorem memberOf_record (key : String) (value : Json) :
    memberOf (.object [(entryKey, .string key), (entryValue, value)]) = some (key, value) := rfl

theorem membersOf_entriesOf (members : List (String × Json)) :
    membersOf (entriesOf members) = some members := by
  rw [entriesOf, membersOf]
  induction members with
  | nil => rfl
  | cons member rest ih => simp [memberOf_record, ih]

end Reshaping

/-! ## Back and forth -/

section

open Reshaping

theorem MirrorsFields.distinct_toApi {parent : String} {tree : Tree} {skip : List String}
    {nodes : List (String × SchemaNode)} {fields : List Field}
    (mirrors : MirrorsFields parent tree skip fields nodes)
    (distinct : (fields.map Field.name).Nodup) (members : List (String × Json)) :
    Keyed.Distinct (toApi.fields tree skip members nodes) := by
  rw [mirrors.names] at distinct
  rwa [Keyed.Distinct, toApi.keys_fields]

mutual

/-- Reshaped to API names and back, a value is reduced to its visible part. -/
theorem ofApi_toApi : ∀ (node : SchemaNode) {path : String} {docs : Option Entry}
    {type : ApiType} {v : Json}, Mirrors path docs node type → node.fits v = true →
    ofApi.value docs node (toApi.value docs node v) = visible.value docs node v
  | .scalar kind, path, docs, type, v, mirrors, fit => by
    simp only [Reshaping.value]
  | .optional inner, path, docs, type, v, mirrors, fit => by
    rw [Mirrors] at mirrors
    simp only [Reshaping.value]
    by_cases absent : v = .null
    · rw [absent, toApi.value_null, ofApi.value_null, visible.value_null]
    · rw [SchemaNode.fits] at fit
      · exact ofApi_toApi inner mirrors fit
      · exact absent
  | .object nodes, path, docs, type, v, mirrors, fit => by
    rw [Mirrors] at mirrors
    obtain ⟨own, tree, object, rfl, -, -, distinct, fields⟩ := mirrors
    cases v with
    | object members =>
      rw [SchemaNode.fits] at fit
      simp only [Reshaping.value]
      rw [ofApi_toApi_fields nodes fields fit (fields.distinct_toApi distinct members)
        (List.Subset.refl _)]
    | _ => simp [SchemaNode.fits] at fit
  | .list element, path, docs, type, v, mirrors, fit => by
    rw [Mirrors] at mirrors
    obtain ⟨inner, -, mirrors⟩ := mirrors
    cases v with
    | array items =>
      simp only [SchemaNode.fits, List.all_eq_true] at fit
      simp only [Reshaping.value, List.map_map, Json.array.injEq]
      exact List.map_congr_left fun item mem => ofApi_toApi element mirrors (fit item mem)
    | _ => simp [SchemaNode.fits] at fit
  | .map value, path, docs, type, v, mirrors, fit => by
    rw [Mirrors] at mirrors
    obtain ⟨serial, inner, -, mirrors⟩ := mirrors
    cases v with
    | object members =>
      simp only [SchemaNode.fits, List.all_eq_true] at fit
      simp only [Reshaping.value, toApi, ofApi, visible, Json.members?, membersOf_entriesOf,
        List.map_map, Json.object.injEq]
      refine List.map_congr_left fun member mem => ?_
      exact Prod.ext rfl (ofApi_toApi value mirrors (fit member mem))
    | _ => simp [SchemaNode.fits] at fit
  | .union _, path, docs, type, v, mirrors, fit => by
    simp [SchemaNode.fits] at fit
  | .reference _, path, docs, type, v, mirrors, fit => by
    simp [SchemaNode.fits] at fit
  | .validated _, path, docs, type, v, mirrors, fit => by
    simp [SchemaNode.fits] at fit

/-- The visible fields are found again in any object that has them under their API names. -/
theorem ofApi_toApi_fields : ∀ (nodes : List (String × SchemaNode)) {parent : String} {tree : Tree}
    {skip : List String} {fields : List Field} {members shown : List (String × Json)},
    MirrorsFields parent tree skip fields nodes → SchemaNode.areFit members nodes = true →
    Keyed.Distinct shown → toApi.fields tree skip members nodes ⊆ shown →
    ofApi.fields tree skip shown nodes = visible.fields tree skip members nodes
  | [], parent, tree, skip, fields, members, shown, mirrors, fit, distinct, inside => by
    simp only [Reshaping.fields]
  | (key, node) :: rest, parent, tree, skip, fields, members, shown, mirrors, fit, distinct,
      inside => by
    rw [MirrorsFields] at mirrors
    rw [SchemaNode.areFit, Bool.and_eq_true] at fit
    rw [Reshaping.fields] at inside ⊢
    rw [Reshaping.fields]
    split_ifs at mirrors inside ⊢ with hidden
    · exact ofApi_toApi_fields rest mirrors fit.2 distinct inside
    · rcases documented : Keyed.get? key tree with _ | docs
      · rw [documented] at mirrors inside
        exact ofApi_toApi_fields rest mirrors fit.2 distinct inside
      · rw [documented] at mirrors inside
        dsimp only at inside ⊢
        obtain ⟨field, later, rfl, -, -, mirrors, mirrorsLater⟩ := mirrors
        obtain ⟨here, there⟩ := List.cons_subset.1 inside
        rw [ofApi_toApi_fields rest mirrorsLater fit.2 distinct there]
        have found := distinct.get?_of_mem here
        have value :
            ofApi.value (some docs) node ((Keyed.get? (toApi.target key) shown).getD .null) =
              visible.value (some docs) node ((Keyed.get? key members).getD .null) := by
          rw [found, Option.getD_some]
          rcases stored : Keyed.get? key members with _ | v
          · rw [show Keyed.get? (toApi.source key) members = none from stored, Option.getD_none,
              toApi.value_null, ofApi.value_null, visible.value_null]
          · rw [stored] at fit
            rw [show Keyed.get? (toApi.source key) members = some v from stored, Option.getD_some]
            exact ofApi_toApi node mirrors fit.1
        rw [show ofApi.source key = toApi.target key from rfl, value]
        rfl

end

end

/-! ## Projections -/

theorem ApiType.project_null (type : ApiType) : type.project (lowerFor type .null) = .null := by
  cases type <;> simp [lowerFor, ApiType.project]

/-- The value of a projected field is that of its key, reshaped to its type. -/
theorem Field.projectWith_eq (get : String → Option Json) (field : Field) :
    field.projectWith get =
      field.type.project (lowerFor field.type ((get field.source).getD .null)) := by
  rcases field with ⟨name, source, type, required, description⟩
  rw [Field.projectWith]
  rcases get source with _ | value
  · rw [Option.getD_none, show lowerFor type .null = .null from rfl]
  · rfl

theorem projectFields_eq (get : String → Option Json) :
    ∀ (fields : List Field) {done : List (String × Json)},
      (Keyed.keys done ++ fields.map Field.name).Nodup →
      projectFields get done fields =
        done ++ fields.map fun field => (field.name, field.projectWith get)
  | [], done, distinct => by
    rw [projectFields]
    exact (List.append_nil _).symm
  | field :: rest, done, distinct => by
    have fresh : Keyed.get? field.name done = none := Keyed.get?_eq_none_iff.2 fun mem =>
      (List.nodup_append.1 distinct).2.2 _ mem _ (List.mem_cons_self ..) rfl
    rw [projectFields, Keyed.insert_of_get?_eq_none fresh, projectFields_eq get rest]
    · simp
    · simpa [Keyed.keys] using distinct

theorem ObjectType.projectWith_eq {object : ObjectType} (get : String → Option Json)
    (distinct : (object.fields.map Field.name).Nodup) :
    object.projectWith get =
      object.fields.map fun field => (field.name, field.projectWith get) := by
  rcases object with ⟨serial, name, description, fields, discriminator⟩
  exact projectFields_eq get fields distinct

theorem toCamel_entryKey : KeyName.toCamel entryKey = entryKey := by decide

theorem toCamel_entryValue : KeyName.toCamel entryValue = entryValue := by decide

theorem project_record (serial : Nat) (inner : ApiType) (key : String) (value : Json) :
    ApiType.project (.object (entryRecord serial inner))
        (.object [(entryKey, .string key), (entryValue, value)]) =
      .object [(entryKey, .string key), (entryValue, inner.project (lowerFor inner value))] := by
  have names : (entryRecord serial inner).fields.map Field.name = [entryKey, entryValue] := by
    simp only [entryRecord, Field.ofKey, List.map_cons, List.map_nil, toCamel_entryKey,
      toCamel_entryValue]
  rw [ApiType.project, ObjectType.projectWith_eq _ (by rw [names]; decide)]
  simp only [entryRecord, Field.ofKey, List.map_cons, List.map_nil, toCamel_entryKey,
    toCamel_entryValue, Field.projectWith_eq]
  rfl

open Reshaping

mutual

/-- Projecting a value that fits a node to a type that mirrors the node is its reshaping. -/
theorem project_eq_toApi : ∀ (node : SchemaNode) {path : String} {docs : Option Entry}
    {type : ApiType} {v : Json}, Mirrors path docs node type → node.fits v = true →
    type.project (lowerFor type v) = toApi.value docs node v
  | .scalar kind, path, docs, type, v, mirrors, fit => by
    rw [Mirrors] at mirrors
    obtain ⟨scalar, rfl⟩ := mirrors
    rw [ApiType.project, Reshaping.value]
    · cases v <;> rfl
    all_goals simp
  | .optional inner, path, docs, type, v, mirrors, fit => by
    rw [Mirrors] at mirrors
    rw [Reshaping.value]
    by_cases absent : v = .null
    · rw [absent, ApiType.project_null, toApi.value_null]
    · rw [SchemaNode.fits] at fit
      · exact project_eq_toApi inner mirrors fit
      · exact absent
  | .object nodes, path, docs, type, v, mirrors, fit => by
    rw [Mirrors] at mirrors
    obtain ⟨own, tree, object, rfl, rfl, -, distinct, fields⟩ := mirrors
    cases v with
    | object members =>
      rw [SchemaNode.fits] at fit
      rw [show lowerFor (.object object) (.object members) = .object members from rfl,
        ApiType.project, Reshaping.value, ObjectType.projectWith_eq _ distinct]
      rw [projectFields_eq_toApi nodes fields fit fun _ => rfl]
    | _ => simp [SchemaNode.fits] at fit
  | .list element, path, docs, type, v, mirrors, fit => by
    rw [Mirrors] at mirrors
    obtain ⟨inner, rfl, mirrors⟩ := mirrors
    cases v with
    | array items =>
      simp only [SchemaNode.fits, List.all_eq_true] at fit
      rw [lowerFor, ApiType.project, Reshaping.value, Json.array.injEq]
      · exact List.map_congr_left fun item mem => project_eq_toApi element mirrors (fit item mem)
      · simp
    | _ => simp [SchemaNode.fits] at fit
  | .map value, path, docs, type, v, mirrors, fit => by
    rw [Mirrors] at mirrors
    obtain ⟨serial, inner, rfl, mirrors⟩ := mirrors
    cases v with
    | object members =>
      simp only [SchemaNode.fits, List.all_eq_true] at fit
      have lowered : lowerFor (.list (.object (entryRecord serial inner))) (.object members) =
        entriesOf members := rfl
      rw [lowered, entriesOf, ApiType.project]
      simp only [Reshaping.value, toApi, Json.members?, entriesOf, List.map_map, Json.array.injEq]
      refine List.map_congr_left fun member mem => ?_
      refine (project_record serial inner member.1 member.2).trans ?_
      rw [project_eq_toApi value mirrors (fit member mem)]
      rfl
    | _ => simp [SchemaNode.fits] at fit
  | .union _, path, docs, type, v, mirrors, fit => by
    simp [SchemaNode.fits] at fit
  | .reference _, path, docs, type, v, mirrors, fit => by
    simp [SchemaNode.fits] at fit
  | .validated _, path, docs, type, v, mirrors, fit => by
    simp [SchemaNode.fits] at fit

/-- Projecting an object that fits its keys to fields that mirror them is its reshaping. -/
theorem projectFields_eq_toApi : ∀ (nodes : List (String × SchemaNode)) {parent : String}
    {tree : Tree} {skip : List String} {fields : List Field} {members : List (String × Json)}
    {get : String → Option Json},
    MirrorsFields parent tree skip fields nodes → SchemaNode.areFit members nodes = true →
    (∀ key, get key = Keyed.get? key members) →
    (fields.map fun field => (field.name, field.projectWith get)) =
      toApi.fields tree skip members nodes
  | [], parent, tree, skip, fields, members, get, mirrors, fit, stored => by
    rw [MirrorsFields] at mirrors
    rw [mirrors, Reshaping.fields]
    rfl
  | (key, node) :: rest, parent, tree, skip, fields, members, get, mirrors, fit, stored => by
    rw [MirrorsFields] at mirrors
    rw [SchemaNode.areFit, Bool.and_eq_true] at fit
    rw [Reshaping.fields]
    split_ifs at mirrors ⊢ with hidden
    · exact projectFields_eq_toApi rest mirrors fit.2 stored
    · rcases documented : Keyed.get? key tree with _ | docs
      · rw [documented] at mirrors
        exact projectFields_eq_toApi rest mirrors fit.2 stored
      · rw [documented] at mirrors
        obtain ⟨field, later, rfl, named, source, mirrors, mirrorsLater⟩ := mirrors
        have value : field.projectWith get =
            toApi.value (some docs) node ((Keyed.get? key members).getD .null) := by
          rw [field.projectWith_eq, source, stored]
          rcases found : Keyed.get? key members with _ | v
          · rw [Option.getD_none, ApiType.project_null, toApi.value_null]
          · rw [found] at fit
            exact project_eq_toApi node mirrors fit.1
        rw [List.map_cons, named, value,
          projectFields_eq_toApi rest mirrorsLater fit.2 stored]
        rfl

end

/-! ## Documents -/

/-- The members of a document reshaped by its definition. -/
def Reshaping.document (r : Reshaping) (d : Definition) (members : List (String × Json)) :
    List (String × Json) :=
  match d.schema with
  | .object nodes => r.fields d.docs d.skipFields members nodes
  | _ => []

namespace Synthesizer

/-- A document that fits its definition's schema projects to its visible keys under their API names,
with entry records for mappings, and the document's visible part can be read off the projection. -/
theorem project_eq_rewritten (catalog : Catalog) (strict : Bool) (d : Definition)
    (object : ObjectType) (given : ((new catalog strict).synthesize d).1 = .ok object)
    (clear : Unambiguous (claimsOf catalog strict d)) (members : List (String × Json))
    (fit : d.schema.fits (.object members) = true) (i : Instance)
    (stored : ∀ key, i.get? key = Keyed.get? key members) :
    object.project i = toApi.document d members ∧
      ofApi.document d (object.project i) = visible.document d members := by
  obtain ⟨nodes, schema, -, distinct, fields⟩ := synthesize_mirrors given clear
  rw [schema, SchemaNode.fits] at fit
  have projected : object.project i = toApi.fields d.docs d.skipFields members nodes := by
    rw [ObjectType.project, ObjectType.projectWith_eq _ distinct,
      projectFields_eq_toApi nodes fields fit stored]
  simp only [Reshaping.document, schema, projected, true_and]
  exact ofApi_toApi_fields nodes fields fit (fields.distinct_toApi distinct members)
    (List.Subset.refl _)

/-- A service with mappings in a list, in a mapping and around lists, and keys that are not
generated. -/
def portsService : Definition where
  kind := .service
  name := "Service"
  description := none
  schema := .object
    [("$schema", .scalar .string),
     ("env_vars", .map (.map (.scalar .string))),
     ("volumes", .list (.map (.object [("host_path", .scalar .string)]))),
     ("open_ports", .optional (.map (.list (.scalar .integer)))),
     ("health_check", .optional (.object [("retry_count", .scalar .integer)])),
     ("internal_id", .scalar .string),
     ("owner", .scalar .any)]
  docs :=
    [("owner", .text "The owner"),
     ("env_vars", .text "Variables"),
     ("volumes", .nested none
       [(valueTerm, .nested none [("host_path", .text "A path")])]),
     ("open_ports", .text "Ports"),
     ("health_check", .nested none [("retry_count", .text "How often")]),
     ("internal_id", .text "An id")]
  skipFields := ["internal_id"]
  discriminator := none

/-- A document of the service, without the ports. -/
def portsDocument : Document where
  kind := .service
  members :=
    [("owner", .object [("name", .string "me")]),
     ("internal_id", .string "7"),
     ("health_check", .null),
     ("volumes", .array [.object [("data", .object [("host_path", .string "/data")])]]),
     ("env_vars", .object [("all", .object [("HOME", .string "/"), ("A_B", .null)])]),
     ("$schema", .string "s")]

theorem portsDocument_rewritten :
    let members :=
      [("envVars", entriesOf [("all", entriesOf [("HOME", .string "/"), ("A_B", .null)])]),
       ("volumes", .array [entriesOf [("data", .object [("hostPath", .string "/data")])]]),
       ("openPorts", .null),
       ("healthCheck", .null),
       ("owner", .object [("name", .string "me")])]
    ∃ object, ((new ⟨[portsService]⟩ false).synthesize portsService).1 = .ok object ∧
      object.project (.ofDocument portsDocument) = members ∧
      ofApi.document portsService members =
        [("env_vars", .object [("all", .object [("HOME", .string "/"), ("A_B", .null)])]),
         ("volumes", .array [.object [("data", .object [("host_path", .string "/data")])]]),
         ("open_ports", .null),
         ("health_check", .null),
         ("owner", .object [("name", .string "me")])] := by
  have clear : Unambiguous (claimsOf ⟨[portsService]⟩ false portsService) :=
    unambiguous_of_nodup (by decide)
  obtain ⟨projected, restored⟩ := project_eq_rewritten ⟨[portsService]⟩ false portsService _ rfl
    clear portsDocument.members rfl (.ofDocument portsDocument) fun _ => rfl
  rw [projected] at restored
  exact ⟨_, rfl, projected, restored⟩

end Synthesizer

end ApiSchema
