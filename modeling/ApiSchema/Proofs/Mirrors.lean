import Mathlib.Data.List.Nodup
import ApiSchema.Proofs.Transparency

/-!
# Types that mirror their schema

A type mirrors a schema node if it has an object for each object node, with one field for each
visible key in the node's order, a list for each list, and a list of entry records for each mapping
(`Mirrors`).  The walk without a registry gives types that mirror their nodes; where no name of the
walk is claimed by two constructs, so does the synthesis of a definition (`synthesize_mirrors`).
-/

namespace ApiSchema

open Documentation (Entry Tree valueTerm)

/-! ## Visible fields -/

/-- The fields of an object that are generated: those whose keys are not hidden and have
documentation. -/
def visibleFields (skip : List String) (tree : Tree) (nodes : List (String × SchemaNode)) :
    List (String × SchemaNode) :=
  nodes.filter fun (key, _) => !isHiddenKey skip key && Keyed.has key tree

/-- The keys of an object that are generated. -/
def visibleKeys (skip : List String) (tree : Tree) (nodes : List (String × SchemaNode)) :
    List String :=
  (visibleFields skip tree nodes).map Prod.fst

/-- The documentation of a mapping's values, if the mapping's documentation has it. -/
def valueEntry : Option Entry → Option Entry
  | some (.nested _ fields) => Keyed.get? valueTerm fields
  | docs => docs

section

variable {skip : List String} {tree : Tree} {key : String} {node : SchemaNode}
  {rest : List (String × SchemaNode)}

theorem visibleFields_of_hidden (hidden : isHiddenKey skip key = true) :
    visibleFields skip tree ((key, node) :: rest) = visibleFields skip tree rest := by
  simp [visibleFields, hidden]

theorem visibleFields_of_undocumented (missing : Keyed.get? key tree = none) :
    visibleFields skip tree ((key, node) :: rest) = visibleFields skip tree rest := by
  simp [visibleFields, Keyed.has, missing]

theorem visibleFields_of_visible (shown : ¬ isHiddenKey skip key = true) {docs : Entry}
    (documented : Keyed.get? key tree = some docs) :
    visibleFields skip tree ((key, node) :: rest) =
      (key, node) :: visibleFields skip tree rest := by
  simp [visibleFields, Keyed.has, documented, shown]

theorem visibleKeys_of_hidden (hidden : isHiddenKey skip key = true) :
    visibleKeys skip tree ((key, node) :: rest) = visibleKeys skip tree rest :=
  congrArg (List.map Prod.fst) (visibleFields_of_hidden hidden)

theorem visibleKeys_of_undocumented (missing : Keyed.get? key tree = none) :
    visibleKeys skip tree ((key, node) :: rest) = visibleKeys skip tree rest :=
  congrArg (List.map Prod.fst) (visibleFields_of_undocumented missing)

theorem visibleKeys_of_visible (shown : ¬ isHiddenKey skip key = true) {docs : Entry}
    (documented : Keyed.get? key tree = some docs) :
    visibleKeys skip tree ((key, node) :: rest) = key :: visibleKeys skip tree rest :=
  congrArg (List.map Prod.fst) (visibleFields_of_visible shown documented)

theorem shown_of_mem_visibleKeys {nodes : List (String × SchemaNode)}
    (mem : key ∈ visibleKeys skip tree nodes) :
    isHiddenKey skip key = false ∧ Keyed.has key tree = true := by
  obtain ⟨⟨key, node⟩, visible, rfl⟩ := List.mem_map.1 mem
  simpa using (List.mem_filter.1 visible).2

end

/-! ## Mirrors -/

namespace ApiType

/-- The objects that a type gives to a union. -/
def objects : ApiType → List ObjectType
  | .object o => [o]
  | .union u => u.members
  | .scalar _ => []
  | .list _ => []

/-- A union of the first type takes in the second: the members of a union include the objects of
its alternatives, and a union of simple types is simple. -/
def Admits : ApiType → ApiType → Prop
  | .scalar _, .scalar _ => True
  | .union u, .object o => o ∈ u.members
  | .union u, .union inner => inner.members ⊆ u.members
  | _, _ => False

end ApiType

mutual

/-- The type, asked for at a path, is made of what the node is made of. -/
def Mirrors (path : String) (docs : Option Entry) : SchemaNode → ApiType → Prop
  | .scalar _, type => ∃ scalar, type = .scalar scalar
  | .optional inner, type => Mirrors path docs inner type
  | .union nodes, type => MirrorsAlternatives path docs 0 type nodes
  | .object nodes, type =>
    ∃ own tree object, docs = some (.nested own tree) ∧ type = .object object ∧
      object.name = path ∧ (object.fields.map Field.name).Nodup ∧
      MirrorsFields path tree [] object.fields nodes
  | .list element, type => ∃ inner, type = .list inner ∧ Mirrors path docs element inner
  | .map value, type =>
    ∃ serial inner, type = .list (.object (entryRecord serial inner)) ∧
      Mirrors path (valueEntry docs) value inner
  | .reference _, type => ∃ named : NamedType, type = named.toType
  | .validated constraint, type => MirrorsConstraint path docs type constraint

/-- The type is made of what the constraint admits. -/
def MirrorsConstraint (path : String) (docs : Option Entry) (type : ApiType) : Constraint → Prop
  | .documentName _ => ∃ named : NamedType, type = named.toType
  | .alternatives nodes => MirrorsAlternatives path docs 0 type nodes
  | .custom _ => False

/-- The type takes in a type of each alternative, from an index on. -/
def MirrorsAlternatives (path : String) (docs : Option Entry) (index : Nat) (type : ApiType) :
    List SchemaNode → Prop
  | [] => True
  | node :: rest =>
    (∃ part, type.Admits part ∧ Mirrors (alternativePath path index) docs node part) ∧
      MirrorsAlternatives path docs (index + 1) type rest

/-- There is one field for each visible key, in the order of the keys: under the key's API name,
read from the key, and with a type that mirrors the key's node. -/
def MirrorsFields (parent : String) (tree : Tree) (skip : List String) (fields : List Field) :
    List (String × SchemaNode) → Prop
  | [] => fields = []
  | (key, node) :: rest =>
    if isHiddenKey skip key then MirrorsFields parent tree skip fields rest
    else
      match Keyed.get? key tree with
      | none => MirrorsFields parent tree skip fields rest
      | some docs => ∃ field later, fields = field :: later ∧ field.name = KeyName.toCamel key ∧
          field.source = key ∧ Mirrors (fieldPath parent key) (some docs) node field.type ∧
          MirrorsFields parent tree skip later rest

end

/-- The object is made of what the definition's schema is made of. -/
def Definition.Mirrored (d : Definition) (object : ObjectType) : Prop :=
  ∃ nodes, d.schema = .object nodes ∧ object.name = d.name ∧
    (object.fields.map Field.name).Nodup ∧
    MirrorsFields d.name d.docs d.skipFields object.fields nodes

/-- The fields are read from the visible keys and named after them. -/
theorem MirrorsFields.keys {parent : String} {tree : Tree} {skip : List String}
    {nodes : List (String × SchemaNode)} {fields : List Field}
    (mirrors : MirrorsFields parent tree skip fields nodes) :
    fields.map (fun field => (field.source, field.name)) =
      (visibleKeys skip tree nodes).map fun key => (key, KeyName.toCamel key) := by
  induction nodes generalizing fields with
  | nil =>
    rw [MirrorsFields] at mirrors
    rw [mirrors]
    rfl
  | cons entry rest ih =>
    obtain ⟨key, node⟩ := entry
    rw [MirrorsFields] at mirrors
    split_ifs at mirrors with hidden
    · rw [visibleKeys_of_hidden hidden]
      exact ih mirrors
    · rcases documented : Keyed.get? key tree with _ | docs
      · rw [documented] at mirrors
        rw [visibleKeys_of_undocumented documented]
        exact ih mirrors
      · rw [documented] at mirrors
        obtain ⟨field, later, rfl, named, source, _, mirrorsLater⟩ := mirrors
        rw [visibleKeys_of_visible hidden documented]
        simp only [List.map_cons, named, source, ih mirrorsLater]

theorem MirrorsFields.names {parent : String} {tree : Tree} {skip : List String}
    {nodes : List (String × SchemaNode)} {fields : List Field}
    (mirrors : MirrorsFields parent tree skip fields nodes) :
    fields.map Field.name = (visibleKeys skip tree nodes).map KeyName.toCamel := by
  have names := congrArg (List.map Prod.snd) mirrors.keys
  simpa only [List.map_map, Function.comp_def] using names

/-- Where the fields have distinct names, the visible keys are distinct. -/
theorem MirrorsFields.nodup_visibleKeys {parent : String} {tree : Tree} {skip : List String}
    {nodes : List (String × SchemaNode)} {fields : List Field}
    (mirrors : MirrorsFields parent tree skip fields nodes)
    (distinct : (fields.map Field.name).Nodup) : (visibleKeys skip tree nodes).Nodup := by
  rw [mirrors.names] at distinct
  exact List.Nodup.of_map _ distinct

/-! ## Types with and without serial numbers -/

theorem UnionType.members_unnumbered (union : UnionType) :
    union.unnumbered.members = union.members.map ObjectType.unnumbered := by
  rcases union with ⟨name, description, members⟩
  exact unnumberedObjects_eq_map members

theorem ObjectType.fields_unnumbered (object : ObjectType) :
    object.unnumbered.fields = object.fields.map Field.unnumbered := by
  rcases object with ⟨serial, name, description, fields, discriminator⟩
  exact unnumberedFields_eq_map fields

theorem Field.type_unnumbered (field : Field) : field.unnumbered.type = field.type.unnumbered := by
  cases field
  rfl

/-- Objects without serial numbers that some objects give come from some of these. -/
theorem exists_numbered {objects : List ObjectType} :
    ∀ {bare : List ObjectType}, bare ⊆ objects.map ObjectType.unnumbered →
      ∃ part, part.map ObjectType.unnumbered = bare ∧ part ⊆ objects
  | [], _ => ⟨[], rfl, List.nil_subset _⟩
  | first :: rest, subset => by
    obtain ⟨mem, mems⟩ := List.cons_subset.1 subset
    obtain ⟨object, member, rfl⟩ := List.mem_map.1 mem
    obtain ⟨part, rfl, included⟩ := exists_numbered mems
    exact ⟨object :: part, rfl, List.cons_subset.2 ⟨member, included⟩⟩

/-- What a union takes in without serial numbers, it takes in with them. -/
theorem ApiType.Admits.numbered {type part : ApiType} (admits : type.unnumbered.Admits part) :
    ∃ numbered, numbered.unnumbered = part ∧ type.Admits numbered := by
  cases type with
  | scalar scalar =>
    cases part with
    | scalar other => exact ⟨.scalar other, rfl, trivial⟩
    | object _ | union _ | list _ => exact admits.elim
  | union union =>
    cases part with
    | object object =>
      have mem : object ∈ union.unnumbered.members := admits
      rw [union.members_unnumbered] at mem
      obtain ⟨member, inside, rfl⟩ := List.mem_map.1 mem
      exact ⟨.object member, rfl, inside⟩
    | union inner =>
      rcases inner with ⟨name, description, bare⟩
      have subset : bare ⊆ union.unnumbered.members := admits
      rw [union.members_unnumbered] at subset
      obtain ⟨members, same, included⟩ := exists_numbered subset
      refine ⟨.union ⟨name, description, members⟩, ?_, included⟩
      rw [ApiType.unnumbered, UnionType.unnumbered, unnumberedObjects_eq_map, same]
    | scalar _ | list _ => exact admits.elim
  | object _ | list _ => cases part <;> exact admits.elim

theorem exists_scalar_of_unnumbered {type : ApiType} {scalar : ApiScalar}
    (same : type.unnumbered = .scalar scalar) : type = .scalar scalar := by
  cases type <;> cases same
  rfl

theorem exists_list_of_unnumbered {type inner : ApiType} (same : type.unnumbered = .list inner) :
    ∃ element, type = .list element ∧ element.unnumbered = inner := by
  cases type <;> cases same
  exact ⟨_, rfl, rfl⟩

theorem exists_object_of_unnumbered {type : ApiType} {bare : ObjectType}
    (same : type.unnumbered = .object bare) :
    ∃ object, type = .object object ∧ object.unnumbered = bare := by
  cases type <;> cases same
  exact ⟨_, rfl, rfl⟩

theorem exists_named_of_unnumbered {type : ApiType} {bare : NamedType}
    (same : type.unnumbered = bare.toType) : ∃ named : NamedType, type = named.toType := by
  cases type with
  | object object => exact ⟨.object object, rfl⟩
  | union union => exact ⟨.union union, rfl⟩
  | scalar _ | list _ => cases bare <;> cases same

/-- An object that is an entry record without its serial numbers is one with them. -/
theorem exists_entryRecord_of_unnumbered {object : ObjectType} {serial : Nat} {inner : ApiType}
    (same : object.unnumbered = entryRecord serial inner) :
    ∃ value, object = entryRecord object.serial value ∧ value.unnumbered = inner := by
  rcases object with ⟨number, name, description, fields, discriminator⟩
  rw [ObjectType.unnumbered, unnumberedFields_eq_map, entryRecord] at same
  simp only [ObjectType.mk.injEq] at same
  obtain ⟨-, rfl, rfl, fields_eq, rfl⟩ := same
  obtain ⟨first, rest, rfl, key_eq, rest_eq⟩ := List.map_eq_cons_iff.1 fields_eq
  obtain ⟨second, others, rfl, value_eq, others_eq⟩ := List.map_eq_cons_iff.1 rest_eq
  rw [List.map_eq_nil_iff.1 others_eq]
  rcases first with ⟨name, source, type, required, description⟩
  rcases second with ⟨name', source', value, required', description'⟩
  simp only [Field.unnumbered, Field.ofKey, Field.mk.injEq] at key_eq value_eq
  obtain ⟨rfl, rfl, type_eq, rfl, rfl⟩ := key_eq
  obtain ⟨rfl, rfl, rfl, rfl, rfl⟩ := value_eq
  refine ⟨value, ?_, rfl⟩
  rw [exists_scalar_of_unnumbered type_eq, entryRecord, ← entryName_unnumbered value,
    ← value.fragment_unnumbered]
  rfl

mutual

theorem Mirrors.numbered : ∀ (node : SchemaNode) {path : String} {docs : Option Entry}
    {type : ApiType}, Mirrors path docs node type.unnumbered → Mirrors path docs node type
  | .scalar kind, path, docs, type, mirrors => by
    rw [Mirrors] at mirrors ⊢
    obtain ⟨scalar, same⟩ := mirrors
    exact ⟨scalar, exists_scalar_of_unnumbered same⟩
  | .optional inner, path, docs, type, mirrors => by
    rw [Mirrors] at mirrors ⊢
    exact Mirrors.numbered inner mirrors
  | .union nodes, path, docs, type, mirrors => by
    rw [Mirrors] at mirrors ⊢
    exact MirrorsAlternatives.numbered nodes mirrors
  | .object nodes, path, docs, type, mirrors => by
    rw [Mirrors] at mirrors ⊢
    obtain ⟨own, tree, bare, nested, same, named, distinct, fields⟩ := mirrors
    obtain ⟨object, rfl, rfl⟩ := exists_object_of_unnumbered same
    rw [object.name_unnumbered] at named
    rw [object.fields_unnumbered] at distinct fields
    refine ⟨own, tree, object, nested, rfl, named, ?_, MirrorsFields.numbered nodes fields⟩
    simpa only [List.map_map, Function.comp_def, Field.name_unnumbered] using distinct
  | .list element, path, docs, type, mirrors => by
    rw [Mirrors] at mirrors ⊢
    obtain ⟨inner, same, mirrors⟩ := mirrors
    obtain ⟨part, rfl, rfl⟩ := exists_list_of_unnumbered same
    exact ⟨part, rfl, Mirrors.numbered element mirrors⟩
  | .map value, path, docs, type, mirrors => by
    rw [Mirrors] at mirrors ⊢
    obtain ⟨serial, inner, same, mirrors⟩ := mirrors
    obtain ⟨element, rfl, same_element⟩ := exists_list_of_unnumbered same
    obtain ⟨object, rfl, same_object⟩ := exists_object_of_unnumbered same_element
    obtain ⟨type, made, rfl⟩ := exists_entryRecord_of_unnumbered same_object
    exact ⟨object.serial, type, by rw [← made], Mirrors.numbered value mirrors⟩
  | .reference kind, path, docs, type, mirrors => by
    rw [Mirrors] at mirrors ⊢
    obtain ⟨named, same⟩ := mirrors
    exact exists_named_of_unnumbered same
  | .validated constraint, path, docs, type, mirrors => by
    rw [Mirrors] at mirrors ⊢
    exact MirrorsConstraint.numbered constraint mirrors

theorem MirrorsConstraint.numbered : ∀ (constraint : Constraint) {path : String}
    {docs : Option Entry} {type : ApiType},
    MirrorsConstraint path docs type.unnumbered constraint →
      MirrorsConstraint path docs type constraint
  | .documentName target, path, docs, type, mirrors => by
    rw [MirrorsConstraint] at mirrors ⊢
    obtain ⟨named, same⟩ := mirrors
    exact exists_named_of_unnumbered same
  | .alternatives nodes, path, docs, type, mirrors => by
    rw [MirrorsConstraint] at mirrors ⊢
    exact MirrorsAlternatives.numbered nodes mirrors
  | .custom name, path, docs, type, mirrors => by
    rw [MirrorsConstraint] at mirrors
    exact mirrors.elim

theorem MirrorsAlternatives.numbered : ∀ (nodes : List SchemaNode) {path : String}
    {docs : Option Entry} {index : Nat} {type : ApiType},
    MirrorsAlternatives path docs index type.unnumbered nodes →
      MirrorsAlternatives path docs index type nodes
  | [], path, docs, index, type, mirrors => by rw [MirrorsAlternatives]; trivial
  | node :: rest, path, docs, index, type, mirrors => by
    rw [MirrorsAlternatives] at mirrors ⊢
    obtain ⟨⟨part, admits, mirrors⟩, later⟩ := mirrors
    obtain ⟨numbered, rfl, taken⟩ := admits.numbered
    exact ⟨⟨numbered, taken, Mirrors.numbered node mirrors⟩,
      MirrorsAlternatives.numbered rest later⟩

theorem MirrorsFields.numbered : ∀ (nodes : List (String × SchemaNode)) {parent : String}
    {tree : Tree} {skip : List String} {fields : List Field},
    MirrorsFields parent tree skip (fields.map Field.unnumbered) nodes →
      MirrorsFields parent tree skip fields nodes
  | [], parent, tree, skip, fields, mirrors => by
    rw [MirrorsFields] at mirrors ⊢
    exact List.map_eq_nil_iff.1 mirrors
  | (key, node) :: rest, parent, tree, skip, fields, mirrors => by
    rw [MirrorsFields] at mirrors ⊢
    split_ifs at mirrors ⊢
    · exact MirrorsFields.numbered rest mirrors
    · rcases documented : Keyed.get? key tree with _ | docs
      · rw [documented] at mirrors
        exact MirrorsFields.numbered rest mirrors
      · rw [documented] at mirrors
        obtain ⟨bare, bares, same, named, source, mirrors, mirrorsLater⟩ := mirrors
        obtain ⟨field, later, rfl, rfl, rfl⟩ := List.map_eq_cons_iff.1 same
        rw [field.name_unnumbered] at named
        rw [field.source_unnumbered] at source
        rw [field.type_unnumbered] at mirrors
        exact ⟨field, later, rfl, named, source, Mirrors.numbered node mirrors,
          MirrorsFields.numbered rest mirrorsLater⟩

end

theorem Definition.Mirrored.numbered {d : Definition} {object : ObjectType}
    (mirrored : d.Mirrored object.unnumbered) : d.Mirrored object := by
  obtain ⟨nodes, schema, named, distinct, fields⟩ := mirrored
  rw [object.name_unnumbered] at named
  rw [object.fields_unnumbered] at distinct fields
  refine ⟨nodes, schema, named, ?_, fields.numbered⟩
  simpa only [List.map_map, Function.comp_def, Field.name_unnumbered] using distinct

end ApiSchema
