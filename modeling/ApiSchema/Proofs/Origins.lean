import Mathlib.Data.List.Nodup
import ApiSchema.Proofs.Closure
import ApiSchema.Proofs.ObjectPlaces
import ApiSchema.Proofs.Permanence

/-!
# Origins of registered types

Objects are registered in three ways: for a definition, for an object at a place inside one, and for
the entries of a mapping.  Unions are registered in two: for the alternatives of a union, where an
instance that is there already is left out, and for the definitions of a kind, where none is left
out.  Every type that a walk gives or registers has one of these origins (`originates_afterCalls`).
-/

namespace ApiSchema

open Documentation (Entry Tree valueTerm)
open Synthesis

/-- Fields read from the keys, under names of their own, each named after its key, which is none of
the system's. -/
structure MadeOfKeys (keys : List String) (fields : List Field) : Prop where
  sources : fields.map Field.source = keys
  distinct : (fields.map Field.name).Nodup
  named : ∀ field ∈ fields,
    field.name = KeyName.toCamel field.source ∧ field.name.toList.head? ≠ some systemMark

theorem madeOfKeys_nil : MadeOfKeys [] [] := ⟨rfl, List.nodup_nil, by simp⟩

/-- A field under a new name, that of a key which is none of the system's, may come next. -/
theorem MadeOfKeys.append {keys : List String} {done : List Field} (made : MadeOfKeys keys done)
    {key : String} {field : Field} (source : field.source = key)
    (new : done.find? (·.name == field.name) = none) (named : field.name = KeyName.toCamel key)
    (shown : field.name.toList.head? ≠ some systemMark) :
    MadeOfKeys (keys ++ [key]) (done ++ [field]) := by
  refine ⟨by simp [made.sources, source], ?_, fun other mem => ?_⟩
  · rw [List.map_append]
    exact List.nodup_append.2 ⟨made.distinct, List.nodup_singleton _, by simpa using new⟩
  · rcases List.mem_append.1 mem with mem | mem
    · exact made.named other mem
    · rw [List.mem_singleton.1 mem, source]
      exact ⟨named, shown⟩

/-- How a registered object was made. -/
inductive ObjectOrigin (known : Definition → Prop) : ObjectType → Prop where
  | document {d : Definition} (is_known : known d) {nodes : List (String × SchemaNode)}
      (schema : d.schema = .object nodes) (serial : Nat) {fields : List Field}
      (nonempty : fields ≠ []) (made : MadeOfKeys (visibleKeys d.skipFields d.docs nodes) fields) :
      ObjectOrigin known ⟨serial, d.name, d.description, fields, d.discriminator⟩
  | nested {d : Definition} (is_known : known d) {place : ObjectPlace} (inside : place ∈ d.places)
      (serial : Nat) {fields : List Field} (nonempty : fields ≠ [])
      (made : MadeOfKeys (visibleKeys [] place.tree place.nodes) fields) :
      ObjectOrigin known ⟨serial, place.name d.name, place.own, fields, none⟩
  | record (serial : Nat) (value : ApiType) : ObjectOrigin known (entryRecord serial value)

/-- How a registered union was made. -/
inductive UnionOrigin (catalog : Catalog) (known : Definition → Prop) : UnionType → Prop where
  | alternatives (name : String) (description : Option String) {members : List ObjectType}
      (nonempty : members ≠ []) (distinct : (members.map ObjectType.serial).Nodup)
      (objects : ∀ m ∈ members, ObjectOrigin known m) :
      UnionOrigin catalog known ⟨name, description, members⟩
  | variants (kind : DocumentKind) {members : List ObjectType}
      (several : 2 ≤ (catalog.definitions kind).length)
      (names : members.map ObjectType.name = (catalog.definitions kind).map Definition.name)
      (objects : ∀ m ∈ members, ObjectOrigin known m) :
      UnionOrigin catalog known ⟨kind.typeName, none, members⟩

/-- The type has an origin. -/
def NamedType.Originates (catalog : Catalog) (known : Definition → Prop) : NamedType → Prop
  | .object o => ObjectOrigin known o
  | .union u => UnionOrigin catalog known u

/-- What the type names has an origin. -/
def ApiType.Originates (catalog : Catalog) (known : Definition → Prop) (type : ApiType) : Prop :=
  ∀ named, type.named? = some named → named.Originates catalog known

/-- All types and cached records have origins. -/
structure Registry.Originates (catalog : Catalog) (known : Definition → Prop) (r : Registry) :
    Prop where
  types : ∀ type ∈ r.types, type.Originates catalog known
  records : ∀ {fragment record}, Keyed.get? fragment r.entries = some record →
    ObjectOrigin known record

section

variable {catalog : Catalog} {known : Definition → Prop} {r : Registry}

theorem ObjectOrigin.toType {object : ObjectType} (origin : ObjectOrigin known object) :
    (ApiType.object object).Originates catalog known := by
  rintro named ⟨⟩
  exact origin

theorem UnionOrigin.toType {union : UnionType} (origin : UnionOrigin catalog known union) :
    (ApiType.union union).Originates catalog known := by
  rintro named ⟨⟩
  exact origin

theorem ApiType.originates_scalar (s : ApiScalar) :
    (ApiType.scalar s).Originates catalog known := by
  rintro named ⟨⟩

theorem UnionOrigin.objects {union : UnionType} (origin : UnionOrigin catalog known union) :
    ∀ m ∈ union.members, ObjectOrigin known m := by
  cases origin with
  | alternatives _ _ _ _ objects => exact objects
  | variants _ _ _ objects => exact objects

theorem UnionOrigin.nonempty {union : UnionType} (origin : UnionOrigin catalog known union) :
    union.members ≠ [] := by
  cases origin with
  | alternatives _ _ nonempty => exact nonempty
  | variants kind several names =>
    rintro rfl
    have length := congrArg List.length names
    simp only [List.length_map, List.length_nil] at length
    omega

namespace Registry

theorem mem_putType {type other : NamedType} {types : List NamedType}
    (mem : other ∈ putType type types) : other = type ∨ other ∈ types := by
  induction types with
  | nil => exact .inl (List.mem_singleton.1 mem)
  | cons first rest ih =>
    rw [putType] at mem
    split_ifs at mem
    · rcases List.mem_cons.1 mem with same | mem
      · exact .inl same
      · exact .inr (List.mem_cons_of_mem _ mem)
    · rcases List.mem_cons.1 mem with rfl | mem
      · exact .inr (List.mem_cons_self ..)
      · exact (ih mem).imp_right (List.mem_cons_of_mem _)

theorem originates_empty : empty.Originates catalog known :=
  ⟨by simp [empty], by simp [empty, Keyed.get?]⟩

theorem Originates.advise (origins : r.Originates catalog known) (advisory : Advisory) :
    (r.advise advisory).Originates catalog known := ⟨origins.types, origins.records⟩

theorem Originates.register (origins : r.Originates catalog known) {type : NamedType}
    (origin : type.Originates catalog known) : (r.register type).Originates catalog known := by
  refine ⟨fun other mem => ?_, origins.records⟩
  rcases mem_putType mem with rfl | mem
  · exact origin
  · exact origins.types other mem

theorem Originates.keepRecord (origins : r.Originates catalog known) (fragment : String)
    {record : ObjectType} (origin : ObjectOrigin known record) :
    (r.keepRecord fragment record).Originates catalog known := by
  refine ⟨origins.types, fun found => ?_⟩
  rw [Registry.keepRecord, Keyed.get?_insert] at found
  split_ifs at found
  · cases found
    exact origin
  · exact origins.records found

theorem Originates.get? (origins : r.Originates catalog known) {name : String} {type : NamedType}
    (found : r.get? name = some type) : type.Originates catalog known :=
  origins.types type (mem_of_get? found)

end Registry

end

/-! ## Steps -/

/-- From a registry whose types have origins, a computation that succeeds leads to one whose types
have origins, and gives what `Q` says. -/
def Traces {α : Type} (catalog : Catalog) (known : Definition → Prop) (m : Synthesis α)
    (Q : α → Prop) : Prop :=
  ∀ r a r', r.Originates catalog known → m.run r = (.ok a, r') → r'.Originates catalog known ∧ Q a

section

variable {catalog : Catalog} {known : Definition → Prop} {α β : Type}

theorem traces_pure {a : α} {Q : α → Prop} (q : Q a) : Traces catalog known (pure a) Q := by
  intro r b r' origins run
  cases run
  exact ⟨origins, q⟩

theorem traces_fail (path : String) (fault : SynthesisFault) (Q : α → Prop) :
    Traces catalog known (Synthesis.fail path fault) Q := by
  intro r a r' _ run
  cases run

theorem Traces.bind {m : Synthesis α} {f : α → Synthesis β} {P : α → Prop} {Q : β → Prop}
    (first : Traces catalog known m P) (next : ∀ a, P a → Traces catalog known (f a) Q) :
    Traces catalog known (m >>= f) Q := by
  intro r b r' origins run
  obtain ⟨a, r₁, firstRun, nextRun⟩ := run_bind_ok run
  obtain ⟨origins₁, p⟩ := first r a r₁ origins firstRun
  exact next a p r₁ b r' origins₁ nextRun

theorem traces_advise (path : String) (kind : AdvisoryKind) (message : String) :
    Traces catalog known (Synthesis.advise path kind message) fun _ => True := by
  intro r a r' origins run
  cases run
  exact ⟨origins.advise _, trivial⟩

theorem traces_registerObject {make : Nat → ObjectType}
    (origin : ∀ serial, ObjectOrigin known (make serial)) :
    Traces catalog known (Synthesis.registerObject make) (ObjectOrigin known) := by
  intro r a r' origins run
  cases run
  exact ⟨origins.register (origin _), origin _⟩

theorem traces_registerUnion {union : UnionType} (origin : UnionOrigin catalog known union) :
    Traces catalog known (Synthesis.registerUnion union) (UnionOrigin catalog known) := by
  intro r a r' origins run
  cases run
  exact ⟨origins.register origin, origin⟩

theorem traces_objectNamed? (name : String) :
    Traces catalog known (Synthesis.objectNamed? name) fun found =>
      ∀ object, found = some object → ObjectOrigin known object ∧ object.name = name := by
  intro r a r' origins run
  rw [run_objectNamed?] at run
  rcases look : r.get? name with _ | object | union <;> rw [look] at run <;> cases run
  · exact ⟨origins, by simp⟩
  · refine ⟨origins, ?_⟩
    rintro _ ⟨⟩
    exact ⟨origins.get? look, Registry.name_of_get? look⟩

theorem traces_unionNamed? (name : String) :
    Traces catalog known (Synthesis.unionNamed? name) fun found =>
      ∀ union, found = some union → UnionOrigin catalog known union := by
  intro r a r' origins run
  rw [run_unionNamed?] at run
  rcases look : r.get? name with _ | object | union <;> rw [look] at run <;> cases run
  · exact ⟨origins, by simp⟩
  · refine ⟨origins, ?_⟩
    rintro _ ⟨⟩
    exact origins.get? look

theorem traces_entryRecordFor (value : ApiType) :
    Traces catalog known (Synthesis.entryRecordFor value) (ObjectOrigin known) := by
  intro r a r' origins run
  rw [run_entryRecordFor] at run
  rcases look : Keyed.get? value.fragment r.entries with _ | record
  · simp only [look] at run
    split_ifs at run
    · cases run
    · cases run
      have origin : ObjectOrigin known (entryRecord r.nextSerial value) := .record _ _
      have named : (NamedType.object (entryRecord r.nextSerial value)).Originates catalog known :=
        origin
      exact ⟨(origins.register named).keepRecord _ origin, origin⟩
  · simp only [look] at run
    cases run
    exact ⟨origins, origins.records look⟩

end

/-! ## Conversion -/

namespace Conversion

variable {catalog : Catalog} {known : Definition → Prop}

theorem convertScalar_traces (path : String) (kind : ScalarKind) :
    Traces catalog known (convertScalar path kind) (ApiType.Originates catalog known) := by
  cases kind with
  | any => exact (traces_advise _ _ _).bind fun _ _ => traces_pure (ApiType.originates_scalar _)
  | string | integer | float | boolean => exact traces_pure (ApiType.originates_scalar _)

/-- Adding objects that are not there yet keeps serial numbers distinct. -/
theorem nodup_add {done : List ObjectType} (distinct : (done.map ObjectType.serial).Nodup)
    (candidates : List ObjectType) :
    ((unionMembers.add done candidates).map ObjectType.serial).Nodup := by
  induction candidates generalizing done with
  | nil => exact distinct
  | cons candidate rest ih =>
    refine ih ?_
    dsimp only
    split_ifs with there
    · exact distinct
    · have new : candidate.serial ∉ done.map ObjectType.serial := by simpa using there
      rw [List.map_append]
      exact List.nodup_append.2 ⟨distinct, List.nodup_singleton _, by simpa using new⟩

theorem add_ne_nil {done candidates : List ObjectType} (filled : done ≠ [] ∨ candidates ≠ []) :
    unionMembers.add done candidates ≠ [] := by
  induction candidates generalizing done with
  | nil => exact filled.resolve_right (fun no => no rfl)
  | cons candidate rest ih =>
    refine ih (.inl ?_)
    dsimp only
    split_ifs with there
    · rintro rfl
      simp at there
    · simp

/-- The members of a union of some types: at least one, none twice. -/
theorem unionMembers_traces (path : String) (types : List ApiType)
    (origins : ∀ t ∈ types, t.Originates catalog known) (done : List ObjectType)
    (nonempty : done ≠ [] ∨ types ≠ []) (distinct : (done.map ObjectType.serial).Nodup)
    (objects : ∀ m ∈ done, ObjectOrigin known m) :
    Traces catalog known (unionMembers path done types) fun members =>
      members ≠ [] ∧ (members.map ObjectType.serial).Nodup ∧
        ∀ m ∈ members, ObjectOrigin known m := by
  induction types generalizing done with
  | nil => exact traces_pure ⟨nonempty.resolve_right (fun no => no rfl), distinct, objects⟩
  | cons type rest ih =>
    obtain ⟨origin, later⟩ := List.forall_mem_cons.1 origins
    cases type with
    | object object =>
      refine ih later _ (.inl (add_ne_nil (.inr (List.cons_ne_nil _ _)))) (nodup_add distinct _)
        fun m mem => ?_
      rcases Law.mem_add mem with mem | mem
      · exact objects m mem
      · rw [List.mem_singleton.1 mem]
        exact origin (.object object) rfl
    | union union =>
      have origin : UnionOrigin catalog known union := origin (.union union) rfl
      refine ih later _ (.inl (add_ne_nil (.inr origin.nonempty))) (nodup_add distinct _)
        fun m mem => ?_
      rcases Law.mem_add mem with mem | mem
      · exact objects m mem
      · exact origin.objects m mem
    | list _ | scalar _ => exact traces_fail _ _ _

theorem scalarUnion_traces (c : Conversion) (path : String) (first : ApiScalar)
    (others : List ApiScalar) :
    Traces catalog known (c.scalarUnion path first others) (ApiType.Originates catalog known) := by
  unfold scalarUnion
  split_ifs
  · exact traces_pure (ApiType.originates_scalar _)
  · exact traces_fail _ _ _
  · exact (traces_advise _ _ _).bind fun _ _ => traces_pure (ApiType.originates_scalar _)

theorem unionOf_traces (c : Conversion) (path : String) (description : Option String)
    {types : List ApiType} (nonempty : types ≠ [])
    (origins : ∀ t ∈ types, t.Originates catalog known) :
    Traces catalog known (c.unionOf path description types)
      (ApiType.Originates catalog known) := by
  unfold unionOf
  dsimp only
  split
  · refine (unionMembers_traces path types origins [] (.inr nonempty) List.nodup_nil
      (by simp)).bind fun members ⟨nonempty, distinct, objects⟩ => ?_
    refine (traces_registerUnion (.alternatives path description nonempty distinct objects)).bind
      fun union origin => ?_
    exact traces_pure (UnionOrigin.toType origin)
  · split_ifs
    · exact scalarUnion_traces c path _ _
    · exact traces_fail _ _ _

theorem unionAt_traces (c : Conversion) (path : String) (docs : Option Entry)
    (nodes : List SchemaNode) {alternatives : Synthesis (List ApiType)}
    (traces : Traces catalog known alternatives fun types =>
      types.length = nodes.length ∧ ∀ t ∈ types, t.Originates catalog known) :
    Traces catalog known (c.unionAt path docs nodes alternatives)
      (ApiType.Originates catalog known) := by
  refine (traces_unionNamed? path).bind fun found origin => ?_
  cases found with
  | some union =>
    exact traces_pure (UnionOrigin.toType (origin union rfl))
  | none =>
    dsimp only
    split_ifs with empty
    · exact traces_fail _ _ _
    · refine traces.bind fun types ⟨length, origins⟩ => unionOf_traces c path _ ?_ origins
      rintro rfl
      exact empty (List.isEmpty_iff_length_eq_zero.2 length.symm)

theorem registerFields_traces {name : String} {description discriminator : Option String}
    {fields : List Field} (origin : fields ≠ [] → ∀ serial,
      ObjectOrigin known ⟨serial, name, description, fields, discriminator⟩) :
    Traces catalog known (registerFields name description discriminator fields)
      (ObjectOrigin known) := by
  unfold registerFields
  split_ifs with empty
  · exact traces_fail _ _ _
  · exact traces_registerObject (origin (by simpa using empty))

theorem valueDocs_traces (path : String) (docs : Option Entry) :
    Traces catalog known (valueDocs path docs) (· = valueEntry docs) := by
  rcases docs with _ | _ | ⟨own, fields⟩
  · exact traces_pure rfl
  · exact traces_pure rfl
  · rw [valueDocs, valueEntry]
    rcases Keyed.get? valueTerm fields with _ | entry
    · exact traces_fail _ _ _
    · exact traces_pure rfl

/-- Every type that a reference gives has an origin. -/
def GivesOrigins (catalog : Catalog) (known : Definition → Prop) (c : Conversion) : Prop :=
  ∀ path kind, Traces catalog known (c.resolve path kind) (ApiType.Originates catalog known)

mutual

theorem convert_traces {c : Conversion} (resolves : GivesOrigins catalog known c) {d : Definition}
    (is_known : known d) : ∀ (node : SchemaNode) (pieces : List String) (docs : Option Entry),
      placesOf pieces docs node ⊆ d.places →
      Traces catalog known (convert c (spelled d.name pieces) docs node)
        (ApiType.Originates catalog known)
  | .scalar kind, pieces, docs, inside => by
    rw [convert]
    exact convertScalar_traces _ kind
  | .optional inner, pieces, docs, inside => by
    rw [placesOf] at inside
    rw [convert]
    exact convert_traces resolves is_known inner pieces docs inside
  | .union nodes, pieces, docs, inside => by
    rw [placesOf] at inside
    rw [convert]
    exact unionAt_traces c _ docs nodes
      (convertAlternatives_traces resolves is_known nodes pieces docs 0 inside)
  | .object nodes, pieces, docs, inside => by
    rcases docs with _ | _ | ⟨own, tree⟩
    · simp only [convert]
      exact traces_fail _ _ _
    · simp only [convert]
      exact traces_fail _ _ _
    · simp only [placesOf] at inside
      obtain ⟨here, later⟩ := List.cons_subset.1 inside
      simp only [convert]
      refine (traces_objectNamed? _).bind fun found origin => ?_
      cases found with
      | some object =>
        exact traces_pure (ObjectOrigin.toType (origin object rfl).1)
      | none =>
        refine (convertFields_traces resolves is_known nodes pieces tree [] later
          madeOfKeys_nil).bind fun fields made => ?_
        refine (registerFields_traces fun nonempty serial =>
          .nested is_known here serial nonempty made).bind fun object origin => ?_
        exact traces_pure (ObjectOrigin.toType origin)
  | .list element, pieces, docs, inside => by
    rw [placesOf] at inside
    rw [convert]
    exact (convert_traces resolves is_known element pieces docs inside).bind fun type origin =>
      traces_pure origin
  | .map value, pieces, docs, inside => by
    rw [placesOf] at inside
    rw [convert]
    refine (valueDocs_traces _ docs).bind ?_
    rintro _ rfl
    refine (convert_traces resolves is_known value pieces _ inside).bind fun type _ => ?_
    refine (traces_entryRecordFor type).bind fun record origin => ?_
    exact traces_pure (ObjectOrigin.toType origin)
  | .reference kind, pieces, docs, inside => by
    rw [convert]
    exact resolves _ kind
  | .validated constraint, pieces, docs, inside => by
    rw [placesOf] at inside
    rw [convert]
    exact convertConstraint_traces resolves is_known constraint pieces docs inside

theorem convertConstraint_traces {c : Conversion} (resolves : GivesOrigins catalog known c)
    {d : Definition} (is_known : known d) : ∀ (constraint : Constraint) (pieces : List String)
      (docs : Option Entry), placesOfConstraint pieces docs constraint ⊆ d.places →
      Traces catalog known (convertConstraint c (spelled d.name pieces) docs constraint)
        (ApiType.Originates catalog known)
  | .documentName target, pieces, docs, inside => by
    rw [convertConstraint]
    exact resolves _ target
  | .alternatives nodes, pieces, docs, inside => by
    rw [placesOfConstraint] at inside
    rw [convertConstraint]
    exact unionAt_traces c _ docs nodes
      (convertAlternatives_traces resolves is_known nodes pieces docs 0 inside)
  | .custom name, pieces, docs, inside => by
    rw [convertConstraint]
    exact traces_fail _ _ _

theorem convertAlternatives_traces {c : Conversion} (resolves : GivesOrigins catalog known c)
    {d : Definition} (is_known : known d) : ∀ (nodes : List SchemaNode) (pieces : List String)
      (docs : Option Entry) (index : Nat),
      placesOfAlternatives pieces docs index nodes ⊆ d.places →
      Traces catalog known (convertAlternatives c (spelled d.name pieces) docs index nodes)
        fun types => types.length = nodes.length ∧ ∀ t ∈ types, t.Originates catalog known
  | [], pieces, docs, index, inside => by
    rw [convertAlternatives]
    exact traces_pure ⟨rfl, by simp⟩
  | node :: rest, pieces, docs, index, inside => by
    rw [placesOfAlternatives] at inside
    obtain ⟨here, later⟩ := List.append_subset.1 inside
    rw [convertAlternatives, spelled_alternativePiece]
    refine (convert_traces resolves is_known node _ docs here).bind fun type origin => ?_
    refine (convertAlternatives_traces resolves is_known rest pieces docs _ later).bind
      fun types ⟨length, origins⟩ => ?_
    exact traces_pure ⟨congrArg Nat.succ length, List.forall_mem_cons.2 ⟨origin, origins⟩⟩

/-- The fields of an object are made of its visible keys, after the keys of those that are done. -/
theorem convertFields_traces {c : Conversion} (resolves : GivesOrigins catalog known c)
    {d : Definition} (is_known : known d) : ∀ (nodes : List (String × SchemaNode))
      (pieces : List String) (tree : Tree) (skip : List String) {keys : List String}
      {done : List Field}, placesOfFields pieces tree skip nodes ⊆ d.places → MadeOfKeys keys done →
      Traces catalog known (convertFields c (spelled d.name pieces) tree skip done nodes)
        (MadeOfKeys (keys ++ visibleKeys skip tree nodes))
  | [], pieces, tree, skip, keys, done, inside, made => by
    rw [convertFields]
    exact traces_pure (by simpa [visibleKeys, visibleFields] using made)
  | (key, node) :: rest, pieces, tree, skip, keys, done, inside, made => by
    rw [placesOfFields] at inside
    rw [convertFields]
    split_ifs at inside ⊢ with hidden
    · rw [visibleKeys_of_hidden hidden]
      exact convertFields_traces resolves is_known rest pieces tree skip inside made
    · rcases documented : Keyed.get? key tree with _ | docs
      · rw [visibleKeys_of_undocumented documented]
        simp only [documented] at inside ⊢
        exact (traces_advise _ _ _).bind fun _ _ =>
          convertFields_traces resolves is_known rest pieces tree skip inside made
      · rw [visibleKeys_of_visible hidden documented, List.append_cons]
        simp only [documented] at inside ⊢
        obtain ⟨here, later⟩ := List.append_subset.1 inside
        split
        · exact traces_fail _ _ _
        · rename_i new
          rw [spelled_keyPiece]
          refine (convert_traces resolves is_known node _ _ here).bind fun type _ => ?_
          refine convertFields_traces resolves is_known rest pieces tree skip later
            (made.append rfl new rfl ?_)
          intro mark
          exact hidden (by simp [isHiddenKey, mark])

end

end Conversion

/-! ## Documents -/

section

variable {catalog : Catalog} {strict : Bool} {known : Definition → Prop}

/-- The object of a known definition has an origin and the definition's name. -/
theorem objectWith_traces {d : Definition} (is_known : known d) (busy : List String)
    {resolve : d.name ∉ busy → String → DocumentKind → Synthesis ApiType}
    (resolves : ∀ new, Conversion.GivesOrigins catalog known ⟨strict, resolve new⟩) :
    Traces catalog known (d.objectWith strict busy resolve) fun object =>
      ObjectOrigin known object ∧ object.name = d.name := by
  have origin : Traces catalog known (d.objectWith strict busy resolve) (ObjectOrigin known) := by
    unfold Definition.objectWith
    refine (traces_objectNamed? d.name).bind fun found origin => ?_
    cases found with
    | some object => exact traces_pure (origin object rfl).1
    | none =>
      dsimp only
      split_ifs with new
      · exact traces_fail _ _ _
      · rcases schema : d.schema with _ | _ | _ | nodes | _ | _ | _ | _
        all_goals try exact traces_fail _ _ _
        refine (Conversion.convertFields_traces (resolves new) is_known nodes [] d.docs
          d.skipFields (Definition.subset_places schema) madeOfKeys_nil).bind fun fields made => ?_
        exact Conversion.registerFields_traces fun nonempty serial =>
          .document is_known schema serial nonempty made
  intro r object r' origins run
  obtain ⟨origins', made⟩ := origin r object r' origins run
  exact ⟨origins', made, Registry.name_of_get? (Definition.objectWith_found run)⟩

theorem mapM_traces {f : Definition → Synthesis ObjectType} (variants : List Definition)
    (traces : ∀ d ∈ variants, Traces catalog known (f d) fun object =>
      ObjectOrigin known object ∧ object.name = d.name) :
    Traces catalog known (variants.mapM f) fun objects =>
      objects.map ObjectType.name = variants.map Definition.name ∧
        ∀ object ∈ objects, ObjectOrigin known object := by
  induction variants with
  | nil => exact traces_pure ⟨rfl, by simp⟩
  | cons d rest ih =>
    obtain ⟨first, later⟩ := List.forall_mem_cons.1 traces
    rw [List.mapM_cons]
    refine first.bind fun object ⟨origin, name⟩ => ?_
    refine (ih later).bind fun objects ⟨names, origins⟩ => ?_
    exact traces_pure ⟨by rw [List.map_cons, List.map_cons, name, names],
      List.forall_mem_cons.2 ⟨origin, origins⟩⟩

/-- The type of a kind has an origin, if the catalog's definitions are known. -/
theorem typeOf_traces (inside : ∀ d ∈ catalog.all, known d) (busy : List String) :
    Conversion.GivesOrigins catalog known ⟨strict, catalog.typeOf strict busy⟩ := by
  induction count : (catalog.waiting busy).length using Nat.strongRecOn
    generalizing busy with
  | ind count ih =>
    subst count
    intro path kind
    have traces : ∀ d ∈ catalog.definitions kind,
        Traces catalog known (catalog.objectIn strict busy d) fun object =>
          ObjectOrigin known object ∧ object.name = d.name := by
      intro d mem
      have in_catalog : d ∈ catalog.all := (List.mem_filter.1 mem).1
      refine objectWith_traces (inside d in_catalog) busy fun new => ?_
      exact ih _ (Catalog.length_waiting_lt in_catalog new) (busy ++ [d.name]) rfl
    show Traces catalog known (catalog.typeOf strict busy path kind) _
    rw [Catalog.typeOf_eq]
    rcases definitions : catalog.definitions kind with _ | ⟨first, _ | ⟨second, rest⟩⟩
    · exact traces_fail _ _ _
    · rw [definitions] at traces
      refine (traces first (List.mem_singleton_self first)).bind fun object ⟨origin, _⟩ => ?_
      exact traces_pure (ObjectOrigin.toType origin)
    · rw [definitions] at traces
      refine (traces_unionNamed? kind.typeName).bind fun found origin => ?_
      cases found with
      | some union =>
        exact traces_pure (UnionOrigin.toType (origin union rfl))
      | none =>
        refine (mapM_traces _ traces).bind fun members ⟨names, objects⟩ => ?_
        have several : 2 ≤ (catalog.definitions kind).length := by
          rw [definitions]
          exact Nat.le_add_left 2 rest.length
        rw [← definitions] at names
        refine (traces_registerUnion (.variants kind several names objects)).bind
          fun union origin => ?_
        exact traces_pure (UnionOrigin.toType origin)

end

namespace Synthesizer

variable {known : Definition → Prop}

/-- What holds of a synthesizer of a catalog at every time. -/
structure Originates (catalog : Catalog) (known : Definition → Prop) (s : Synthesizer) : Prop where
  catalog_eq : s.catalog = catalog
  recorded : s.registry.Recorded
  origins : s.registry.Originates catalog known

theorem Originates.run {catalog : Catalog} {s : Synthesizer} (inv : s.Originates catalog known)
    {α : Type} {request : Synthesis α} {Q : α → Prop} {Q' : α → Registry → Prop}
    (traces : Traces catalog known request Q)
    (grows : growth.Leads s.registry s.registry request Q') :
    (s.run request).2.Originates catalog known := by
  rcases run_cases inv.recorded grows with ⟨value, r, run, grown, done⟩ | ⟨e, r, _, failed⟩
  · rw [done]
    exact ⟨inv.catalog_eq, grown, (traces _ _ _ inv.origins run).1⟩
  · rw [failed]
    exact inv

theorem Originates.documentType {catalog : Catalog} {s : Synthesizer}
    (inv : s.Originates catalog known) (inside : ∀ d ∈ catalog.all, known d)
    (kind : DocumentKind) : (s.documentType kind).2.Originates catalog known := by
  have traces : Traces catalog known (s.catalog.typeOf s.strict [] kind.typeName kind)
      (ApiType.Originates catalog known) := by
    rw [inv.catalog_eq]
    exact typeOf_traces inside [] _ kind
  exact inv.run traces (Law.typeOf_leads [] _ kind _ inv.recorded)

theorem Originates.afterCall {catalog : Catalog} {s : Synthesizer}
    (inv : s.Originates catalog known) (inside : ∀ d ∈ catalog.all, known d) {call : Call}
    (told : ∀ d, call = .synthesize d → known d) :
    (s.afterCall call).Originates catalog known := by
  cases call with
  | synthesize d =>
    have traces : Traces catalog known (s.catalog.objectOf s.strict d) fun object =>
        ObjectOrigin known object ∧ object.name = d.name := by
      rw [inv.catalog_eq]
      exact objectWith_traces (told d rfl) [] fun _ => typeOf_traces inside [d.name]
    exact inv.run traces (Law.objectOf_leads d inv.recorded)
  | documentType kind => exact inv.documentType inside kind
  | synthesizeCatalog =>
    exact synthesizeKinds_after (fun s kind inv => inv.documentType inside kind) _ inv _ _ _

/-- The definitions that a synthesizer is told of: those of its catalog and those it is asked
for. -/
def Told (catalog : Catalog) (calls : List Call) (d : Definition) : Prop :=
  d ∈ catalog.all ∨ .synthesize d ∈ calls

/-- After every sequence of calls, every registered type has an origin in what the synthesizer was
told. -/
theorem originates_afterCalls (catalog : Catalog) (strict : Bool) (calls : List Call) :
    ((new catalog strict).afterCalls calls).registry.Originates catalog (Told catalog calls) := by
  have all : ∀ (rest : List Call) (s : Synthesizer), rest ⊆ calls →
      s.Originates catalog (Told catalog calls) →
      (s.afterCalls rest).Originates catalog (Told catalog calls) := by
    intro rest
    induction rest with
    | nil => exact fun s _ inv => inv
    | cons call rest ih =>
      intro s subset inv
      obtain ⟨mem, later⟩ := List.cons_subset.1 subset
      refine ih _ later (inv.afterCall (fun d => .inl) fun d eq => .inr ?_)
      rwa [← eq]
  exact (all calls (new catalog strict) (List.Subset.refl _)
    ⟨rfl, Registry.recorded_empty, Registry.originates_empty⟩).origins

end Synthesizer

end ApiSchema
