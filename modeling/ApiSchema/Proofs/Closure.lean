import ApiSchema.Proofs.Rollback

/-!
# Closed tables

A name is looked up before the walk and registered after it, so a type that was registered under it
in between is replaced, and types that refer to it keep one that the table no longer has.  As long
as every registration makes a place of its own (`Registry.Unreplaced`), the table is closed: each
type that a type refers to stands before it, as that same type.
-/

namespace ApiSchema

/-- The object or union that a type is, or is a list of, through any depth of lists. -/
def ApiType.named? : ApiType → Option NamedType
  | .scalar _ => none
  | .object o => some (.object o)
  | .union u => some (.union u)
  | .list element => element.named?

/-- The objects and unions that a named type refers to. -/
def NamedType.references (type : NamedType) : List NamedType :=
  type.parts.filterMap ApiType.named?

/-- Every type that one of the types refers to stands at an earlier position. -/
def ReferencesEarlier (types : List NamedType) : Prop :=
  ∀ (i : Nat) (type : NamedType), types[i]? = some type →
    ∀ ref ∈ type.references, ∃ j < i, types[j]? = some ref

theorem mem_references {type ref : NamedType} :
    ref ∈ type.references ↔ ∃ part ∈ type.parts, part.named? = some ref :=
  List.mem_filterMap

theorem named?_toType (type : NamedType) : type.toType.named? = some type := by
  cases type <;> rfl

theorem ReferencesEarlier.mem {types : List NamedType} (earlier : ReferencesEarlier types)
    {type ref : NamedType} (mem : type ∈ types) (refers : ref ∈ type.references) : ref ∈ types := by
  obtain ⟨i, at_i⟩ := List.mem_iff_getElem?.1 mem
  obtain ⟨j, _, at_j⟩ := earlier i type at_i ref refers
  exact List.mem_iff_getElem?.2 ⟨j, at_j⟩

/-- A type in a table with one more at the end is an earlier one or the last. -/
theorem getElem?_append_last {types : List NamedType} {last type : NamedType} {i : Nat}
    (at_i : (types ++ [last])[i]? = some type) :
    (i < types.length ∧ types[i]? = some type) ∨ (i = types.length ∧ type = last) := by
  rcases Nat.lt_or_ge i types.length with i_lt | i_ge
  · rw [List.getElem?_append_left i_lt] at at_i
    exact .inl ⟨i_lt, at_i⟩
  · rw [List.getElem?_append_right i_ge, List.getElem?_singleton] at at_i
    split_ifs at at_i with zero
    cases at_i
    exact .inr ⟨by omega, rfl⟩

theorem ReferencesEarlier.append {types : List NamedType} (earlier : ReferencesEarlier types)
    {type : NamedType} (known : ∀ ref ∈ type.references, ref ∈ types) :
    ReferencesEarlier (types ++ [type]) := by
  intro i t at_i ref refers
  rcases getElem?_append_last at_i with ⟨i_lt, at_i⟩ | ⟨rfl, rfl⟩
  · obtain ⟨j, j_lt, at_j⟩ := earlier i t at_i ref refers
    refine ⟨j, j_lt, ?_⟩
    rw [List.getElem?_append_left (by omega), at_j]
  · obtain ⟨j, at_j⟩ := List.mem_iff_getElem?.1 (known ref refers)
    obtain ⟨j_lt, _⟩ := List.getElem?_eq_some_iff.1 at_j
    refine ⟨j, j_lt, ?_⟩
    rw [List.getElem?_append_left j_lt, at_j]

namespace Registry

/-- Every registration has made a place of its own: there are as many types as registrations. -/
def Unreplaced (r : Registry) : Prop := r.types.length = r.nextSerial

/-- Every object stands at the position that its serial number gives. -/
def InPlace (r : Registry) : Prop :=
  ∀ (i : Nat) (object : ObjectType), r.types[i]? = some (.object object) → object.serial = i

/-- What holds of a table in which nothing was replaced. -/
structure Tidy (r : Registry) : Prop where
  earlier : ReferencesEarlier r.types
  inPlace : r.InPlace
  records : ∀ {fragment record}, Keyed.get? fragment r.entries = some record →
    .object record ∈ r.types

/-- Names are distinct, there are no more types than registrations, and the table is tidy if there
are as many. -/
structure Orderly (r : Registry) : Prop where
  distinct : (typeNames r.types).Nodup
  length_le : r.types.length ≤ r.nextSerial
  tidy : r.Unreplaced → r.Tidy

/-- The later table goes on from the earlier one, and replacements are not made up for. -/
structure KeepsPlaces (before after : Registry) : Prop where
  types : before.types <+: after.types
  count : before.nextSerial + after.types.length ≤ after.nextSerial + before.types.length

theorem KeepsPlaces.refl (r : Registry) : r.KeepsPlaces r := ⟨List.prefix_refl _, Nat.le_refl _⟩

theorem KeepsPlaces.trans {a b c : Registry} (first : a.KeepsPlaces b) (second : b.KeepsPlaces c) :
    a.KeepsPlaces c := by
  refine ⟨first.types.trans second.types, ?_⟩
  have h₁ := first.count
  have h₂ := second.count
  omega

/-- What a type names is in the table, if nothing was replaced. -/
def Knows (type : ApiType) (r : Registry) : Prop :=
  r.nextSerial ≤ r.types.length → ∀ named, type.named? = some named → named ∈ r.types

theorem Knows.mono {type : ApiType} {r r' : Registry} (kept : r.KeepsPlaces r')
    (knows : Knows type r) : Knows type r' := by
  intro unreplaced named eq
  have count := kept.count
  exact kept.types.subset (knows (by omega) named eq)

theorem length_putType_of_mem {type : NamedType} {types : List NamedType}
    (taken : type.name ∈ typeNames types) : (putType type types).length = types.length := by
  rw [← length_typeNames, typeNames_putType_of_mem taken, length_typeNames]

theorem Tidy.register {r : Registry} (tidy : r.Tidy) (unreplaced : r.Unreplaced)
    {type : NamedType} (fresh : r.get? type.name = none)
    (serial : ∀ object, type = .object object → object.serial = r.nextSerial)
    (known : ∀ ref ∈ type.references, ref ∈ r.types) : (r.register type).Tidy := by
  have types : (r.register type).types = r.types ++ [type] := types_register fresh
  refine ⟨?_, fun i object at_i => ?_, fun found => ?_⟩
  · rw [types]
    exact tidy.earlier.append known
  · rw [types] at at_i
    rcases getElem?_append_last at_i with ⟨_, at_i⟩ | ⟨rfl, last⟩
    · exact tidy.inPlace i object at_i
    · exact (serial object last.symm).trans unreplaced.symm
  · rw [types]
    exact List.mem_append_left _ (tidy.records found)

theorem length_register_of_none {r : Registry} {type : NamedType}
    (fresh : r.get? type.name = none) : (r.register type).types.length = r.types.length + 1 := by
  rw [types_register fresh, List.length_append, List.length_singleton]

theorem length_register_of_some {r : Registry} {type other : NamedType}
    (taken : r.get? type.name = some other) :
    (r.register type).types.length = r.types.length := by
  refine length_putType_of_mem ?_
  rw [← name_of_get? taken]
  exact List.mem_map_of_mem (mem_of_get? taken)

theorem length_register_le (r : Registry) (type : NamedType) :
    (r.register type).types.length ≤ r.types.length + 1 := by
  rcases look : r.get? type.name with _ | other
  · exact Nat.le_of_eq (length_register_of_none look)
  · rw [length_register_of_some look]
    exact Nat.le_succ _

/-- A registration replaces nothing exactly if its name is free; a replacement is never made up
for. -/
theorem unreplaced_register_iff {r : Registry} (length_le : r.types.length ≤ r.nextSerial)
    {type : NamedType} :
    (r.register type).Unreplaced ↔ r.Unreplaced ∧ r.get? type.name = none := by
  have nextSerial : (r.register type).nextSerial = r.nextSerial + 1 := rfl
  unfold Unreplaced
  rcases look : r.get? type.name with _ | other
  · have length := length_register_of_none look
    constructor
    · intro unreplaced
      exact ⟨by omega, rfl⟩
    · rintro ⟨unreplaced, -⟩
      omega
  · have length := length_register_of_some look
    constructor
    · intro unreplaced
      omega
    · rintro ⟨-, ⟨⟩⟩

/-- A registration keeps a registry orderly, whether its name is taken or not. -/
theorem Orderly.register {r : Registry} (orderly : r.Orderly) {type : NamedType}
    (serial : ∀ object, type = .object object → object.serial = r.nextSerial)
    (known : r.Unreplaced → ∀ ref ∈ type.references, ref ∈ r.types) :
    (r.register type).Orderly := by
  refine ⟨nodup_typeNames_putType orderly.distinct type, ?_, fun unreplaced => ?_⟩
  · exact Nat.le_trans (length_register_le r type) (Nat.succ_le_succ orderly.length_le)
  · obtain ⟨unreplaced', fresh⟩ := (unreplaced_register_iff orderly.length_le).1 unreplaced
    exact (orderly.tidy unreplaced').register unreplaced' fresh serial (known unreplaced')

theorem KeepsPlaces.register {base r : Registry} (kept : base.KeepsPlaces r) {type : NamedType}
    (free : base.get? type.name = none) : base.KeepsPlaces (r.register type) := by
  have count := kept.count
  have length_le := length_register_le r type
  have nextSerial : (r.register type).nextSerial = r.nextSerial + 1 := rfl
  refine ⟨prefix_register kept.types free, ?_⟩
  omega

theorem knows_register {r : Registry} (type : NamedType) : Knows type.toType (r.register type) := by
  intro _ named eq
  rw [named?_toType, Option.some.injEq] at eq
  rw [← eq]
  exact mem_of_get? (get?_register r type)

theorem Orderly.advise {r : Registry} (orderly : r.Orderly) (advisory : Advisory) :
    (r.advise advisory).Orderly := by
  refine ⟨orderly.distinct, orderly.length_le, fun unreplaced => ?_⟩
  have tidy := orderly.tidy unreplaced
  exact ⟨tidy.earlier, tidy.inPlace, tidy.records⟩

theorem Orderly.keepRecord {r : Registry} (orderly : r.Orderly) (fragment : String)
    {record : ObjectType} (mem : .object record ∈ r.types) :
    (r.keepRecord fragment record).Orderly := by
  refine ⟨orderly.distinct, orderly.length_le, fun unreplaced => ?_⟩
  have tidy := orderly.tidy unreplaced
  refine ⟨tidy.earlier, tidy.inPlace, fun found => ?_⟩
  rw [Registry.keepRecord, Keyed.get?_insert] at found
  split_ifs at found
  · cases found
    exact mem
  · exact tidy.records found

end Registry

theorem named?_of_mem_references_entryRecord {serial : Nat} {value : ApiType} {ref : NamedType}
    (refers : ref ∈ (NamedType.object (entryRecord serial value)).references) :
    value.named? = some ref := by
  obtain ⟨part, mem, eq⟩ := mem_references.1 refers
  simp only [NamedType.parts, entryRecord, List.map_cons, List.map_nil, List.mem_cons,
    List.not_mem_nil, or_false] at mem
  rcases mem with rfl | rfl
  · cases eq
  · exact eq

open Registry in
/-- A walk keeps the registry orderly, and what it gives is known in the table. -/
def closure : Law where
  Inv := Orderly
  Step := KeepsPlaces
  Good := Knows
  refl := KeepsPlaces.refl
  trans := KeepsPlaces.trans
  mono := Knows.mono
  scalar := by
    intro scalar r _ named eq
    cases eq
  list := fun knows => knows
  member := by
    intro union m r orderly knows mem unreplaced named eq
    have mem_union : NamedType.union union ∈ r.types := knows unreplaced _ rfl
    have tidy := orderly.tidy (Nat.le_antisymm orderly.length_le unreplaced)
    refine tidy.earlier.mem mem_union (mem_references.2 ⟨.object m, ?_, eq⟩)
    exact List.mem_map_of_mem mem
  found := by
    intro r name type _ look _ named eq
    rw [named?_toType, Option.some.injEq] at eq
    rw [← eq]
    exact mem_of_get? look
  recordFound := by
    intro r fragment record orderly look unreplaced named eq
    cases eq
    exact (orderly.tidy (Nat.le_antisymm orderly.length_le unreplaced)).records look
  advise := fun advisory orderly =>
    ⟨orderly.advise advisory, ⟨List.prefix_refl _, Nat.le_refl _⟩⟩
  register := by
    intro base r type orderly kept free serial good
    refine ⟨orderly.register serial fun unreplaced ref refers => ?_, kept.register free,
      knows_register type⟩
    obtain ⟨part, mem, eq⟩ := mem_references.1 refers
    exact good part mem (Nat.le_of_eq unreplaced.symm) ref eq
  keepRecord := by
    intro r value record orderly made fresh free good
    have known := knows_register (r := r) (.object record)
    have mem : .object record ∈ (r.register (.object record)).types :=
      mem_of_get? (get?_register r (.object record))
    have orderly' : (r.register (.object record)).Orderly := by
      refine orderly.register (fun object eq => ?_) fun unreplaced ref refers => ?_
      · cases eq
        rw [made]
        rfl
      · rw [made] at refers
        exact good (Nat.le_of_eq unreplaced.symm) ref (named?_of_mem_references_entryRecord refers)
    have kept : r.KeepsPlaces (r.register (.object record)) := (KeepsPlaces.refl r).register free
    exact ⟨orderly'.keepRecord _ mem, ⟨kept.types, kept.count⟩, known⟩

namespace Registry

theorem orderly_empty : empty.Orderly := by
  refine ⟨by simp [empty, typeNames], Nat.le_refl _, fun _ => ⟨?_, ?_, ?_⟩⟩
  · intro i type at_i
    simp [empty] at at_i
  · intro i object at_i
    simp [empty] at at_i
  · intro fragment record found
    simp [empty, Keyed.get?] at found

end Registry

namespace Synthesizer

theorem orderly_afterCalls (catalog : Catalog) (strict : Bool) (calls : List Call) :
    ((new catalog strict).afterCalls calls).registry.Orderly :=
  (afterCalls_inv closure (s := new catalog strict) Registry.orderly_empty
    Registry.recorded_empty calls).1

end Synthesizer

end ApiSchema
