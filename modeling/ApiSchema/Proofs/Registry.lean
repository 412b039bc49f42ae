import ApiSchema.Synthesis.Synthesizer

/-!
# Names in the registry

What is found under a name, and what the registration of a type changes.  A registration leaves the
names of a table as they are or adds one at the end, so a table whose names miss the new one keeps
its place at the front.
-/

namespace ApiSchema

/-! ## Tables -/

/-- The names of some types, in order. -/
def typeNames (types : List NamedType) : List String := types.map NamedType.name

theorem putType_append {type : NamedType} {front : List NamedType}
    (fresh : type.name ∉ typeNames front) (back : List NamedType) :
    putType type (front ++ back) = front ++ putType type back := by
  induction front with
  | nil => rfl
  | cons t rest ih =>
    simp only [typeNames, List.map_cons, List.mem_cons, not_or] at fresh
    have other : t.name ≠ type.name := fun e => fresh.1 e.symm
    simp only [List.cons_append, putType, if_neg other]
    rw [ih fresh.2]

theorem putType_of_not_mem {type : NamedType} {types : List NamedType}
    (fresh : type.name ∉ typeNames types) : putType type types = types ++ [type] := by
  simpa [putType] using putType_append fresh []

theorem typeNames_putType_of_mem {type : NamedType} {types : List NamedType}
    (taken : type.name ∈ typeNames types) :
    typeNames (putType type types) = typeNames types := by
  induction types with
  | nil => simp [typeNames] at taken
  | cons t rest ih =>
    by_cases same : t.name = type.name
    · simp [putType, typeNames, same]
    · have later : type.name ∈ typeNames rest := by
        simpa [typeNames, Ne.symm same] using taken
      simp only [putType, if_neg same]
      simpa [typeNames] using ih later

theorem mem_typeNames_putType (type : NamedType) (types : List NamedType) :
    type.name ∈ typeNames (putType type types) := by
  by_cases taken : type.name ∈ typeNames types
  · rwa [typeNames_putType_of_mem taken]
  · simp [putType_of_not_mem taken, typeNames]

theorem typeNames_subset_putType (type : NamedType) (types : List NamedType) :
    typeNames types ⊆ typeNames (putType type types) := by
  by_cases taken : type.name ∈ typeNames types
  · rw [typeNames_putType_of_mem taken]
    exact List.Subset.refl _
  · simp [putType_of_not_mem taken, typeNames]

theorem nodup_typeNames_putType {types : List NamedType} (distinct : (typeNames types).Nodup)
    (type : NamedType) : (typeNames (putType type types)).Nodup := by
  by_cases taken : type.name ∈ typeNames types
  · rwa [typeNames_putType_of_mem taken]
  · rw [putType_of_not_mem taken]
    simp only [typeNames, List.map_append, List.map_cons, List.map_nil] at taken distinct ⊢
    exact List.nodup_append.2 ⟨distinct, by simp, by
      rintro a mem b (_ | ⟨_, ⟨⟩⟩) rfl
      exact taken mem⟩

theorem length_typeNames (types : List NamedType) : (typeNames types).length = types.length :=
  List.length_map _

theorem find?_putType (type : NamedType) (types : List NamedType) :
    (putType type types).find? (·.name == type.name) = some type := by
  induction types with
  | nil => simp [putType]
  | cons t rest ih =>
    by_cases same : t.name = type.name
    · simp [putType, same]
    · simp [putType, same, ih]

namespace Registry

/-! ## Look-up -/

theorem name_of_get? {r : Registry} {name : String} {type : NamedType}
    (found : r.get? name = some type) : type.name = name := by
  simpa using List.find?_some found

theorem mem_of_get? {r : Registry} {name : String} {type : NamedType}
    (found : r.get? name = some type) : type ∈ r.types :=
  List.mem_of_find?_eq_some found

theorem get?_eq_none {r : Registry} {name : String} :
    r.get? name = none ↔ name ∉ typeNames r.types := by
  simp [get?, typeNames]

theorem get?_of_mem {r : Registry} (distinct : (typeNames r.types).Nodup) {type : NamedType}
    (mem : type ∈ r.types) : r.get? type.name = some type := by
  obtain ⟨front, back, split⟩ := List.append_of_mem mem
  rw [split, typeNames, List.map_append, List.nodup_append] at distinct
  have fresh : type.name ∉ typeNames front := fun taken =>
    distinct.2.2 _ taken _ (List.mem_cons_self ..) rfl
  have missed : front.find? (·.name == type.name) = none := by
    simpa [typeNames] using fresh
  simp [get?, split, List.find?_append, missed]

/-- A table that goes on from another one has the same types under the names of that one. -/
theorem get?_of_prefix {r r' : Registry} (grown : r.types <+: r'.types) {name : String}
    {type : NamedType} (found : r.get? name = some type) : r'.get? name = some type :=
  List.IsPrefix.find?_eq_some grown found

/-! ## Registration -/

theorem get?_register (r : Registry) (type : NamedType) :
    (r.register type).get? type.name = some type :=
  find?_putType type r.types

/-- Registering a name that an earlier table misses keeps that table in front. -/
theorem prefix_register {base r : Registry} (grown : base.types <+: r.types) {type : NamedType}
    (fresh : base.get? type.name = none) : base.types <+: (r.register type).types := by
  obtain ⟨back, split⟩ := grown
  refine ⟨putType type back, ?_⟩
  rw [register, ← split, putType_append (get?_eq_none.1 fresh)]

theorem types_register {r : Registry} {type : NamedType} (fresh : r.get? type.name = none) :
    (r.register type).types = r.types ++ [type] :=
  putType_of_not_mem (get?_eq_none.1 fresh)

end Registry

end ApiSchema
