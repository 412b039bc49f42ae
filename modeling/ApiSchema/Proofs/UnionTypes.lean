import ApiSchema.Proofs.Mirrors

/-!
# Types of unions

What a union of some types is.  Simple types have their common type, or the type for several if
unions are not strict; objects and unions have the union of their objects, in which the first object
of each serial number stays (`withoutRepeats`); no other types have a union.
-/

namespace ApiSchema

open Synthesis

def ApiType.isNamed : ApiType → Bool
  | .object _ => true
  | .union _ => true
  | .scalar _ => false
  | .list _ => false

/-- The objects, without those whose serial number is an earlier one's. -/
def withoutRepeats : List ObjectType → List ObjectType
  | [] => []
  | object :: rest => object :: (withoutRepeats rest).filter (·.serial ≠ object.serial)

/-! ## Repeated objects -/

theorem nodup_withoutRepeats (objects : List ObjectType) :
    ((withoutRepeats objects).map ObjectType.serial).Nodup := by
  induction objects with
  | nil => exact List.nodup_nil
  | cons object rest ih =>
    refine List.nodup_cons.2 ⟨fun mem => ?_, ih.sublist (List.filter_sublist.map _)⟩
    obtain ⟨other, kept, same⟩ := List.mem_map.1 mem
    exact absurd same (by simpa using (List.mem_filter.1 kept).2)

theorem withoutRepeats_of_nodup {objects : List ObjectType}
    (distinct : (objects.map ObjectType.serial).Nodup) : withoutRepeats objects = objects := by
  induction objects with
  | nil => rfl
  | cons object rest ih =>
    obtain ⟨new, later⟩ := List.nodup_cons.1 distinct
    rw [withoutRepeats, ih later, List.filter_eq_self.2 fun other mem => ?_]
    have : other.serial ≠ object.serial := fun same => new (same ▸ List.mem_map_of_mem mem)
    simpa using this

theorem withoutRepeats_withoutRepeats (objects : List ObjectType) :
    withoutRepeats (withoutRepeats objects) = withoutRepeats objects :=
  withoutRepeats_of_nodup (nodup_withoutRepeats objects)

namespace Conversion

/-- What is added to some objects: the others without repeats, as far as they are not there. -/
theorem add_eq (done candidates : List ObjectType) :
    unionMembers.add done candidates =
      done ++
        (withoutRepeats candidates).filter fun o => o.serial ∉ done.map ObjectType.serial := by
  induction candidates generalizing done with
  | nil => exact (List.append_nil done).symm
  | cons candidate rest ih =>
    rw [unionMembers.add, List.foldl_cons, ← unionMembers.add, withoutRepeats]
    by_cases there : candidate.serial ∈ done.map ObjectType.serial
    · have known : done.any (·.serial == candidate.serial) = true := by simpa using there
      rw [if_pos known, ih, List.filter_cons_of_neg (by simpa using there), List.filter_filter]
      congr 1
      refine List.filter_congr fun other _ => ?_
      by_cases same : other.serial = candidate.serial <;> simp_all
    · have new : ¬ done.any (·.serial == candidate.serial) = true := by simpa using there
      rw [if_neg new, ih, List.filter_cons_of_pos (by simpa using there), List.filter_filter,
        List.append_assoc, List.singleton_append]
      congr 2
      refine List.filter_congr fun other _ => ?_
      rw [List.map_append, Bool.eq_iff_iff]
      simp [and_comm]

theorem add_nil (objects : List ObjectType) :
    unionMembers.add [] objects = withoutRepeats objects := by
  rw [add_eq, List.nil_append, List.filter_eq_self.2]
  simp

theorem add_append (done first second : List ObjectType) :
    unionMembers.add done (first ++ second) =
      unionMembers.add (unionMembers.add done first) second :=
  List.foldl_append

end Conversion

open Conversion in
theorem withoutRepeats_append_congr {first first' second second' : List ObjectType}
    (same : withoutRepeats first = withoutRepeats first')
    (same' : withoutRepeats second = withoutRepeats second') :
    withoutRepeats (first ++ second) = withoutRepeats (first' ++ second') := by
  rw [← add_nil, ← add_nil, add_append, add_append, add_nil, add_nil, same, add_eq, add_eq, same']

/-! ## Unions of types -/

namespace Conversion

variable {c : Conversion} {path : String} {description : Option String} {r : Registry}

theorem run_unionMembers (types : List ApiType) (done : List ObjectType) :
    (unionMembers path done types).run r =
      if types.all ApiType.isNamed then
        (.ok (unionMembers.add done (types.flatMap ApiType.objects)), r)
      else (.error ⟨path, .listAlternative⟩, r) := by
  induction types generalizing done with
  | nil => rfl
  | cons type rest ih =>
    cases type with
    | object object =>
      rw [unionMembers, ih, List.flatMap_cons, add_append]
      rfl
    | union union =>
      rw [unionMembers, ih, List.flatMap_cons, add_append]
      rfl
    | list _ | scalar _ => rfl

/-- Simple types have their common type, or the type for several if unions are not strict. -/
theorem run_unionOf_scalars (first : ApiScalar) (others : List ApiScalar) :
    (c.unionOf path description ((first :: others).map .scalar)).run r =
      if others.all (· == first) then (.ok (.scalar first), r)
      else if c.strict then (.error ⟨path, .ambiguousUnion⟩, r)
      else
        (.ok (.scalar .generic), r.advise ⟨path, .scalarUnion,
          s!"{path} can be multiple different scalars. This is not recommended."⟩) := by
  have scalars : ((first :: others).map ApiType.scalar).filterMap ApiType.scalar? =
      first :: others := by
    rw [List.filterMap_map]
    exact List.filterMap_some
  rw [unionOf]
  simp only [scalars, List.length_map, if_true, scalarUnion]
  split_ifs <;> rfl

/-- Objects and unions have the union of their objects, which is registered. -/
theorem run_unionOf_named {types : List ApiType} (named : ∀ t ∈ types, t.isNamed = true) :
    (c.unionOf path description types).run r =
      (.ok (.union ⟨path, description, withoutRepeats (types.flatMap ApiType.objects)⟩),
        r.register
          (.union ⟨path, description, withoutRepeats (types.flatMap ApiType.objects)⟩)) := by
  have scalars : types.filterMap ApiType.scalar? = [] := by
    refine List.filterMap_eq_nil_iff.2 fun t mem => ?_
    cases t with
    | scalar _ => cases named _ mem
    | object _ | union _ | list _ => rfl
  rw [unionOf]
  simp only [scalars, run_bind, run_unionMembers, List.all_eq_true.2 named, if_true, add_nil]
  rfl

/-- Types of which one is not simple and one is neither object nor union have no union. -/
theorem run_unionOf_mixed (c : Conversion) (path : String) (description : Option String)
    (r : Registry) {types : List ApiType} {compound unnamed : ApiType}
    (mem : compound ∈ types) (not_scalar : compound.scalar? = none) (mem' : unnamed ∈ types)
    (not_named : unnamed.isNamed = false) :
    ∃ fault, (c.unionOf path description types).run r = (.error ⟨path, fault⟩, r) := by
  rw [unionOf]
  rcases scalars : types.filterMap ApiType.scalar? with _ | ⟨first, others⟩
  · have not_all : ¬ types.all ApiType.isNamed = true := fun all => by
      rw [List.all_eq_true.1 all _ mem'] at not_named
      cases not_named
    refine ⟨.listAlternative, ?_⟩
    simp only [run_bind, run_unionMembers, if_neg not_all]
  · have shorter : ¬ (first :: others).length = types.length := by
      rw [← scalars, List.filterMap_length_eq_length]
      intro all
      simpa [not_scalar] using all _ mem
    refine ⟨.mixedUnion, ?_⟩
    simp only [if_neg shorter]
    rfl

theorem exists_map_scalar {types : List ApiType} (simple : ∀ t ∈ types, ∃ s, t = .scalar s) :
    ∃ scalars : List ApiScalar, types = scalars.map .scalar := by
  induction types with
  | nil => exact ⟨[], rfl⟩
  | cons type rest ih =>
    obtain ⟨⟨s, rfl⟩, later⟩ := List.forall_mem_cons.1 simple
    obtain ⟨scalars, rfl⟩ := ih later
    exact ⟨s :: scalars, rfl⟩

theorem exists_scalar_iff {type : ApiType} : (∃ s, type = .scalar s) ↔ type.scalar? ≠ none := by
  cases type <;> simp [ApiType.scalar?]

/-- Some types are simple, or objects and unions, or else there is one that is not simple and one
that is neither object nor union. -/
theorem types_cases (types : List ApiType) :
    (∃ (first : ApiScalar) (others : List ApiScalar), types = (first :: others).map .scalar) ∨
      (∀ t ∈ types, t.isNamed = true) ∨
      (∃ t ∈ types, t.scalar? = none) ∧ ∃ t ∈ types, t.isNamed = false := by
  by_cases named : ∀ t ∈ types, t.isNamed = true
  · exact .inr (.inl named)
  · by_cases simple : ∀ t ∈ types, ∃ s, t = .scalar s
    · obtain ⟨scalars, rfl⟩ := exists_map_scalar simple
      cases scalars with
      | nil => exact absurd (by simp) named
      | cons first others => exact .inl ⟨first, others, rfl⟩
    · simp only [exists_scalar_iff] at simple
      exact .inr (.inr ⟨by simpa using simple, by simpa using named⟩)

/-- The union of some types leaves the registry as it is, adds an advisory, or registers a union at
its path. -/
theorem registry_unionOf (c : Conversion) (path : String) (description : Option String)
    (types : List ApiType) (r : Registry) :
    ((c.unionOf path description types).run r).2 = r ∨
      (∃ advisory, ((c.unionOf path description types).run r).2 = r.advise advisory) ∨
      ∃ union : UnionType, union.name = path ∧
        ((c.unionOf path description types).run r).2 = r.register (.union union) := by
  rcases types_cases types with
    ⟨first, others, rfl⟩ | named | ⟨⟨t, mem, compound⟩, u, mem', unnamed⟩
  · rw [run_unionOf_scalars]
    split_ifs
    · exact .inl rfl
    · exact .inl rfl
    · exact .inr (.inl ⟨_, rfl⟩)
  · rw [run_unionOf_named named]
    exact .inr (.inr ⟨_, rfl, rfl⟩)
  · obtain ⟨fault, failed⟩ := c.run_unionOf_mixed path description r mem compound mem' unnamed
    rw [failed]
    exact .inl rfl

end Conversion

end ApiSchema
