import Mathlib.Data.List.Forall2
import ApiSchema.Proofs.UnionTypes

/-!
# Types that stand for several

The type of a union stands for the types of its alternatives: simple ones have their common type or
the type for several, objects and unions the same objects without repeats (`SumsUp`).  A union of
types that each stand for some has a type exactly if all of these together have one, and then it is
that one (`unionOf_of_sumsUp`).
-/

namespace ApiSchema

/-- The common one of some simple types, or the one for several. -/
def joined : List ApiScalar → ApiScalar
  | [] => .generic
  | first :: others => if others.all (· == first) then first else .generic

/-- Are the simple types the same? -/
def Common (scalars : List ApiScalar) : Prop := ∃ s, ∀ x ∈ scalars, x = s

/-- The type stands for the types, of which there is one at least. -/
inductive SumsUp (strict : Bool) : ApiType → List ApiType → Prop where
  | scalars {scalars : List ApiScalar} (nonempty : scalars ≠ [])
      (common : strict = true → Common scalars) :
      SumsUp strict (.scalar (joined scalars)) (scalars.map .scalar)
  | named {type : ApiType} {types : List ApiType} (nonempty : types ≠ [])
      (is_named : type.isNamed = true) (all : ∀ t ∈ types, t.isNamed = true)
      (same : withoutRepeats type.objects = withoutRepeats (types.flatMap ApiType.objects)) :
      SumsUp strict type types
  | list (element : ApiType) : SumsUp strict (.list element) [.list element]

/-- Types of which a union can be made: simple ones, which are the same if unions are strict, or
objects and unions. -/
def HaveUnion (strict : Bool) (types : List ApiType) : Prop :=
  (∃ scalars : List ApiScalar, types = scalars.map .scalar ∧ (strict = true → Common scalars)) ∨
    ∀ t ∈ types, t.isNamed = true

/-! ## Simple types -/

theorem common_iff {scalars : List ApiScalar} :
    Common scalars ↔ ∃ s, ∀ t ∈ scalars.map ApiType.scalar, t = .scalar s := by
  simp [Common]

theorem common_cons_iff {first : ApiScalar} {others : List ApiScalar} :
    Common (first :: others) ↔ others.all (· == first) = true := by
  rw [List.all_eq_true]
  constructor
  · rintro ⟨s, all⟩ x mem
    obtain ⟨rfl, same⟩ := List.forall_mem_cons.1 all
    simpa using same x mem
  · intro same
    exact ⟨first, List.forall_mem_cons.2 ⟨rfl, by simpa using same⟩⟩

theorem joined_of_forall {scalars : List ApiScalar} (nonempty : scalars ≠ []) {s : ApiScalar}
    (all : ∀ x ∈ scalars, x = s) : joined scalars = s := by
  cases scalars with
  | nil => exact absurd rfl nonempty
  | cons first others =>
    obtain ⟨rfl, same⟩ := List.forall_mem_cons.1 all
    rw [joined, if_pos (by simpa using same)]

theorem joined_of_not_common {scalars : List ApiScalar} (different : ¬ Common scalars) :
    joined scalars = .generic := by
  cases scalars with
  | nil => rfl
  | cons first others => rw [joined, if_neg fun same => different (common_cons_iff.2 same)]

/-- What is joined to another type than the one for several is that type throughout. -/
theorem forall_of_joined {scalars : List ApiScalar} {s : ApiScalar} (eq : joined scalars = s)
    (special : s ≠ .generic) : ∀ x ∈ scalars, x = s := by
  by_cases common : Common scalars
  · obtain ⟨s', all⟩ := common
    rcases scalars with _ | ⟨first, others⟩
    · simp
    · rw [joined_of_forall (List.cons_ne_nil _ _) all] at eq
      rwa [← eq]
  · exact absurd ((joined_of_not_common common).symm.trans eq).symm special

theorem common_of_subset {scalars others : List ApiScalar} (subset : others ⊆ scalars)
    (common : Common scalars) : Common others :=
  common.imp fun _ all x mem => all x (subset mem)

/-- What is the same throughout is joined to the same in each part. -/
theorem common_map_joined {parts : List (List ApiScalar)} (filled : ∀ part ∈ parts, part ≠ [])
    (common : Common parts.flatten) : Common (parts.map joined) := by
  obtain ⟨s, all⟩ := common
  refine ⟨s, fun x mem => ?_⟩
  obtain ⟨part, inside, rfl⟩ := List.mem_map.1 mem
  exact joined_of_forall (filled part inside) fun x mem =>
    all x (List.mem_flatten_of_mem inside mem)

/-- Parts that are each the same throughout, and joined to the same, are the same together. -/
theorem common_flatten {parts : List (List ApiScalar)} (commons : ∀ part ∈ parts, Common part)
    (common : Common (parts.map joined)) : Common parts.flatten := by
  obtain ⟨s, all⟩ := common
  refine ⟨s, fun x mem => ?_⟩
  obtain ⟨part, inside, mem⟩ := List.mem_flatten.1 mem
  obtain ⟨s', all'⟩ := commons part inside
  have joined_eq := joined_of_forall (List.ne_nil_of_mem mem) all'
  rw [all' x mem, ← joined_eq]
  exact all _ (List.mem_map_of_mem inside)

theorem joined_flatten {parts : List (List ApiScalar)} (nonempty : parts ≠ [])
    (filled : ∀ part ∈ parts, part ≠ []) : joined (parts.map joined) = joined parts.flatten := by
  by_cases common : Common parts.flatten
  · obtain ⟨s, all⟩ := common_map_joined filled common
    rw [joined_of_forall (by simpa using nonempty) all]
    obtain ⟨part, inside⟩ := List.exists_mem_of_ne_nil parts nonempty
    obtain ⟨x, mem⟩ := List.exists_mem_of_ne_nil part (filled part inside)
    obtain ⟨s', all'⟩ := common
    have here := joined_of_forall (filled part inside) fun x mem =>
      all' x (List.mem_flatten_of_mem inside mem)
    rw [joined_of_forall (List.ne_nil_of_mem (List.mem_flatten_of_mem inside mem)) all', ← here]
    exact (all _ (List.mem_map_of_mem inside)).symm
  · rw [joined_of_not_common common]
    by_contra special
    -- all parts would be joined to one special type, so that all types are that one
    have all := forall_of_joined rfl special
    refine common ⟨joined (parts.map joined), fun x mem => ?_⟩
    obtain ⟨part, inside, mem⟩ := List.mem_flatten.1 mem
    exact forall_of_joined (all _ (List.mem_map_of_mem inside)) special x mem

/-! ## Standing for types -/

theorem exists_map_scalar_of_mem {types : List ApiType} {scalars : List ApiScalar}
    (same : types = scalars.map .scalar) : ∀ t ∈ types, ∃ s, t = .scalar s := by
  rintro t mem
  rw [same] at mem
  obtain ⟨s, -, rfl⟩ := List.mem_map.1 mem
  exact ⟨s, rfl⟩

theorem HaveUnion.of_subset {strict : Bool} {types part : List ApiType} (subset : part ⊆ types)
    (union : HaveUnion strict types) : HaveUnion strict part := by
  rcases union with ⟨scalars, rfl, common⟩ | named
  · obtain ⟨others, rfl⟩ := Conversion.exists_map_scalar fun t mem =>
      exists_map_scalar_of_mem rfl t (subset mem)
    refine .inl ⟨others, rfl, fun is_strict =>
      common_of_subset (fun x mem => ?_) (common is_strict)⟩
    have inside := subset (List.mem_map_of_mem (f := ApiType.scalar) mem)
    simpa using inside
  · exact .inr fun t mem => named t (subset mem)

namespace SumsUp

variable {strict : Bool} {type : ApiType} {types : List ApiType}

theorem self (strict : Bool) (type : ApiType) : SumsUp strict type [type] := by
  cases type with
  | scalar s =>
    have sums : SumsUp strict (.scalar (joined [s])) ([s].map .scalar) :=
      scalars (List.cons_ne_nil _ _) fun _ => ⟨s, by simp⟩
    exact sums
  | object o => exact named (List.cons_ne_nil _ _) rfl (by simp [ApiType.isNamed]) (by simp)
  | union u => exact named (List.cons_ne_nil _ _) rfl (by simp [ApiType.isNamed]) (by simp)
  | list element => exact list element

theorem ne_nil (sums : SumsUp strict type types) : types ≠ [] := by
  cases sums with
  | scalars nonempty => simpa using nonempty
  | named nonempty => exact nonempty
  | list => exact List.cons_ne_nil _ _

theorem scalar_inv {s : ApiScalar} (sums : SumsUp strict (.scalar s) types) :
    ∃ scalars : List ApiScalar, types = scalars.map .scalar ∧ scalars ≠ [] ∧ s = joined scalars ∧
      (strict = true → Common scalars) := by
  cases sums with
  | scalars nonempty common => exact ⟨_, rfl, nonempty, rfl, common⟩
  | named _ is_named => cases is_named

/-- An object or union stands for objects and unions that have its objects. -/
theorem named_inv (sums : SumsUp strict type types) (is_named : type.isNamed = true) :
    (∀ t ∈ types, t.isNamed = true) ∧
      withoutRepeats type.objects = withoutRepeats (types.flatMap ApiType.objects) := by
  cases sums with
  | scalars | list => cases is_named
  | named _ _ all same => exact ⟨all, same⟩

theorem exists_compound (sums : SumsUp strict type types) (compound : type.scalar? = none) :
    ∃ t ∈ types, t.scalar? = none := by
  cases sums with
  | scalars => cases compound
  | named nonempty _ all =>
    obtain ⟨t, mem⟩ := List.exists_mem_of_ne_nil types nonempty
    refine ⟨t, mem, ?_⟩
    have named := all t mem
    cases t <;> first | rfl | cases named
  | list element => exact ⟨_, List.mem_singleton_self _, rfl⟩

theorem exists_unnamed (sums : SumsUp strict type types) (unnamed : type.isNamed = false) :
    ∃ t ∈ types, t.isNamed = false := by
  cases sums with
  | @scalars scalars nonempty =>
    obtain ⟨s, mem⟩ := List.exists_mem_of_ne_nil scalars nonempty
    exact ⟨.scalar s, List.mem_map_of_mem mem, rfl⟩
  | named _ is_named =>
    rw [unnamed] at is_named
    cases is_named
  | list element => exact ⟨_, List.mem_singleton_self _, rfl⟩

end SumsUp

/-! ## The union of types that stand for some -/

/-- What the union of some types is, and the registry that it leads to. -/
inductive MakesUnion (strict : Bool) (path : String) (description : Option String)
    (types : List ApiType) (r : Registry) : ApiType → Registry → Prop where
  | scalars {scalars : List ApiScalar} (eq : types = scalars.map .scalar) (nonempty : scalars ≠ [])
      (common : strict = true → Common scalars) {r' : Registry} (same : r'.types = r.types) :
      MakesUnion strict path description types r (.scalar (joined scalars)) r'
  | objects (nonempty : types ≠ []) (named : ∀ t ∈ types, t.isNamed = true) :
      MakesUnion strict path description types r
        (.union ⟨path, description, withoutRepeats (types.flatMap ApiType.objects)⟩)
        (r.register (.union ⟨path, description, withoutRepeats (types.flatMap ApiType.objects)⟩))

namespace MakesUnion

variable {strict : Bool} {path : String} {description : Option String} {types : List ApiType}
  {r r' : Registry} {type : ApiType}

theorem sumsUp (made : MakesUnion strict path description types r type r') :
    SumsUp strict type types := by
  cases made with
  | scalars eq nonempty common =>
    rw [eq]
    exact .scalars nonempty common
  | objects nonempty named => exact .named nonempty rfl named (withoutRepeats_withoutRepeats _)

theorem simple_or_named (made : MakesUnion strict path description types r type r') :
    (∀ t ∈ types, ∃ s, t = .scalar s) ∨ ∀ t ∈ types, t.isNamed = true := by
  cases made with
  | scalars eq => exact .inl (exists_map_scalar_of_mem eq)
  | objects _ named => exact .inr named

/-- Simple types are no objects or unions, so that only one of the rules can have made their
union. -/
theorem eq_joined (made : MakesUnion strict path description types r type r')
    (simple : ∀ t ∈ types, ∃ s, t = .scalar s) : ∃ scalars : List ApiScalar, scalars ≠ [] ∧
      types = scalars.map .scalar ∧ type = .scalar (joined scalars) ∧
        (strict = true → Common scalars) := by
  cases made with
  | scalars eq nonempty common => exact ⟨_, nonempty, eq, rfl, common⟩
  | objects nonempty named =>
    obtain ⟨t, mem⟩ := List.exists_mem_of_ne_nil types nonempty
    obtain ⟨s, rfl⟩ := simple t mem
    cases named _ mem

/-- The union of types that are all the same simple one is that type. -/
theorem eq_scalar (made : MakesUnion strict path description types r type r') {s : ApiScalar}
    (all : ∀ t ∈ types, t = .scalar s) : type = .scalar s := by
  obtain ⟨scalars, nonempty, rfl, rfl, -⟩ := made.eq_joined fun t mem => ⟨s, all t mem⟩
  rw [List.forall_mem_map] at all
  rw [joined_of_forall nonempty fun x mem => ApiType.scalar.inj (all x mem)]

theorem eq_generic (made : MakesUnion strict path description types r type r')
    (simple : ∀ t ∈ types, ∃ s, t = .scalar s) (different : ¬ ∃ s, ∀ t ∈ types, t = .scalar s) :
    ¬ strict = true ∧ type = .scalar .generic := by
  obtain ⟨scalars, nonempty, rfl, rfl, common⟩ := made.eq_joined simple
  rw [← common_iff] at different
  exact ⟨fun is_strict => different (common is_strict), by rw [joined_of_not_common different]⟩

/-- The union of objects and unions has their objects without repeats, and is registered. -/
theorem eq_union (made : MakesUnion strict path description types r type r')
    (named : ∀ t ∈ types, t.isNamed = true) :
    let union : UnionType := ⟨path, description, withoutRepeats (types.flatMap ApiType.objects)⟩
    type = .union union ∧ r'.get? path = some (.union union) := by
  intro union
  cases made with
  | scalars eq nonempty =>
    obtain ⟨t, mem⟩ := List.exists_mem_of_ne_nil types (by simpa [eq] using nonempty)
    obtain ⟨s, rfl⟩ := exists_map_scalar_of_mem eq t mem
    cases named _ mem
  | objects => exact ⟨rfl, Registry.get?_register r (.union union)⟩

end MakesUnion

/-- Simple types have a union if they are all the same, or if unions are not strict. -/
theorem haveUnion_of_simple {strict : Bool} {types : List ApiType}
    (simple : ∀ t ∈ types, ∃ s, t = .scalar s)
    (common : strict = true → ∃ s, ∀ t ∈ types, t = .scalar s) : HaveUnion strict types := by
  obtain ⟨scalars, rfl⟩ := Conversion.exists_map_scalar simple
  exact .inl ⟨scalars, rfl, fun is_strict => common_iff.2 (common is_strict)⟩

section

variable {strict : Bool} {types : List ApiType} {parts : List (List ApiType)}

theorem exists_part_of_mem (sums : List.Forall₂ (SumsUp strict) types parts) {type : ApiType}
    (mem : type ∈ types) : ∃ part, part ⊆ parts.flatten ∧ SumsUp strict type part := by
  induction sums with
  | nil => cases mem
  | @cons first part types parts sums_first _ ih =>
    rcases List.mem_cons.1 mem with rfl | mem
    · exact ⟨part, List.subset_append_left _ _, sums_first⟩
    · obtain ⟨part', subset, sums'⟩ := ih mem
      exact ⟨part', List.Subset.trans subset (List.subset_append_right _ _), sums'⟩

theorem exists_scalar_parts {scalars : List ApiScalar}
    (sums : List.Forall₂ (SumsUp strict) (scalars.map .scalar) parts) :
    ∃ lists : List (List ApiScalar), parts.flatten = lists.flatten.map .scalar ∧
      scalars = lists.map joined ∧ (∀ list ∈ lists, list ≠ []) ∧
      ∀ list ∈ lists, strict = true → Common list := by
  induction scalars generalizing parts with
  | nil =>
    cases sums
    exact ⟨[], rfl, rfl, by simp, by simp⟩
  | cons s rest ih =>
    obtain ⟨part, later, sums_first, sums_later, rfl⟩ := List.forall₂_cons_left_iff.1 sums
    obtain ⟨list, rfl, nonempty, rfl, common⟩ := sums_first.scalar_inv
    obtain ⟨lists, flat, rfl, filled, commons⟩ := ih sums_later
    refine ⟨list :: lists, ?_, rfl, List.forall_mem_cons.2 ⟨nonempty, filled⟩,
      List.forall_mem_cons.2 ⟨common, commons⟩⟩
    rw [List.flatten_cons, List.flatten_cons, List.map_append, flat]

theorem objects_of_parts (sums : List.Forall₂ (SumsUp strict) types parts)
    (named : ∀ t ∈ types, t.isNamed = true) :
    (∀ t ∈ parts.flatten, t.isNamed = true) ∧
      withoutRepeats (types.flatMap ApiType.objects) =
        withoutRepeats (parts.flatten.flatMap ApiType.objects) := by
  induction sums with
  | nil => exact ⟨by simp, rfl⟩
  | @cons first part types parts sums_first _ ih =>
    obtain ⟨named_first, named_later⟩ := List.forall_mem_cons.1 named
    obtain ⟨all, same⟩ := sums_first.named_inv named_first
    obtain ⟨alls, sames⟩ := ih named_later
    refine ⟨fun t mem => (List.mem_append.1 mem).elim (all t) (alls t), ?_⟩
    rw [List.flatMap_cons, List.flatten_cons, List.flatMap_append]
    exact withoutRepeats_append_congr same sames

end

/-- A union of types that each stand for some is the union of all these, if they have one; otherwise
it is an error, and the registry stays as it is. -/
theorem unionOf_of_sumsUp (c : Conversion) (path : String) (description : Option String)
    (r : Registry) {types : List ApiType} {parts : List (List ApiType)}
    (sums : List.Forall₂ (SumsUp c.strict) types parts) (nonempty : types ≠ []) :
    match (c.unionOf path description types).run r with
    | (.ok type, r') => MakesUnion c.strict path description parts.flatten r type r'
    | (.error _, r') => ¬ HaveUnion c.strict parts.flatten ∧ r' = r := by
  rcases Conversion.types_cases types with
    ⟨first, others, rfl⟩ | named | ⟨⟨t, mem, compound⟩, u, mem', unnamed⟩
  · obtain ⟨lists, flat, scalars_eq, filled, commons⟩ := exists_scalar_parts sums
    have lists_ne : lists ≠ [] := by
      rintro rfl
      cases scalars_eq
    have whole : joined (first :: others) = joined lists.flatten := by
      rw [scalars_eq, joined_flatten lists_ne filled]
    have filled_flat : lists.flatten ≠ [] := by
      obtain ⟨list, inside⟩ := List.exists_mem_of_ne_nil lists lists_ne
      obtain ⟨s, mem⟩ := List.exists_mem_of_ne_nil list (filled list inside)
      exact List.ne_nil_of_mem (List.mem_flatten_of_mem inside mem)
    rw [Conversion.run_unionOf_scalars]
    split_ifs with same strict
    · obtain ⟨s, all⟩ := common_cons_iff.2 same
      rw [all first (List.mem_cons_self ..), ← joined_of_forall (List.cons_ne_nil _ _) all, whole]
      refine .scalars flat filled_flat (fun is_strict => ?_) rfl
      refine common_flatten (fun list inside => commons list inside is_strict) ?_
      rw [← scalars_eq]
      exact ⟨s, all⟩
    · refine ⟨?_, rfl⟩
      rintro (⟨scalars, eq, common⟩ | named)
      · have all := common strict
        rw [← List.map_injective_iff.2 (fun _ _ => ApiType.scalar.inj) (flat.symm.trans eq)] at all
        refine same (common_cons_iff.1 ?_)
        rw [scalars_eq]
        exact common_map_joined filled all
      · obtain ⟨s, mem⟩ := List.exists_mem_of_ne_nil _ filled_flat
        cases named (.scalar s) (by rw [flat]; exact List.mem_map_of_mem mem)
    · have different : ¬ Common (first :: others) := fun common => same (common_cons_iff.1 common)
      rw [← joined_of_not_common different, whole]
      exact .scalars flat filled_flat (fun is_strict => absurd is_strict strict) rfl
  · obtain ⟨all, same⟩ := objects_of_parts sums named
    have filled : parts.flatten ≠ [] := by
      obtain ⟨t, mem⟩ := List.exists_mem_of_ne_nil types nonempty
      obtain ⟨part, subset, sums_t⟩ := exists_part_of_mem sums mem
      obtain ⟨x, inside⟩ := List.exists_mem_of_ne_nil part sums_t.ne_nil
      exact List.ne_nil_of_mem (subset inside)
    rw [Conversion.run_unionOf_named named, same]
    exact .objects filled all
  · obtain ⟨fault, failed⟩ := c.run_unionOf_mixed path description r mem compound mem' unnamed
    rw [failed]
    refine ⟨?_, rfl⟩
    obtain ⟨part, subset, sums_t⟩ := exists_part_of_mem sums mem
    obtain ⟨x, inside, compound_x⟩ := sums_t.exists_compound compound
    obtain ⟨part', subset', sums_u⟩ := exists_part_of_mem sums mem'
    obtain ⟨y, inside', unnamed_y⟩ := sums_u.exists_unnamed unnamed
    rintro (⟨scalars, eq, -⟩ | named)
    · obtain ⟨s, rfl⟩ := exists_map_scalar_of_mem eq x (subset inside)
      cases compound_x
    · rw [named y (subset' inside')] at unnamed_y
      cases unnamed_y

end ApiSchema
