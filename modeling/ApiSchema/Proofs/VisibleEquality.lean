import Mathlib.Logic.Relation
import ApiSchema.Proofs.Origins
import ApiSchema.Proofs.RoundTrip

/-!
# What a projection depends on

Two values are visibly equal at a type if they agree under all keys that the type declares, at any
depth (`VisiblyEqual`).  Projections of visibly equal values are equal, and values that differ only
in what their type does not declare, at any depth, are visibly equal at it
(`visiblyEqual_of_hiddenChanges`); so nothing under such a key reaches a projection
(`project_eq_of_visiblyEqual`).
-/

namespace ApiSchema

/-! ## Visible equality -/

/-- Two mappings agree on which of the keys are there by which a union chooses among its members. -/
structure UnionType.ChoosesAlike (union : UnionType) (members members' : List (String × Json)) :
    Prop where
  discriminators : ∀ object ∈ union.members, ∀ key, object.discriminator = some key →
    Keyed.has key members = Keyed.has key members'
  required : ∀ object ∈ union.members, ∀ field ∈ object.fields, field.required = true →
    Keyed.has field.source members = Keyed.has field.source members'

/-- Two values agree on everything that a type declares.  An absent value counts as `null`. -/
inductive VisiblyEqual : ApiType → Json → Json → Prop where
  | same (type : ApiType) (value : Json) : VisiblyEqual type value value
  | object {object : ObjectType} {members members' : List (String × Json)}
      (fields : ∀ field ∈ object.fields, VisiblyEqual field.type
        ((Keyed.get? field.source members).getD .null)
        ((Keyed.get? field.source members').getD .null)) :
      VisiblyEqual (.object object) (.object members) (.object members')
  | items {element : ApiType} {items items' : List Json} (length : items.length = items'.length)
      (each : ∀ pair ∈ items.zip items', VisiblyEqual element pair.1 pair.2) :
      VisiblyEqual (.list element) (.array items) (.array items')
  | entries {serial : Nat} {value : ApiType} {members members' : List (String × Json)}
      (keys : Keyed.keys members = Keyed.keys members')
      (each : ∀ pair ∈ members.zip members', VisiblyEqual value pair.1.2 pair.2.2) :
      VisiblyEqual (.list (.object (entryRecord serial value))) (.object members)
        (.object members')
  | union {union : UnionType} {members members' : List (String × Json)}
      (alike : union.ChoosesAlike members members')
      (each : ∀ object ∈ union.members,
        VisiblyEqual (.object object) (.object members) (.object members')) :
      VisiblyEqual (.union union) (.object members) (.object members')

/-- The keys whose values a projection to the object reads. -/
def ObjectType.declaredKeys (object : ObjectType) : List String := object.fields.map Field.source

/-- The keys that a projection to the union reads: the discriminators and the keys of the fields of
all members. -/
def UnionType.declaredKeys (union : UnionType) : List String :=
  union.members.flatMap fun object => object.discriminator.toList ++ object.declaredKeys

/-- Mappings that are the same under the declared keys are visibly equal at an object type. -/
theorem ObjectType.visiblyEqual_of_declared {object : ObjectType}
    {members members' : List (String × Json)}
    (same : ∀ key ∈ object.declaredKeys, Keyed.get? key members = Keyed.get? key members') :
    VisiblyEqual (.object object) (.object members) (.object members') := by
  refine .object fun field mem => ?_
  rw [same field.source (List.mem_map_of_mem mem)]
  exact .same _ _

/-- Mappings that are the same under the declared keys are visibly equal at a union. -/
theorem UnionType.visiblyEqual_of_declared {union : UnionType}
    {members members' : List (String × Json)}
    (same : ∀ key ∈ union.declaredKeys, Keyed.get? key members = Keyed.get? key members') :
    VisiblyEqual (.union union) (.object members) (.object members') := by
  have same_of_field : ∀ object ∈ union.members, ∀ key ∈ object.declaredKeys,
      Keyed.get? key members = Keyed.get? key members' := fun object mem key declared =>
    same key (List.mem_flatMap.2 ⟨object, mem, List.mem_append_right _ declared⟩)
  refine .union ⟨fun object mem key discriminator => ?_, fun object mem field inside _ => ?_⟩
    fun object mem => object.visiblyEqual_of_declared (same_of_field object mem)
  · have declared : key ∈ union.declaredKeys :=
      List.mem_flatMap.2 ⟨object, mem, by simp [discriminator]⟩
    rw [Keyed.has, Keyed.has, same key declared]
  · rw [Keyed.has, Keyed.has, same_of_field object mem _ (List.mem_map_of_mem inside)]

theorem fst_eq_of_mem_zip {members members' : List (String × Json)}
    (keys : Keyed.keys members = Keyed.keys members') {pair : (String × Json) × (String × Json)}
    (mem : pair ∈ members.zip members') : pair.1.1 = pair.2.1 := by
  obtain ⟨i, at_i, rfl⟩ := List.mem_iff_getElem.1 mem
  rw [List.length_zip, Nat.lt_min] at at_i
  have key := congrArg (·[i]?) keys
  simpa [Keyed.keys, List.getElem?_eq_getElem at_i.1, List.getElem?_eq_getElem at_i.2] using key

theorem length_eq_of_keys {members members' : List (String × Json)}
    (keys : Keyed.keys members = Keyed.keys members') : members.length = members'.length := by
  simpa [Keyed.keys] using congrArg List.length keys

theorem visiblyEqual_items_iff {element : ApiType} {items items' : List Json} :
    VisiblyEqual (.list element) (.array items) (.array items') ↔
      List.Forall₂ (VisiblyEqual element) items items' := by
  rw [List.forall₂_iff_zip]
  refine ⟨fun equal => ?_, fun ⟨length, each⟩ => .items length fun pair mem => each mem⟩
  cases equal with
  | same =>
    rw [← List.forall₂_iff_zip]
    exact List.forall₂_same.2 fun item _ => .same _ item
  | items length each => exact ⟨length, fun mem => each _ mem⟩

/-- Two members of mappings have one key, and values that are visibly equal at a type. -/
def EntryAlike (value : ApiType) (member member' : String × Json) : Prop :=
  member.1 = member'.1 ∧ VisiblyEqual value member.2 member'.2

theorem entryRecord_inj {serial serial' : Nat} {value value' : ApiType}
    (same : entryRecord serial value = entryRecord serial' value') : value = value' := by
  have fields := congrArg ObjectType.fields same
  simpa [entryRecord, Field.ofKey] using fields

theorem visiblyEqual_entries_iff {serial : Nat} {value : ApiType}
    {members members' : List (String × Json)} :
    VisiblyEqual (.list (.object (entryRecord serial value))) (.object members) (.object members') ↔
      List.Forall₂ (EntryAlike value) members members' := by
  constructor
  · intro equal
    generalize type_eq : ApiType.list (.object (entryRecord serial value)) = type at equal
    cases equal with
    | same => exact List.forall₂_same.2 fun member _ => ⟨rfl, .same _ _⟩
    | object => cases type_eq
    | union => cases type_eq
    | @entries serial' value' _ _ keys each =>
      simp only [ApiType.list.injEq, ApiType.object.injEq] at type_eq
      obtain rfl := entryRecord_inj type_eq
      exact List.forall₂_iff_zip.2
        ⟨length_eq_of_keys keys, fun mem => ⟨fst_eq_of_mem_zip keys mem, each _ mem⟩⟩
  · intro alike
    have keys : Keyed.keys members = Keyed.keys members' := by
      rw [Keyed.keys, Keyed.keys, ← List.forall₂_eq_eq_eq, List.forall₂_map_left_iff,
        List.forall₂_map_right_iff]
      exact alike.imp fun _ _ same => same.1
    exact .entries keys fun pair mem => ((List.forall₂_iff_zip.1 alike).2 mem).2

/-! ### In a row -/

theorem UnionType.ChoosesAlike.trans {union : UnionType} {a b c : List (String × Json)}
    (first : union.ChoosesAlike a b) (second : union.ChoosesAlike b c) :
    union.ChoosesAlike a c where
  discriminators object mem key own :=
    (first.discriminators object mem key own).trans (second.discriminators object mem key own)
  required object mem field inside needed :=
    (first.required object mem field inside needed).trans
      (second.required object mem field inside needed)

theorem forall₂_trans_of {α : Type} {R : α → α → Prop} {as bs cs : List α}
    (first : List.Forall₂ (fun a b => ∀ {c}, R b c → R a c) as bs)
    (second : List.Forall₂ R bs cs) : List.Forall₂ R as cs := by
  induction first generalizing cs with
  | nil => exact second
  | cons head _ ih =>
    obtain ⟨c, rest, here, later, rfl⟩ := List.forall₂_cons_left_iff.1 second
    exact .cons (head here) (ih later)

theorem VisiblyEqual.exists_members {type : ApiType} {members : List (String × Json)}
    {value : Json} (equal : VisiblyEqual type (.object members) value) :
    ∃ members', value = .object members' := by
  cases equal <;> exact ⟨_, rfl⟩

theorem VisiblyEqual.exists_items {type : ApiType} {items : List Json} {value : Json}
    (equal : VisiblyEqual type (.array items) value) : ∃ items', value = .array items' := by
  cases equal <;> exact ⟨_, rfl⟩

theorem VisiblyEqual.trans {type : ApiType} {a b c : Json} (first : VisiblyEqual type a b)
    (second : VisiblyEqual type b c) : VisiblyEqual type a c := by
  induction first generalizing c with
  | same => exact second
  | object fields ih =>
    cases second with
    | same => exact .object fields
    | object fields' => exact .object fun field mem => ih field mem (fields' field mem)
  | items length each ih =>
    obtain ⟨items, rfl⟩ := second.exists_items
    rw [visiblyEqual_items_iff] at second ⊢
    exact forall₂_trans_of (List.forall₂_iff_zip.2 ⟨length, fun mem => ih _ mem⟩) second
  | @entries serial value members members' keys each ih =>
    obtain ⟨others, rfl⟩ := second.exists_members
    rw [visiblyEqual_entries_iff] at second ⊢
    refine forall₂_trans_of (List.forall₂_iff_zip.2 ⟨length_eq_of_keys keys, fun mem => ?_⟩) second
    exact fun same => ⟨(fst_eq_of_mem_zip keys mem).trans same.1, ih _ mem same.2⟩
  | union alike each ih =>
    cases second with
    | same => exact .union alike each
    | union alike' each' =>
      exact .union (alike.trans alike') fun object mem => ih object mem (each' object mem)

/-! ## Changes that a type does not declare -/

/-- One change to a value, which the type does not declare: to what a mapping has under keys other
than the declared ones, or, at any depth, such a change to a value under a key, to an item or to a
value of a mapping that is read as entries. -/
inductive HiddenChange : ApiType → Json → Json → Prop where
  | object {object : ObjectType} {members members' : List (String × Json)}
      (same : ∀ key ∈ object.declaredKeys, Keyed.get? key members = Keyed.get? key members') :
      HiddenChange (.object object) (.object members) (.object members')
  | union {union : UnionType} {members members' : List (String × Json)}
      (same : ∀ key ∈ union.declaredKeys, Keyed.get? key members = Keyed.get? key members') :
      HiddenChange (.union union) (.object members) (.object members')
  | underKey {object : ObjectType} {before after : List (String × Json)} {key : String}
      {value value' : Json}
      (inside : ∀ field ∈ object.fields, field.source = key →
        HiddenChange field.type value value') :
      HiddenChange (.object object) (.object (before ++ (key, value) :: after))
        (.object (before ++ (key, value') :: after))
  | underMemberKey {union : UnionType} {before after : List (String × Json)} {key : String}
      {value value' : Json}
      (inside : ∀ object ∈ union.members, ∀ field ∈ object.fields, field.source = key →
        HiddenChange field.type value value') :
      HiddenChange (.union union) (.object (before ++ (key, value) :: after))
        (.object (before ++ (key, value') :: after))
  | item {element : ApiType} {before after : List Json} {value value' : Json}
      (inside : HiddenChange element value value') :
      HiddenChange (.list element) (.array (before ++ value :: after))
        (.array (before ++ value' :: after))
  | entry {serial : Nat} {type : ApiType} {before after : List (String × Json)} {key : String}
      {value value' : Json} (inside : HiddenChange type value value') :
      HiddenChange (.list (.object (entryRecord serial type)))
        (.object (before ++ (key, value) :: after)) (.object (before ++ (key, value') :: after))

theorem Keyed.get?_replace {α : Type} {before after : Keyed α} {key : String} {value value' : α}
    (other : String) :
    get? other (before ++ (key, value) :: after) = get? other (before ++ (key, value') :: after) ∨
      key = other ∧ get? other (before ++ (key, value) :: after) = some value ∧
        get? other (before ++ (key, value') :: after) = some value' := by
  induction before with
  | nil => by_cases here : key = other <;> simp [get?, here]
  | cons entry rest ih =>
    by_cases there : entry.1 = other
    · simp [get?, there]
    · simpa [get?, there] using ih

theorem forall₂_replace {α : Type} {R : α → α → Prop} (refl : ∀ a, R a a) {a b : α}
    (related : R a b) (before after : List α) :
    List.Forall₂ R (before ++ a :: after) (before ++ b :: after) :=
  List.rel_append (List.forall₂_same.2 fun x _ => refl x)
    (.cons related (List.forall₂_same.2 fun x _ => refl x))

/-- Values that are visibly equal at the fields of a key can stand for each other under it. -/
theorem ObjectType.visiblyEqual_replace {object : ObjectType} {key : String} {value value' : Json}
    (equal : ∀ field ∈ object.fields, field.source = key → VisiblyEqual field.type value value')
    (before after : List (String × Json)) :
    VisiblyEqual (.object object) (.object (before ++ (key, value) :: after))
      (.object (before ++ (key, value') :: after)) := by
  refine .object fun field mem => ?_
  rcases Keyed.get?_replace field.source with same | ⟨here, found, found'⟩
  · rw [same]
    exact .same _ _
  · rw [found, found']
    exact equal field mem here.symm

theorem UnionType.choosesAlike_replace (union : UnionType) (before after : List (String × Json))
    (key : String) (value value' : Json) :
    union.ChoosesAlike (before ++ (key, value) :: after) (before ++ (key, value') :: after) := by
  have has : ∀ other, Keyed.has other (before ++ (key, value) :: after) =
      Keyed.has other (before ++ (key, value') :: after) := by
    intro other
    unfold Keyed.has
    rcases Keyed.get?_replace other with same | ⟨-, found, found'⟩
    · rw [same]
    · rw [found, found']
      rfl
  exact ⟨fun _ _ key _ => has key, fun _ _ field _ _ => has field.source⟩

/-- A value and what one undeclared change makes of it are visibly equal. -/
theorem HiddenChange.visiblyEqual {type : ApiType} {value value' : Json}
    (change : HiddenChange type value value') : VisiblyEqual type value value' := by
  induction change with
  | object same => exact ObjectType.visiblyEqual_of_declared same
  | union same => exact UnionType.visiblyEqual_of_declared same
  | underKey _ ih => exact ObjectType.visiblyEqual_replace ih _ _
  | @underMemberKey union before after key value value' _ ih =>
    exact .union (union.choosesAlike_replace before after key value value')
      fun object mem => object.visiblyEqual_replace (ih object mem) _ _
  | item _ ih =>
    rw [visiblyEqual_items_iff]
    exact forall₂_replace (fun item => .same _ item) ih _ _
  | entry _ ih =>
    rw [visiblyEqual_entries_iff]
    exact forall₂_replace (fun member => ⟨rfl, .same _ _⟩) ⟨rfl, ih⟩ _ _

/-- Values that differ only in what a type does not declare, at any depth, are visibly equal. -/
theorem visiblyEqual_of_hiddenChanges {type : ApiType} {value value' : Json}
    (changes : Relation.ReflTransGen (HiddenChange type) value value') :
    VisiblyEqual type value value' := by
  induction changes with
  | refl => exact .same _ _
  | tail _ change ih => exact ih.trans change.visiblyEqual

/-! ## Projections -/

theorem projectFields_congr {get get' : String → Option Json} {fields : List Field}
    (same : ∀ field ∈ fields, field.projectWith get = field.projectWith get')
    (done : List (String × Json)) :
    projectFields get done fields = projectFields get' done fields := by
  induction fields generalizing done with
  | nil => rw [projectFields, projectFields]
  | cons field rest ih =>
    obtain ⟨first, later⟩ := List.forall_mem_cons.1 same
    rw [projectFields, projectFields, first]
    exact ih later _

theorem ObjectType.projectWith_congr {object : ObjectType} {get get' : String → Option Json}
    (same : ∀ field ∈ object.fields, field.projectWith get = field.projectWith get') :
    object.projectWith get = object.projectWith get' := by
  rcases object with ⟨serial, name, description, fields, discriminator⟩
  exact projectFields_congr same []

/-- Two mappings that choose alike belong to the same members of a union. -/
theorem UnionType.ChoosesAlike.memberTest_eq {union : UnionType}
    {members members' : List (String × Json)} (alike : union.ChoosesAlike members members') :
    ∀ object ∈ union.members,
      memberTest union.members members object = memberTest union.members members' object := by
  have discriminated : ∀ object ∈ union.members,
      object.isDiscriminated members = object.isDiscriminated members' := by
    intro object mem
    unfold ObjectType.isDiscriminated
    rcases discriminator : object.discriminator with _ | key
    · rfl
    · exact alike.discriminators object mem key discriminator
  have required : ∀ object ∈ union.members,
      object.hasRequired members = object.hasRequired members' := by
    intro object mem
    unfold ObjectType.hasRequired
    rw [Bool.eq_iff_iff, List.all_eq_true, List.all_eq_true]
    refine forall₂_congr fun field inside => ?_
    obtain ⟨inside, needed⟩ := List.mem_filter.1 inside
    rw [alike.required object mem field inside needed]
  have any_discriminated : union.members.any (·.isDiscriminated members) =
      union.members.any (·.isDiscriminated members') := by
    rw [Bool.eq_iff_iff, List.any_eq_true, List.any_eq_true]
    exact exists_congr fun object => and_congr_right fun mem => by rw [discriminated object mem]
  intro object mem
  unfold memberTest
  rw [any_discriminated]
  split_ifs
  · exact discriminated object mem
  · rfl
  · exact required object mem

theorem projectFirst_congr {test test' : ObjectType → Bool}
    {members members' : List (String × Json)}
    {objects : List ObjectType} (tests : ∀ object ∈ objects, test object = test' object)
    (same : ∀ object ∈ objects, object.projectWith (Keyed.get? · members) =
      object.projectWith (Keyed.get? · members')) :
    projectFirst test members objects = projectFirst test' members' objects := by
  induction objects with
  | nil => rw [projectFirst, projectFirst]
  | cons object rest ih =>
    obtain ⟨test_eq, tests_later⟩ := List.forall_mem_cons.1 tests
    obtain ⟨project_eq, same_later⟩ := List.forall_mem_cons.1 same
    rw [projectFirst, projectFirst, test_eq, project_eq, ih tests_later same_later]

theorem project_object (object : ObjectType) (members : List (String × Json)) :
    (ApiType.object object).project (lowerFor (.object object) (.object members)) =
      .object (object.projectWith (Keyed.get? · members)) := by
  rw [show lowerFor (.object object) (.object members) = .object members from rfl, ApiType.project]

/-- Elements that are mapped to the same, pair by pair, give the same lists. -/
theorem map_eq_map_of_zip {α β γ : Type} {f : α → γ} {g : β → γ} {as : List α} {bs : List β}
    (length : as.length = bs.length) (same : ∀ pair ∈ as.zip bs, f pair.1 = g pair.2) :
    as.map f = bs.map g :=
  calc as.map f = ((as.zip bs).map Prod.fst).map f := by rw [List.map_fst_zip (Nat.le_of_eq length)]
    _ = (as.zip bs).map fun pair => f pair.1 := List.map_map
    _ = (as.zip bs).map fun pair => g pair.2 := List.map_congr_left same
    _ = ((as.zip bs).map Prod.snd).map g := List.map_map.symm
    _ = bs.map g := by rw [List.map_snd_zip (Nat.le_of_eq length.symm)]

/-- A mapping at a list of entry records is projected record by record. -/
theorem project_entries (serial : Nat) (value : ApiType) (members : List (String × Json)) :
    (ApiType.list (.object (entryRecord serial value))).project
        (lowerFor (.list (.object (entryRecord serial value))) (.object members)) =
      entriesOf (members.map fun (key, v) => (key, value.project (lowerFor value v))) := by
  rw [show lowerFor (.list (.object (entryRecord serial value))) (.object members) =
    entriesOf members from rfl, entriesOf, ApiType.project, entriesOf, List.map_map, List.map_map,
    Json.array.injEq]
  exact List.map_congr_left fun member _ => project_record serial value member.1 member.2

theorem VisiblyEqual.project_eq {type : ApiType} {value value' : Json}
    (equal : VisiblyEqual type value value') :
    type.project (lowerFor type value) = type.project (lowerFor type value') := by
  induction equal with
  | same type value => rfl
  | object _ ih =>
    rw [project_object, project_object, ObjectType.projectWith_congr]
    intro field mem
    rw [field.projectWith_eq, field.projectWith_eq]
    exact ih field mem
  | @items element items items' length _ ih =>
    rw [show lowerFor (.list element) (.array items) = .array items from rfl,
      show lowerFor (.list element) (.array items') = .array items' from rfl,
      ApiType.project, ApiType.project, Json.array.injEq]
    exact map_eq_map_of_zip length ih
  | @entries serial value members members' keys _ ih =>
    rw [project_entries, project_entries]
    refine congrArg entriesOf (map_eq_map_of_zip (length_eq_of_keys keys) fun pair mem => ?_)
    exact Prod.ext (fst_eq_of_mem_zip keys mem) (ih pair mem)
  | @union union members members' alike _ ih =>
    have same : ∀ object ∈ union.members, object.projectWith (Keyed.get? · members) =
        object.projectWith (Keyed.get? · members') := by
      intro object mem
      have equal := ih object mem
      rw [project_object, project_object] at equal
      exact Json.object.inj equal
    rcases union with ⟨name, description, objects⟩
    exact projectFirst_congr alike.memberTest_eq same

/-! ## The keys that generated objects declare -/

/-- The keys are those that the walk of the definition sees in one object of its schema. -/
def Definition.Shows (d : Definition) (keys : List String) : Prop :=
  (∃ nodes, d.schema = .object nodes ∧ keys = visibleKeys d.skipFields d.docs nodes) ∨
    ∃ place ∈ d.places, keys = visibleKeys [] place.tree place.nodes

/-- The object declares the visible keys of an object in a known definition, unless it is an entry
record. -/
def ObjectType.DeclaresShown (known : Definition → Prop) (object : ObjectType) : Prop :=
  (∃ d, known d ∧ d.Shows object.declaredKeys) ∨ ∃ serial value, object = entryRecord serial value

theorem ObjectOrigin.declaresShown {known : Definition → Prop} {object : ObjectType}
    (origin : ObjectOrigin known object) : object.DeclaresShown known := by
  cases origin with
  | document is_known schema _ _ made => exact .inl ⟨_, is_known, .inl ⟨_, schema, made.sources⟩⟩
  | nested is_known inside _ _ made => exact .inl ⟨_, is_known, .inr ⟨_, inside, made.sources⟩⟩
  | record serial value => exact .inr ⟨serial, value, rfl⟩

namespace Synthesizer

open Synthesis

/-- The objects among the registered types, those among the members of registered unions, and the
entry records. -/
def Holds (s : Synthesizer) (object : ObjectType) : Prop :=
  .object object ∈ s.types ∨ (∃ union, .union union ∈ s.types ∧ object ∈ union.members) ∨
    ∃ fragment, Keyed.get? fragment s.registry.entries = some object

/-- After every sequence of calls, every object declares keys that are visible in a definition that
the synthesizer was told of, or is an entry record. -/
theorem declaresShown_afterCalls {catalog : Catalog} {strict : Bool} {calls : List Call}
    {object : ObjectType} (held : ((new catalog strict).afterCalls calls).Holds object) :
    object.DeclaresShown (Told catalog calls) := by
  have origins := originates_afterCalls catalog strict calls
  apply ObjectOrigin.declaresShown
  rcases held with mem | ⟨union, mem, inside⟩ | ⟨fragment, found⟩
  · exact origins.types _ mem
  · have origin : UnionOrigin catalog (Told catalog calls) union := origins.types _ mem
    exact origin.objects object inside
  · exact origins.records found

theorem fields_registerFields {name : String} {description discriminator : Option String}
    {fields : List Field} {object : ObjectType} {r r' : Registry}
    (run : (Conversion.registerFields name description discriminator fields).run r =
      (.ok object, r')) :
    object.fields = fields := by
  unfold Conversion.registerFields at run
  split_ifs at run
  · cases run
  · cases run
    rfl

/-- The object that a definition gets from a new synthesizer declares the definition's visible
keys. -/
theorem declaredKeys_synthesize {catalog : Catalog} {strict : Bool} {d : Definition}
    {object : ObjectType} (given : ((new catalog strict).synthesize d).1 = .ok object) :
    ∃ nodes, d.schema = .object nodes ∧
      object.declaredKeys = visibleKeys d.skipFields d.docs nodes := by
  unfold synthesize at given
  rcases run : (catalog.objectOf strict d).run Registry.empty with ⟨e | o, r⟩
  · rw [run_error run] at given
    cases given
  · rw [run_ok run] at given
    cases given
    unfold Catalog.objectOf Definition.objectWith at run
    obtain ⟨known, r₁, look, walk⟩ := run_bind_ok run
    cases look
    dsimp only at walk
    rw [dif_neg List.not_mem_nil] at walk
    split at walk
    · rename_i nodes schema
      obtain ⟨fields, r₂, converted, registered⟩ := run_bind_ok walk
      have resolves : Conversion.GivesOrigins catalog (fun _ => True)
          ⟨strict, catalog.typeOf strict [d.name]⟩ := typeOf_traces (fun _ _ => trivial) _
      have made := (Conversion.convertFields_traces resolves trivial nodes [] d.docs d.skipFields
        (Definition.subset_places schema) madeOfKeys_nil _ _ _ Registry.originates_empty
        converted).2
      refine ⟨nodes, schema, ?_⟩
      rw [ObjectType.declaredKeys, fields_registerFields registered]
      exact made.sources
    · cases walk

end Synthesizer

/-! ## Undeclared keys -/

/-- Visibly equal mappings have the same projection, whatever holds them.  Mappings that are the
same under the declared keys of an object or a union are visibly equal there, and so are values that
differ, at any depth, only in what their type does not declare.  The keys that the object of a
definition declares are neither hidden nor undocumented, and those of every object that a
synthesizer has are the keys of such an object or of an entry record. -/
theorem project_eq_of_visiblyEqual :
    (∀ (object : ObjectType) (members members' : List (String × Json)),
      VisiblyEqual (.object object) (.object members) (.object members') →
      ∀ i i' : Instance, (∀ key, i.get? key = Keyed.get? key members) →
        (∀ key, i'.get? key = Keyed.get? key members') → object.project i = object.project i') ∧
    (∀ (object : ObjectType) (members members' : List (String × Json)),
      (∀ key ∈ object.declaredKeys, Keyed.get? key members = Keyed.get? key members') →
      VisiblyEqual (.object object) (.object members) (.object members')) ∧
    (∀ (union : UnionType) (members members' : List (String × Json)),
      (∀ key ∈ union.declaredKeys, Keyed.get? key members = Keyed.get? key members') →
      VisiblyEqual (.union union) (.object members) (.object members')) ∧
    (∀ (catalog : Catalog) (strict : Bool) (d : Definition) (object : ObjectType),
      ((Synthesizer.new catalog strict).synthesize d).1 = .ok object →
      ∀ key ∈ object.declaredKeys,
        isHiddenKey d.skipFields key = false ∧ Keyed.has key d.docs = true) ∧
    (∀ (type : ApiType) (value value' : Json),
      Relation.ReflTransGen (HiddenChange type) value value' → VisiblyEqual type value value') ∧
    ∀ (catalog : Catalog) (strict : Bool) (calls : List Call) (object : ObjectType),
      ((Synthesizer.new catalog strict).afterCalls calls).Holds object →
      object.DeclaresShown (Synthesizer.Told catalog calls) := by
  refine ⟨fun object members members' equal i i' reads reads' => ?_,
    fun object _ _ => object.visiblyEqual_of_declared,
    fun union _ _ => union.visiblyEqual_of_declared,
    fun catalog strict d object given key declared => ?_,
    fun type _ _ => visiblyEqual_of_hiddenChanges,
    fun catalog strict calls object => Synthesizer.declaresShown_afterCalls⟩
  · have projected := equal.project_eq
    rw [project_object, project_object] at projected
    rw [ObjectType.project, ObjectType.project, funext reads, funext reads']
    exact Json.object.inj projected
  · obtain ⟨nodes, -, keys⟩ := Synthesizer.declaredKeys_synthesize given
    rw [keys] at declared
    exact shown_of_mem_visibleKeys declared

def boxType (name source : String) (discriminator : Option String) : ObjectType :=
  ⟨0, name, none, [Field.ofKey source (.scalar .string)], discriminator⟩

/-- An object type with objects in a field, in a list, in a mapping and in a union. -/
def pageType : ObjectType where
  serial := 0
  name := "Page"
  description := none
  fields :=
    [Field.ofKey "page_title" (.scalar .string),
     Field.ofKey "author" (.object (boxType "Author" "name" none)),
     Field.ofKey "tags" (.list (.object (boxType "Tag" "label" none))),
     Field.ofKey "sizes" (.list (.object (entryRecord 0 (.object (boxType "Size" "width" none))))),
     Field.ofKey "media" (.union ⟨"Media", none,
       [boxType "Photo" "url" (some "photo"), boxType "Clip" "clip_id" none]⟩)]
  discriminator := none

/-- A mapping with the given members added wherever it has a mapping. -/
def pageWith (hidden : List (String × Json)) : List (String × Json) :=
  hidden ++
    [("media", .object (hidden ++ [("photo", .null), ("url", .string "u")])),
     ("page_title", .string "Title"),
     ("sizes", .object
       [("small", .object (hidden ++ [("width", .ofInt 1)])), ("large", .object hidden)]),
     ("tags", .array [.object (hidden ++ [("label", .string "l")])]),
     ("author", .object (hidden ++ [("name", .string "A")]))]

theorem pageWith_projected :
    let members := pageWith [("$id", .ofInt 7), ("secret", .null)]
    VisiblyEqual (.object pageType) (.object members) (.object (pageWith [])) ∧
      pageType.project (.ofMembers members) =
        pageType.project (.ofDocument ⟨.app, pageWith []⟩) ∧
      pageType.project (.ofMembers (pageWith [])) =
        [("pageTitle", .string "Title"),
         ("author", .object [("name", .string "A")]),
         ("tags", .array [.object [("label", .string "l")]]),
         ("sizes", entriesOf
           [("small", .object [("width", .ofInt 1)]), ("large", .object [("width", .null)])]),
         ("media", .object [("__typename", .string "Photo"), ("url", .string "u")])] ∧
      (∀ hidden : Json,
        VisiblyEqual (.list (.object (boxType "Tag" "label" none)))
          (.array [.object [("label", .string "l"), ("secret", hidden)]])
          (.array [.object [("label", .string "l")]])) ∧
      (∃ object, ((Synthesizer.new ⟨[Synthesizer.portsService]⟩ false).synthesize
          Synthesizer.portsService).1 = .ok object ∧
        "env_vars" ∈ object.declaredKeys ∧ "internal_id" ∉ object.declaredKeys) ∧
      let s := (Synthesizer.new ⟨[Synthesizer.portsService]⟩ false).afterCalls
        [.synthesize Synthesizer.portsService]
      ∃ object, s.lookup "Service" = some (.object object) ∧ object.DeclaresShown
        (Synthesizer.Told ⟨[Synthesizer.portsService]⟩
          [.synthesize Synthesizer.portsService]) := by
  intro members
  obtain ⟨projects, objects, unions, declares, hides, holds⟩ := project_eq_of_visiblyEqual
  have box : ∀ (name source : String) (discriminator : Option String)
      {members members' : List (String × Json)},
      Keyed.get? source members = Keyed.get? source members' →
      VisiblyEqual (.object (boxType name source discriminator)) (.object members)
        (.object members') :=
    fun name source discriminator _ _ same => objects _ _ _ (List.forall_mem_singleton.2 same)
  have equal : VisiblyEqual (.object pageType) (.object members) (.object (pageWith [])) := by
    refine .object ?_
    simp only [pageType, Field.ofKey, List.forall_mem_cons]
    refine ⟨.same _ _, box _ _ _ rfl, .items rfl (List.forall_mem_singleton.2 (box _ _ _ rfl)),
      .entries rfl (List.forall_mem_cons.2 ⟨box _ _ _ rfl, List.forall_mem_singleton.2
        (box _ _ _ rfl)⟩), unions _ _ _ ?_, by simp⟩
    refine List.forall_mem_cons.2 ⟨rfl, List.forall_mem_cons.2 ⟨rfl, ?_⟩⟩
    exact List.forall_mem_singleton.2 rfl
  have same : ∀ hidden, ∀ key ∈ (boxType "Tag" "label" none).declaredKeys,
      Keyed.get? key [("label", Json.string "l"), ("secret", hidden)] =
        Keyed.get? key [("label", .string "l")] :=
    fun hidden => List.forall_mem_singleton.2 rfl
  have registered : ∃ object, ((Synthesizer.new ⟨[Synthesizer.portsService]⟩ false).afterCalls
      [.synthesize Synthesizer.portsService]).lookup "Service" = some (.object object) := ⟨_, rfl⟩
  obtain ⟨object, found⟩ := registered
  refine ⟨equal, ?_, rfl, fun hidden => ?_, ⟨_, rfl, by decide, fun declared => ?_⟩,
    object, found, ?_⟩
  · exact projects pageType _ _ equal (.ofMembers members) (.ofDocument ⟨.app, pageWith []⟩)
      (fun _ => rfl) fun _ => rfl
  · exact hides _ _ _ (.single (@HiddenChange.item _ [] [] _ _ (.object (same hidden))))
  · have shown :=
      declares ⟨[Synthesizer.portsService]⟩ false Synthesizer.portsService _ rfl _ declared
    exact absurd shown.1 (by decide)
  · exact holds _ _ _ object (.inl (Registry.mem_of_get? found))

end ApiSchema
