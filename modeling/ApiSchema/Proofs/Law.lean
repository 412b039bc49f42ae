import Mathlib.Tactic.SplitIfs
import ApiSchema.Proofs.Run

/-!
# Laws of a walk

A walk over a schema reads and extends the registry in a few ways only: it adds advisories,
registers an object or a union whose name it has looked up in vain before, and keeps entry records.
A `Law` says what such steps keep, and `Law.typeOf_leads` and `Law.objectOf_leads` carry it from the
single steps to the walk of a document, whatever its outcome.
-/

namespace ApiSchema

open Documentation (Entry Tree valueTerm)

/-- The types of which a named type is made: those of an object's fields, or a union's members. -/
def NamedType.parts : NamedType → List ApiType
  | .object o => o.fields.map Field.type
  | .union u => u.members.map .object

/-- What the steps of a walk keep: an invariant of the registry, a relation between the registry
before and after, and a property of the types that have been given so far. -/
structure Law where
  Inv : Registry → Prop
  Step : Registry → Registry → Prop
  Good : ApiType → Registry → Prop
  refl : ∀ r, Step r r
  trans : ∀ {a b c}, Step a b → Step b c → Step a c
  mono : ∀ {type r r'}, Step r r' → Good type r → Good type r'
  scalar : ∀ scalar r, Good (.scalar scalar) r
  list : ∀ {type r}, Good type r → Good (.list type) r
  member : ∀ {union m r}, Inv r → Good (.union union) r → m ∈ union.members → Good (.object m) r
  found : ∀ {r name type}, Inv r → r.get? name = some type → Good type.toType r
  recordFound : ∀ {r fragment record}, Inv r → Keyed.get? fragment r.entries = some record →
    Good (.object record) r
  advise : ∀ {r} advisory, Inv r → Inv (r.advise advisory) ∧ Step r (r.advise advisory)
  /-- A type is registered after its parts; `base` is the registry in which its name was looked
  up. -/
  register : ∀ {base r type}, Inv r → Step base r → base.get? type.name = none →
    (∀ object, type = .object object → object.serial = r.nextSerial) →
    (∀ part ∈ type.parts, Good part r) →
    Inv (r.register type) ∧ Step base (r.register type) ∧ Good type.toType (r.register type)
  keepRecord : ∀ {r value record}, Inv r → record = entryRecord r.nextSerial value →
    Keyed.get? value.fragment r.entries = none → r.get? record.name = none → Good value r →
    Inv ((r.register (.object record)).keepRecord value.fragment record) ∧
    Step r ((r.register (.object record)).keepRecord value.fragment record) ∧
    Good (.object record) ((r.register (.object record)).keepRecord value.fragment record)

namespace Law

variable {L : Law} {α β : Type} {base r : Registry}

/-- From `r` on, the computation keeps the law since `base`, and gives what `Q` says. -/
def Leads (L : Law) (base r : Registry) (m : Synthesis α) (Q : α → Registry → Prop) : Prop :=
  match m.run r with
  | (.ok a, r') => L.Inv r' ∧ L.Step base r' ∧ Q a r'
  | (.error _, r') => L.Inv r' ∧ L.Step base r'

theorem leads_pure {a : α} {Q : α → Registry → Prop} (inv : L.Inv r) (step : L.Step base r)
    (q : Q a r) : L.Leads base r (pure a) Q := ⟨inv, step, q⟩

theorem leads_fail {Q : α → Registry → Prop} (path : String) (fault : SynthesisFault)
    (inv : L.Inv r) (step : L.Step base r) : L.Leads base r (Synthesis.fail path fault) Q :=
  ⟨inv, step⟩

theorem Leads.bind {m : Synthesis α} {f : α → Synthesis β} {P : α → Registry → Prop}
    {Q : β → Registry → Prop} (first : L.Leads base r m P)
    (next : ∀ a r', L.Inv r' → L.Step base r' → P a r' → L.Leads base r' (f a) Q) :
    L.Leads base r (m >>= f) Q := by
  unfold Leads at first ⊢
  rw [Synthesis.run_bind]
  rcases run : m.run r with ⟨_ | a, r'⟩
  · simpa [run] using first
  · rw [run] at first
    exact next a r' first.1 first.2.1 first.2.2

theorem Leads.since {m : Synthesis α} {Q : α → Registry → Prop} (step : L.Step base r)
    (lead : L.Leads r r m Q) : L.Leads base r m Q := by
  unfold Leads at lead ⊢
  rcases run : m.run r with ⟨_ | a, r'⟩
  · rw [run] at lead
    exact ⟨lead.1, L.trans step lead.2⟩
  · rw [run] at lead
    exact ⟨lead.1, L.trans step lead.2.1, lead.2.2⟩

theorem leads_advise (path : String) (kind : AdvisoryKind) (message : String) (inv : L.Inv r)
    (step : L.Step base r) :
    L.Leads base r (Synthesis.advise path kind message) fun _ _ => True := by
  obtain ⟨inv', step'⟩ := L.advise ⟨path, kind, message⟩ inv
  exact ⟨inv', L.trans step step', trivial⟩

theorem leads_objectNamed? {f : Option ObjectType → Synthesis β} {Q : β → Registry → Prop}
    {name : String} (inv : L.Inv r) (step : L.Step base r)
    (taken : ∀ object, r.get? name = some (.object object) → L.Leads base r (f (some object)) Q)
    (free : r.get? name = none → L.Leads base r (f none) Q) :
    L.Leads base r (Synthesis.objectNamed? name >>= f) Q := by
  unfold Leads
  rw [Synthesis.run_bind, Synthesis.run_objectNamed?]
  rcases look : r.get? name with _ | object | union
  · exact free look
  · exact taken object look
  · exact ⟨inv, step⟩

theorem leads_unionNamed? {f : Option UnionType → Synthesis β} {Q : β → Registry → Prop}
    {name : String} (inv : L.Inv r) (step : L.Step base r)
    (taken : ∀ union, r.get? name = some (.union union) → L.Leads base r (f (some union)) Q)
    (free : r.get? name = none → L.Leads base r (f none) Q) :
    L.Leads base r (Synthesis.unionNamed? name >>= f) Q := by
  unfold Leads
  rw [Synthesis.run_bind, Synthesis.run_unionNamed?]
  rcases look : r.get? name with _ | object | union
  · exact free look
  · exact ⟨inv, step⟩
  · exact taken union look

theorem leads_entryRecordFor {value : ApiType} (inv : L.Inv r) (step : L.Step base r)
    (good : L.Good value r) :
    L.Leads base r (Synthesis.entryRecordFor value) fun record => L.Good (.object record) := by
  unfold Leads
  rw [Synthesis.run_entryRecordFor]
  rcases look : Keyed.get? value.fragment r.entries with _ | record
  · by_cases taken : r.has (entryName value)
    · simp only [if_pos taken]
      exact ⟨inv, step⟩
    · have free : r.get? (entryName value) = none := by
        simpa [Registry.has] using taken
      obtain ⟨inv', step', good'⟩ := L.keepRecord inv rfl look free good
      simp only [if_neg taken]
      exact ⟨inv', L.trans step step', good'⟩
  · exact ⟨inv, step, L.recordFound inv look⟩

/-! ## Conversion -/

section Conversion

open Conversion

/-- Every type that a reference gives keeps the law. -/
def Resolves (L : Law) (c : Conversion) : Prop :=
  ∀ path kind r, L.Inv r → L.Leads r r (c.resolve path kind) L.Good

theorem convertScalar_leads (path : String) (kind : ScalarKind) (inv : L.Inv r) :
    L.Leads r r (convertScalar path kind) L.Good := by
  cases kind with
  | any =>
    refine (leads_advise _ _ _ inv (L.refl r)).bind fun _ r' inv' step' _ => ?_
    exact leads_pure inv' step' (L.scalar _ _)
  | string | integer | float | boolean => exact leads_pure inv (L.refl r) (L.scalar _ _)

theorem mem_add {m : ObjectType} {done candidates : List ObjectType}
    (mem : m ∈ unionMembers.add done candidates) : m ∈ done ∨ m ∈ candidates := by
  induction candidates generalizing done with
  | nil => exact .inl mem
  | cons candidate rest ih =>
    rcases ih mem with mem | mem
    · dsimp only at mem
      by_cases known : done.any (·.serial == candidate.serial)
      · rw [if_pos known] at mem
        exact .inl mem
      · rw [if_neg known, List.mem_append, List.mem_singleton] at mem
        rcases mem with mem | rfl
        · exact .inl mem
        · exact .inr (List.mem_cons_self ..)
    · exact .inr (List.mem_cons_of_mem _ mem)

theorem unionMembers_leads (path : String) (inv : L.Inv r) (step : L.Step base r)
    (types : List ApiType) (good : ∀ t ∈ types, L.Good t r) (done : List ObjectType)
    (goodDone : ∀ m ∈ done, L.Good (.object m) r) :
    L.Leads base r (unionMembers path done types) fun members r' =>
      ∀ m ∈ members, L.Good (.object m) r' := by
  induction types generalizing done with
  | nil => exact leads_pure inv step goodDone
  | cons type rest ih =>
    obtain ⟨goodType, goodRest⟩ := List.forall_mem_cons.1 good
    cases type with
    | object object =>
      refine ih goodRest _ fun m mem => ?_
      rcases mem_add mem with mem | mem
      · exact goodDone m mem
      · rwa [List.mem_singleton.1 mem]
    | union union =>
      refine ih goodRest _ fun m mem => ?_
      rcases mem_add mem with mem | mem
      · exact goodDone m mem
      · exact L.member inv goodType mem
    | list _ | scalar _ => exact leads_fail _ _ inv step

theorem scalarUnion_leads (c : Conversion) (path : String) (first : ApiScalar)
    (others : List ApiScalar) (inv : L.Inv r) (step : L.Step base r) :
    L.Leads base r (c.scalarUnion path first others) L.Good := by
  unfold scalarUnion
  split_ifs
  · exact leads_pure inv step (L.scalar _ _)
  · exact leads_fail _ _ inv step
  · refine (leads_advise _ _ _ inv step).bind fun _ r' inv' step' _ => ?_
    exact leads_pure inv' step' (L.scalar _ _)

theorem registerUnion_leads (union : UnionType) (inv : L.Inv r) (step : L.Step base r)
    (free : base.get? union.name = none) (good : ∀ m ∈ union.members, L.Good (.object m) r) :
    L.Leads base r (Synthesis.registerUnion union) fun union => L.Good (.union union) :=
  L.register inv step free (by simp) (by simpa [NamedType.parts] using good)

theorem unionOf_leads (c : Conversion) {path : String} (description : Option String)
    {types : List ApiType} (inv : L.Inv r) (step : L.Step base r) (free : base.get? path = none)
    (good : ∀ t ∈ types, L.Good t r) :
    L.Leads base r (c.unionOf path description types) L.Good := by
  unfold unionOf
  dsimp only
  split
  · refine (unionMembers_leads path inv step types good [] (by simp)).bind
      fun members r' inv' step' goodMembers => ?_
    refine (registerUnion_leads ⟨path, description, members⟩ inv' step' free goodMembers).bind
      fun union r'' inv'' step'' goodUnion => ?_
    exact leads_pure inv'' step'' goodUnion
  · split_ifs
    · exact scalarUnion_leads c path _ _ inv step
    · exact leads_fail _ _ inv step

theorem unionAt_leads (c : Conversion) (path : String) (docs : Option Entry)
    (nodes : List SchemaNode) {alternatives : Synthesis (List ApiType)} (inv : L.Inv r)
    (lead : L.Leads r r alternatives fun types r' => ∀ t ∈ types, L.Good t r') :
    L.Leads r r (c.unionAt path docs nodes alternatives) L.Good := by
  refine leads_unionNamed? inv (L.refl r) (fun union look => ?_) fun free => ?_
  · exact leads_pure inv (L.refl r) (L.found inv look)
  · dsimp only
    split_ifs
    · exact leads_fail _ _ inv (L.refl r)
    · exact lead.bind fun types r' inv' step' good => unionOf_leads c _ inv' step' free good

theorem registerFields_leads {name : String} (description discriminator : Option String)
    {fields : List Field} (inv : L.Inv r) (step : L.Step base r) (free : base.get? name = none)
    (good : ∀ f ∈ fields, L.Good f.type r) :
    L.Leads base r (registerFields name description discriminator fields)
      fun object => L.Good (.object object) := by
  unfold registerFields
  split_ifs
  · exact leads_fail _ _ inv step
  · exact L.register inv step free (by simp) (by simpa [NamedType.parts] using good)

theorem valueDocs_leads (path : String) (docs : Option Entry) (inv : L.Inv r) :
    L.Leads r r (valueDocs path docs) fun _ _ => True := by
  unfold valueDocs
  split
  · split
    · exact leads_pure inv (L.refl r) trivial
    · exact leads_fail _ _ inv (L.refl r)
  · exact leads_pure inv (L.refl r) trivial

mutual

theorem convert_leads {c : Conversion} (resolves : L.Resolves c) :
    ∀ (node : SchemaNode) (path : String) (docs : Option Entry) (r : Registry), L.Inv r →
      L.Leads r r (convert c path docs node) L.Good
  | .scalar kind, path, docs, r, inv => by
    rw [convert]
    exact convertScalar_leads path kind inv
  | .optional inner, path, docs, r, inv => by
    rw [convert]
    exact convert_leads resolves inner path docs r inv
  | .union nodes, path, docs, r, inv => by
    rw [convert]
    exact unionAt_leads c path docs nodes inv
      (convertAlternatives_leads resolves nodes path docs 0 r inv)
  | .object fields, path, docs, r, inv => by
    rcases docs with _ | _ | ⟨own, tree⟩
    · simp only [convert]
      exact leads_fail _ _ inv (L.refl r)
    · simp only [convert]
      exact leads_fail _ _ inv (L.refl r)
    · simp only [convert]
      refine leads_objectNamed? inv (L.refl r) (fun object look => ?_) fun free => ?_
      · exact leads_pure inv (L.refl r) (L.found inv look)
      · refine (convertFields_leads resolves fields path tree [] [] r inv (by simp)).bind
          fun fields r' inv' step' good => ?_
        refine (registerFields_leads own none inv' step' free good).bind
          fun object r'' inv'' step'' good'' => ?_
        exact leads_pure inv'' step'' good''
  | .list element, path, docs, r, inv => by
    rw [convert]
    refine (convert_leads resolves element path docs r inv).bind fun type r' inv' step' good => ?_
    exact leads_pure inv' step' (L.list good)
  | .map value, path, docs, r, inv => by
    rw [convert]
    refine (valueDocs_leads path docs inv).bind fun docs' r₁ inv₁ step₁ _ => ?_
    refine ((convert_leads resolves value path docs' r₁ inv₁).since step₁).bind
      fun type r₂ inv₂ step₂ good => ?_
    refine (leads_entryRecordFor inv₂ step₂ good).bind fun record r₃ inv₃ step₃ goodRecord => ?_
    exact leads_pure inv₃ step₃ (L.list goodRecord)
  | .reference kind, path, docs, r, inv => by
    rw [convert]
    exact resolves path kind r inv
  | .validated constraint, path, docs, r, inv => by
    rw [convert]
    exact convertConstraint_leads resolves constraint path docs r inv

theorem convertConstraint_leads {c : Conversion} (resolves : L.Resolves c) :
    ∀ (constraint : Constraint) (path : String) (docs : Option Entry) (r : Registry), L.Inv r →
      L.Leads r r (convertConstraint c path docs constraint) L.Good
  | .documentName target, path, docs, r, inv => by
    rw [convertConstraint]
    exact resolves path target r inv
  | .alternatives nodes, path, docs, r, inv => by
    rw [convertConstraint]
    exact unionAt_leads c path docs nodes inv
      (convertAlternatives_leads resolves nodes path docs 0 r inv)
  | .custom name, path, docs, r, inv => by
    rw [convertConstraint]
    exact leads_fail _ _ inv (L.refl r)

theorem convertAlternatives_leads {c : Conversion} (resolves : L.Resolves c) :
    ∀ (nodes : List SchemaNode) (path : String) (docs : Option Entry) (index : Nat)
      (r : Registry), L.Inv r →
      L.Leads r r (convertAlternatives c path docs index nodes) fun types r' =>
        ∀ t ∈ types, L.Good t r'
  | [], path, docs, index, r, inv => by
    rw [convertAlternatives]
    exact leads_pure inv (L.refl r) (by simp)
  | node :: rest, path, docs, index, r, inv => by
    rw [convertAlternatives]
    refine (convert_leads resolves node _ docs r inv).bind fun type r₁ inv₁ step₁ good => ?_
    refine Leads.since step₁ ((convertAlternatives_leads resolves rest path docs _ r₁ inv₁).bind
      fun types r₂ inv₂ step₂ goods => ?_)
    exact leads_pure inv₂ step₂ (List.forall_mem_cons.2 ⟨L.mono step₂ good, goods⟩)

/-- The fields of an object keep the law, if those that are done do. -/
theorem convertFields_leads {c : Conversion} (resolves : L.Resolves c) :
    ∀ (fields : List (String × SchemaNode)) (parent : String) (tree : Tree) (skip : List String)
      (done : List Field) (r : Registry), L.Inv r → (∀ f ∈ done, L.Good f.type r) →
      L.Leads r r (convertFields c parent tree skip done fields) fun fields r' =>
        ∀ f ∈ fields, L.Good f.type r'
  | [], parent, tree, skip, done, r, inv, good => by
    rw [convertFields]
    exact leads_pure inv (L.refl r) good
  | (key, node) :: rest, parent, tree, skip, done, r, inv, good => by
    rw [convertFields]
    split_ifs
    · exact convertFields_leads resolves rest parent tree skip done r inv good
    · dsimp only
      split
      · refine (leads_advise _ _ _ inv (L.refl r)).bind fun _ r' inv' step' _ => ?_
        refine (convertFields_leads resolves rest parent tree skip done r' inv' ?_).since step'
        exact fun f mem => L.mono step' (good f mem)
      · split
        · exact leads_fail _ _ inv (L.refl r)
        · refine (convert_leads resolves node _ _ r inv).bind fun type r' inv' step' goodType => ?_
          refine (convertFields_leads resolves rest parent tree skip _ r' inv' ?_).since step'
          intro f mem
          rcases List.mem_append.1 mem with mem | mem
          · exact L.mono step' (good f mem)
          · rwa [List.mem_singleton.1 mem]

end

end Conversion

/-! ## Documents -/

section Documents

variable {catalog : Catalog} {strict : Bool}

theorem objectWith_leads (d : Definition) (busy : List String)
    {resolve : d.name ∉ busy → String → DocumentKind → Synthesis ApiType}
    (resolves : ∀ new, L.Resolves ⟨strict, resolve new⟩) (inv : L.Inv r) :
    L.Leads r r (d.objectWith strict busy resolve) fun object => L.Good (.object object) := by
  unfold Definition.objectWith
  refine leads_objectNamed? inv (L.refl r) (fun object look => ?_) fun free => ?_
  · exact leads_pure inv (L.refl r) (L.found inv look)
  · dsimp only
    split_ifs with new
    · exact leads_fail _ _ inv (L.refl r)
    · split
      · refine (convertFields_leads (resolves new) _ d.name d.docs d.skipFields [] r inv
          (by simp)).bind fun fields r' inv' step' good => ?_
        exact registerFields_leads d.description d.discriminator inv' step' free good
      · exact leads_fail _ _ inv (L.refl r)

theorem mapM_leads {f : Definition → Synthesis ObjectType} (variants : List Definition)
    (leads : ∀ d ∈ variants, ∀ r, L.Inv r →
      L.Leads r r (f d) fun object => L.Good (.object object)) (inv : L.Inv r) :
    L.Leads r r (variants.mapM f) fun objects r' => ∀ o ∈ objects, L.Good (.object o) r' := by
  induction variants generalizing r with
  | nil => exact leads_pure inv (L.refl r) (by simp)
  | cons d rest ih =>
    obtain ⟨leadsFirst, leadsRest⟩ := List.forall_mem_cons.1 leads
    rw [List.mapM_cons]
    refine (leadsFirst r inv).bind fun object r₁ inv₁ step₁ good => ?_
    refine Leads.since step₁ ((ih leadsRest inv₁).bind fun objects r₂ inv₂ step₂ goods => ?_)
    exact leads_pure inv₂ step₂ (List.forall_mem_cons.2 ⟨L.mono step₂ good, goods⟩)

theorem typeOf_leads (busy : List String) : L.Resolves ⟨strict, catalog.typeOf strict busy⟩ := by
  induction count : (catalog.waiting busy).length using Nat.strongRecOn
    generalizing busy with
  | ind count ih =>
    subst count
    intro path kind r inv
    have leads : ∀ d ∈ catalog.definitions kind, ∀ r, L.Inv r →
        L.Leads r r (catalog.objectIn strict busy d) fun object => L.Good (.object object) := by
      intro d mem r inv
      refine objectWith_leads d busy (fun new => ih _ ?_ (busy ++ [d.name]) rfl) inv
      exact Catalog.length_waiting_lt (List.mem_filter.1 mem).1 new
    show L.Leads r r (catalog.typeOf strict busy path kind) L.Good
    rw [Catalog.typeOf_eq]
    generalize catalog.definitions kind = definitions at leads ⊢
    rcases definitions with _ | ⟨first, _ | ⟨second, rest⟩⟩
    · exact leads_fail _ _ inv (L.refl r)
    · refine (leads first (List.mem_singleton_self first) r inv).bind
        fun object r' inv' step' good => ?_
      exact leads_pure inv' step' good
    · refine leads_unionNamed? inv (L.refl r) (fun union look => ?_) fun free => ?_
      · exact leads_pure inv (L.refl r) (L.found inv look)
      · refine (mapM_leads _ leads inv).bind fun members r₁ inv₁ step₁ good => ?_
        refine (registerUnion_leads ⟨kind.typeName, none, members⟩ inv₁ step₁ free good).bind
          fun union r₂ inv₂ step₂ goodUnion => ?_
        exact leads_pure inv₂ step₂ goodUnion

theorem objectOf_leads (d : Definition) (inv : L.Inv r) :
    L.Leads r r (catalog.objectOf strict d) fun object => L.Good (.object object) :=
  objectWith_leads d [] (fun _ => typeOf_leads [d.name]) inv

end Documents

end Law

end ApiSchema
