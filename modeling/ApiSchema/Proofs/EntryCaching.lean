import ApiSchema.Proofs.NotedMappings
import ApiSchema.Proofs.UnionTypes
import ApiSchema.Proofs.Closure

/-!
# Caching of entry records

A walk keeps every entry record that is cached, and each is the record of a value type with the
fragment that it is cached under (`caching`).  So each mapping that a walk has converted has, from
then on, the cached record of its value type's fragment (`Mapping.KeptIn`).
-/

namespace ApiSchema

open Documentation (Entry Tree)
open Synthesis

/-! ## Laws together -/

/-- What keeps both laws. -/
def Law.and (L M : Law) : Law where
  Inv := fun r => L.Inv r ∧ M.Inv r
  Step := fun before after => L.Step before after ∧ M.Step before after
  Good := fun type r => L.Good type r ∧ M.Good type r
  refl := fun r => ⟨L.refl r, M.refl r⟩
  trans := fun first second => ⟨L.trans first.1 second.1, M.trans first.2 second.2⟩
  mono := fun step good => ⟨L.mono step.1 good.1, M.mono step.2 good.2⟩
  scalar := fun scalar r => ⟨L.scalar scalar r, M.scalar scalar r⟩
  list := fun good => ⟨L.list good.1, M.list good.2⟩
  member := fun inv good mem => ⟨L.member inv.1 good.1 mem, M.member inv.2 good.2 mem⟩
  found := fun inv look => ⟨L.found inv.1 look, M.found inv.2 look⟩
  recordFound := fun inv look => ⟨L.recordFound inv.1 look, M.recordFound inv.2 look⟩
  advise := fun advisory inv =>
    have ⟨inv₁, step₁⟩ := L.advise advisory inv.1
    have ⟨inv₂, step₂⟩ := M.advise advisory inv.2
    ⟨⟨inv₁, inv₂⟩, step₁, step₂⟩
  register := fun inv step free serial good =>
    have ⟨inv₁, step₁, good₁⟩ :=
      L.register inv.1 step.1 free serial fun part mem => (good part mem).1
    have ⟨inv₂, step₂, good₂⟩ :=
      M.register inv.2 step.2 free serial fun part mem => (good part mem).2
    ⟨⟨inv₁, inv₂⟩, ⟨step₁, step₂⟩, good₁, good₂⟩
  keepRecord := fun inv made fresh free good =>
    have ⟨inv₁, step₁, good₁⟩ := L.keepRecord inv.1 made fresh free good.1
    have ⟨inv₂, step₂, good₂⟩ := M.keepRecord inv.2 made fresh free good.2
    ⟨⟨inv₁, inv₂⟩, ⟨step₁, step₂⟩, good₁, good₂⟩

namespace Registry

/-- Every cached record is that of a value type with its fragment. -/
def RecordsMade (r : Registry) : Prop :=
  ∀ fragment record, Keyed.get? fragment r.entries = some record →
    ∃ serial value, record = entryRecord serial value ∧ value.fragment = fragment

/-- The cached records stay. -/
def KeepsRecords (before after : Registry) : Prop :=
  ∀ fragment record, Keyed.get? fragment before.entries = some record →
    Keyed.get? fragment after.entries = some record

theorem keepsRecords_keepRecord {r : Registry} {fragment : String}
    (fresh : Keyed.get? fragment r.entries = none) (record : ObjectType) :
    r.KeepsRecords (r.keepRecord fragment record) := by
  intro other kept found
  rw [keepRecord, Keyed.get?_insert, if_neg, found]
  rintro rfl
  rw [fresh] at found
  cases found

theorem RecordsMade.keepRecord {r : Registry} (made : r.RecordsMade) (serial : Nat)
    (value : ApiType) :
    (r.keepRecord value.fragment (entryRecord serial value)).RecordsMade := by
  intro fragment record found
  rw [Registry.keepRecord, Keyed.get?_insert] at found
  split_ifs at found with same
  · cases found
    exact ⟨serial, value, rfl, same⟩
  · exact made fragment record found

end Registry

open Registry in
/-- A walk keeps the cached records, and those it adds are made for their fragments. -/
def caching : Law where
  Inv := RecordsMade
  Step := KeepsRecords
  Good := fun _ _ => True
  refl := fun _ _ _ found => found
  trans := fun first second fragment record found =>
    second fragment record (first fragment record found)
  mono := fun _ _ => trivial
  scalar := fun _ _ => trivial
  list := fun _ => trivial
  member := fun _ _ _ => trivial
  found := fun _ _ => trivial
  recordFound := fun _ _ => trivial
  advise := fun _ made => ⟨made, fun _ _ found => found⟩
  register := fun made kept _ _ _ => ⟨made, kept, trivial⟩
  keepRecord := by
    intro r value record made rfl fresh _ _
    have made' : (r.register (.object (entryRecord r.nextSerial value))).RecordsMade := made
    exact ⟨made'.keepRecord _ value, keepsRecords_keepRecord fresh _, trivial⟩

/-- The law of closed tables with that of the cached records. -/
def sharing : Law := closure.and caching

/-! ## Noted mappings -/

/-- The mapping's record is the cached one of its value type's fragment, and what the value type
names is known in the table. -/
def Mapping.KeptIn (m : Mapping) (r : Registry) : Prop :=
  Keyed.get? m.value.fragment r.entries = some m.record ∧ Registry.Knows m.value r

namespace Mapping.KeptIn

variable {m : Mapping} {r r' : Registry}

theorem mono (step : sharing.Step r r') (kept : m.KeptIn r) : m.KeptIn r' :=
  ⟨step.2 _ _ kept.1, kept.2.mono step.1⟩

theorem advise (kept : m.KeptIn r) (advisory : Advisory) : m.KeptIn (r.advise advisory) := kept

/-- A registration keeps a mapping, whether it replaces a type or not. -/
theorem register (inv : sharing.Inv r) (kept : m.KeptIn r) (type : NamedType) :
    m.KeptIn (r.register type) := by
  refine ⟨kept.1, fun unreplaced named eq => ?_⟩
  have length_le := inv.1.length_le
  rcases look : r.get? type.name with _ | other
  · rw [Registry.types_register look]
    have length := Registry.length_register_of_none look
    have nextSerial : (r.register type).nextSerial = r.nextSerial + 1 := rfl
    exact List.mem_append_left _ (kept.2 (by omega) named eq)
  · have length := Registry.length_register_of_some look
    have nextSerial : (r.register type).nextSerial = r.nextSerial + 1 := rfl
    omega

end Mapping.KeptIn

/-- What is given satisfies `Q`, and the mappings on the way are kept. -/
def NotedIn {α : Type} (Q : α → Registry → Prop) (given : Noted α) (r : Registry) : Prop :=
  Q given.1 r ∧ ∀ m ∈ given.2, m.KeptIn r

namespace Law

variable {α : Type} {base r : Registry}

theorem Leads.also {L : Law} {m : Synthesis α} {Q P : α → Registry → Prop}
    (lead : L.Leads base r m Q) (shows : ∀ a r', m.run r = (.ok a, r') → P a r') :
    L.Leads base r m fun a r' => Q a r' ∧ P a r' := by
  unfold Leads at lead ⊢
  rcases run : m.run r with ⟨_ | a, r'⟩
  · rw [run] at lead
    exact lead
  · rw [run] at lead
    exact ⟨lead.1, lead.2.1, lead.2.2, shows a r' run⟩

theorem keptIn_registerFields (inv : sharing.Inv r) {name : String}
    {description discriminator : Option String} {fields : List Field} {mappings : List Mapping}
    (kept : ∀ m ∈ mappings, m.KeptIn r) (object : ObjectType) (r' : Registry)
    (run : (Conversion.registerFields name description discriminator fields).run r =
      (.ok object, r')) : ∀ m ∈ mappings, m.KeptIn r' := by
  unfold Conversion.registerFields at run
  split_ifs at run
  · cases run
  · cases run
    exact fun m mem => (kept m mem).register inv _

theorem keptIn_registerUnion (inv : sharing.Inv r) {union : UnionType} {mappings : List Mapping}
    (kept : ∀ m ∈ mappings, m.KeptIn r) (given : UnionType) (r' : Registry)
    (run : (Synthesis.registerUnion union).run r = (.ok given, r')) :
    ∀ m ∈ mappings, m.KeptIn r' := by
  cases run
  exact fun m mem => (kept m mem).register inv _

theorem keptIn_unionOf (inv : sharing.Inv r) {c : Conversion} {path : String}
    {description : Option String} {types : List ApiType} {mappings : List Mapping}
    (kept : ∀ m ∈ mappings, m.KeptIn r) (type : ApiType) (r' : Registry)
    (run : (c.unionOf path description types).run r = (.ok type, r')) :
    ∀ m ∈ mappings, m.KeptIn r' := by
  have same : r' = ((c.unionOf path description types).run r).2 := by rw [run]
  rw [same]
  rcases c.registry_unionOf path description types r with eq | ⟨advisory, eq⟩ | ⟨union, -, eq⟩
  · rwa [eq]
  · rw [eq]
    exact fun m mem => (kept m mem).advise advisory
  · rw [eq]
    exact fun m mem => (kept m mem).register inv _

theorem get?_entryRecordFor {value : ApiType} (record : ObjectType) (r' : Registry)
    (run : (Synthesis.entryRecordFor value).run r = (.ok record, r')) :
    Keyed.get? value.fragment r'.entries = some record := by
  rw [run_entryRecordFor] at run
  rcases look : Keyed.get? value.fragment r.entries with _ | cached
  · simp only [look] at run
    split_ifs at run
    · cases run
    · cases run
      rw [Registry.keepRecord, Keyed.get?_insert, if_pos rfl]
  · simp only [look] at run
    cases run
    exact look

end Law

/-! ## The walk with notes -/

namespace NotedConversion

open Law

/-- Every type that a reference gives is good, and the mappings on the way are kept. -/
def ResolvesNoted (n : NotedConversion) : Prop :=
  ∀ path kind r, sharing.Inv r → sharing.Leads r r (n.resolve path kind) (NotedIn sharing.Good)

variable {n : NotedConversion} {r : Registry}

theorem unionAt_leads (path : String) (docs : Option Entry) (nodes : List SchemaNode)
    {alternatives : Synthesis (Noted (List ApiType))} (inv : sharing.Inv r)
    (lead : sharing.Leads r r alternatives
      (NotedIn fun types r' => ∀ t ∈ types, sharing.Good t r')) :
    sharing.Leads r r (n.unionAt path docs nodes alternatives) (NotedIn sharing.Good) := by
  refine leads_unionNamed? inv (sharing.refl r) (fun union look => ?_) fun free => ?_
  · exact leads_pure inv (sharing.refl r) ⟨sharing.found inv look, by simp⟩
  · dsimp only
    split_ifs
    · exact leads_fail _ _ inv (sharing.refl r)
    · refine lead.bind fun given r₁ inv₁ step₁ ⟨good, kept⟩ => ?_
      refine ((unionOf_leads n.plain _ inv₁ step₁ free good).also
        (keptIn_unionOf inv₁ kept)).bind fun type r₂ inv₂ step₂ ⟨good', kept'⟩ => ?_
      exact leads_pure inv₂ step₂ ⟨good', kept'⟩

mutual

theorem convert_leads (resolves : n.ResolvesNoted) : ∀ (node : SchemaNode) (path : String)
    (docs : Option Entry) (r : Registry), sharing.Inv r →
    sharing.Leads r r (convert n path docs node) (NotedIn sharing.Good)
  | .scalar kind, path, docs, r, inv => by
    rw [convert]
    refine (convertScalar_leads path kind inv).bind fun type r' inv' step' good => ?_
    exact leads_pure inv' step' ⟨good, by simp⟩
  | .optional inner, path, docs, r, inv => by
    rw [convert]
    exact convert_leads resolves inner path docs r inv
  | .union nodes, path, docs, r, inv => by
    rw [convert]
    exact unionAt_leads path docs nodes inv
      (convertAlternatives_leads resolves nodes path docs 0 r inv)
  | .object nodes, path, docs, r, inv => by
    rcases docs with _ | _ | ⟨own, tree⟩
    · simp only [convert]
      exact leads_fail _ _ inv (sharing.refl r)
    · simp only [convert]
      exact leads_fail _ _ inv (sharing.refl r)
    · simp only [convert]
      refine leads_objectNamed? inv (sharing.refl r) (fun object look => ?_) fun free => ?_
      · exact leads_pure inv (sharing.refl r) ⟨sharing.found inv look, by simp⟩
      · refine (convertFields_leads resolves nodes path tree [] [] r inv (by simp)).bind
          fun given r₁ inv₁ step₁ ⟨good, kept⟩ => ?_
        refine ((registerFields_leads own none inv₁ step₁ free good).also
          (keptIn_registerFields inv₁ kept)).bind fun object r₂ inv₂ step₂ ⟨good', kept'⟩ => ?_
        exact leads_pure inv₂ step₂ ⟨good', kept'⟩
  | .list element, path, docs, r, inv => by
    rw [convert]
    refine (convert_leads resolves element path docs r inv).bind
      fun given r' inv' step' ⟨good, kept⟩ => ?_
    exact leads_pure inv' step' ⟨sharing.list good, kept⟩
  | .map value, path, docs, r, inv => by
    rw [convert]
    refine (valueDocs_leads path docs inv).bind fun inner r₁ inv₁ step₁ _ => ?_
    refine Leads.since step₁ ((convert_leads resolves value path inner r₁ inv₁).bind
      fun given r₂ inv₂ step₂ ⟨good, kept⟩ => ?_)
    refine Leads.since step₂ (((leads_entryRecordFor inv₂ (sharing.refl r₂) good).also
      get?_entryRecordFor).bind fun record r₃ inv₃ step₃ ⟨goodRecord, cached⟩ => ?_)
    refine leads_pure inv₃ step₃ ⟨sharing.list goodRecord, fun m mem => ?_⟩
    rcases List.mem_append.1 mem with mem | mem
    · exact (kept m mem).mono step₃
    · rw [List.mem_singleton.1 mem]
      exact ⟨cached, good.1.mono step₃.1⟩
  | .reference kind, path, docs, r, inv => by
    rw [convert]
    exact resolves path kind r inv
  | .validated constraint, path, docs, r, inv => by
    rw [convert]
    exact convertConstraint_leads resolves constraint path docs r inv

theorem convertConstraint_leads (resolves : n.ResolvesNoted) : ∀ (constraint : Constraint)
    (path : String) (docs : Option Entry) (r : Registry), sharing.Inv r →
    sharing.Leads r r (convertConstraint n path docs constraint) (NotedIn sharing.Good)
  | .documentName target, path, docs, r, inv => by
    rw [convertConstraint]
    exact resolves path target r inv
  | .alternatives nodes, path, docs, r, inv => by
    rw [convertConstraint]
    exact unionAt_leads path docs nodes inv
      (convertAlternatives_leads resolves nodes path docs 0 r inv)
  | .custom name, path, docs, r, inv => by
    rw [convertConstraint]
    exact leads_fail _ _ inv (sharing.refl r)

theorem convertAlternatives_leads (resolves : n.ResolvesNoted) : ∀ (nodes : List SchemaNode)
    (path : String) (docs : Option Entry) (index : Nat) (r : Registry), sharing.Inv r →
    sharing.Leads r r (convertAlternatives n path docs index nodes)
      (NotedIn fun types r' => ∀ t ∈ types, sharing.Good t r')
  | [], path, docs, index, r, inv => by
    rw [convertAlternatives]
    exact leads_pure inv (sharing.refl r) ⟨by simp, by simp⟩
  | node :: rest, path, docs, index, r, inv => by
    rw [convertAlternatives]
    refine (convert_leads resolves node _ docs r inv).bind
      fun first r₁ inv₁ step₁ ⟨good, kept⟩ => ?_
    refine Leads.since step₁ ((convertAlternatives_leads resolves rest path docs _ r₁ inv₁).bind
      fun others r₂ inv₂ step₂ ⟨goods, keeps⟩ => ?_)
    refine leads_pure inv₂ step₂
      ⟨List.forall_mem_cons.2 ⟨sharing.mono step₂ good, goods⟩, fun m mem => ?_⟩
    rcases List.mem_append.1 mem with mem | mem
    · exact (kept m mem).mono step₂
    · exact keeps m mem

theorem convertFields_leads (resolves : n.ResolvesNoted) :
    ∀ (nodes : List (String × SchemaNode)) (parent : String) (tree : Tree) (skip : List String)
      (done : List Field) (r : Registry), sharing.Inv r →
      (∀ f ∈ done, sharing.Good f.type r) →
      sharing.Leads r r (convertFields n parent tree skip done nodes)
        (NotedIn fun fields r' => ∀ f ∈ fields, sharing.Good f.type r')
  | [], parent, tree, skip, done, r, inv, good => by
    rw [convertFields]
    exact leads_pure inv (sharing.refl r) ⟨good, by simp⟩
  | (key, node) :: rest, parent, tree, skip, done, r, inv, good => by
    rw [convertFields]
    split_ifs
    · exact convertFields_leads resolves rest parent tree skip done r inv good
    · dsimp only
      split
      · refine (leads_advise _ _ _ inv (sharing.refl r)).bind fun _ r' inv' step' _ => ?_
        refine (convertFields_leads resolves rest parent tree skip done r' inv' ?_).since step'
        exact fun f mem => sharing.mono step' (good f mem)
      · split
        · exact leads_fail _ _ inv (sharing.refl r)
        · refine (convert_leads resolves node _ _ r inv).bind
            fun first r₁ inv₁ step₁ ⟨goodType, kept⟩ => ?_
          refine Leads.since step₁ ((convertFields_leads resolves rest parent tree skip _ r₁ inv₁
            ?_).bind fun others r₂ inv₂ step₂ ⟨goods, keeps⟩ => ?_)
          · intro f mem
            rcases List.mem_append.1 mem with mem | mem
            · exact sharing.mono step₁ (good f mem)
            · rwa [List.mem_singleton.1 mem]
          · refine leads_pure inv₂ step₂ ⟨goods, fun m mem => ?_⟩
            rcases List.mem_append.1 mem with mem | mem
            · exact (kept m mem).mono step₂
            · exact keeps m mem

end

end NotedConversion

/-! ## Documents -/

namespace Law

open NotedConversion

variable {catalog : Catalog} {strict : Bool} {r : Registry}

theorem objectNotedWith_leads (d : Definition) (busy : List String)
    {resolve : d.name ∉ busy → String → DocumentKind → Synthesis (Noted ApiType)}
    (resolves : ∀ new, ResolvesNoted ⟨strict, resolve new⟩) (inv : sharing.Inv r) :
    sharing.Leads r r (d.objectNotedWith strict busy resolve)
      (NotedIn fun object => sharing.Good (.object object)) := by
  unfold Definition.objectNotedWith
  refine leads_objectNamed? inv (sharing.refl r) (fun object look => ?_) fun free => ?_
  · exact leads_pure inv (sharing.refl r) ⟨sharing.found inv look, by simp⟩
  · dsimp only
    split_ifs with new
    · exact leads_fail _ _ inv (sharing.refl r)
    · split
      · refine (NotedConversion.convertFields_leads (resolves new) _ d.name d.docs d.skipFields [] r
          inv (by simp)).bind fun given r₁ inv₁ step₁ ⟨good, kept⟩ => ?_
        refine ((registerFields_leads d.description d.discriminator inv₁ step₁ free good).also
          (keptIn_registerFields inv₁ kept)).bind fun object r₂ inv₂ step₂ ⟨good', kept'⟩ => ?_
        exact leads_pure inv₂ step₂ ⟨good', kept'⟩
      · exact leads_fail _ _ inv (sharing.refl r)

theorem mapM_noted_leads {f : Definition → Synthesis (Noted ObjectType)}
    (variants : List Definition)
    (leads : ∀ d ∈ variants, ∀ r, sharing.Inv r →
      sharing.Leads r r (f d) (NotedIn fun object => sharing.Good (.object object)))
    (inv : sharing.Inv r) :
    sharing.Leads r r (variants.mapM f) fun given r' =>
      (∀ object ∈ given.map Prod.fst, sharing.Good (.object object) r') ∧
        ∀ m ∈ given.flatMap Prod.snd, m.KeptIn r' := by
  induction variants generalizing r with
  | nil => exact leads_pure inv (sharing.refl r) ⟨by simp, by simp⟩
  | cons d rest ih =>
    obtain ⟨leadsFirst, leadsRest⟩ := List.forall_mem_cons.1 leads
    rw [List.mapM_cons]
    refine (leadsFirst r inv).bind fun first r₁ inv₁ step₁ ⟨good, kept⟩ => ?_
    refine Leads.since step₁
      ((ih leadsRest inv₁).bind fun others r₂ inv₂ step₂ ⟨goods, keeps⟩ => ?_)
    refine leads_pure inv₂ step₂
      ⟨List.forall_mem_cons.2 ⟨sharing.mono step₂ good, goods⟩, fun m mem => ?_⟩
    rcases List.mem_append.1 mem with mem | mem
    · exact (kept m mem).mono step₂
    · exact keeps m mem

theorem typeNoted_leads (busy : List String) :
    ResolvesNoted ⟨strict, catalog.typeNoted strict busy⟩ := by
  induction count : (catalog.waiting busy).length using Nat.strongRecOn
    generalizing busy with
  | ind count ih =>
    subst count
    intro path kind r inv
    have leads : ∀ d ∈ catalog.definitions kind, ∀ r, sharing.Inv r →
        sharing.Leads r r (catalog.objectNotedIn strict busy d)
          (NotedIn fun object => sharing.Good (.object object)) := by
      intro d mem r inv
      refine objectNotedWith_leads d busy (fun new => ih _ ?_ (busy ++ [d.name]) rfl) inv
      exact Catalog.length_waiting_lt (List.mem_filter.1 mem).1 new
    show sharing.Leads r r (catalog.typeNoted strict busy path kind) _
    rw [Catalog.typeNoted_eq]
    generalize catalog.definitions kind = definitions at leads ⊢
    rcases definitions with _ | ⟨first, _ | ⟨second, rest⟩⟩
    · exact leads_fail _ _ inv (sharing.refl r)
    · refine (leads first (List.mem_singleton_self first) r inv).bind
        fun given r' inv' step' ⟨good, kept⟩ => ?_
      exact leads_pure inv' step' ⟨good, kept⟩
    · refine leads_unionNamed? inv (sharing.refl r) (fun union look => ?_) fun free => ?_
      · exact leads_pure inv (sharing.refl r) ⟨sharing.found inv look, by simp⟩
      · refine (mapM_noted_leads _ leads inv).bind fun given r₁ inv₁ step₁ ⟨good, kept⟩ => ?_
        refine ((registerUnion_leads ⟨kind.typeName, none, given.map Prod.fst⟩ inv₁ step₁ free
          good).also (keptIn_registerUnion inv₁ kept)).bind
          fun union r₂ inv₂ step₂ ⟨good', kept'⟩ => ?_
        exact leads_pure inv₂ step₂ ⟨good', kept'⟩

theorem objectNoted_leads (d : Definition) (inv : sharing.Inv r) :
    sharing.Leads r r (catalog.objectNoted strict d)
      (NotedIn fun object => sharing.Good (.object object)) :=
  objectNotedWith_leads d [] (fun _ => typeNoted_leads [d.name]) inv

end Law

end ApiSchema
