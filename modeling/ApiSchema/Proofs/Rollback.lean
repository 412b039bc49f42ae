import ApiSchema.Proofs.Calls
import ApiSchema.Proofs.Law

/-!
# Rolling back

A walk only adds to the registry it starts from: its tables go on from the earlier ones, and the
records it caches have names that were free before (`Registry.Extends`).  So cutting the registry
back to the earlier sizes undoes a walk that failed, as long as every cached record stands in the
table under its name.  `failed_call_restores` is the main statement.
-/

namespace ApiSchema

namespace Registry

/-- Every cached record has a type of its name in the table. -/
def Recorded (r : Registry) : Prop := ∀ entry ∈ r.entries, entry.2.name ∈ typeNames r.types

/-- The later registry has everything of the earlier one in its place, and what it has cached since
then has names that were free. -/
structure Extends (before after : Registry) : Prop where
  types : before.types <+: after.types
  advisories : before.advisories <+: after.advisories
  entries : ∃ added, after.entries = before.entries ++ added ∧
    ∀ entry ∈ added, before.get? entry.2.name = none

theorem Extends.refl (r : Registry) : r.Extends r :=
  ⟨List.prefix_refl _, List.prefix_refl _, [], (List.append_nil _).symm, by simp⟩

theorem get?_eq_none_of_prefix {r r' : Registry} (grown : r.types <+: r'.types) {name : String}
    (free : r'.get? name = none) : r.get? name = none := by
  rw [get?_eq_none] at free ⊢
  exact fun taken => free ((grown.map NamedType.name).subset taken)

theorem Extends.trans {a b c : Registry} (first : a.Extends b) (second : b.Extends c) :
    a.Extends c := by
  obtain ⟨added, entries, fresh⟩ := first.entries
  obtain ⟨added', entries', fresh'⟩ := second.entries
  refine ⟨first.types.trans second.types, first.advisories.trans second.advisories,
    added ++ added', ?_, fun entry mem => ?_⟩
  · rw [entries', entries, List.append_assoc]
  · rcases List.mem_append.1 mem with mem | mem
    · exact fresh entry mem
    · exact get?_eq_none_of_prefix first.types (fresh' entry mem)

theorem Extends.advise (r : Registry) (advisory : Advisory) : r.Extends (r.advise advisory) :=
  ⟨List.prefix_refl _, List.prefix_append _ _, [], (List.append_nil _).symm, by simp⟩

theorem Extends.register {base r : Registry} (grown : base.Extends r) {type : NamedType}
    (free : base.get? type.name = none) : base.Extends (r.register type) :=
  ⟨prefix_register grown.types free, grown.advisories, grown.entries⟩

theorem Extends.keepRecord {base r : Registry} (grown : base.Extends r) {fragment : String}
    {record : ObjectType} (fresh : Keyed.get? fragment r.entries = none)
    (free : base.get? record.name = none) : base.Extends (r.keepRecord fragment record) := by
  obtain ⟨added, entries, names⟩ := grown.entries
  refine ⟨grown.types, grown.advisories, added ++ [(fragment, record)], ?_, fun entry mem => ?_⟩
  · rw [Registry.keepRecord, Keyed.insert_of_get?_eq_none fresh, entries, List.append_assoc]
  · rcases List.mem_append.1 mem with mem | mem
    · exact names entry mem
    · rwa [List.mem_singleton.1 mem]

theorem Recorded.register {r : Registry} (recorded : r.Recorded) (type : NamedType) :
    (r.register type).Recorded :=
  fun entry mem => typeNames_subset_putType type r.types (recorded entry mem)

theorem Recorded.keepRecord {r : Registry} (recorded : r.Recorded) {fragment : String}
    {record : ObjectType} (fresh : Keyed.get? fragment r.entries = none)
    (named : record.name ∈ typeNames r.types) : (r.keepRecord fragment record).Recorded := by
  intro entry mem
  rw [Registry.keepRecord, Keyed.insert_of_get?_eq_none fresh] at mem
  rcases List.mem_append.1 mem with mem | mem
  · exact recorded entry mem
  · rwa [List.mem_singleton.1 mem]

end Registry

open Registry in
/-- A walk extends the registry, and the records that it caches are in the table. -/
def growth : Law where
  Inv := Recorded
  Step := Extends
  Good := fun _ _ => True
  refl := Extends.refl
  trans := Extends.trans
  mono := fun _ _ => trivial
  scalar := fun _ _ => trivial
  list := fun _ => trivial
  member := fun _ _ _ => trivial
  found := fun _ _ => trivial
  recordFound := fun _ _ => trivial
  advise := fun advisory recorded => ⟨recorded, Extends.advise _ advisory⟩
  register := fun recorded grown free _ _ =>
    ⟨recorded.register _, grown.register free, trivial⟩
  keepRecord := by
    intro r value record recorded _ fresh free _
    have named : record.name ∈ typeNames (r.register (.object record)).types :=
      mem_typeNames_putType (.object record) r.types
    have grown : r.Extends (r.register (.object record)) := (Extends.refl r).register free
    exact ⟨(recorded.register _).keepRecord fresh named, grown.keepRecord fresh free, trivial⟩

namespace Registry

variable {before raw : Registry}

theorem Extends.take_types (grown : before.Extends raw) :
    raw.types.take before.types.length = before.types :=
  (List.prefix_iff_eq_take.1 grown.types).symm

theorem Extends.take_advisories (grown : before.Extends raw) :
    raw.advisories.take before.advisories.length = before.advisories :=
  (List.prefix_iff_eq_take.1 grown.advisories).symm

theorem any_name_iff {name : String} {types : List NamedType} :
    types.any (·.name == name) = true ↔ name ∈ typeNames types := by
  simp [typeNames]

/-- What the rollback to an earlier registry does to a later one: the sizes it cuts back to are
reached, nothing that was there has been replaced, and the cache loses exactly what was added. -/
structure Undoes (raw before : Registry) : Prop where
  types_le : before.checkpoint.types ≤ raw.types.length
  advisories_le : before.checkpoint.advisories ≤ raw.advisories.length
  unreplaced : ∀ (i : Nat) (type : NamedType), before.types[i]? = some type →
    raw.types[i]? = some type
  entries : ∃ added, raw.entries = before.entries ++ added ∧
    (∀ entry ∈ before.entries, entry ∈ (raw.rollback before.checkpoint).entries) ∧
    ∀ entry ∈ added, entry ∉ (raw.rollback before.checkpoint).entries
  whole : raw.rollback before.checkpoint = before

theorem mem_entries_rollback (grown : before.Extends raw) {entry : String × ObjectType} :
    entry ∈ (raw.rollback before.checkpoint).entries ↔
      entry ∈ raw.entries ∧ entry.2.name ∈ typeNames before.types := by
  simp only [rollback, checkpoint, grown.take_types, List.mem_filter, any_name_iff]

/-- Rolling back undoes what was added to a registry whose cached records are in its table. -/
theorem rollback_eq (recorded : before.Recorded) (grown : before.Extends raw) :
    raw.rollback before.checkpoint = before := by
  obtain ⟨added, entries, fresh⟩ := grown.entries
  have kept : before.entries.filter (fun e => before.types.any (·.name == e.2.name)) =
      before.entries :=
    List.filter_eq_self.2 fun entry mem => any_name_iff.2 (recorded entry mem)
  have dropped : added.filter (fun e => before.types.any (·.name == e.2.name)) = [] := by
    refine List.filter_eq_nil_iff.2 fun entry mem taken => ?_
    exact get?_eq_none.1 (fresh entry mem) (any_name_iff.1 taken)
  simp only [rollback, checkpoint, grown.take_types, grown.take_advisories, entries,
    List.filter_append, kept, dropped, List.append_nil]

theorem Extends.undoes (grown : before.Extends raw) (recorded : before.Recorded) :
    raw.Undoes before := by
  obtain ⟨added, entries, fresh⟩ := grown.entries
  refine ⟨grown.types.length_le, grown.advisories.length_le, fun i type at_i => ?_,
    ⟨added, entries, fun entry mem => ?_, fun entry mem kept => ?_⟩, rollback_eq recorded grown⟩
  · obtain ⟨i_lt, _⟩ := List.getElem?_eq_some_iff.1 at_i
    obtain ⟨back, split⟩ := grown.types
    rw [← split, List.getElem?_append_left i_lt, at_i]
  · rwa [rollback_eq recorded grown]
  · exact get?_eq_none.1 (fresh entry mem) ((mem_entries_rollback grown).1 kept).2

theorem recorded_empty : empty.Recorded := by simp [Recorded, empty]

end Registry

namespace Synthesizer

/-- A call leads to the registry of its walk, or fails and changes nothing. -/
theorem run_cases {α : Type} {s : Synthesizer} {request : Synthesis α} {Q : α → Registry → Prop}
    (recorded : s.registry.Recorded) (grows : growth.Leads s.registry s.registry request Q) :
    (∃ value r, request.run s.registry = (.ok value, r) ∧ r.Recorded ∧
      s.run request = (.ok value, { s with registry := r })) ∨
    ∃ e r, request.run s.registry = (.error e, r) ∧ s.run request = (.error e, s) := by
  unfold Law.Leads at grows
  rcases run : request.run s.registry with ⟨e | value, r⟩
  · rw [run] at grows
    refine .inr ⟨e, r, rfl, ?_⟩
    rw [run_error run, Registry.rollback_eq recorded grows.2]
  · rw [run] at grows
    exact .inl ⟨value, r, rfl, grows.1, run_ok run⟩

/-- A call whose walk keeps a law keeps its invariant: a call that fails changes nothing. -/
theorem run_inv {L : Law} {α : Type} {s : Synthesizer} {request : Synthesis α}
    {Q : α → Registry → Prop} {Q' : α → Registry → Prop} (inv : L.Inv s.registry)
    (recorded : s.registry.Recorded) (lead : L.Leads s.registry s.registry request Q)
    (grows : growth.Leads s.registry s.registry request Q') :
    L.Inv (s.run request).2.registry ∧ (s.run request).2.registry.Recorded := by
  unfold Law.Leads at lead
  rcases run_cases recorded grows with ⟨value, r, run, grown, done⟩ | ⟨e, r, _, failed⟩
  · rw [run] at lead
    rw [done]
    exact ⟨lead.1, grown⟩
  · rw [failed]
    exact ⟨inv, recorded⟩

theorem afterCalls_inv (L : Law) {s : Synthesizer} (inv : L.Inv s.registry)
    (recorded : s.registry.Recorded) (calls : List Call) :
    L.Inv (s.afterCalls calls).registry ∧ (s.afterCalls calls).registry.Recorded := by
  refine afterCalls_induction (P := fun t => L.Inv t.registry ∧ t.registry.Recorded)
    (fun t d ⟨inv, recorded⟩ => ?_) (fun t kind ⟨inv, recorded⟩ => ?_) ⟨inv, recorded⟩ calls
  · exact run_inv inv recorded (Law.objectOf_leads d inv) (Law.objectOf_leads d recorded)
  · exact run_inv inv recorded (Law.typeOf_leads [] _ kind _ inv)
      (Law.typeOf_leads [] _ kind _ recorded)

theorem recorded_afterCalls (catalog : Catalog) (strict : Bool) (calls : List Call) :
    ((new catalog strict).afterCalls calls).registry.Recorded :=
  (afterCalls_inv growth (s := new catalog strict) Registry.recorded_empty
    Registry.recorded_empty calls).2

theorem run_of_error {α : Type} {s : Synthesizer} {request : Synthesis α} {e : SynthesisError}
    {Q : α → Registry → Prop} (recorded : s.registry.Recorded)
    (grows : growth.Leads s.registry s.registry request Q) (failed : (s.run request).1 = .error e) :
    (s.run request).2 = s ∧ (request.run s.registry).2.Undoes s.registry := by
  unfold Law.Leads at grows
  rcases run : request.run s.registry with ⟨e' | value, r⟩
  · rw [run] at grows
    rw [run_error run, Registry.rollback_eq recorded grows.2]
    exact ⟨rfl, Registry.Extends.undoes grows.2 recorded⟩
  · rw [run_ok run] at failed
    cases failed

/-- A call that fails after any sequence of calls leaves the registry as it was, and the rollback
undoes exactly what the call has done. -/
theorem failed_call_restores (catalog : Catalog) (strict : Bool) (calls : List Call) :
    let s := (new catalog strict).afterCalls calls
    (∀ d e, (s.synthesize d).1 = .error e →
      (s.synthesize d).2 = s ∧
        ((s.catalog.objectOf s.strict d).run s.registry).2.Undoes s.registry) ∧
    ∀ kind e, (s.documentType kind).1 = .error e →
      (s.documentType kind).2 = s ∧
        ((s.catalog.typeOf s.strict [] kind.typeName kind).run s.registry).2.Undoes s.registry := by
  intro s
  have recorded : s.registry.Recorded := recorded_afterCalls catalog strict calls
  refine ⟨fun d e failed => ?_, fun kind e failed => ?_⟩
  · exact run_of_error recorded (Law.objectOf_leads d recorded) failed
  · exact run_of_error recorded (Law.typeOf_leads [] _ kind _ recorded) failed

/-- A service with an image. -/
def imageService : Definition where
  kind := .service
  name := "Service"
  description := none
  schema := .object [("image", .scalar .string)]
  docs := [("image", .text "Docker image")]
  skipFields := []
  discriminator := none

/-- An app whose last field has no type: its object, entry record and advisory are made before. -/
def brokenApp : Definition where
  kind := .app
  name := "App"
  description := none
  schema := .object
    [("hidden", .scalar .string),
     ("logging", .object [("stdout", .scalar .boolean)]),
     ("env", .map (.scalar .float)),
     ("check", .validated (.custom "Regex"))]
  docs :=
    [("logging", .nested none [("stdout", .text "To the standard output")]),
     ("env", .nested none [(Documentation.valueTerm, .text "A setting")]),
     ("check", .text "A check")]
  skipFields := []
  discriminator := none

theorem brokenApp_restores :
    let s := (new ⟨[imageService, brokenApp]⟩ false).afterCalls [.synthesize imageService]
    let e : SynthesisError := ⟨"AppCheck", .unsupportedConstraint "Regex"⟩
    s.synthesize brokenApp = (.error e, s) ∧ s.documentType .app = (.error e, s) := by
  intro s e
  have failed : (s.synthesize brokenApp).1 = .error e := rfl
  have failed_kind : (s.documentType .app).1 = .error e := by
    rw [documentType, Catalog.typeOf_eq]
    rfl
  have restored := failed_call_restores ⟨[imageService, brokenApp]⟩ false [.synthesize imageService]
  exact ⟨Prod.ext failed (restored.1 brokenApp e failed).1,
    Prod.ext failed_kind (restored.2 .app e failed_kind).1⟩

end Synthesizer

end ApiSchema
