import ApiSchema.Proofs.Rollback

/-!
# Permanence of generated types

A call that succeeds ends with its type under the type's name, and only names that were free get a
type.  So the type of a request stays the one under its name through all later calls, and asking
again finds it and changes nothing (`successful_call_permanent`).
-/

namespace ApiSchema

open Synthesis

theorem Conversion.registerFields_found {name : String} {description discriminator : Option String}
    {fields : List Field} {r r' : Registry} {object : ObjectType}
    (run : (registerFields name description discriminator fields).run r = (.ok object, r')) :
    r'.get? name = some (.object object) := by
  unfold registerFields at run
  split_ifs at run
  · cases run
  · cases run
    exact Registry.get?_register r _

namespace Definition

variable {d : Definition} {strict : Bool} {busy : List String}
  {resolve : d.name ∉ busy → String → DocumentKind → Synthesis ApiType} {r r' : Registry}
  {object : ObjectType}

/-- The object of a definition that is registered is the registered one. -/
theorem objectWith_of_found (found : r.get? d.name = some (.object object)) :
    (d.objectWith strict busy resolve).run r = (.ok object, r) := by
  rw [objectWith, run_bind, run_objectNamed?, found]
  rfl

/-- The object of a definition is registered under the definition's name. -/
theorem objectWith_found (run : (d.objectWith strict busy resolve).run r = (.ok object, r')) :
    r'.get? d.name = some (.object object) := by
  unfold objectWith at run
  obtain ⟨known, r₁, look, rest⟩ := run_bind_ok run
  rw [run_objectNamed?] at look
  rcases found : r.get? d.name with _ | o | u
  · rw [found] at look
    cases look
    dsimp only at rest
    split_ifs at rest
    · cases rest
    · split at rest
      · obtain ⟨fields, r₂, _, registered⟩ := run_bind_ok rest
        exact Conversion.registerFields_found registered
      · cases rest
  · rw [found] at look
    cases look
    cases rest
    exact found
  · rw [found] at look
    cases look

end Definition

namespace Catalog

/-- The registry has the type of a kind under the name by which the kind's types are looked up. -/
def Provides (catalog : Catalog) (kind : DocumentKind) (r : Registry) (type : ApiType) : Prop :=
  match catalog.definitions kind with
  | [] => False
  | [single] => ∃ object, type = .object object ∧ r.get? single.name = some (.object object)
  | _ => ∃ union, type = .union union ∧ r.get? kind.typeName = some (.union union)

variable {catalog : Catalog} {strict : Bool} {busy : List String} {path : String}
  {kind : DocumentKind} {r r' : Registry} {type : ApiType}

theorem typeOf_of_provides (provides : catalog.Provides kind r type) :
    (catalog.typeOf strict busy path kind).run r = (.ok type, r) := by
  rw [typeOf_eq]
  unfold Provides at provides
  generalize catalog.definitions kind = definitions at provides ⊢
  rcases definitions with _ | ⟨first, _ | ⟨second, rest⟩⟩
  · exact provides.elim
  · obtain ⟨object, rfl, found⟩ := provides
    rw [typeOfAll, run_bind, objectIn, Definition.objectWith_of_found found]
    rfl
  · obtain ⟨union, rfl, found⟩ := provides
    simp only [typeOfAll, run_bind, run_unionNamed?, found]
    rfl

theorem provides_of_typeOf (run : (catalog.typeOf strict busy path kind).run r = (.ok type, r')) :
    catalog.Provides kind r' type := by
  rw [typeOf_eq] at run
  unfold Provides
  generalize catalog.definitions kind = definitions at run ⊢
  rcases definitions with _ | ⟨first, _ | ⟨second, rest⟩⟩
  · cases run
  · obtain ⟨object, r₁, inner, done⟩ := run_bind_ok run
    cases done
    exact ⟨object, rfl, Definition.objectWith_found inner⟩
  · obtain ⟨known, r₁, look, later⟩ := run_bind_ok run
    rw [run_unionNamed?] at look
    rcases found : r.get? kind.typeName with _ | o | u
    · rw [found] at look
      cases look
      obtain ⟨members, r₂, _, registering⟩ := run_bind_ok later
      obtain ⟨union, r₃, registered, done⟩ := run_bind_ok registering
      cases registered
      cases done
      exact ⟨_, rfl, Registry.get?_register r₂ _⟩
    · rw [found] at look
      cases look
    · rw [found] at look
      cases look
      cases later
      exact ⟨u, rfl, found⟩

theorem Provides.of_prefix (provides : catalog.Provides kind r type)
    (grown : r.types <+: r'.types) : catalog.Provides kind r' type := by
  unfold Provides at provides ⊢
  split at provides
  · exact provides
  · obtain ⟨object, eq, found⟩ := provides
    exact ⟨object, eq, Registry.get?_of_prefix grown found⟩
  · obtain ⟨union, eq, found⟩ := provides
    exact ⟨union, eq, Registry.get?_of_prefix grown found⟩

theorem Provides.found (provides : catalog.Provides kind r type) :
    ∃ named : NamedType, type = named.toType ∧ r.get? named.name = some named := by
  unfold Provides at provides
  split at provides
  · exact provides.elim
  · obtain ⟨object, eq, found⟩ := provides
    exact ⟨.object object, eq, by rw [Registry.name_of_get? found, found]⟩
  · obtain ⟨union, eq, found⟩ := provides
    exact ⟨.union union, eq, by rw [Registry.name_of_get? found, found]⟩

end Catalog

namespace Synthesizer

theorem run_grows {α : Type} {s : Synthesizer} {request : Synthesis α}
    {Q : α → Registry → Prop} (recorded : s.registry.Recorded)
    (grows : growth.Leads s.registry s.registry request Q) :
    (s.types <+: (s.run request).2.types ∧ s.advisories <+: (s.run request).2.advisories) ∧
      (s.run request).2.registry.Recorded := by
  unfold Law.Leads at grows
  rcases run : request.run s.registry with ⟨e | value, r⟩
  · rw [run] at grows
    rw [run_error run, Registry.rollback_eq recorded grows.2]
    exact ⟨⟨List.prefix_refl _, List.prefix_refl _⟩, recorded⟩
  · rw [run] at grows
    rw [run_ok run]
    exact ⟨⟨grows.2.1.types, grows.2.1.advisories⟩, grows.1⟩

theorem synthesize_grows {s : Synthesizer} (recorded : s.registry.Recorded) (d : Definition) :
    (s.types <+: (s.synthesize d).2.types ∧ s.advisories <+: (s.synthesize d).2.advisories) ∧
      (s.synthesize d).2.registry.Recorded :=
  run_grows recorded (Law.objectOf_leads d recorded)

theorem documentType_grows {s : Synthesizer} (recorded : s.registry.Recorded)
    (kind : DocumentKind) :
    (s.types <+: (s.documentType kind).2.types ∧
      s.advisories <+: (s.documentType kind).2.advisories) ∧
      (s.documentType kind).2.registry.Recorded :=
  run_grows recorded (Law.typeOf_leads [] _ kind _ recorded)

theorem afterCalls_grows {s : Synthesizer} (recorded : s.registry.Recorded) (calls : List Call) :
    s.types <+: (s.afterCalls calls).types := by
  refine (afterCalls_induction (P := fun t => s.types <+: t.types ∧ t.registry.Recorded)
    (fun t d ⟨grown, recorded⟩ => ?_) (fun t kind ⟨grown, recorded⟩ => ?_)
    ⟨List.prefix_refl _, recorded⟩ calls).1
  · obtain ⟨⟨types, _⟩, recorded'⟩ := synthesize_grows recorded d
    exact ⟨grown.trans types, recorded'⟩
  · obtain ⟨⟨types, _⟩, recorded'⟩ := documentType_grows recorded kind
    exact ⟨grown.trans types, recorded'⟩

theorem synthesize_of_found {s : Synthesizer} {d : Definition} {object : ObjectType}
    (found : s.lookup d.name = some (.object object)) : s.synthesize d = (.ok object, s) :=
  run_ok (Definition.objectWith_of_found found)

theorem documentType_of_provides {s : Synthesizer} {kind : DocumentKind} {type : ApiType}
    (provides : s.catalog.Provides kind s.registry type) : s.documentType kind = (.ok type, s) :=
  run_ok (Catalog.typeOf_of_provides provides)

theorem found_of_synthesize {s : Synthesizer} {d : Definition} {object : ObjectType}
    (given : (s.synthesize d).1 = .ok object) :
    (s.synthesize d).2.lookup d.name = some (.object object) := by
  unfold synthesize at given ⊢
  rcases run : (s.catalog.objectOf s.strict d).run s.registry with ⟨e | o, r⟩
  · rw [run_error run] at given
    cases given
  · rw [run_ok run] at given ⊢
    cases given
    exact Definition.objectWith_found run

theorem provides_of_documentType {s : Synthesizer} {kind : DocumentKind} {type : ApiType}
    (given : (s.documentType kind).1 = .ok type) :
    s.catalog.Provides kind (s.documentType kind).2.registry type := by
  unfold documentType at given ⊢
  rcases run : (s.catalog.typeOf s.strict [] kind.typeName kind).run s.registry with ⟨e | t, r⟩
  · rw [run_error run] at given
    cases given
  · rw [run_ok run] at given ⊢
    cases given
    exact Catalog.provides_of_typeOf run

/-- An object under a name is what every later request for a definition of that name gives. -/
theorem synthesize_later {s : Synthesizer} (recorded : s.registry.Recorded) {object : ObjectType}
    (found : s.lookup object.name = some (.object object)) (further : List Call) {d : Definition}
    (named : d.name = object.name) :
    (s.afterCalls further).synthesize d = (.ok object, s.afterCalls further) := by
  refine synthesize_of_found ?_
  rw [named]
  exact Registry.get?_of_prefix (afterCalls_grows recorded further) found

theorem documentType_later {s : Synthesizer} (recorded : s.registry.Recorded)
    {kind : DocumentKind} {type : ApiType} (provides : s.catalog.Provides kind s.registry type)
    (further : List Call) :
    (s.afterCalls further).documentType kind = (.ok type, s.afterCalls further) := by
  refine documentType_of_provides ?_
  rw [(afterCalls_keeps s further).1]
  exact provides.of_prefix (afterCalls_grows recorded further)

/-- The type of a call that succeeds stands in the table under its name from then on, and asking for
it again, after whatever calls, finds it and changes nothing. -/
theorem successful_call_permanent (catalog : Catalog) (strict : Bool) (calls : List Call) :
    let s := (new catalog strict).afterCalls calls
    (∀ d object, (s.synthesize d).1 = .ok object →
      let after := (s.synthesize d).2
      s.types <+: after.types ∧ s.advisories <+: after.advisories ∧
      object.name = d.name ∧ after.lookup object.name = some (.object object) ∧
      ∀ further d', d'.name = object.name →
        let later := after.afterCalls further
        later.synthesize d' = (.ok object, later)) ∧
    ∀ kind type, (s.documentType kind).1 = .ok type →
      let after := (s.documentType kind).2
      s.types <+: after.types ∧ s.advisories <+: after.advisories ∧
      (∃ named : NamedType, type = named.toType ∧ after.lookup named.name = some named) ∧
      ∀ further,
        let later := after.afterCalls further
        later.documentType kind = (.ok type, later) ∧
        ∀ object d', type = .object object → d'.name = object.name →
          later.synthesize d' = (.ok object, later) := by
  intro s
  have recorded : s.registry.Recorded := recorded_afterCalls catalog strict calls
  refine ⟨fun d object given => ?_, fun kind type given => ?_⟩
  · obtain ⟨⟨types, advisories⟩, recorded'⟩ := synthesize_grows recorded d
    have found := found_of_synthesize given
    have name : object.name = d.name := Registry.name_of_get? found
    rw [← name] at found
    exact ⟨types, advisories, name, found, fun further d' named =>
      synthesize_later recorded' found further named⟩
  · obtain ⟨⟨types, advisories⟩, recorded'⟩ := documentType_grows recorded kind
    have provides := provides_of_documentType given
    obtain ⟨named, eq, found⟩ := provides.found
    refine ⟨types, advisories, ⟨named, eq, found⟩,
      fun further => ⟨?_, fun object d' same name => ?_⟩⟩
    · rw [← (run_keeps s _).1] at provides
      exact documentType_later recorded' provides further
    · rw [eq] at same
      cases named with
      | object o =>
        cases same
        exact synthesize_later recorded' found further name
      | union u => cases same

theorem imageService_permanent :
    let s := new ⟨[imageService]⟩ false
    let object : ObjectType :=
      ⟨0, "Service", none, [⟨"image", "image", .scalar .string, true, some "Docker image"⟩], none⟩
    let after := (s.synthesize imageService).2
    let later := after.afterCalls [.synthesize brokenApp, .documentType .service]
    (s.synthesize imageService).1 = .ok object ∧
      later.synthesize { brokenApp with name := "Service" } = (.ok object, later) ∧
      (after.documentType .service).1 = .ok (.object object) ∧
      ((after.documentType .service).2.afterCalls [.documentType .app]).documentType .service =
        (.ok (.object object),
          (after.documentType .service).2.afterCalls [.documentType .app]) := by
  intro s object after later
  have given : (s.synthesize imageService).1 = .ok object := rfl
  have given_again : (after.documentType .service).1 = .ok (.object object) := by
    rw [documentType, Catalog.typeOf_eq]
    rfl
  have first := (successful_call_permanent ⟨[imageService]⟩ false []).1 imageService _ given
  have second := (successful_call_permanent ⟨[imageService]⟩ false [.synthesize imageService]).2
    .service _ given_again
  exact ⟨given, first.2.2.2.2 _ { brokenApp with name := "Service" } rfl, given_again,
    (second.2.2.2 _).1⟩

end Synthesizer

end ApiSchema
