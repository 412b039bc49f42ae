import ApiSchema.Proofs.Permanence
import ApiSchema.Proofs.SchemaText
import ApiSchema.Proofs.Visits

/-!
# The registry changes no result

Where no name is claimed by two constructs, a request for a kind of documents gives what the walk
without a registry gives, after whatever requests for kinds there were before
(`documentType_eq_plain`).  The walk over the schema is followed node by node, and the walk over the
documents by the number of those that are not being walked.
-/

namespace ApiSchema

open Documentation (Entry Tree valueTerm)

namespace Catalog

variable {catalog : Catalog} {strict : Bool} {scope : List (String × Construct)}
  {busy : List String} {r : Registry}

/-! ## Conversion -/

section Conversion

open Conversion

/-- Every type that a reference gives is the one that the plain walk gives. -/
def Answers (catalog : Catalog) (strict : Bool) (scope : List (String × Construct))
    (busy : List String)
    (resolve : String → DocumentKind → Synthesis ApiType) : Prop :=
  ∀ path kind r, catalog.Follows strict scope busy r (resolve path kind)
    (fun busy => catalog.plainTypeOf strict busy path kind) ApiType.unnumbered Known

theorem convertScalar_follows (path : String) (kind : ScalarKind) :
    catalog.Follows strict scope busy r (convertScalar path kind)
      (fun _ => pure (.scalar (Plain.scalarOf kind))) ApiType.unnumbered Known := by
  cases kind with
  | any => exact follows_advise _ _ _ (follows_pure (known_scalar _ _) rfl)
  | string | integer | float | boolean => exact follows_pure (known_scalar _ _) rfl

theorem valueDocs_follows (path : String) (docs : Option Entry) :
    catalog.Follows strict scope busy r (valueDocs path docs) (fun _ => Plain.valueDocs path docs)
      id fun _ _ => True := by
  rcases docs with _ | _ | ⟨own, fields⟩
  · exact follows_pure trivial rfl
  · exact follows_pure trivial rfl
  · simp only [valueDocs, Plain.valueDocs]
    rcases Keyed.get? valueTerm fields with _ | entry
    · exact follows_fail _ _
    · exact follows_pure trivial rfl

theorem convert_object (c : Conversion) (path : String) (own : Option String) (tree : Tree)
    (nodes : List (String × SchemaNode)) :
    convert c path (some (.nested own tree)) (.object nodes) = do
      return .object (← Synthesis.objectOr path
        (convertFields c path tree [] [] nodes >>= registerFields path own none)) := by
  rw [convert, Synthesis.objectOr, bind_assoc]
  refine bind_congr fun found => ?_
  cases found with
  | some object => rw [pure_bind]
  | none => rw [bind_assoc]

theorem find?_unnumbered (name : String) (fields : List Field) :
    (fields.map Field.unnumbered).find? (·.name == name) =
      (fields.find? (·.name == name)).map Field.unnumbered := by
  rw [List.find?_map]
  refine congrArg (Option.map Field.unnumbered) (congrArg (List.find? · fields) ?_)
  funext field
  rw [Function.comp_apply, field.name_unnumbered]

mutual

theorem convert_follows (clear : Unambiguous scope)
    {resolve : String → DocumentKind → Synthesis ApiType}
    (answers : catalog.Answers strict scope busy resolve) :
    ∀ (node : SchemaNode) (path : String) (docs : Option Entry) (r : Registry),
      catalog.Follows strict scope busy r (convert ⟨strict, resolve⟩ path docs node)
        (fun busy => Plain.convert strict (catalog.plainTypeOf strict busy) path docs node)
        ApiType.unnumbered Known
  | .scalar kind, path, docs, r => by
    simp only [convert, Plain.convert]
    exact convertScalar_follows path kind
  | .optional inner, path, docs, r => by
    simp only [convert, Plain.convert]
    exact convert_follows clear answers inner path docs r
  | .union nodes, path, docs, r => by
    simp only [convert, Plain.convert]
    exact follows_unionAt clear resolve (fun _ => rfl)
      (convertAlternatives_follows clear answers nodes path docs 0 r)
  | .object nodes, path, docs, r => by
    rcases docs with _ | _ | ⟨own, tree⟩
    · simp only [convert, Plain.convert]
      exact follows_fail _ _
    · simp only [convert, Plain.convert]
      exact follows_fail _ _
    · simp only [convert_object, Plain.convert]
      refine Follows.bind (follows_objectOr clear (.object own tree nodes)
        (fun _ => rfl) (fun _ _ => rfl) (fits_of_ne (by simp)) (by simp) fun _ _ =>
        convertFields_follows clear answers nodes path tree [] [] r (by simp)) ?_
      intro object r' _ _ mem
      exact follows_pure (known_object.2 mem) rfl
  | .list element, path, docs, r => by
    simp only [convert, Plain.convert]
    refine (convert_follows clear answers element path docs r).bind fun type r' _ _ known => ?_
    exact follows_pure known rfl
  | .map value, path, docs, r => by
    simp only [convert, Plain.convert]
    refine (valueDocs_follows path docs).bind fun docs' r₁ _ _ _ => ?_
    refine (convert_follows clear answers value path docs' r₁).bind fun type r₂ _ _ known => ?_
    refine (follows_entryRecordFor clear known).bind fun record r₃ _ _ mem => ?_
    exact follows_pure (known_object.2 mem) rfl
  | .reference kind, path, docs, r => by
    simp only [convert, Plain.convert]
    exact answers path kind r
  | .validated constraint, path, docs, r => by
    simp only [convert, Plain.convert]
    exact convertConstraint_follows clear answers constraint path docs r

theorem convertConstraint_follows (clear : Unambiguous scope)
    {resolve : String → DocumentKind → Synthesis ApiType}
    (answers : catalog.Answers strict scope busy resolve) :
    ∀ (constraint : Constraint) (path : String) (docs : Option Entry) (r : Registry),
      catalog.Follows strict scope busy r (convertConstraint ⟨strict, resolve⟩ path docs constraint)
        (fun busy =>
          Plain.convertConstraint strict (catalog.plainTypeOf strict busy) path docs constraint)
        ApiType.unnumbered Known
  | .documentName target, path, docs, r => by
    simp only [convertConstraint, Plain.convertConstraint]
    exact answers path target r
  | .alternatives nodes, path, docs, r => by
    simp only [convertConstraint, Plain.convertConstraint]
    exact follows_unionAt clear resolve (fun _ => rfl)
      (convertAlternatives_follows clear answers nodes path docs 0 r)
  | .custom name, path, docs, r => by
    simp only [convertConstraint, Plain.convertConstraint]
    exact follows_fail _ _

theorem convertAlternatives_follows (clear : Unambiguous scope)
    {resolve : String → DocumentKind → Synthesis ApiType}
    (answers : catalog.Answers strict scope busy resolve) :
    ∀ (nodes : List SchemaNode) (path : String) (docs : Option Entry) (index : Nat)
      (r : Registry),
      catalog.Follows strict scope busy r
        (convertAlternatives ⟨strict, resolve⟩ path docs index nodes)
        (fun busy =>
          Plain.convertAlternatives strict (catalog.plainTypeOf strict busy) path docs index nodes)
        (List.map ApiType.unnumbered) fun types r => ∀ t ∈ types, Known t r
  | [], path, docs, index, r => by
    simp only [convertAlternatives, Plain.convertAlternatives]
    exact follows_pure (by simp) rfl
  | node :: rest, path, docs, index, r => by
    simp only [convertAlternatives, Plain.convertAlternatives]
    refine (convert_follows clear answers node _ docs r).bind fun type r₁ _ _ known => ?_
    refine (convertAlternatives_follows clear answers rest path docs _ r₁).bind
      fun types r₂ _ grown knowns => ?_
    exact follows_pure (List.forall_mem_cons.2 ⟨known.mono grown, knowns⟩) rfl

theorem convertFields_follows (clear : Unambiguous scope)
    {resolve : String → DocumentKind → Synthesis ApiType}
    (answers : catalog.Answers strict scope busy resolve) :
    ∀ (fields : List (String × SchemaNode)) (parent : String) (tree : Tree) (skip : List String)
      (done : List Field) (r : Registry), (∀ f ∈ done, Known f.type r) →
      catalog.Follows strict scope busy r
        (convertFields ⟨strict, resolve⟩ parent tree skip done fields)
        (fun busy => Plain.convertFields strict (catalog.plainTypeOf strict busy) parent tree skip
          (done.map Field.unnumbered) fields)
        (List.map Field.unnumbered) fun fields r => ∀ f ∈ fields, Known f.type r
  | [], parent, tree, skip, done, r, known => by
    simp only [convertFields, Plain.convertFields]
    exact follows_pure known rfl
  | (key, node) :: rest, parent, tree, skip, done, r, known => by
    simp only [convertFields, Plain.convertFields, find?_unnumbered]
    split_ifs
    · exact convertFields_follows clear answers rest parent tree skip done r known
    · rcases Keyed.get? key tree with _ | docs
      · exact follows_advise _ _ _
          (convertFields_follows clear answers rest parent tree skip done _ known)
      · rcases earlier : done.find? (·.name == KeyName.toCamel key) with _ | clash
        · simp only [earlier, Option.map_none]
          refine (convert_follows clear answers node _ _ r).bind fun type r' _ grown knownType => ?_
          let field : Field :=
            ⟨KeyName.toCamel key, key, type, !node.isOptional, docs.description⟩
          have knownDone : ∀ f ∈ done ++ [field], Known f.type r' := by
            intro f mem
            rcases List.mem_append.1 mem with mem | mem
            · exact (known f mem).mono grown
            · rwa [List.mem_singleton.1 mem]
          have follows := convertFields_follows clear answers rest parent tree skip
            (done ++ [field]) r' knownDone
          rwa [List.map_append] at follows
        · simp only [earlier, Option.map_some, Field.source_unnumbered]
          exact follows_fail _ _

end

end Conversion

/-! ## Documents -/

section Documents

/-- The fields of a definition's object. -/
def definitionBody (catalog : Catalog) (strict : Bool) (busy : List String) (d : Definition) :
    Synthesis (List Field) :=
  match d.schema with
  | .object nodes =>
    Conversion.convertFields ⟨strict, catalog.typeOf strict busy⟩ d.name d.docs d.skipFields []
      nodes
  | _ => Synthesis.fail d.name .documentNotObject

/-- The fields of a definition's object in the plain walk. -/
def plainBody (catalog : Catalog) (strict : Bool) (busy : List String) (d : Definition) :
    Plain (List Field) :=
  match d.schema with
  | .object nodes =>
    Plain.convertFields strict (catalog.plainTypeOf strict busy) d.name d.docs d.skipFields [] nodes
  | _ => Plain.fail d.name .documentNotObject

theorem objectIn_of_mem {d : Definition} (mem : d.name ∈ busy) :
    catalog.objectIn strict busy d =
      Synthesis.objectOr d.name (Synthesis.fail d.name (.cycle (busy ++ [d.name]))) := by
  rw [objectIn, Definition.objectWith, dif_pos mem]
  rfl

theorem objectIn_of_not_mem {d : Definition} (new : d.name ∉ busy) :
    catalog.objectIn strict busy d = Synthesis.objectOr d.name
      (catalog.definitionBody strict (busy ++ [d.name]) d >>=
        Conversion.registerFields d.name d.description d.discriminator) := by
  rw [objectIn, Definition.objectWith, dif_neg new, definitionBody]
  cases d.schema <;> rfl

/-- While a document is being walked, what its fields give does not depend on which documents are
being walked besides. -/
theorem Follows.within {α β : Type} {name : String} {d : Definition} {m : Synthesis α}
    {plain : List String → Plain β} {shape : α → β} {Good : α → Registry → Prop}
    (free : r.get? name = none) (claimed : (name, .definition d) ∈ scope)
    (follows : catalog.Follows strict scope (busy ++ [name]) r m plain shape Good) :
    catalog.Follows strict scope busy r m (fun busy => plain (busy ++ [name])) shape Good := by
  intro faithful waits subset
  have waits_within : Waits scope (busy ++ [name]) r := by
    refine ⟨fun other mem => ?_, fun other mem => ?_⟩
    · rcases List.mem_append.1 mem with mem | mem
      · exact waits.missing other mem
      · rwa [List.mem_singleton.1 mem]
    · rcases List.mem_append.1 mem with mem | mem
      · exact waits.claimed other mem
      · rw [List.mem_singleton.1 mem]
        exact ⟨d, claimed⟩
  have outcome := follows faithful waits_within subset
  rcases run : m.run r with ⟨e | a, r'⟩
  · rw [run] at outcome
    exact outcome
  · rw [run] at outcome
    obtain ⟨faithful', waits', good, claims, agrees, gains⟩ := outcome
    refine ⟨faithful', ⟨fun other mem => ?_, waits.claimed⟩, good, claims,
      fun busy' missing => agrees _ fun other mem => ?_, gains⟩
    · exact waits'.missing other (List.mem_append_left _ mem)
    · rcases List.mem_append.1 mem with mem | mem
      · exact missing other mem
      · exact waits'.missing other (List.mem_append_right _ mem)

theorem definitionFields_of_not_mem {d : Definition} (new : d.name ∉ busy) :
    Plain.definitionFields d strict busy (fun _ => catalog.plainTypeOf strict (busy ++ [d.name])) =
      catalog.plainBody strict (busy ++ [d.name]) d :=
  dif_neg new

theorem plainObjectIn_of_not_mem {d : Definition} (new : d.name ∉ busy) :
    catalog.plainObjectIn strict busy d = (do
      Plain.claim d.name (.definition d)
      Plain.objectOf d.name d.description d.discriminator
        (← catalog.plainBody strict (busy ++ [d.name]) d)) := by
  rw [plainObjectIn, Plain.definitionWith, definitionFields_of_not_mem new]

theorem definitionBody_follows (clear : Unambiguous scope) (d : Definition)
    (answers : catalog.Answers strict scope busy (catalog.typeOf strict busy)) (r : Registry) :
    catalog.Follows strict scope busy r (catalog.definitionBody strict busy d)
      (fun busy => catalog.plainBody strict busy d) (List.map Field.unnumbered)
      fun fields r => ∀ f ∈ fields, Known f.type r := by
  unfold definitionBody plainBody
  cases d.schema with
  | object nodes =>
    exact convertFields_follows clear answers nodes d.name d.docs d.skipFields [] r (by simp)
  | scalar _ | optional _ | union _ | list _ | map _ | reference _ | validated _ =>
    exact follows_fail _ _

/-- The object of a definition is the one that the plain walk gives, if what it refers to is. -/
theorem objectIn_follows (clear : Unambiguous scope) (d : Definition)
    (answers : d.name ∉ busy →
      catalog.Answers strict scope (busy ++ [d.name]) (catalog.typeOf strict (busy ++ [d.name])))
    (r : Registry) :
    catalog.Follows strict scope busy r (catalog.objectIn strict busy d)
      (fun busy => catalog.plainObjectIn strict busy d) ObjectType.unnumbered
      fun object r => .object object ∈ r.types := by
  by_cases mem : d.name ∈ busy
  · intro faithful waits claimed
    rw [objectIn_of_mem mem, Synthesis.objectOr, Synthesis.run_bind, Synthesis.run_objectNamed?,
      waits.missing d.name mem]
    show (catalog.plainObjectIn strict busy d).result = _
    rw [plainObjectIn, Plain.definitionWith, Plain.definitionFields, dif_pos mem]
    rfl
  · rw [objectIn_of_not_mem mem]
    refine follows_objectOr clear (.definition d) (fun _ => rfl)
      (fun busy' fits => plainObjectIn_of_not_mem (fits ⟨d, rfl⟩)) (fun _ => mem) (by simp)
      fun free claimed => ?_
    exact (definitionBody_follows clear d (answers mem) r).within free claimed

theorem mapM_follows {f : Definition → Synthesis ObjectType}
    {plain : List String → Definition → Plain ObjectType} (variants : List Definition)
    (follows : ∀ d ∈ variants, ∀ r,
      catalog.Follows strict scope busy r (f d) (fun busy => plain busy d) ObjectType.unnumbered
        fun object r => .object object ∈ r.types) (r : Registry) :
    catalog.Follows strict scope busy r (variants.mapM f) (fun busy => variants.mapM (plain busy))
      (List.map ObjectType.unnumbered) fun objects r => ∀ o ∈ objects, .object o ∈ r.types := by
  induction variants generalizing r with
  | nil => exact follows_pure (by simp) rfl
  | cons d rest ih =>
    obtain ⟨followsFirst, followsRest⟩ := List.forall_mem_cons.1 follows
    simp only [List.mapM_cons]
    refine (followsFirst r).bind fun object r₁ _ _ mem => ?_
    refine (ih followsRest r₁).bind fun objects r₂ _ grown mems => ?_
    exact follows_pure (List.forall_mem_cons.2 ⟨grown.subset mem, mems⟩) rfl

/-- The type of a kind of documents is the one that the plain walk gives. -/
theorem typeOf_follows (clear : Unambiguous scope) (busy : List String) :
    catalog.Answers strict scope busy (catalog.typeOf strict busy) := by
  induction count : (catalog.waiting busy).length using Nat.strongRecOn
    generalizing busy with
  | ind count ih =>
    subst count
    intro path kind r
    have follows : ∀ d ∈ catalog.definitions kind, ∀ r,
        catalog.Follows strict scope busy r (catalog.objectIn strict busy d)
          (fun busy => catalog.plainObjectIn strict busy d) ObjectType.unnumbered
          fun object r => .object object ∈ r.types := by
      intro d mem
      refine objectIn_follows clear d fun new => ih _ ?_ (busy ++ [d.name]) rfl
      exact length_waiting_lt (List.mem_filter.1 mem).1 new
    simp only [typeOf_eq, plainTypeOf_eq]
    rcases documents : catalog.definitions kind with _ | ⟨first, _ | ⟨second, rest⟩⟩
    · exact follows_fail _ _
    · rw [documents] at follows
      refine (follows first (List.mem_singleton_self first) r).bind fun object r' _ _ mem => ?_
      exact follows_pure (known_object.2 mem) rfl
    · rw [documents] at follows
      refine follows_variants clear (fun busy => ?_) (mapM_follows _ follows r)
      rw [visit, documents]

end Documents

theorem faithful_empty (catalog : Catalog) (strict : Bool) :
    catalog.FaithfulTo strict scope Registry.empty := by
  refine ⟨Registry.orderly_empty, rfl, ?_, ?_, ?_⟩
  · intro type mem
    cases mem
  · intro fragment record found
    cases found
  · intro type mem
    cases mem

end Catalog

/-! ## Requests -/

/-- Every type of the registry was made by a construct of the catalog's own walks. -/
abbrev Catalog.Faithful (catalog : Catalog) (strict : Bool) (r : Registry) : Prop :=
  catalog.FaithfulTo strict (catalog.claims strict) r

namespace Synthesizer

/-- A request for a kind gives what the plain walk gives, and leaves a faithful registry. -/
theorem documentType_follows {s : Synthesizer} (clear : s.catalog.NamesClear s.strict)
    (faithful : s.catalog.Faithful s.strict s.registry) (recorded : s.registry.Recorded)
    (kind : DocumentKind) :
    (s.documentType kind).1.map ApiType.unnumbered =
        (s.catalog.plainTypeOf s.strict [] kind.typeName kind).result ∧
      s.catalog.Faithful s.strict (s.documentType kind).2.registry := by
  have waits : Catalog.Waits (s.catalog.claims s.strict) [] s.registry :=
    ⟨fun _ => (List.not_mem_nil · |>.elim), fun _ => (List.not_mem_nil · |>.elim)⟩
  have outcome := Catalog.typeOf_follows clear [] kind.typeName kind s.registry faithful waits
    (s.catalog.claims_subset s.strict kind)
  rcases run : (s.catalog.typeOf s.strict [] kind.typeName kind).run s.registry with ⟨e | type, r⟩
  · rw [run] at outcome
    have failed : (s.documentType kind).1 = .error e := by
      rw [documentType, run_error run]
    have restored := run_of_error recorded (Law.typeOf_leads [] _ kind _ recorded) failed
    refine ⟨?_, ?_⟩
    · rw [failed]
      exact outcome.symm
    · rw [documentType, restored.1]
      exact faithful
  · rw [run] at outcome
    obtain ⟨faithful', waits', _, claims, agrees, _⟩ := outcome
    rw [documentType, run_ok run]
    exact ⟨(congrArg Plain.result (agrees [] waits'.missing)).symm, faithful'⟩

theorem faithful_afterCalls (earlier : List DocumentKind) {s : Synthesizer}
    (clear : s.catalog.NamesClear s.strict) (faithful : s.catalog.Faithful s.strict s.registry)
    (recorded : s.registry.Recorded) :
    s.catalog.Faithful s.strict (s.afterCalls (earlier.map .documentType)).registry := by
  induction earlier generalizing s with
  | nil => exact faithful
  | cons kind rest ih =>
    have faithful' := (documentType_follows clear faithful recorded kind).2
    have recorded' := (documentType_grows recorded kind).2
    have keeps : (s.documentType kind).2.catalog = s.catalog ∧
        (s.documentType kind).2.strict = s.strict := run_keeps s _
    show s.catalog.Faithful s.strict
      ((s.documentType kind).2.afterCalls (rest.map .documentType)).registry
    generalize (s.documentType kind).2 = after at faithful' recorded' keeps ⊢
    rw [← keeps.1, ← keeps.2] at clear faithful' ⊢
    exact ih clear faithful' recorded'

/-- Where no name is claimed by two constructs, requests for kinds leave a sound table. -/
theorem table_sound_of_namesClear {catalog : Catalog} {strict : Bool}
    (clear : catalog.NamesClear strict) (earlier : List DocumentKind) :
    ((new catalog strict).afterCalls (earlier.map .documentType)).registry.Sound := by
  have faithful : catalog.Faithful strict
      ((new catalog strict).afterCalls (earlier.map .documentType)).registry :=
    faithful_afterCalls earlier (s := new catalog strict) clear (catalog.faithful_empty strict)
      Registry.recorded_empty
  exact faithful.orderly.sound faithful.unreplaced

/-- Where no name is claimed twice, a request for a kind gives what the walk without a registry
gives, up to serial numbers, or the same error, after whatever requests for kinds there were
before. -/
theorem documentType_eq_plain (catalog : Catalog) (strict : Bool)
    (clear : catalog.NamesClear strict) (earlier : List DocumentKind) (kind : DocumentKind) :
    let s := (new catalog strict).afterCalls (earlier.map .documentType)
    (s.documentType kind).1.map ApiType.unnumbered =
      (catalog.plainTypeOf strict [] kind.typeName kind).result := by
  intro s
  have faithful : catalog.Faithful strict s.registry :=
    faithful_afterCalls earlier (s := new catalog strict) clear (catalog.faithful_empty strict)
      Registry.recorded_empty
  have recorded : s.registry.Recorded := recorded_afterCalls catalog strict _
  obtain ⟨same_catalog, same_strict⟩ : s.catalog = catalog ∧ s.strict = strict :=
    afterCalls_keeps (new catalog strict) (earlier.map .documentType)
  rw [← same_catalog, ← same_strict] at clear faithful ⊢
  exact (documentType_follows clear faithful recorded kind).1

/-- An app that runs a service, with settings. -/
def serviceApp : Definition where
  kind := .app
  name := "App"
  description := none
  schema := .object [("service", .reference .service), ("env", .map (.scalar .float))]
  docs :=
    [("service", .text "The service"),
     ("env", .nested none [(Documentation.valueTerm, .text "A setting")])]
  skipFields := []
  discriminator := none

/-- An app and the service that it runs. -/
def serviceCatalog : Catalog := ⟨[serviceApp, imageService]⟩

/-- The type of the app without serial numbers. -/
def serviceAppType : ApiType :=
  .object ⟨0, "App", none,
    [⟨"service", "service", .object ⟨0, "Service", none,
        [⟨"image", "image", .scalar .string, true, some "Docker image"⟩], none⟩, true,
        some "The service"⟩,
     ⟨"env", "env", .list (.object (entryRecord 0 (.scalar .float))), true, none⟩], none⟩

theorem plainTypeOf_serviceApp :
    serviceCatalog.plainTypeOf false [] DocumentKind.app.typeName .app =
      ⟨[("App", .definition serviceApp), ("Service", .definition imageService),
        ("EntryFloat", .record (.scalar .float))], .ok serviceAppType⟩ := by
  have resolve : serviceCatalog.plainTypeOf false ["App"] = fun path kind =>
      serviceCatalog.plainTypeOfAll false ["App"] path kind (serviceCatalog.definitions kind) := by
    funext path kind
    exact serviceCatalog.plainTypeOf_eq false ["App"] path kind
  rw [Catalog.plainTypeOf_eq]
  show (do return ApiType.object (← serviceCatalog.plainObjectIn false [] serviceApp)) = _
  rw [Catalog.plainObjectIn, show ([] ++ [serviceApp.name] : List String) = ["App"] from rfl,
    resolve]
  rfl

theorem claims_serviceCatalog : serviceCatalog.claims false =
    [("App", .definition serviceApp), ("Service", .definition imageService),
     ("EntryFloat", .record (.scalar .float)), ("Service", .definition imageService)] := by
  have service :
      (serviceCatalog.plainTypeOf false [] DocumentKind.service.typeName .service).claims =
        [("Service", .definition imageService)] := by
    rw [Catalog.plainTypeOf_eq]
    rfl
  have undefined : ∀ kind, serviceCatalog.definitions kind = [] →
      (serviceCatalog.plainTypeOf false [] kind.typeName kind).claims = [] := by
    intro kind empty
    rw [Catalog.plainTypeOf_eq, empty]
    rfl
  simp only [Catalog.claims, DocumentKind.all, List.flatMap_cons, List.flatMap_nil,
    plainTypeOf_serviceApp, service, undefined .config rfl, undefined .project rfl,
    undefined .command rfl]
  rfl

theorem namesClear_serviceCatalog : serviceCatalog.NamesClear false := by
  intro name a b claimed_a claimed_b
  rw [claims_serviceCatalog] at claimed_a claimed_b
  simp only [List.mem_cons, Prod.mk.injEq, List.not_mem_nil, or_false] at claimed_a claimed_b
  rcases claimed_a with ⟨rfl, rfl⟩ | ⟨rfl, rfl⟩ | ⟨rfl, rfl⟩ | ⟨rfl, rfl⟩ <;> simp_all

/-- The app is requested after a request that fails and one for its service. -/
theorem serviceApp_transparent :
    let s := (new serviceCatalog false).afterCalls [.documentType .config, .documentType .service]
    serviceCatalog.NamesClear false ∧
      (s.documentType .app).1.map ApiType.unnumbered = .ok serviceAppType := by
  intro s
  have same := documentType_eq_plain serviceCatalog false namesClear_serviceCatalog
    [.config, .service] .app
  refine ⟨namesClear_serviceCatalog, ?_⟩
  rw [plainTypeOf_serviceApp] at same
  exact same

end Synthesizer

end ApiSchema
