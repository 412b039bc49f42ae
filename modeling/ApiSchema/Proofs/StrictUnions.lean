import ApiSchema.Proofs.HiddenFields

/-!
# Strict and lenient unions

In strict mode a union of different simple types is an error, and else it becomes the generic type
with an advisory.  The two modes go the same way until the lenient one meets such a union
(`AgreeUntilDegraded`): from there on the strict walk has failed at the union's path, and the
lenient one has an advisory for it that no later step takes away.  So a strict request is a lenient
one that refuses just the degraded unions (`strict_refuses_degraded`).
-/

namespace ApiSchema

open Documentation (Entry Tree valueTerm)

/-! ## Advisories on unions -/

namespace Registry

/-- The later registry has the earlier advisories, and after them none on a union. -/
def AddsNoUnion (before after : Registry) : Prop :=
  ∃ added, after.advisories = before.advisories ++ added ∧ ∀ a ∈ added, a.kind ≠ .scalarUnion

/-- The later registry has the earlier advisories, and after them one on the union at a path. -/
def AddsUnionAt (path : String) (before after : Registry) : Prop :=
  ∃ added, after.advisories = before.advisories ++ added ∧
    ∃ a ∈ added, a.kind = .scalarUnion ∧ a.path = path

variable {a b c : Registry} {path : String}

theorem addsNoUnion_of_eq (same : b.advisories = a.advisories) : a.AddsNoUnion b :=
  ⟨[], by rw [same, List.append_nil], by simp⟩

theorem AddsNoUnion.trans (first : a.AddsNoUnion b) (second : b.AddsNoUnion c) :
    a.AddsNoUnion c := by
  obtain ⟨added, grown, quiet⟩ := first
  obtain ⟨added', grown', quiet'⟩ := second
  refine ⟨added ++ added', by rw [grown', grown, List.append_assoc], fun advisory mem => ?_⟩
  rcases List.mem_append.1 mem with mem | mem
  · exact quiet advisory mem
  · exact quiet' advisory mem

theorem AddsNoUnion.unionAt (first : a.AddsNoUnion b) (second : AddsUnionAt path b c) :
    AddsUnionAt path a c := by
  obtain ⟨added, grown, -⟩ := first
  obtain ⟨added', grown', advisory, mem, about⟩ := second
  exact ⟨added ++ added', by rw [grown', grown, List.append_assoc], advisory,
    List.mem_append_right _ mem, about⟩

theorem AddsUnionAt.of_prefix (first : AddsUnionAt path a b)
    (grown : b.advisories <+: c.advisories) : AddsUnionAt path a c := by
  obtain ⟨added, added_eq, advisory, mem, about⟩ := first
  obtain ⟨more, more_eq⟩ := grown
  exact ⟨added ++ more, by rw [← more_eq, added_eq, List.append_assoc], advisory,
    List.mem_append_left _ mem, about⟩

theorem AddsNoUnion.not_unionAt (quiet : a.AddsNoUnion b) : ¬ AddsUnionAt path a b := by
  rintro ⟨added, grown, advisory, mem, about, -⟩
  obtain ⟨added', grown', others⟩ := quiet
  rw [grown, List.append_cancel_left_eq] at grown'
  exact others advisory (grown' ▸ mem) about

end Registry

/-! ## Walks that agree until a union is degraded -/

namespace Synthesis

variable {α β : Type}

/-- The strict computation does what the lenient one does, which adds no advisory on a union; or it
fails at the path of a union on which the lenient one adds an advisory. -/
def AgreeUntilDegraded (strict lenient : Synthesis α) : Prop :=
  ∀ r : Registry,
    strict.run r = lenient.run r ∧ r.AddsNoUnion (lenient.run r).2 ∨
    ∃ path, (strict.run r).1 = .error ⟨path, .ambiguousUnion⟩ ∧
      r.AddsUnionAt path (lenient.run r).2

theorem AgreeUntilDegraded.grows {strict lenient : Synthesis α}
    (agree : AgreeUntilDegraded strict lenient) (r : Registry) :
    r.advisories <+: (lenient.run r).2.advisories := by
  rcases agree r with ⟨-, added, grown, -⟩ | ⟨path, -, added, grown, -⟩
  · exact ⟨added, grown.symm⟩
  · exact ⟨added, grown.symm⟩

/-- A computation that adds no advisory on a union agrees with itself. -/
theorem agree_self {m : Synthesis α} (quiet : ∀ r : Registry, r.AddsNoUnion (m.run r).2) :
    AgreeUntilDegraded m m :=
  fun r => .inl ⟨rfl, quiet r⟩

/-- A computation that leaves the advisories alone agrees with itself. -/
theorem agree_of_advisories {m : Synthesis α}
    (same : ∀ r : Registry, (m.run r).2.advisories = r.advisories) : AgreeUntilDegraded m m :=
  agree_self fun r => Registry.addsNoUnion_of_eq (same r)

theorem agree_pure (a : α) : AgreeUntilDegraded (pure a) (pure a) :=
  agree_of_advisories fun _ => rfl

theorem agree_fail (path : String) (fault : SynthesisFault) :
    AgreeUntilDegraded (fail path fault : Synthesis α) (fail path fault) :=
  agree_of_advisories fun _ => rfl

theorem AgreeUntilDegraded.bind {strict lenient : Synthesis α} {f f' : α → Synthesis β}
    (first : AgreeUntilDegraded strict lenient) (next : ∀ a, AgreeUntilDegraded (f a) (f' a)) :
    AgreeUntilDegraded (strict >>= f) (lenient >>= f') := by
  intro r
  rw [run_bind, run_bind]
  rcases first r with ⟨same, quiet⟩ | ⟨path, failed, degraded⟩
  · rw [same]
    rcases run : lenient.run r with ⟨e | a, r'⟩
    · rw [run] at quiet
      exact .inl ⟨rfl, quiet⟩
    · rw [run] at quiet
      rcases next a r' with ⟨same', quiet'⟩ | ⟨path, failed, degraded⟩
      · exact .inl ⟨same', quiet.trans quiet'⟩
      · exact .inr ⟨path, failed, quiet.unionAt degraded⟩
  · -- The strict computation has failed; whatever the lenient one does next keeps its advisory.
    refine .inr ⟨path, ?_, ?_⟩
    · rcases run : strict.run r with ⟨e | a, r'⟩
      · rw [run] at failed
        cases failed
        rfl
      · rw [run] at failed
        cases failed
    · rcases run : lenient.run r with ⟨e | a, r'⟩
      · rw [run] at degraded
        exact degraded
      · rw [run] at degraded
        exact degraded.of_prefix ((next a).grows r')

theorem agree_advise (path : String) {kind : AdvisoryKind} (other : kind ≠ .scalarUnion)
    (message : String) :
    AgreeUntilDegraded (advise path kind message) (advise path kind message) :=
  agree_self fun _ => ⟨[⟨path, kind, message⟩], rfl, by simpa using other⟩

theorem agree_objectNamed? (name : String) :
    AgreeUntilDegraded (objectNamed? name) (objectNamed? name) := by
  refine agree_of_advisories fun r => ?_
  rw [run_objectNamed?]
  rcases r.get? name with _ | _ | _ <;> rfl

theorem agree_unionNamed? (name : String) :
    AgreeUntilDegraded (unionNamed? name) (unionNamed? name) := by
  refine agree_of_advisories fun r => ?_
  rw [run_unionNamed?]
  rcases r.get? name with _ | _ | _ <;> rfl

theorem agree_entryRecordFor (value : ApiType) :
    AgreeUntilDegraded (entryRecordFor value) (entryRecordFor value) := by
  refine agree_of_advisories fun r => ?_
  rw [run_entryRecordFor]
  rcases Keyed.get? value.fragment r.entries with _ | record
  · dsimp only
    split_ifs <;> rfl
  · rfl

theorem AgreeUntilDegraded.objectOr {strict lenient : Synthesis ObjectType}
    (agree : AgreeUntilDegraded strict lenient) (name : String) :
    AgreeUntilDegraded (objectOr name strict) (objectOr name lenient) := by
  refine (agree_objectNamed? name).bind fun found => ?_
  rcases found with _ | object
  · exact agree
  · exact agree_pure object

theorem AgreeUntilDegraded.unionOr {strict lenient : Synthesis ApiType}
    (agree : AgreeUntilDegraded strict lenient) (name : String) :
    AgreeUntilDegraded (unionOr name strict) (unionOr name lenient) := by
  refine (agree_unionNamed? name).bind fun found => ?_
  rcases found with _ | union
  · exact agree
  · exact agree_pure _

end Synthesis

/-! ## Conversion -/

namespace Conversion

open Synthesis

variable {resolve resolve' : String → DocumentKind → Synthesis ApiType}

theorem convertScalar_agree (path : String) (kind : ScalarKind) :
    AgreeUntilDegraded (convertScalar path kind) (convertScalar path kind) := by
  cases kind with
  | any => exact (agree_advise path (by decide) _).bind fun _ => agree_pure _
  | string | integer | float | boolean => exact agree_pure _

theorem unionMembers_agree (path : String) (types : List ApiType) :
    ∀ done, AgreeUntilDegraded (unionMembers path done types) (unionMembers path done types) := by
  induction types with
  | nil => exact fun done => agree_pure done
  | cons type rest ih =>
    intro done
    cases type with
    | object object => exact ih _
    | union union => exact ih _
    | list _ | scalar _ => exact agree_fail _ _

/-- The one step at which the modes part: different simple types are refused, or become the generic
type with an advisory. -/
theorem scalarUnion_agree (path : String) (first : ApiScalar) (others : List ApiScalar) :
    AgreeUntilDegraded (scalarUnion ⟨true, resolve⟩ path first others)
      (scalarUnion ⟨false, resolve'⟩ path first others) := by
  unfold scalarUnion
  by_cases same : others.all (· == first)
  · rw [if_pos same, if_pos same]
    exact agree_pure _
  · rw [if_neg same, if_neg same]
    intro r
    exact .inr ⟨path, rfl, [_], rfl, _, List.mem_singleton_self _, rfl, rfl⟩

theorem unionOf_agree (path : String) (description : Option String) (types : List ApiType) :
    AgreeUntilDegraded (unionOf ⟨true, resolve⟩ path description types)
      (unionOf ⟨false, resolve'⟩ path description types) := by
  unfold unionOf
  dsimp only
  split
  · exact (unionMembers_agree path types []).bind fun members =>
      (agree_of_advisories fun _ => rfl).bind fun union => agree_pure _
  · split_ifs
    · exact scalarUnion_agree path _ _
    · exact agree_fail _ _

theorem unionAt_agree (path : String) (docs : Option Entry) (nodes : List SchemaNode)
    {types types' : Synthesis (List ApiType)} (agree : AgreeUntilDegraded types types') :
    AgreeUntilDegraded (unionAt ⟨true, resolve⟩ path docs nodes types)
      (unionAt ⟨false, resolve'⟩ path docs nodes types') := by
  unfold unionAt
  refine AgreeUntilDegraded.unionOr ?_ path
  split_ifs
  · exact agree_fail _ _
  · exact agree.bind fun types => unionOf_agree path _ types

theorem registerFields_agree (name : String) (description discriminator : Option String)
    (fields : List Field) :
    AgreeUntilDegraded (registerFields name description discriminator fields)
      (registerFields name description discriminator fields) := by
  unfold registerFields
  split_ifs
  · exact agree_fail _ _
  · exact agree_of_advisories fun _ => rfl

mutual

/-- The conversion of a node agrees until a union is degraded, if what it refers to does. -/
theorem convert_agree
    (resolves : ∀ path kind, AgreeUntilDegraded (resolve path kind) (resolve' path kind)) :
    ∀ (node : SchemaNode) (path : String) (docs : Option Entry),
      AgreeUntilDegraded (convert ⟨true, resolve⟩ path docs node)
        (convert ⟨false, resolve'⟩ path docs node)
  | .scalar kind, path, docs => by
    rw [convert, convert]
    exact convertScalar_agree path kind
  | .optional inner, path, docs => by
    rw [convert, convert]
    exact convert_agree resolves inner path docs
  | .union nodes, path, docs => by
    rw [convert, convert]
    exact unionAt_agree path docs nodes (convertAlternatives_agree resolves nodes path docs 0)
  | .object nodes, path, docs => by
    rcases docs with _ | _ | ⟨own, tree⟩
    · simp only [convert]
      exact agree_fail _ _
    · simp only [convert]
      exact agree_fail _ _
    · rw [Catalog.convert_object, Catalog.convert_object]
      have fields := convertFields_agree resolves nodes path tree [] []
      exact ((fields.bind (registerFields_agree path own none)).objectOr path).bind
        fun object => agree_pure _
  | .list element, path, docs => by
    rw [convert, convert]
    exact (convert_agree resolves element path docs).bind fun type => agree_pure _
  | .map value, path, docs => by
    rw [convert, convert]
    rcases valueDocs_cases path docs with found | ⟨fault, missing⟩
    · rw [found, pure_bind, pure_bind]
      exact (convert_agree resolves value path _).bind fun type =>
        (agree_entryRecordFor type).bind fun record => agree_pure _
    · rw [missing]
      exact agree_fail _ _
  | .reference kind, path, docs => by
    rw [convert, convert]
    exact resolves path kind
  | .validated constraint, path, docs => by
    rw [convert, convert]
    exact convertConstraint_agree resolves constraint path docs

theorem convertConstraint_agree
    (resolves : ∀ path kind, AgreeUntilDegraded (resolve path kind) (resolve' path kind)) :
    ∀ (constraint : Constraint) (path : String) (docs : Option Entry),
      AgreeUntilDegraded (convertConstraint ⟨true, resolve⟩ path docs constraint)
        (convertConstraint ⟨false, resolve'⟩ path docs constraint)
  | .documentName target, path, docs => by
    rw [convertConstraint, convertConstraint]
    exact resolves path target
  | .alternatives nodes, path, docs => by
    rw [convertConstraint, convertConstraint]
    exact unionAt_agree path docs nodes (convertAlternatives_agree resolves nodes path docs 0)
  | .custom name, path, docs => by
    rw [convertConstraint, convertConstraint]
    exact agree_fail _ _

theorem convertAlternatives_agree
    (resolves : ∀ path kind, AgreeUntilDegraded (resolve path kind) (resolve' path kind)) :
    ∀ (nodes : List SchemaNode) (path : String) (docs : Option Entry) (index : Nat),
      AgreeUntilDegraded (convertAlternatives ⟨true, resolve⟩ path docs index nodes)
        (convertAlternatives ⟨false, resolve'⟩ path docs index nodes)
  | [], path, docs, index => by
    rw [convertAlternatives, convertAlternatives]
    exact agree_pure _
  | node :: rest, path, docs, index => by
    rw [convertAlternatives, convertAlternatives]
    exact (convert_agree resolves node _ docs).bind fun type =>
      (convertAlternatives_agree resolves rest path docs _).bind fun types => agree_pure _

theorem convertFields_agree
    (resolves : ∀ path kind, AgreeUntilDegraded (resolve path kind) (resolve' path kind)) :
    ∀ (nodes : List (String × SchemaNode)) (parent : String) (tree : Tree) (skip : List String)
      (done : List Field),
      AgreeUntilDegraded (convertFields ⟨true, resolve⟩ parent tree skip done nodes)
        (convertFields ⟨false, resolve'⟩ parent tree skip done nodes)
  | [], parent, tree, skip, done => by
    rw [convertFields, convertFields]
    exact agree_pure _
  | (key, node) :: rest, parent, tree, skip, done => by
    rw [convertFields, convertFields]
    split_ifs
    · exact convertFields_agree resolves rest parent tree skip done
    · dsimp only
      split
      · exact (agree_advise _ (by decide) _).bind fun _ =>
          convertFields_agree resolves rest parent tree skip done
      · split
        · exact agree_fail _ _
        · exact (convert_agree resolves node _ _).bind fun type =>
            convertFields_agree resolves rest parent tree skip _

end

end Conversion

/-! ## Documents -/

namespace Catalog

open Synthesis

variable {catalog : Catalog}

/-- The object of a definition agrees until a union is degraded, if what it refers to does. -/
theorem objectIn_agree (busy : List String) (d : Definition)
    (resolves : d.name ∉ busy → ∀ path kind,
      AgreeUntilDegraded (catalog.typeOf true (busy ++ [d.name]) path kind)
        (catalog.typeOf false (busy ++ [d.name]) path kind)) :
    AgreeUntilDegraded (catalog.objectIn true busy d) (catalog.objectIn false busy d) := by
  by_cases mem : d.name ∈ busy
  · rw [objectIn_of_mem mem, objectIn_of_mem mem]
    exact (agree_fail _ _).objectOr d.name
  · have body : AgreeUntilDegraded (catalog.definitionBody true (busy ++ [d.name]) d)
        (catalog.definitionBody false (busy ++ [d.name]) d) := by
      unfold definitionBody
      split
      · exact Conversion.convertFields_agree (resolves mem) _ d.name d.docs d.skipFields []
      · exact agree_fail _ _
    rw [objectIn_of_not_mem mem, objectIn_of_not_mem mem]
    exact (body.bind (Conversion.registerFields_agree _ _ _)).objectOr d.name

theorem mapM_agree {f f' : Definition → Synthesis ObjectType} (variants : List Definition)
    (agree : ∀ d ∈ variants, AgreeUntilDegraded (f d) (f' d)) :
    AgreeUntilDegraded (variants.mapM f) (variants.mapM f') := by
  induction variants with
  | nil => exact agree_pure []
  | cons d rest ih =>
    obtain ⟨first, later⟩ := List.forall_mem_cons.1 agree
    rw [List.mapM_cons, List.mapM_cons]
    exact first.bind fun object => (ih later).bind fun objects => agree_pure _

/-- The two modes generate the type of a kind the same way until a union is degraded. -/
theorem typeOf_agree (busy : List String) :
    ∀ path kind, AgreeUntilDegraded (catalog.typeOf true busy path kind)
      (catalog.typeOf false busy path kind) := by
  induction count : (catalog.waiting busy).length using Nat.strongRecOn
    generalizing busy with
  | ind count ih =>
    subst count
    intro path kind
    have agree : ∀ d ∈ catalog.definitions kind,
        AgreeUntilDegraded (catalog.objectIn true busy d) (catalog.objectIn false busy d) := by
      intro d mem
      refine objectIn_agree busy d fun new => ih _ ?_ (busy ++ [d.name]) rfl
      exact length_waiting_lt (List.mem_filter.1 mem).1 new
    rw [typeOf_eq, typeOf_eq]
    generalize catalog.definitions kind = definitions at agree ⊢
    rcases definitions with _ | ⟨first, _ | ⟨second, rest⟩⟩
    · exact agree_fail _ _
    · exact (agree first (List.mem_singleton_self first)).bind fun object => agree_pure _
    · refine AgreeUntilDegraded.unionOr ?_ kind.typeName
      exact (mapM_agree _ agree).bind fun members =>
        (agree_of_advisories fun _ => rfl).bind fun union => agree_pure _

end Catalog

/-! ## Requests -/

namespace Synthesizer

/-- Requests that agree until a union is degraded give and leave the same, or the strict one fails
at the path of a union on which the lenient one, if it succeeds, has an advisory. -/
theorem run_agree {α : Type} {strict lenient : Synthesis α} (catalog : Catalog) (r : Registry)
    (agree : Synthesis.AgreeUntilDegraded strict lenient) :
    let s := (mk catalog true r).run strict
    let l := (mk catalog false r).run lenient
    (s.1 = l.1 ∧ s.2.registry = l.2.registry ∧
        ∀ a, l.1 = .ok a → r.AddsNoUnion l.2.registry) ∨
      ∃ path, s.1 = .error ⟨path, .ambiguousUnion⟩ ∧
        ∀ a, l.1 = .ok a → r.AddsUnionAt path l.2.registry := by
  intro s l
  rcases agree r with ⟨same, quiet⟩ | ⟨path, failed, degraded⟩
  · left
    rcases run : lenient.run r with ⟨e | a, after⟩
    · have strictly : s = _ := run_error (s := mk catalog true r) (same.trans run)
      have leniently : l = _ := run_error (s := mk catalog false r) run
      rw [strictly, leniently]
      refine ⟨rfl, rfl, ?_⟩
      rintro a ⟨⟩
    · have strictly : s = _ := run_ok (s := mk catalog true r) (same.trans run)
      have leniently : l = _ := run_ok (s := mk catalog false r) run
      rw [run] at quiet
      rw [strictly, leniently]
      exact ⟨rfl, rfl, fun _ _ => quiet⟩
  · right
    refine ⟨path, ?_, fun a given => ?_⟩
    · rcases run : strict.run r with ⟨e | a, after⟩
      · have strictly : s = _ := run_error (s := mk catalog true r) run
        rw [run] at failed
        rw [strictly]
        exact congrArg _ (Except.error.inj failed)
      · rw [run] at failed
        cases failed
    · rcases run : lenient.run r with ⟨e | a', after⟩
      · have leniently : l = _ := run_error (s := mk catalog false r) run
        rw [leniently] at given
        cases given
      · have leniently : l = _ := run_ok (s := mk catalog false r) run
        rw [run] at degraded
        rw [leniently]
        exact degraded

/-- A strict request is the lenient request that refuses the degraded unions: it succeeds just when
the lenient one succeeds without an advisory on a union, and then both give the same and generate
the same.  It fails either as the lenient one fails, or at the path of a union on which the lenient
one, if it succeeds, has an advisory. -/
theorem strict_refuses_degraded (catalog : Catalog) (r : Registry) (kind : DocumentKind) :
    let strict := (mk catalog true r).documentType kind
    let lenient := (mk catalog false r).documentType kind
    (∀ type, strict.1 = .ok type → lenient.1 = .ok type ∧
      lenient.2.registry = strict.2.registry ∧ r.AddsNoUnion lenient.2.registry) ∧
    (∀ type, lenient.1 = .ok type → r.AddsNoUnion lenient.2.registry →
      strict.1 = .ok type ∧ strict.2.registry = lenient.2.registry) ∧
    (∀ path, strict.1 = .error ⟨path, .ambiguousUnion⟩ →
      (∃ e, lenient.1 = .error e) ∨ r.AddsUnionAt path lenient.2.registry) ∧
    (∀ e, strict.1 = .error e → e.fault ≠ .ambiguousUnion → lenient.1 = .error e) := by
  intro strict lenient
  have agree := @Catalog.typeOf_agree catalog [] kind.typeName kind
  rcases run_agree catalog r agree with ⟨results, registries, quiet⟩ | ⟨path, failed, degraded⟩
  · change strict.1 = lenient.1 at results
    refine ⟨fun type given => ?_, fun type given _ => ⟨results.trans given, registries⟩,
      fun path given => .inl ⟨_, results.symm.trans given⟩,
      fun e given _ => results.symm.trans given⟩
    have given' := results.symm.trans given
    exact ⟨given', registries.symm, quiet type given'⟩
  · change strict.1 = _ at failed
    refine ⟨fun type given => ?_, fun type given quiet => ?_, fun path' given => ?_,
      fun e given other => ?_⟩
    · rw [failed] at given
      cases given
    · exact (quiet.not_unionAt (degraded type given)).elim
    · rw [failed] at given
      cases given
      rcases outcome : lenient.1 with e | type
      · exact .inl ⟨e, rfl⟩
      · exact .inr (degraded type outcome)
    · rw [failed] at given
      cases given
      exact (other rfl).elim

/-- A document with one field. -/
def documentWith (kind : DocumentKind) (name : String) (field : SchemaNode) : Definition where
  kind := kind
  name := name
  description := none
  schema := .object [("port", field)]
  docs := [("port", .text "A port")]
  skipFields := []
  discriminator := none

/-- A union of one simple type, a union of two, and one of a simple type and a list. -/
def portCatalog : Catalog :=
  ⟨[documentWith .config "Config" (.union [.scalar .string, .scalar .string]),
    documentWith .app "App" (.union [.scalar .integer, .scalar .string]),
    documentWith .service "Service" (.union [.scalar .integer, .list (.scalar .string)])]⟩

theorem portCatalog_strictly :
    let strict := mk portCatalog true .empty
    let lenient := mk portCatalog false .empty
    (∃ config, (strict.documentType .config).1 = .ok (.object config) ∧
      (lenient.documentType .config).1 = .ok (.object config)) ∧
    ((strict.documentType .app).1 = .error ⟨"AppPort", .ambiguousUnion⟩ ∧
      Registry.empty.AddsUnionAt "AppPort" (lenient.documentType .app).2.registry) ∧
    ((strict.documentType .service).1 = .error ⟨"ServicePort", .mixedUnion⟩ ∧
      (lenient.documentType .service).1 = .error ⟨"ServicePort", .mixedUnion⟩) := by
  intro strict lenient
  obtain ⟨-, accepted, -, -⟩ := strict_refuses_degraded portCatalog .empty .config
  obtain ⟨-, -, degraded, -⟩ := strict_refuses_degraded portCatalog .empty .app
  obtain ⟨-, -, -, refused⟩ := strict_refuses_degraded portCatalog .empty .service
  have config : ∃ config, (lenient.documentType .config).1 = .ok (.object config) := by
    rw [documentType, Catalog.typeOf_eq]
    exact ⟨_, rfl⟩
  have quiet : Registry.empty.AddsNoUnion (lenient.documentType .config).2.registry := by
    rw [documentType, Catalog.typeOf_eq]
    exact Registry.addsNoUnion_of_eq rfl
  have app : (strict.documentType .app).1 = .error ⟨"AppPort", .ambiguousUnion⟩ := by
    rw [documentType, Catalog.typeOf_eq]
    rfl
  have succeeds : ∀ e, (lenient.documentType .app).1 ≠ .error e := by
    intro e
    rw [documentType, Catalog.typeOf_eq]
    rintro ⟨⟩
  have service : (strict.documentType .service).1 = .error ⟨"ServicePort", .mixedUnion⟩ := by
    rw [documentType, Catalog.typeOf_eq]
    rfl
  obtain ⟨object, config⟩ := config
  refine ⟨⟨object, (accepted _ config quiet).1, config⟩, ⟨app, ?_⟩, service,
    refused _ service (by decide)⟩
  rcases degraded "AppPort" app with ⟨e, failed⟩ | advised
  · exact (succeeds e failed).elim
  · exact advised

end Synthesizer

end ApiSchema
