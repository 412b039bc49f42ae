import ApiSchema.Proofs.Mirrors

/-!
# Hidden fields

`Catalog.pruned` takes every key that is not generated out of the objects of a catalog, with all
that stands under it.  The walks of a catalog and of the pruned one go the same way: they give the
same results, and registries that differ in advisories on fields without documentation only
(`Alike`).  So two catalogs that are pruned to the same one cannot be told apart by what they
generate (`hidden_fields_irrelevant`).
-/

namespace ApiSchema

open Documentation (Entry Tree valueTerm)

/-! ## Pruning -/

mutual

/-- The node without hidden keys in the objects that are documented. -/
def SchemaNode.pruned (docs : Option Entry) : SchemaNode → SchemaNode
  | .scalar kind => .scalar kind
  | .optional inner => .optional (inner.pruned docs)
  | .union nodes => .union (prunedNodes docs nodes)
  | .object nodes =>
    match docs with
    | some (.nested _ tree) => .object (prunedFields tree [] nodes)
    | _ => .object nodes
  | .list element => .list (element.pruned docs)
  | .map value => .map (value.pruned (valueEntry docs))
  | .reference kind => .reference kind
  | .validated constraint => .validated (constraint.pruned docs)

def Constraint.pruned (docs : Option Entry) : Constraint → Constraint
  | .documentName target => .documentName target
  | .alternatives nodes => .alternatives (prunedNodes docs nodes)
  | .custom name => .custom name

def prunedNodes (docs : Option Entry) : List SchemaNode → List SchemaNode
  | [] => []
  | node :: rest => node.pruned docs :: prunedNodes docs rest

/-- The fields of an object that are not hidden, with pruned nodes. -/
def prunedFields (tree : Tree) (skip : List String) :
    List (String × SchemaNode) → List (String × SchemaNode)
  | [] => []
  | (key, node) :: rest =>
    if isHiddenKey skip key then prunedFields tree skip rest
    else
      match Keyed.get? key tree with
      | none => prunedFields tree skip rest
      | some docs => (key, node.pruned (some docs)) :: prunedFields tree skip rest

end

/-- The definition without its hidden keys. -/
def Definition.pruned (d : Definition) : Definition :=
  { d with
    schema :=
      match d.schema with
      | .object nodes => .object (prunedFields d.docs d.skipFields nodes)
      | schema => schema }

/-- The catalog of the pruned definitions. -/
def Catalog.pruned (catalog : Catalog) : Catalog := ⟨catalog.all.map Definition.pruned⟩

theorem isEmpty_prunedNodes (docs : Option Entry) (nodes : List SchemaNode) :
    (prunedNodes docs nodes).isEmpty = nodes.isEmpty := by
  cases nodes <;> rfl

theorem SchemaNode.isOptional_pruned (docs : Option Entry) (node : SchemaNode) :
    (node.pruned docs).isOptional = node.isOptional := by
  cases node with
  | object nodes => rcases docs with _ | _ | _ <;> rfl
  | _ => rfl

theorem Catalog.definitions_pruned (catalog : Catalog) (kind : DocumentKind) :
    catalog.pruned.definitions kind = (catalog.definitions kind).map Definition.pruned := by
  rw [Catalog.definitions, Catalog.definitions, Catalog.pruned, List.filter_map]
  rfl

/-! ## Walks that go the same way -/

namespace Registry

/-- The registry without the advisories on fields without documentation. -/
def essential (r : Registry) : Registry :=
  { r with advisories := r.advisories.filter (·.kind != .undocumented) }

theorem essential_essential (r : Registry) : r.essential.essential = r.essential := by
  simp [essential, List.filter_filter]

theorem essential_advise (r : Registry) (advisory : Advisory) :
    (r.essential.advise advisory).essential = (r.advise advisory).essential := by
  simp [essential, advise, List.filter_append, List.filter_filter]

theorem essential_advise_undocumented (r : Registry) (path message : String) :
    (r.advise ⟨path, .undocumented, message⟩).essential = r.essential := by
  simp [essential, advise, List.filter_append]

end Registry

namespace Synthesis

variable {α β : Type}

/-- What a computation gives and leaves, but for advisories on fields without documentation. -/
def outcome (m : Synthesis α) (r : Registry) : Except SynthesisError α × Registry :=
  ((m.run r).1, (m.run r).2.essential)

/-- The computations have the same outcome from registries that are the same, but for advisories on
fields without documentation. -/
def Alike (m m' : Synthesis α) : Prop :=
  ∀ r r' : Registry, r.essential = r'.essential → outcome m r = outcome m' r'

theorem Alike.symm {m m' : Synthesis α} (alike : Alike m m') : Alike m' m :=
  fun r r' same => (alike r' r same.symm).symm

theorem Alike.trans {a b c : Synthesis α} (first : Alike a b) (second : Alike b c) : Alike a c :=
  fun r r' same => (first r r rfl).trans (second r r' same)

theorem alike_self {m : Synthesis α} (blind : ∀ r, outcome m r.essential = outcome m r) :
    Alike m m :=
  fun r r' same => by rw [← blind r, same, blind r']

theorem alike_pure (a : α) : Alike (pure a) (pure a) :=
  fun _ _ same => Prod.ext rfl same

theorem alike_fail (path : String) (fault : SynthesisFault) :
    Alike (fail path fault : Synthesis α) (fail path fault) :=
  fun _ _ same => Prod.ext rfl same

theorem Alike.bind {m m' : Synthesis α} {f f' : α → Synthesis β} (first : Alike m m')
    (next : ∀ a, Alike (f a) (f' a)) : Alike (m >>= f) (m' >>= f') := by
  intro r r' same
  have here := first r r' same
  unfold outcome at here ⊢
  rw [run_bind, run_bind]
  rcases run : m.run r with ⟨result, r₁⟩
  rcases run' : m'.run r' with ⟨result', r₁'⟩
  rw [run, run', Prod.mk.injEq] at here
  obtain ⟨rfl, registries⟩ := here
  cases result with
  | error e => exact Prod.ext rfl registries
  | ok a => exact next a r₁ r₁' registries

theorem alike_advise (path : String) (kind : AdvisoryKind) (message : String) :
    Alike (advise path kind message) (advise path kind message) :=
  alike_self fun r => Prod.ext rfl (r.essential_advise ⟨path, kind, message⟩)

/-- An advisory on a field without documentation makes no difference. -/
theorem Alike.undocumented {m m' : Synthesis α} (alike : Alike m m') (path message : String) :
    Alike (advise path .undocumented message >>= fun _ => m) m' :=
  fun r r' same =>
    alike _ r' ((r.essential_advise_undocumented path message).trans same)

theorem alike_objectNamed? (name : String) : Alike (objectNamed? name) (objectNamed? name) := by
  refine alike_self fun r => ?_
  simp only [outcome, run_objectNamed?]
  rw [show r.essential.get? name = r.get? name from rfl]
  rcases r.get? name with _ | _ | _ <;> exact Prod.ext rfl r.essential_essential

theorem alike_unionNamed? (name : String) : Alike (unionNamed? name) (unionNamed? name) := by
  refine alike_self fun r => ?_
  simp only [outcome, run_unionNamed?]
  rw [show r.essential.get? name = r.get? name from rfl]
  rcases r.get? name with _ | _ | _ <;> exact Prod.ext rfl r.essential_essential

theorem Alike.objectOr {m m' : Synthesis ObjectType} (alike : Alike m m') (name : String) :
    Alike (objectOr name m) (objectOr name m') := by
  refine (alike_objectNamed? name).bind fun found => ?_
  rcases found with _ | object
  · exact alike
  · exact alike_pure object

theorem Alike.unionOr {m m' : Synthesis ApiType} (alike : Alike m m') (name : String) :
    Alike (unionOr name m) (unionOr name m') := by
  refine (alike_unionNamed? name).bind fun found => ?_
  rcases found with _ | union
  · exact alike
  · exact alike_pure _

theorem alike_registerObject (make : Nat → ObjectType) :
    Alike (registerObject make) (registerObject make) :=
  alike_self fun r => Prod.ext rfl ((r.register _).essential_essential)

theorem alike_registerUnion (union : UnionType) :
    Alike (registerUnion union) (registerUnion union) :=
  alike_self fun r => Prod.ext rfl ((r.register _).essential_essential)

theorem alike_entryRecordFor (value : ApiType) :
    Alike (entryRecordFor value) (entryRecordFor value) := by
  refine alike_self fun r => ?_
  simp only [outcome, run_entryRecordFor]
  rw [show r.essential.entries = r.entries from rfl, show r.essential.has = r.has from rfl,
    show r.essential.nextSerial = r.nextSerial from rfl]
  rcases Keyed.get? value.fragment r.entries with _ | record
  · dsimp only
    split_ifs
    · exact Prod.ext rfl r.essential_essential
    · exact Prod.ext rfl ((r.register _).keepRecord _ _).essential_essential
  · exact Prod.ext rfl r.essential_essential

end Synthesis

/-! ## Conversion -/

namespace Conversion

open Synthesis

variable {strict : Bool} {resolve resolve' : String → DocumentKind → Synthesis ApiType}

theorem convertScalar_alike (path : String) (kind : ScalarKind) :
    Alike (convertScalar path kind) (convertScalar path kind) := by
  cases kind with
  | any => exact (alike_advise _ _ _).bind fun _ => alike_pure _
  | string | integer | float | boolean => exact alike_pure _

theorem unionMembers_alike (path : String) (types : List ApiType) :
    ∀ done, Alike (unionMembers path done types) (unionMembers path done types) := by
  induction types with
  | nil => exact fun done => alike_pure done
  | cons type rest ih =>
    intro done
    cases type with
    | object object => exact ih _
    | union union => exact ih _
    | list _ | scalar _ => exact alike_fail _ _

theorem scalarUnion_alike (path : String) (first : ApiScalar) (others : List ApiScalar) :
    Alike (scalarUnion ⟨strict, resolve⟩ path first others)
      (scalarUnion ⟨strict, resolve'⟩ path first others) := by
  unfold scalarUnion
  split_ifs
  · exact alike_pure _
  · exact alike_fail _ _
  · exact (alike_advise _ _ _).bind fun _ => alike_pure _

theorem unionOf_alike (path : String) (description : Option String) (types : List ApiType) :
    Alike (unionOf ⟨strict, resolve⟩ path description types)
      (unionOf ⟨strict, resolve'⟩ path description types) := by
  unfold unionOf
  dsimp only
  split
  · exact (unionMembers_alike path types []).bind fun members =>
      (alike_registerUnion _).bind fun union => alike_pure _
  · split_ifs
    · exact scalarUnion_alike path _ _
    · exact alike_fail _ _

theorem unionAt_alike (path : String) (docs : Option Entry) (nodes : List SchemaNode)
    {types types' : Synthesis (List ApiType)} (alike : Alike types types') :
    Alike (unionAt ⟨strict, resolve⟩ path docs nodes types)
      (unionAt ⟨strict, resolve'⟩ path docs (prunedNodes docs nodes) types') := by
  unfold unionAt
  rw [isEmpty_prunedNodes]
  refine Alike.unionOr ?_ path
  split_ifs
  · exact alike_fail _ _
  · exact alike.bind fun types => unionOf_alike path _ types

theorem registerFields_alike (name : String) (description discriminator : Option String)
    (fields : List Field) :
    Alike (registerFields name description discriminator fields)
      (registerFields name description discriminator fields) := by
  unfold registerFields
  split_ifs
  · exact alike_fail _ _
  · exact alike_registerObject _

/-- The documentation of a mapping's values is found, or there is none and the walk fails. -/
theorem valueDocs_cases (path : String) (docs : Option Entry) :
    valueDocs path docs = pure (valueEntry docs) ∨
      ∃ fault, valueDocs path docs = fail path fault := by
  rcases docs with _ | _ | ⟨own, fields⟩
  · exact .inl rfl
  · exact .inl rfl
  · rw [valueDocs, valueEntry]
    rcases Keyed.get? valueTerm fields with _ | entry
    · exact .inr ⟨.noValueTerm, rfl⟩
    · exact .inl rfl

mutual

/-- The conversion of a node goes the way of its pruned node's, if what it refers to does. -/
theorem convert_alike (resolves : ∀ path kind, Alike (resolve path kind) (resolve' path kind)) :
    ∀ (node : SchemaNode) (path : String) (docs : Option Entry),
      Alike (convert ⟨strict, resolve⟩ path docs node)
        (convert ⟨strict, resolve'⟩ path docs (node.pruned docs))
  | .scalar kind, path, docs => by
    rw [SchemaNode.pruned, convert, convert]
    exact convertScalar_alike path kind
  | .optional inner, path, docs => by
    rw [SchemaNode.pruned, convert, convert]
    exact convert_alike resolves inner path docs
  | .union nodes, path, docs => by
    rw [SchemaNode.pruned, convert, convert]
    exact unionAt_alike path docs nodes (convertAlternatives_alike resolves nodes path docs 0)
  | .object nodes, path, docs => by
    rcases docs with _ | _ | ⟨own, tree⟩
    · simp only [SchemaNode.pruned, convert]
      exact alike_fail _ _
    · simp only [SchemaNode.pruned, convert]
      exact alike_fail _ _
    · rw [SchemaNode.pruned, Catalog.convert_object, Catalog.convert_object]
      have fields := convertFields_alike resolves nodes path tree [] []
      exact ((fields.bind (registerFields_alike path own none)).objectOr path).bind
        fun object => alike_pure _
  | .list element, path, docs => by
    rw [SchemaNode.pruned, convert, convert]
    exact (convert_alike resolves element path docs).bind fun type => alike_pure _
  | .map value, path, docs => by
    rw [SchemaNode.pruned, convert, convert]
    rcases valueDocs_cases path docs with found | ⟨fault, missing⟩
    · rw [found, pure_bind, pure_bind]
      exact (convert_alike resolves value path _).bind fun type =>
        (alike_entryRecordFor type).bind fun record => alike_pure _
    · rw [missing]
      exact alike_fail _ _
  | .reference kind, path, docs => by
    rw [SchemaNode.pruned, convert, convert]
    exact resolves path kind
  | .validated constraint, path, docs => by
    rw [SchemaNode.pruned, convert, convert]
    exact convertConstraint_alike resolves constraint path docs

theorem convertConstraint_alike
    (resolves : ∀ path kind, Alike (resolve path kind) (resolve' path kind)) :
    ∀ (constraint : Constraint) (path : String) (docs : Option Entry),
      Alike (convertConstraint ⟨strict, resolve⟩ path docs constraint)
        (convertConstraint ⟨strict, resolve'⟩ path docs (constraint.pruned docs))
  | .documentName target, path, docs => by
    rw [Constraint.pruned, convertConstraint, convertConstraint]
    exact resolves path target
  | .alternatives nodes, path, docs => by
    rw [Constraint.pruned, convertConstraint, convertConstraint]
    exact unionAt_alike path docs nodes (convertAlternatives_alike resolves nodes path docs 0)
  | .custom name, path, docs => by
    rw [Constraint.pruned, convertConstraint, convertConstraint]
    exact alike_fail _ _

theorem convertAlternatives_alike
    (resolves : ∀ path kind, Alike (resolve path kind) (resolve' path kind)) :
    ∀ (nodes : List SchemaNode) (path : String) (docs : Option Entry) (index : Nat),
      Alike (convertAlternatives ⟨strict, resolve⟩ path docs index nodes)
        (convertAlternatives ⟨strict, resolve'⟩ path docs index (prunedNodes docs nodes))
  | [], path, docs, index => by
    rw [prunedNodes, convertAlternatives, convertAlternatives]
    exact alike_pure _
  | node :: rest, path, docs, index => by
    rw [prunedNodes, convertAlternatives, convertAlternatives]
    exact (convert_alike resolves node _ docs).bind fun type =>
      (convertAlternatives_alike resolves rest path docs _).bind fun types => alike_pure _

/-- A hidden key makes no difference: without it, the walk is short of an advisory at most. -/
theorem convertFields_alike
    (resolves : ∀ path kind, Alike (resolve path kind) (resolve' path kind)) :
    ∀ (nodes : List (String × SchemaNode)) (parent : String) (tree : Tree) (skip : List String)
      (done : List Field),
      Alike (convertFields ⟨strict, resolve⟩ parent tree skip done nodes)
        (convertFields ⟨strict, resolve'⟩ parent tree skip done (prunedFields tree skip nodes))
  | [], parent, tree, skip, done => by
    rw [prunedFields, convertFields, convertFields]
    exact alike_pure _
  | (key, node) :: rest, parent, tree, skip, done => by
    rw [prunedFields, convertFields]
    split_ifs with hidden
    · exact convertFields_alike resolves rest parent tree skip done
    · rcases documented : Keyed.get? key tree with _ | docs
      · exact (convertFields_alike resolves rest parent tree skip done).undocumented _ _
      · dsimp only
        rw [convertFields, if_neg hidden]
        simp only [documented, SchemaNode.isOptional_pruned]
        split
        · exact alike_fail _ _
        · exact (convert_alike resolves node _ _).bind fun type =>
            convertFields_alike resolves rest parent tree skip _

end

end Conversion

/-! ## Documents -/

namespace Catalog

open Synthesis

variable {catalog : Catalog} {strict : Bool}

theorem definitionBody_alike (busy : List String) (d : Definition)
    (resolves : ∀ path kind, Alike (catalog.typeOf strict busy path kind)
      (catalog.pruned.typeOf strict busy path kind)) :
    Alike (catalog.definitionBody strict busy d)
      (catalog.pruned.definitionBody strict busy d.pruned) := by
  unfold definitionBody Definition.pruned
  cases d.schema with
  | object nodes =>
    exact Conversion.convertFields_alike resolves nodes d.name d.docs d.skipFields []
  | _ => exact alike_fail _ _

/-- The object of a definition goes the way of the pruned one's, if what it refers to does. -/
theorem objectIn_alike (busy : List String) (d : Definition)
    (resolves : d.name ∉ busy → ∀ path kind,
      Alike (catalog.typeOf strict (busy ++ [d.name]) path kind)
        (catalog.pruned.typeOf strict (busy ++ [d.name]) path kind)) :
    Alike (catalog.objectIn strict busy d) (catalog.pruned.objectIn strict busy d.pruned) := by
  have named : d.pruned.name = d.name := rfl
  by_cases mem : d.name ∈ busy
  · rw [objectIn_of_mem mem, objectIn_of_mem (named ▸ mem)]
    exact (alike_fail _ _).objectOr d.name
  · rw [objectIn_of_not_mem mem, objectIn_of_not_mem (named ▸ mem)]
    have body := definitionBody_alike (busy ++ [d.name]) d (resolves mem)
    exact (body.bind (Conversion.registerFields_alike _ _ _)).objectOr d.name

theorem mapM_alike {f f' : Definition → Synthesis ObjectType} (variants : List Definition)
    (alike : ∀ d ∈ variants, Alike (f d) (f' d.pruned)) :
    Alike (variants.mapM f) ((variants.map Definition.pruned).mapM f') := by
  induction variants with
  | nil => exact alike_pure []
  | cons d rest ih =>
    obtain ⟨first, later⟩ := List.forall_mem_cons.1 alike
    rw [List.map_cons, List.mapM_cons, List.mapM_cons]
    exact first.bind fun object => (ih later).bind fun objects => alike_pure _

/-- The type of a kind is generated the same way from the pruned catalog. -/
theorem typeOf_alike (busy : List String) :
    ∀ path kind, Alike (catalog.typeOf strict busy path kind)
      (catalog.pruned.typeOf strict busy path kind) := by
  induction count : (catalog.waiting busy).length using Nat.strongRecOn
    generalizing busy with
  | ind count ih =>
    subst count
    intro path kind
    have alike : ∀ d ∈ catalog.definitions kind,
        Alike (catalog.objectIn strict busy d) (catalog.pruned.objectIn strict busy d.pruned) := by
      intro d mem
      refine objectIn_alike busy d fun new => ih _ ?_ (busy ++ [d.name]) rfl
      exact length_waiting_lt (List.mem_filter.1 mem).1 new
    rw [typeOf_eq, typeOf_eq, definitions_pruned]
    generalize catalog.definitions kind = definitions at alike ⊢
    rcases definitions with _ | ⟨first, _ | ⟨second, rest⟩⟩
    · exact alike_fail _ _
    · exact (alike first (List.mem_singleton_self first)).bind fun object => alike_pure _
    · refine Alike.unionOr ?_ kind.typeName
      exact (mapM_alike _ alike).bind fun members =>
        (alike_registerUnion _).bind fun union => alike_pure _

/-- Two catalogs that are pruned to the same one generate their types the same way. -/
theorem typeOf_alike_of_pruned {catalog catalog' : Catalog}
    (same : catalog.pruned = catalog'.pruned) (strict : Bool) (busy : List String) (path : String)
    (kind : DocumentKind) :
    Alike (catalog.typeOf strict busy path kind) (catalog'.typeOf strict busy path kind) := by
  have back : Alike (catalog'.typeOf strict busy path kind)
      (catalog'.pruned.typeOf strict busy path kind) := typeOf_alike busy path kind
  rw [← same] at back
  exact (typeOf_alike busy path kind).trans back.symm

end Catalog

/-! ## Requests -/

namespace Synthesizer

/-- The synthesizers have generated the same, from catalogs that are pruned to the same one, with
cached records that are in the tables. -/
structure Indistinct (s s' : Synthesizer) : Prop where
  catalogs : s.catalog.pruned = s'.catalog.pruned
  strict : s.strict = s'.strict
  essential : s.registry.essential = s'.registry.essential
  recorded : s.registry.Recorded
  recorded' : s'.registry.Recorded

/-- Requests that go the same way give the same: a request that fails changes nothing. -/
theorem run_alike {α : Type} {s s' : Synthesizer} {m m' : Synthesis α}
    {Q Q' : α → Registry → Prop} (alike : Synthesis.Alike m m')
    (essential : s.registry.essential = s'.registry.essential) (recorded : s.registry.Recorded)
    (recorded' : s'.registry.Recorded) (grows : growth.Leads s.registry s.registry m Q)
    (grows' : growth.Leads s'.registry s'.registry m' Q') :
    (s.run m).1 = (s'.run m').1 ∧
      (s.run m).2.registry.essential = (s'.run m').2.registry.essential := by
  have outcomes := alike _ _ essential
  unfold Synthesis.outcome at outcomes
  rcases run : m.run s.registry with ⟨result, r⟩
  rcases run' : m'.run s'.registry with ⟨result', r'⟩
  rw [run, run', Prod.mk.injEq] at outcomes
  obtain ⟨rfl, registries⟩ := outcomes
  cases result with
  | error e =>
    have failed : (s.run m).1 = .error e := by rw [run_error run]
    have failed' : (s'.run m').1 = .error e := by rw [run_error run']
    rw [failed, failed', (run_of_error recorded grows failed).1,
      (run_of_error recorded' grows' failed').1]
    exact ⟨rfl, essential⟩
  | ok value =>
    rw [run_ok run, run_ok run']
    exact ⟨rfl, registries⟩

/-- A request for a kind gives the same, and leaves what cannot be told apart. -/
theorem Indistinct.documentType {s s' : Synthesizer} (indistinct : Indistinct s s')
    (kind : DocumentKind) :
    (s.documentType kind).1 = (s'.documentType kind).1 ∧
      Indistinct (s.documentType kind).2 (s'.documentType kind).2 := by
  obtain ⟨catalogs, strict, essential, recorded, recorded'⟩ := indistinct
  have grown := (documentType_grows recorded kind).2
  have grown' := (documentType_grows recorded' kind).2
  have alike := Catalog.typeOf_alike_of_pruned catalogs s'.strict [] kind.typeName kind
  rw [← strict] at alike
  have results : (s.documentType kind).1 = (s'.documentType kind).1 ∧
      (s.documentType kind).2.registry.essential = (s'.documentType kind).2.registry.essential := by
    rw [Synthesizer.documentType, Synthesizer.documentType, ← strict]
    exact run_alike alike essential recorded recorded' (Law.typeOf_leads [] _ kind _ recorded)
      (Law.typeOf_leads [] _ kind _ recorded')
  have keeps : (s.documentType kind).2.catalog = s.catalog ∧
      (s.documentType kind).2.strict = s.strict := run_keeps s _
  have keeps' : (s'.documentType kind).2.catalog = s'.catalog ∧
      (s'.documentType kind).2.strict = s'.strict := run_keeps s' _
  refine ⟨results.1, ⟨?_, ?_, results.2, grown, grown'⟩⟩
  · rw [keeps.1, keeps'.1, catalogs]
  · rw [keeps.2, keeps'.2, strict]

theorem Indistinct.afterCalls (kinds : List DocumentKind) {s s' : Synthesizer}
    (indistinct : Indistinct s s') :
    Indistinct (s.afterCalls (kinds.map .documentType))
      (s'.afterCalls (kinds.map .documentType)) := by
  induction kinds generalizing s s' with
  | nil => exact indistinct
  | cons kind rest ih => exact ih (indistinct.documentType kind).2

/-- Two catalogs that are the same without their hidden keys give the same to every sequence of
requests for kinds, and generate the same types and entry records, with the same advisories but for
those on fields without documentation. -/
theorem hidden_fields_irrelevant (catalog catalog' : Catalog)
    (same : catalog.pruned = catalog'.pruned) (strict : Bool) (kinds : List DocumentKind) :
    let s := (new catalog strict).afterCalls (kinds.map .documentType)
    let s' := (new catalog' strict).afterCalls (kinds.map .documentType)
    (∀ kind, (s.documentType kind).1 = (s'.documentType kind).1) ∧
      s.types = s'.types ∧ s.registry.entries = s'.registry.entries ∧
      s.advisories.filter (·.kind != .undocumented) =
        s'.advisories.filter (·.kind != .undocumented) := by
  intro s s'
  have start : Indistinct (new catalog strict) (new catalog' strict) :=
    ⟨same, rfl, rfl, Registry.recorded_empty, Registry.recorded_empty⟩
  have indistinct : Indistinct s s' := start.afterCalls kinds
  have types := congrArg Registry.types indistinct.essential
  have entries := congrArg Registry.entries indistinct.essential
  have advisories := congrArg Registry.advisories indistinct.essential
  exact ⟨fun kind => (indistinct.documentType kind).1, types, entries, advisories⟩

/-- An app whose objects have some more keys, of which none is generated. -/
def appWith (hidden : List (String × SchemaNode)) : Definition where
  kind := .app
  name := "App"
  description := none
  schema := .object (hidden ++
    [("host_name", .scalar .string),
     ("volumes", .map (.object (hidden ++ [("path", .scalar .string)])))])
  docs :=
    [("host_name", .text "A name"),
     ("volumes", .nested none [(valueTerm, .nested none [("path", .text "A path")])]),
     ("internal", .text "Not for everyone")]
  skipFields := ["internal"]
  discriminator := none

/-- Keys that are not generated, with nodes that could not be. -/
def strayFields : List (String × SchemaNode) :=
  [("$check", .validated (.custom "Regex")), ("hostName", .scalar .float), ("nothing", .union []),
   ("missing", .reference .service), ("cycle", .reference .app)]

theorem strayFields_irrelevant :
    let stray : Catalog := ⟨[appWith (("internal", .union []) :: strayFields)]⟩
    let plain : Catalog := ⟨[appWith []]⟩
    stray.pruned = plain.pruned ∧
      ((new stray true).documentType .app).1 = ((new plain true).documentType .app).1 ∧
      ((new stray true).documentType .app).1.map ApiType.fragment = .ok "App" ∧
      ((new stray true).documentType .app).2.types.map NamedType.name =
        ["AppVolumes", "EntryAppVolumes", "App"] := by
  intro stray plain
  have stray_pruned : stray.pruned = plain := rfl
  have plain_pruned : plain.pruned = plain := rfl
  have pruned : stray.pruned = plain.pruned := stray_pruned.trans plain_pruned.symm
  have results : ((new stray true).documentType .app).1 = ((new plain true).documentType .app).1 :=
    (hidden_fields_irrelevant stray plain pruned true []).1 .app
  have types : ((new stray true).documentType .app).2.types =
      ((new plain true).documentType .app).2.types :=
    (hidden_fields_irrelevant stray plain pruned true [.app]).2.1
  rw [types, results, documentType, Catalog.typeOf_eq]
  exact ⟨pruned, rfl, rfl, rfl⟩

end Synthesizer

end ApiSchema
