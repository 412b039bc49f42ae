import Mathlib.Tactic.SplitIfs
import ApiSchema.Proofs.Run

/-!
# Walks that note mappings

The walk of a schema again, which also gives, for each mapping that it converts, the type of the
mapping's values and the record of its entries.  Without its notes it is the walk itself
(`NotedConversion.convert_erased`, `typeNoted_erased`, `objectNoted_erased`), so the notes are those
of the mappings that the walk converts.
-/

namespace ApiSchema

open Documentation (Entry Tree)

/-- A mapping that was converted: the type of its values and the record of its entries. -/
structure Mapping where
  value : ApiType
  record : ObjectType

/-- What the walk gives, with the mappings on the way. -/
abbrev Noted (α : Type) := α × List Mapping

/-- What a conversion with notes depends on. -/
structure NotedConversion where
  strict : Bool
  resolve : String → DocumentKind → Synthesis (Noted ApiType)

namespace NotedConversion

def plain (n : NotedConversion) : Conversion :=
  ⟨n.strict, fun path kind => Prod.fst <$> n.resolve path kind⟩

def unionAt (n : NotedConversion) (path : String) (docs : Option Entry) (nodes : List SchemaNode)
    (alternatives : Synthesis (Noted (List ApiType))) : Synthesis (Noted ApiType) := do
  match ← Synthesis.unionNamed? path with
  | some union => return (.union union, [])
  | none =>
    if nodes.isEmpty then Synthesis.fail path .emptyUnion
    else
      let given ← alternatives
      let type ← n.plain.unionOf path (docs.bind Entry.description) given.1
      return (type, given.2)

mutual

def convert (n : NotedConversion) (path : String) (docs : Option Entry) :
    SchemaNode → Synthesis (Noted ApiType)
  | .scalar kind => do
    let type ← Conversion.convertScalar path kind
    return (type, [])
  | .optional inner => convert n path docs inner
  | .union nodes => unionAt n path docs nodes (convertAlternatives n path docs 0 nodes)
  | .object nodes =>
    match docs with
    | some (.nested own tree) => do
      match ← Synthesis.objectNamed? path with
      | some object => return (.object object, [])
      | none =>
        let given ← convertFields n path tree [] [] nodes
        let object ← Conversion.registerFields path own none given.1
        return (.object object, given.2)
    | _ => Synthesis.fail path (.documentation .noDefinitions)
  | .list element => do
    let given ← convert n path docs element
    return (.list given.1, given.2)
  | .map value => do
    let inner ← Conversion.valueDocs path docs
    let given ← convert n path inner value
    let record ← Synthesis.entryRecordFor given.1
    return (.list (.object record), given.2 ++ [⟨given.1, record⟩])
  | .reference kind => n.resolve path kind
  | .validated constraint => convertConstraint n path docs constraint

def convertConstraint (n : NotedConversion) (path : String) (docs : Option Entry) :
    Constraint → Synthesis (Noted ApiType)
  | .documentName target => n.resolve path target
  | .alternatives nodes => unionAt n path docs nodes (convertAlternatives n path docs 0 nodes)
  | .custom name => Synthesis.fail path (.unsupportedConstraint name)

/-- The API types of the alternatives of a union, from an index on. -/
def convertAlternatives (n : NotedConversion) (path : String) (docs : Option Entry) (index : Nat) :
    List SchemaNode → Synthesis (Noted (List ApiType))
  | [] => return ([], [])
  | node :: rest => do
    let first ← convert n (alternativePath path index) docs node
    let others ← convertAlternatives n path docs (index + 1) rest
    return (first.1 :: others.1, first.2 ++ others.2)

/-- The fields of an object, after the ones that are done. -/
def convertFields (n : NotedConversion) (parent : String) (tree : Tree) (skip : List String)
    (done : List Field) : List (String × SchemaNode) → Synthesis (Noted (List Field))
  | [] => return (done, [])
  | (key, node) :: rest =>
    if isHiddenKey skip key then convertFields n parent tree skip done rest
    else
      let path := fieldPath parent key
      match Keyed.get? key tree with
      | none => do
        Synthesis.advise path .undocumented s!"skipped {key}, it was not documented"
        convertFields n parent tree skip done rest
      | some docs =>
        match done.find? (·.name == KeyName.toCamel key) with
        | some clash =>
          Synthesis.fail path (.fieldClash key clash.source (KeyName.toCamel key))
        | none => do
          let first ← convert n path (some docs) node
          let field : Field :=
            ⟨KeyName.toCamel key, key, first.1, !node.isOptional, docs.description⟩
          let others ← convertFields n parent tree skip (done ++ [field]) rest
          return (others.1, first.2 ++ others.2)

end

/-! ## Erasure of the notes -/

theorem unionAt_erased (n : NotedConversion) (path : String) (docs : Option Entry)
    (nodes : List SchemaNode) {alternatives : Synthesis (Noted (List ApiType))}
    {types : Synthesis (List ApiType)} (erased : Prod.fst <$> alternatives = types) :
    Prod.fst <$> n.unionAt path docs nodes alternatives =
      n.plain.unionAt path docs nodes types := by
  rw [unionAt, Conversion.unionAt, map_bind]
  refine bind_congr fun found => ?_
  cases found with
  | some union => rfl
  | none =>
    dsimp only
    split
    · rfl
    · rw [← erased, bind_map_left]
      simp only [map_bind, map_pure, bind_pure]

mutual

/-- Without its notes, the conversion of a node is that of the walk. -/
theorem convert_erased (n : NotedConversion) : ∀ (node : SchemaNode) (path : String)
    (docs : Option Entry), Prod.fst <$> convert n path docs node = n.plain.convert path docs node
  | .scalar kind, path, docs => by
    simp only [convert, Conversion.convert, map_bind, map_pure, bind_pure]
  | .optional inner, path, docs => by
    rw [convert, Conversion.convert]
    exact convert_erased n inner path docs
  | .union nodes, path, docs => by
    rw [convert, Conversion.convert]
    exact unionAt_erased n path docs nodes (convertAlternatives_erased n nodes path docs 0)
  | .object nodes, path, docs => by
    rcases docs with _ | _ | ⟨own, tree⟩
    · simp only [convert, Conversion.convert]
      rfl
    · simp only [convert, Conversion.convert]
      rfl
    · simp only [convert, Conversion.convert, map_bind]
      refine bind_congr fun found => ?_
      cases found with
      | some object => rfl
      | none =>
        dsimp only
        rw [← convertFields_erased n nodes path tree [] [], bind_map_left]
        simp only [map_bind, map_pure]
  | .list element, path, docs => by
    rw [convert, Conversion.convert, ← convert_erased n element path docs, bind_map_left]
    simp only [map_bind, map_pure]
  | .map value, path, docs => by
    rw [convert, Conversion.convert, map_bind]
    refine bind_congr fun inner => ?_
    rw [← convert_erased n value path inner, bind_map_left]
    simp only [map_bind, map_pure]
  | .reference kind, path, docs => by
    rw [convert, Conversion.convert]
    rfl
  | .validated constraint, path, docs => by
    rw [convert, Conversion.convert]
    exact convertConstraint_erased n constraint path docs

theorem convertConstraint_erased (n : NotedConversion) : ∀ (constraint : Constraint)
    (path : String) (docs : Option Entry),
    Prod.fst <$> convertConstraint n path docs constraint =
      n.plain.convertConstraint path docs constraint
  | .documentName target, path, docs => by
    rw [convertConstraint, Conversion.convertConstraint]
    rfl
  | .alternatives nodes, path, docs => by
    rw [convertConstraint, Conversion.convertConstraint]
    exact unionAt_erased n path docs nodes (convertAlternatives_erased n nodes path docs 0)
  | .custom name, path, docs => by
    rw [convertConstraint, Conversion.convertConstraint]
    rfl

theorem convertAlternatives_erased (n : NotedConversion) : ∀ (nodes : List SchemaNode)
    (path : String) (docs : Option Entry) (index : Nat),
    Prod.fst <$> convertAlternatives n path docs index nodes =
      n.plain.convertAlternatives path docs index nodes
  | [], path, docs, index => by
    rw [convertAlternatives, Conversion.convertAlternatives]
    rfl
  | node :: rest, path, docs, index => by
    rw [convertAlternatives, Conversion.convertAlternatives, ← convert_erased n node,
      ← convertAlternatives_erased n rest, bind_map_left, map_bind]
    refine bind_congr fun first => ?_
    rw [bind_map_left]
    simp only [map_bind, map_pure]

theorem convertFields_erased (n : NotedConversion) : ∀ (nodes : List (String × SchemaNode))
    (parent : String) (tree : Tree) (skip : List String) (done : List Field),
    Prod.fst <$> convertFields n parent tree skip done nodes =
      n.plain.convertFields parent tree skip done nodes
  | [], parent, tree, skip, done => by
    rw [convertFields, Conversion.convertFields]
    rfl
  | (key, node) :: rest, parent, tree, skip, done => by
    rw [convertFields, Conversion.convertFields]
    split
    · exact convertFields_erased n rest parent tree skip done
    · rcases Keyed.get? key tree with _ | docs
      · dsimp only
        rw [map_bind]
        exact bind_congr fun _ => convertFields_erased n rest parent tree skip done
      · dsimp only
        generalize done.find? (fun field => field.name == KeyName.toCamel key) = clash
        cases clash with
        | some clash => rfl
        | none =>
          dsimp only
          rw [← convert_erased n node, bind_map_left, map_bind]
          refine bind_congr fun first => ?_
          rw [← convertFields_erased n rest]
          simp only [map_bind, map_pure]
          rfl

end

end NotedConversion

/-! ## Documents -/

namespace Definition

/-- The object of a definition while the documents `busy` are being generated. -/
def objectNotedWith (d : Definition) (strict : Bool) (busy : List String)
    (resolve : d.name ∉ busy → String → DocumentKind → Synthesis (Noted ApiType)) :
    Synthesis (Noted ObjectType) := do
  match ← Synthesis.objectNamed? d.name with
  | some object => return (object, [])
  | none =>
    if h : d.name ∈ busy then
      Synthesis.fail d.name (.cycle (busy ++ [d.name]))
    else
      match d.schema with
      | .object nodes =>
        let n : NotedConversion := ⟨strict, resolve h⟩
        let given ← n.convertFields d.name d.docs d.skipFields [] nodes
        let object ← Conversion.registerFields d.name d.description d.discriminator given.1
        return (object, given.2)
      | _ => Synthesis.fail d.name .documentNotObject

theorem objectNotedWith_erased (d : Definition) (strict : Bool) (busy : List String)
    {resolve : d.name ∉ busy → String → DocumentKind → Synthesis (Noted ApiType)}
    {plain : d.name ∉ busy → String → DocumentKind → Synthesis ApiType}
    (erased : ∀ new path kind, Prod.fst <$> resolve new path kind = plain new path kind) :
    Prod.fst <$> d.objectNotedWith strict busy resolve = d.objectWith strict busy plain := by
  rw [objectNotedWith, objectWith, map_bind]
  refine bind_congr fun found => ?_
  cases found with
  | some object => rfl
  | none =>
    dsimp only
    split_ifs with new
    · rfl
    · cases d.schema with
      | object nodes =>
        have same : (⟨strict, plain new⟩ : Conversion) =
            (⟨strict, resolve new⟩ : NotedConversion).plain := by
          rw [NotedConversion.plain, Conversion.mk.injEq]
          exact ⟨rfl, funext fun path => funext fun kind => (erased new path kind).symm⟩
        dsimp only
        rw [same, ← NotedConversion.convertFields_erased, bind_map_left]
        simp only [map_bind, map_pure, bind_pure]
      | scalar | optional | union | list | map | reference | validated => rfl

end Definition

namespace Catalog

/-- The type of a kind of documents, asked for at a path, while the documents `busy` are being
generated. -/
def typeNoted (catalog : Catalog) (strict : Bool) (busy : List String) (path : String)
    (kind : DocumentKind) : Synthesis (Noted ApiType) := do
  let objectNoted (d : { d // d ∈ catalog.definitions kind }) : Synthesis (Noted ObjectType) :=
    d.val.objectNotedWith strict busy fun _ => catalog.typeNoted strict (busy ++ [d.val.name])
  match (catalog.definitions kind).attach with
  | [] => Synthesis.fail path (.noDefinition kind)
  | [single] =>
    let given ← objectNoted single
    return (.object given.1, given.2)
  | variants =>
    match ← Synthesis.unionNamed? kind.typeName with
    | some union => return (.union union, [])
    | none =>
      let given ← variants.mapM objectNoted
      let union ← Synthesis.registerUnion ⟨kind.typeName, none, given.map Prod.fst⟩
      return (.union union, given.flatMap Prod.snd)
termination_by (catalog.waiting busy).length
decreasing_by
  exact length_waiting_lt (List.mem_filter.1 d.property).1 ‹_›

def objectNotedIn (catalog : Catalog) (strict : Bool) (busy : List String) (d : Definition) :
    Synthesis (Noted ObjectType) :=
  d.objectNotedWith strict busy fun _ => catalog.typeNoted strict (busy ++ [d.name])

/-- The type of the documents that some definitions describe. -/
def typeNotedAll (catalog : Catalog) (strict : Bool) (busy : List String) (path : String)
    (kind : DocumentKind) : List Definition → Synthesis (Noted ApiType)
  | [] => Synthesis.fail path (.noDefinition kind)
  | [single] => do
    let given ← catalog.objectNotedIn strict busy single
    return (.object given.1, given.2)
  | variants => do
    match ← Synthesis.unionNamed? kind.typeName with
    | some union => return (.union union, [])
    | none =>
      let given ← variants.mapM (catalog.objectNotedIn strict busy)
      let union ← Synthesis.registerUnion ⟨kind.typeName, none, given.map Prod.fst⟩
      return (.union union, given.flatMap Prod.snd)

theorem typeNoted_eq (catalog : Catalog) (strict : Bool) (busy : List String) (path : String)
    (kind : DocumentKind) :
    catalog.typeNoted strict busy path kind =
      catalog.typeNotedAll strict busy path kind (catalog.definitions kind) := by
  have values := List.attach_map_subtype_val (catalog.definitions kind)
  rw [typeNoted]
  generalize (catalog.definitions kind).attach = waiting at values ⊢
  conv => rhs; rw [← values]
  rcases waiting with _ | ⟨first, _ | ⟨second, rest⟩⟩
  · rfl
  · rfl
  · simp only [List.map_cons, typeNotedAll, objectNotedIn, List.mapM_cons, List.mapM_map]
    rfl

theorem mapM_erased {f : Definition → Synthesis (Noted ObjectType)}
    {g : Definition → Synthesis ObjectType} (variants : List Definition)
    (erased : ∀ d ∈ variants, Prod.fst <$> f d = g d) :
    List.map Prod.fst <$> variants.mapM f = variants.mapM g := by
  induction variants with
  | nil => rfl
  | cons d rest ih =>
    obtain ⟨first, later⟩ := List.forall_mem_cons.1 erased
    rw [List.mapM_cons, List.mapM_cons, ← first, ← ih later, bind_map_left, map_bind]
    refine bind_congr fun object => ?_
    rw [bind_map_left]
    simp only [map_bind, map_pure, List.map_cons]

/-- Without its notes, the type of a kind is that of the walk. -/
theorem typeNoted_erased (catalog : Catalog) (strict : Bool) (busy : List String) (path : String)
    (kind : DocumentKind) :
    Prod.fst <$> catalog.typeNoted strict busy path kind =
      catalog.typeOf strict busy path kind := by
  induction count : (catalog.waiting busy).length using Nat.strongRecOn
    generalizing busy path kind with
  | ind count ih =>
    subst count
    have erased : ∀ d ∈ catalog.definitions kind,
        Prod.fst <$> catalog.objectNotedIn strict busy d = catalog.objectIn strict busy d := by
      intro d mem
      refine d.objectNotedWith_erased strict busy fun new path kind => ?_
      exact ih _ (length_waiting_lt (List.mem_filter.1 mem).1 new) _ path kind rfl
    rw [typeNoted_eq, typeOf_eq]
    generalize catalog.definitions kind = definitions at erased ⊢
    rcases definitions with _ | ⟨first, _ | ⟨second, rest⟩⟩
    · rfl
    · rw [typeOfAll, ← erased first (List.mem_singleton_self first), typeNotedAll, bind_map_left]
      simp only [map_bind, map_pure]
    · simp only [typeOfAll, typeNotedAll, map_bind]
      refine bind_congr fun found => ?_
      cases found with
      | some union => rfl
      | none =>
        dsimp only
        rw [← mapM_erased _ erased, bind_map_left]
        simp only [map_bind, map_pure]

/-- The object of a definition, which may be one that the catalog does not have. -/
def objectNoted (catalog : Catalog) (strict : Bool) (d : Definition) :
    Synthesis (Noted ObjectType) :=
  catalog.objectNotedIn strict [] d

/-- Without its notes, the object of a definition is that of the walk. -/
theorem objectNoted_erased (catalog : Catalog) (strict : Bool) (d : Definition) :
    Prod.fst <$> catalog.objectNoted strict d = catalog.objectOf strict d :=
  d.objectNotedWith_erased strict [] fun _ path kind =>
    catalog.typeNoted_erased strict [d.name] path kind

end Catalog

end ApiSchema
