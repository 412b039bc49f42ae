import ApiSchema.Proofs.Run

/-!
# The walk without a registry

The walk of a kind of documents that looks nothing up and registers nothing: every document, object,
union and entry record is made anew at each visit, and the members of a union are told apart by
name. Each construct that is visited claims the name under which its type would be registered; the
names claimed on the way are collected beside what the walk gives.
-/

namespace ApiSchema

open Documentation (Entry Tree valueTerm)

/-! ## Types without serial numbers -/

mutual

/-- The type with the serial numbers of all objects in it set to zero. -/
def ApiType.unnumbered : ApiType → ApiType
  | .scalar scalar => .scalar scalar
  | .object object => .object object.unnumbered
  | .union union => .union union.unnumbered
  | .list element => .list element.unnumbered

/-- The field with a type without serial numbers. -/
def Field.unnumbered : Field → Field
  | ⟨name, source, type, required, description⟩ =>
    ⟨name, source, type.unnumbered, required, description⟩

/-- The object with serial numbers set to zero. -/
def ObjectType.unnumbered : ObjectType → ObjectType
  | ⟨_, name, description, fields, discriminator⟩ =>
    ⟨0, name, description, unnumberedFields fields, discriminator⟩

/-- The union with the serial numbers of its members set to zero. -/
def UnionType.unnumbered : UnionType → UnionType
  | ⟨name, description, members⟩ => ⟨name, description, unnumberedObjects members⟩

/-- Some fields without serial numbers. -/
def unnumberedFields : List Field → List Field
  | [] => []
  | field :: rest => field.unnumbered :: unnumberedFields rest

/-- Some objects without serial numbers. -/
def unnumberedObjects : List ObjectType → List ObjectType
  | [] => []
  | object :: rest => object.unnumbered :: unnumberedObjects rest

end

@[simp] theorem unnumberedFields_eq_map (fields : List Field) :
    unnumberedFields fields = fields.map Field.unnumbered := by
  induction fields with
  | nil => rfl
  | cons field rest ih => rw [unnumberedFields, ih, List.map_cons]

@[simp] theorem unnumberedObjects_eq_map (objects : List ObjectType) :
    unnumberedObjects objects = objects.map ObjectType.unnumbered := by
  induction objects with
  | nil => rfl
  | cons object rest ih => rw [unnumberedObjects, ih, List.map_cons]

theorem Field.name_unnumbered (field : Field) : field.unnumbered.name = field.name := by
  cases field
  rfl

theorem Field.source_unnumbered (field : Field) : field.unnumbered.source = field.source := by
  cases field
  rfl

theorem ObjectType.name_unnumbered (object : ObjectType) :
    object.unnumbered.name = object.name := by
  cases object
  rfl

theorem ApiType.scalar?_unnumbered (type : ApiType) : type.unnumbered.scalar? = type.scalar? := by
  cases type <;> rfl

theorem ApiType.fragment_unnumbered : ∀ type : ApiType, type.unnumbered.fragment = type.fragment
  | .scalar _ => rfl
  | .object o => o.name_unnumbered
  | .union ⟨_, _, _⟩ => rfl
  | .list element => by
    rw [unnumbered, fragment, fragment, element.fragment_unnumbered]

theorem entryName_unnumbered (value : ApiType) : entryName value.unnumbered = entryName value := by
  rw [entryName, entryName, value.fragment_unnumbered]

theorem entryRecord_unnumbered (serial : Nat) (value : ApiType) :
    (entryRecord serial value).unnumbered = entryRecord 0 value.unnumbered := by
  simp [entryRecord, ObjectType.unnumbered, Field.unnumbered, Field.ofKey, ApiType.unnumbered,
    entryName_unnumbered, value.fragment_unnumbered]

/-! ## Claims -/

/-- What can claim a name.  Constructs are compared by what they are made from: two places of a
schema with the same shape and documentation are one construct. -/
inductive Construct where
  | definition (d : Definition)
  | variants (kind : DocumentKind)
  | object (own : Option String) (tree : Tree) (fields : List (String × SchemaNode))
  | union (docs : Option Entry) (nodes : List SchemaNode)
  | record (value : ApiType)

/-- A walk without a registry: the names claimed on the way, and what it gives. -/
structure Plain (α : Type) where
  claims : List (String × Construct)
  result : Except SynthesisError α

namespace Plain

variable {α β : Type}

/-- A walk that fails claims nothing more. -/
instance : Monad Plain where
  pure a := ⟨[], .ok a⟩
  bind m f :=
    match m.result with
    | .ok a => ⟨m.claims ++ (f a).claims, (f a).result⟩
    | .error e => ⟨m.claims, .error e⟩

theorem pure_eq (a : α) : (pure a : Plain α) = ⟨[], .ok a⟩ := rfl

theorem ok_bind (claims : List (String × Construct)) (a : α) (f : α → Plain β) :
    (⟨claims, .ok a⟩ >>= f : Plain β) = ⟨claims ++ (f a).claims, (f a).result⟩ := rfl

theorem id_map (m : Plain α) : id <$> m = m := by
  rcases m with ⟨claims, _ | a⟩
  · rfl
  · show Plain.mk (claims ++ []) (.ok a) = ⟨claims, .ok a⟩
    rw [List.append_nil]

theorem bind_assoc {γ : Type} (m : Plain α) (f : α → Plain β) (g : β → Plain γ) :
    m >>= f >>= g = m >>= fun a => f a >>= g := by
  rcases m with ⟨claims, _ | a⟩
  · rfl
  · rw [ok_bind, ok_bind]
    rcases f a with ⟨more, _ | b⟩
    · rfl
    · simp only [ok_bind, List.append_assoc]

instance : LawfulMonad Plain := LawfulMonad.mk' Plain id_map (fun _ _ => rfl) bind_assoc

theorem claims_subset_bind (m : Plain α) (f : α → Plain β) : m.claims ⊆ (m >>= f).claims := by
  rcases m with ⟨claims, _ | a⟩
  · exact List.Subset.refl _
  · exact List.subset_append_left _ _

theorem result_bind_of_error {m : Plain α} {e : SynthesisError} (failed : m.result = .error e)
    (f : α → Plain β) : (m >>= f).result = .error e := by
  rcases m with ⟨claims, _ | a⟩
  · cases failed
    rfl
  · cases failed

/-- Fails at a generated name. -/
def fail (path : String) (fault : SynthesisFault) : Plain α := ⟨[], .error ⟨path, fault⟩⟩

/-- Claims a name for a construct. -/
def claim (name : String) (construct : Construct) : Plain Unit := ⟨[(name, construct)], .ok ()⟩

theorem claim_bind (name : String) (construct : Construct) (f : Unit → Plain β) :
    (claim name construct >>= f) = ⟨(name, construct) :: (f ()).claims, (f ()).result⟩ := rfl

/-! ## Nodes -/

/-- The API type of a simple value. -/
def scalarOf : ScalarKind → ApiScalar
  | .string => .string
  | .integer => .int
  | .float => .float
  | .boolean => .boolean
  | .any => .json

/-- The members that some types give to a union; one whose name is there already is left out. -/
def unionMembers (path : String) (done : List ObjectType) :
    List ApiType → Plain (List ObjectType)
  | [] => return done
  | .object object :: rest => unionMembers path (add done [object]) rest
  | .union union :: rest => unionMembers path (add done union.members) rest
  | .list _ :: _ => fail path .listAlternative
  | .scalar _ :: _ => fail path .listAlternative
where
  /-- Adds the objects whose names are not there yet. -/
  add (done candidates : List ObjectType) : List ObjectType :=
    candidates.foldl (fun done candidate =>
      if done.any (·.name == candidate.name) then done else done ++ [candidate]) done

def scalarUnion (strict : Bool) (path : String) (first : ApiScalar) (others : List ApiScalar) :
    Plain ApiType :=
  if others.all (· == first) then return .scalar first
  else if strict then fail path .ambiguousUnion
  else return .scalar .generic

def unionOf (strict : Bool) (path : String) (description : Option String)
    (types : List ApiType) : Plain ApiType := do
  match types.filterMap ApiType.scalar? with
  | [] => return .union ⟨path, description, ← unionMembers path [] types⟩
  | first :: others =>
    if (first :: others).length = types.length then scalarUnion strict path first others
    else fail path .mixedUnion

def unionAt (strict : Bool) (path : String) (docs : Option Entry) (nodes : List SchemaNode)
    (alternatives : Plain (List ApiType)) : Plain ApiType := do
  claim path (.union docs nodes)
  if nodes.isEmpty then fail path .emptyUnion
  else unionOf strict path (docs.bind Entry.description) (← alternatives)

def objectOf (name : String) (description discriminator : Option String) (fields : List Field) :
    Plain ObjectType :=
  if fields.isEmpty then fail name .noFields
  else return ⟨0, name, description, fields, discriminator⟩

def objectAt (path : String) (own : Option String) (tree : Tree)
    (nodes : List (String × SchemaNode)) (fields : Plain (List Field)) : Plain ObjectType := do
  claim path (.object own tree nodes)
  objectOf path own none (← fields)

/-- The documentation of a mapping's values. -/
def valueDocs (path : String) : Option Entry → Plain (Option Entry)
  | some (.nested _ fields) =>
    match Keyed.get? valueTerm fields with
    | some entry => return some entry
    | none => fail path .noValueTerm
  | docs => return docs

/-- The record for entries whose values have a type. -/
def entryRecordFor (value : ApiType) : Plain ObjectType := do
  claim (entryName value) (.record value)
  return entryRecord 0 value

variable (strict : Bool) (resolve : String → DocumentKind → Plain ApiType)

mutual

def convert (path : String) (docs : Option Entry) : SchemaNode → Plain ApiType
  | .scalar kind => return .scalar (scalarOf kind)
  | .optional inner => convert path docs inner
  | .union nodes => unionAt strict path docs nodes (convertAlternatives path docs 0 nodes)
  | .object nodes =>
    match docs with
    | some (.nested own tree) => do
      return .object (← objectAt path own tree nodes (convertFields path tree [] [] nodes))
    | _ => fail path (.documentation .noDefinitions)
  | .list element => return .list (← convert path docs element)
  | .map value => do
    let type ← convert path (← valueDocs path docs) value
    return .list (.object (← entryRecordFor type))
  | .reference kind => resolve path kind
  | .validated constraint => convertConstraint path docs constraint

def convertConstraint (path : String) (docs : Option Entry) : Constraint → Plain ApiType
  | .documentName target => resolve path target
  | .alternatives nodes => unionAt strict path docs nodes (convertAlternatives path docs 0 nodes)
  | .custom name => fail path (.unsupportedConstraint name)

/-- The API types of the alternatives of a union, from an index on. -/
def convertAlternatives (path : String) (docs : Option Entry) (index : Nat) :
    List SchemaNode → Plain (List ApiType)
  | [] => return []
  | node :: rest => do
    let type ← convert (alternativePath path index) docs node
    return type :: (← convertAlternatives path docs (index + 1) rest)

/-- The fields of an object, after the ones that are done. -/
def convertFields (parent : String) (tree : Tree) (skip : List String) (done : List Field) :
    List (String × SchemaNode) → Plain (List Field)
  | [] => return done
  | (key, node) :: rest =>
    if isHiddenKey skip key then convertFields parent tree skip done rest
    else
      match Keyed.get? key tree with
      | none => convertFields parent tree skip done rest
      | some docs =>
        match done.find? (·.name == KeyName.toCamel key) with
        | some clash =>
          fail (fieldPath parent key) (.fieldClash key clash.source (KeyName.toCamel key))
        | none => do
          let type ← convert (fieldPath parent key) (some docs) node
          let field : Field :=
            ⟨KeyName.toCamel key, key, type, !node.isOptional, docs.description⟩
          convertFields parent tree skip (done ++ [field]) rest

end

/-! ## Documents -/

/-- The fields of a definition's object while the documents `busy` are being walked.  A document
that refers back to itself is an error. -/
def definitionFields (d : Definition) (strict : Bool) (busy : List String)
    (resolve : d.name ∉ busy → String → DocumentKind → Plain ApiType) : Plain (List Field) :=
  if h : d.name ∈ busy then fail d.name (.cycle (busy ++ [d.name]))
  else
    match d.schema with
    | .object nodes => convertFields strict (resolve h) d.name d.docs d.skipFields [] nodes
    | _ => fail d.name .documentNotObject

/-- The object of a definition while the documents `busy` are being walked. -/
def definitionWith (d : Definition) (strict : Bool) (busy : List String)
    (resolve : d.name ∉ busy → String → DocumentKind → Plain ApiType) : Plain ObjectType := do
  claim d.name (.definition d)
  objectOf d.name d.description d.discriminator (← definitionFields d strict busy resolve)

def variantsOf (kind : DocumentKind) (members : Plain (List ObjectType)) : Plain ApiType := do
  claim kind.typeName (.variants kind)
  return .union ⟨kind.typeName, none, ← members⟩

end Plain

namespace Catalog

/-- The type of a kind of documents, asked for at a path, while the documents `busy` are being
walked. -/
def plainTypeOf (catalog : Catalog) (strict : Bool) (busy : List String) (path : String)
    (kind : DocumentKind) : Plain ApiType := do
  let objectOf (d : { d // d ∈ catalog.definitions kind }) : Plain ObjectType :=
    Plain.definitionWith d.val strict busy fun _ =>
      catalog.plainTypeOf strict (busy ++ [d.val.name])
  match (catalog.definitions kind).attach with
  | [] => Plain.fail path (.noDefinition kind)
  | [single] => return .object (← objectOf single)
  | variants => Plain.variantsOf kind (variants.mapM objectOf)
termination_by (catalog.waiting busy).length
decreasing_by
  exact length_waiting_lt (List.mem_filter.1 d.property).1 ‹_›

/-- The object of a definition while the documents `busy` are being walked. -/
def plainObjectIn (catalog : Catalog) (strict : Bool) (busy : List String) (d : Definition) :
    Plain ObjectType :=
  Plain.definitionWith d strict busy fun _ => catalog.plainTypeOf strict (busy ++ [d.name])

/-- The type of the documents that some definitions describe. -/
def plainTypeOfAll (catalog : Catalog) (strict : Bool) (busy : List String) (path : String)
    (kind : DocumentKind) : List Definition → Plain ApiType
  | [] => Plain.fail path (.noDefinition kind)
  | [single] => return .object (← catalog.plainObjectIn strict busy single)
  | variants => Plain.variantsOf kind (variants.mapM (catalog.plainObjectIn strict busy))

theorem plainTypeOf_eq (catalog : Catalog) (strict : Bool) (busy : List String) (path : String)
    (kind : DocumentKind) :
    catalog.plainTypeOf strict busy path kind =
      catalog.plainTypeOfAll strict busy path kind (catalog.definitions kind) := by
  have values := List.attach_map_subtype_val (catalog.definitions kind)
  rw [plainTypeOf]
  generalize (catalog.definitions kind).attach = waiting at values ⊢
  conv => rhs; rw [← values]
  rcases waiting with _ | ⟨first, _ | ⟨second, rest⟩⟩
  · rfl
  · rfl
  · simp only [List.map_cons, plainTypeOfAll, plainObjectIn, List.mapM_cons, List.mapM_map]
    rfl

/-- The names that are claimed in the walks of all kinds, each from its start. -/
def claims (catalog : Catalog) (strict : Bool) : List (String × Construct) :=
  DocumentKind.all.flatMap fun kind => (catalog.plainTypeOf strict [] kind.typeName kind).claims

/-- No name is claimed by two constructs. -/
def NamesClear (catalog : Catalog) (strict : Bool) : Prop :=
  ∀ name a b, (name, a) ∈ catalog.claims strict → (name, b) ∈ catalog.claims strict → a = b

theorem claims_subset (catalog : Catalog) (strict : Bool) (kind : DocumentKind) :
    (catalog.plainTypeOf strict [] kind.typeName kind).claims ⊆ catalog.claims strict := by
  intro claim mem
  refine List.mem_flatMap.2 ⟨kind, ?_, mem⟩
  cases kind <;> decide

/-- The walk of a construct from the claim of its name on, while the documents `busy` are being
walked. -/
def visit (catalog : Catalog) (strict : Bool) (busy : List String) (name : String) :
    Construct → Plain ApiType
  | .definition d => return .object (← catalog.plainObjectIn strict busy d)
  | .variants kind =>
    Plain.variantsOf kind ((catalog.definitions kind).mapM (catalog.plainObjectIn strict busy))
  | .object own tree nodes => return .object (← Plain.objectAt name own tree nodes
      (Plain.convertFields strict (catalog.plainTypeOf strict busy) name tree [] [] nodes))
  | .union docs nodes => Plain.unionAt strict name docs nodes
      (Plain.convertAlternatives strict (catalog.plainTypeOf strict busy) name docs 0 nodes)
  | .record value => return .object (← Plain.entryRecordFor value)

end Catalog

end ApiSchema
