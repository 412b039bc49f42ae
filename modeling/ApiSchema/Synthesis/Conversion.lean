import ApiSchema.Document.Catalog
import ApiSchema.Synthesis.Registry

/-!
# Conversion of schema nodes

Converts a schema node with its documentation to an API type.  Objects and unions are named by the
path that leads to them and registered under that name; a name that is registered already is not
converted again.  References to documents are left to `Conversion.resolve`.
-/

namespace ApiSchema

open Documentation (Entry Tree valueTerm)

/-- What a conversion depends on: whether unions of different simple types are refused, and the
type of the documents of a kind, asked for at a path. -/
structure Conversion where
  strict : Bool
  resolve : String → DocumentKind → Synthesis ApiType

/-- The character that starts the API names of fields that are never generated. -/
def systemMark : Char := '$'

/-- Is a key never generated? -/
def isHiddenKey (skip : List String) (key : String) : Bool :=
  (KeyName.toCamel key).toList.head? == some systemMark || skip.contains key

def fieldPath (parent key : String) : String :=
  parent ++ KeyName.capitalized (KeyName.toCamel key)

/-- The path of an alternative of a union; alternatives are counted from one. -/
def alternativePath (path : String) (index : Nat) : String :=
  path ++ "Alternative" ++ toString (index + 1)

/-- Is the node marked as one that need not be there? -/
def SchemaNode.isOptional : SchemaNode → Bool
  | .optional _ => true
  | _ => false

namespace Conversion

/-- The API type of a simple value. -/
def convertScalar (path : String) : ScalarKind → Synthesis ApiType
  | .string => return .scalar .string
  | .integer => return .scalar .int
  | .float => return .scalar .float
  | .boolean => return .scalar .boolean
  | .any => do
    Synthesis.advise path .untyped s!"{path} was any. This field will be available as JSON only."
    return .scalar .json

/-- The members that some types give to a union; an instance that is there already is left out,
and a type that is neither object nor union is an error. -/
def unionMembers (path : String) (done : List ObjectType) :
    List ApiType → Synthesis (List ObjectType)
  | [] => return done
  | .object object :: rest => unionMembers path (add done [object]) rest
  | .union union :: rest => unionMembers path (add done union.members) rest
  | .list _ :: _ => Synthesis.fail path .listAlternative
  | .scalar _ :: _ => Synthesis.fail path .listAlternative
where
  /-- Adds the objects that are not there yet. -/
  add (done candidates : List ObjectType) : List ObjectType :=
    candidates.foldl (fun done candidate =>
      if done.any (·.serial == candidate.serial) then done else done ++ [candidate]) done

def scalarUnion (c : Conversion) (path : String) (first : ApiScalar) (others : List ApiScalar) :
    Synthesis ApiType := do
  if others.all (· == first) then return .scalar first
  else if c.strict then Synthesis.fail path .ambiguousUnion
  else
    Synthesis.advise path .scalarUnion
      s!"{path} can be multiple different scalars. This is not recommended."
    return .scalar .generic

def unionOf (c : Conversion) (path : String) (description : Option String)
    (types : List ApiType) : Synthesis ApiType := do
  let scalars := types.filterMap ApiType.scalar?
  match scalars with
  | [] =>
    let members ← unionMembers path [] types
    return .union (← Synthesis.registerUnion ⟨path, description, members⟩)
  | first :: others =>
    if scalars.length = types.length then c.scalarUnion path first others
    else Synthesis.fail path .mixedUnion

/-- The union at a path: the registered one, or the one made of the types of its alternatives. -/
def unionAt (c : Conversion) (path : String) (docs : Option Entry) (nodes : List SchemaNode)
    (alternatives : Synthesis (List ApiType)) : Synthesis ApiType := do
  match ← Synthesis.unionNamed? path with
  | some union => return .union union
  | none =>
    if nodes.isEmpty then Synthesis.fail path .emptyUnion
    else c.unionOf path (docs.bind Entry.description) (← alternatives)

/-- Registers an object that has at least one field. -/
def registerFields (name : String) (description discriminator : Option String)
    (fields : List Field) : Synthesis ObjectType :=
  if fields.isEmpty then Synthesis.fail name .noFields
  else Synthesis.registerObject fun serial => ⟨serial, name, description, fields, discriminator⟩

/-- The documentation of a mapping's values. -/
def valueDocs (path : String) : Option Entry → Synthesis (Option Entry)
  | some (.nested _ fields) =>
    match Keyed.get? valueTerm fields with
    | some entry => return some entry
    | none => Synthesis.fail path .noValueTerm
  | docs => return docs

mutual

def convert (c : Conversion) (path : String) (docs : Option Entry) :
    SchemaNode → Synthesis ApiType
  | .scalar kind => convertScalar path kind
  | .optional inner => convert c path docs inner
  | .union nodes => unionAt c path docs nodes (convertAlternatives c path docs 0 nodes)
  | .object fields =>
    match docs with
    | some (.nested own tree) => do
      match ← Synthesis.objectNamed? path with
      | some object => return .object object
      | none =>
        let fields ← convertFields c path tree [] [] fields
        return .object (← registerFields path own none fields)
    | _ => Synthesis.fail path (.documentation .noDefinitions)
  | .list element => return .list (← convert c path docs element)
  | .map value => do
    let type ← convert c path (← valueDocs path docs) value
    return .list (.object (← Synthesis.entryRecordFor type))
  | .reference kind => c.resolve path kind
  | .validated constraint => convertConstraint c path docs constraint

def convertConstraint (c : Conversion) (path : String) (docs : Option Entry) :
    Constraint → Synthesis ApiType
  | .documentName target => c.resolve path target
  | .alternatives nodes => unionAt c path docs nodes (convertAlternatives c path docs 0 nodes)
  | .custom name => Synthesis.fail path (.unsupportedConstraint name)

/-- The API types of the alternatives of a union, from an index on. -/
def convertAlternatives (c : Conversion) (path : String) (docs : Option Entry) (index : Nat) :
    List SchemaNode → Synthesis (List ApiType)
  | [] => return []
  | node :: rest => do
    let type ← convert c (alternativePath path index) docs node
    return type :: (← convertAlternatives c path docs (index + 1) rest)

/-- The fields of an object, after the ones that are done.  Hidden keys are left out, and keys
without documentation are left out with an advisory. -/
def convertFields (c : Conversion) (parent : String) (tree : Tree) (skip : List String)
    (done : List Field) : List (String × SchemaNode) → Synthesis (List Field)
  | [] => return done
  | (key, node) :: rest =>
    if isHiddenKey skip key then convertFields c parent tree skip done rest
    else
      let path := fieldPath parent key
      match Keyed.get? key tree with
      | none => do
        Synthesis.advise path .undocumented s!"skipped {key}, it was not documented"
        convertFields c parent tree skip done rest
      | some docs =>
        match done.find? (·.name == KeyName.toCamel key) with
        | some clash =>
          Synthesis.fail path (.fieldClash key clash.source (KeyName.toCamel key))
        | none => do
          let type ← convert c path (some docs) node
          let field : Field :=
            ⟨KeyName.toCamel key, key, type, !node.isOptional, docs.description⟩
          convertFields c parent tree skip (done ++ [field]) rest

end

end Conversion

end ApiSchema
