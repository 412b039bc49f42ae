import ApiSchema.Document.SchemaNode
import ApiSchema.Json.Shape

/-!
# Schema nodes in JSON

A node is an object with its variant under `type` and the variant's content under one key; a
constraint has its variant under `kind`.  Reading ignores all other keys.
-/

namespace ApiSchema

open Json (ShapeError)

def nodeVariants : List String :=
  ScalarKind.all.map ScalarKind.name ++
    ["optional", "union", "object", "list", "map", "reference", "validated"]

/-- The names of a constraint's variants. -/
def constraintVariants : List String := ["doc_reference", "alternatives", "custom"]

mutual

def SchemaNode.toJson : SchemaNode → Json
  | .scalar kind => .object [("type", .string kind.name)]
  | .optional inner => .object [("type", .string "optional"), ("inner", inner.toJson)]
  | .union alternatives =>
    .object [("type", .string "union"), ("alternatives", .array (nodesToJson alternatives))]
  | .object fields =>
    .object [("type", .string "object"), ("fields", .object (fieldsToJson fields))]
  | .list element => .object [("type", .string "list"), ("element", element.toJson)]
  | .map value => .object [("type", .string "map"), ("value", value.toJson)]
  | .reference target => .object [("type", .string "reference"), ("target", .string target.name)]
  | .validated constraint =>
    .object [("type", .string "validated"), ("validator", constraint.toJson)]

def Constraint.toJson : Constraint → Json
  | .documentName target =>
    .object [("kind", .string "doc_reference"), ("target", .string target.name)]
  | .alternatives nodes =>
    .object [("kind", .string "alternatives"), ("alternatives", .array (nodesToJson nodes))]
  | .custom name => .object [("kind", .string "custom"), ("name", .string name)]

def nodesToJson : List SchemaNode → List Json
  | [] => []
  | node :: rest => node.toJson :: nodesToJson rest

/-- The members for the fields of an object node. -/
def fieldsToJson : List (String × SchemaNode) → List (String × Json)
  | [] => []
  | (key, node) :: rest => (key, node.toJson) :: fieldsToJson rest

end

def kindOfName (name : String) : Except ShapeError DocumentKind :=
  match DocumentKind.ofName? name with
  | some kind => .ok kind
  | none => .error (.unknownVariant name (DocumentKind.all.map DocumentKind.name))

/-- Accepts the values that say nothing. -/
def nothingOfJson : Json → Except ShapeError Unit
  | .null => .ok ()
  | .object [] => .ok ()
  | value => Json.refuse value "unit"

/-- Reads a document kind: its name, or an object whose one key is the name. -/
def kindOfJson : Json → Except ShapeError DocumentKind
  | .string name => kindOfName name
  | .object [(name, content)] => do
    let kind ← kindOfName name
    nothingOfJson content
    return kind
  | .object members => .error (.outOfRange (Json.object members).shown "map with a single key")
  | value => Json.refuse value "string or map"

/-- The variant that an object names under the key `tag`. -/
def variantOf (tag : String) (members : List (String × Json)) : Except ShapeError String :=
  Json.memberAs tag members fun
    | .string name => .ok name
    | value => Json.refuse value "variant identifier"

mutual

def nodeOfJson : Json → Except ShapeError SchemaNode
  | .object members => do
    let variant ← variantOf "type" members
    match ScalarKind.all.find? (·.name == variant) with
    | some kind => return .scalar kind
    | none =>
      match variant with
      | "optional" => return .optional (← nodeUnder "inner" members)
      | "union" => return .union (← nodesUnder "alternatives" members)
      | "object" => return .object (← fieldsUnder "fields" members)
      | "list" => return .list (← nodeUnder "element" members)
      | "map" => return .map (← nodeUnder "value" members)
      | "reference" => return .reference (← Json.memberAs "target" members kindOfJson)
      | "validated" => return .validated (← constraintUnder "validator" members)
      | other => .error (.unknownVariant other nodeVariants)
  | value => Json.refuse value "internally tagged enum NodeSpec"

def nodeUnder (key : String) : List (String × Json) → Except ShapeError SchemaNode
  | [] => .error (.missingField key)
  | (k, value) :: rest => if k = key then nodeOfJson value else nodeUnder key rest

/-- Reads the array of nodes under a key. -/
def nodesUnder (key : String) : List (String × Json) → Except ShapeError (List SchemaNode)
  | [] => .error (.missingField key)
  | (k, value) :: rest =>
    if k = key then nodeArrayOfJson value else nodesUnder key rest

def nodeArrayOfJson : Json → Except ShapeError (List SchemaNode)
  | .array items => nodesOfJson items
  | value => Json.refuse value "a sequence"

/-- Reads some nodes, up to the first value that is none. -/
def nodesOfJson : List Json → Except ShapeError (List SchemaNode)
  | [] => .ok []
  | item :: rest => do
    let node ← nodeOfJson item
    let others ← nodesOfJson rest
    return node :: others

/-- Reads the fields of an object node under a key. -/
def fieldsUnder (key : String) :
    List (String × Json) → Except ShapeError (List (String × SchemaNode))
  | [] => .error (.missingField key)
  | (k, value) :: rest =>
    if k = key then fieldObjectOfJson value else fieldsUnder key rest

def fieldObjectOfJson : Json → Except ShapeError (List (String × SchemaNode))
  | .object members => fieldsOfJson members
  | value => Json.refuse value "a map"

/-- Reads some fields, up to the first one that is no node. -/
def fieldsOfJson : List (String × Json) → Except ShapeError (List (String × SchemaNode))
  | [] => .ok []
  | (key, value) :: rest => do
    let node ← nodeOfJson value
    let others ← fieldsOfJson rest
    return (key, node) :: others

def constraintUnder (key : String) : List (String × Json) → Except ShapeError Constraint
  | [] => .error (.missingField key)
  | (k, value) :: rest => if k = key then constraintOfJson value else constraintUnder key rest

def constraintOfJson : Json → Except ShapeError Constraint
  | .object members => do
    let variant ← variantOf "kind" members
    match variant with
    | "doc_reference" => return .documentName (← Json.memberAs "target" members kindOfJson)
    | "alternatives" => return .alternatives (← nodesUnder "alternatives" members)
    | "custom" => return .custom (← Json.memberAs "name" members Json.asString)
    | other => .error (.unknownVariant other constraintVariants)
  | value => Json.refuse value "internally tagged enum Validator"

end

end ApiSchema
