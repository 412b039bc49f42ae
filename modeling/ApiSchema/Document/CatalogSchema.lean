import ApiSchema.Document.NodeJson
import ApiSchema.JsonSchema.Validation
import ApiSchema.JsonSchema.WellFormed

/-!
# The schema of catalog files

The schema that every catalog file must fulfil, as a JSON value.
-/

namespace ApiSchema

open JsonSchema

namespace CatalogSchema

def texts (items : List String) : Json := .array (items.map .string)

def ofType (name : String) : Json := .object [("type", .string name)]

def referTo (name : String) : Json := .object [("$ref", .string ("#/$defs/" ++ name))]

/-- The schema of arrays with the given schema for each item. -/
def arrayOf (each : Json) : Json := .object [("type", .string "array"), ("items", each)]

def kindName : Json := .object [("enum", texts (DocumentKind.all.map DocumentKind.name))]

/-- Asks for keys with their schemas where the member `tag` names a variant or is absent. -/
def variant (tag name : String) (keys : List String) (properties : List (String × Json)) : Json :=
  .object
    [("if", .object [("properties", .object
        [(tag, .object [("const", .string name)])])]),
     ("then", .object [("required", texts keys), ("properties", .object properties)])]

/-- A variant whose content stands under one key. -/
def variantWith (tag name key : String) (content : Json) : Json :=
  variant tag name [key] [(key, content)]

def document : Json :=
  .object
    [("type", .string "object"),
     ("required", texts ["kind", "name", "schema"]),
     ("additionalProperties", .bool false),
     ("oneOf", .array
       [.object [("required", texts ["docstring"])], .object [("required", texts ["docs"])]]),
     ("properties", .object
       [("kind", kindName),
        ("name", .object
          [("type", .string "string"), ("pattern", .string "^[A-Za-z_][A-Za-z0-9_]*$")]),
        ("description", ofType "string"),
        ("schema", referTo "node"),
        ("docstring", ofType "string"),
        ("docs", referTo "docs"),
        ("skipFields", arrayOf (ofType "string")),
        ("discriminator", ofType "string")])]

/-- The schema of documentation trees. -/
def docs : Json :=
  .object
    [("type", .string "object"),
     ("additionalProperties", .object
       [("anyOf", .array [ofType "string", referTo "docs"])])]

def node : Json :=
  .object
    [("type", .string "object"),
     ("required", texts ["type"]),
     ("properties", .object [("type", .object [("enum", texts nodeVariants)])]),
     ("allOf", .array
       [variantWith "type" "optional" "inner" (referTo "node"),
        variantWith "type" "union" "alternatives" (referTo "nodes"),
        variantWith "type" "object" "fields" (.object
          [("type", .string "object"), ("additionalProperties", referTo "node")]),
        variantWith "type" "list" "element" (referTo "node"),
        variantWith "type" "map" "value" (referTo "node"),
        variantWith "type" "reference" "target" kindName,
        variantWith "type" "validated" "validator" (referTo "validator")])]

def constraint : Json :=
  .object
    [("type", .string "object"),
     ("required", texts ["kind"]),
     ("properties", .object [("kind", .object [("enum", texts constraintVariants)])]),
     ("allOf", .array
       [variantWith "kind" "doc_reference" "target" kindName,
        variantWith "kind" "alternatives" "alternatives" (referTo "nodes"),
        variantWith "kind" "custom" "name" (ofType "string")])]

end CatalogSchema

open CatalogSchema in
def catalogSchema : Json :=
  .object
    [("$schema", .string "https://json-schema.org/draft/2020-12/schema"),
     ("type", .string "object"),
     ("required", texts ["documents"]),
     ("additionalProperties", .bool false),
     ("properties", .object [("documents", arrayOf (referTo "document"))]),
     ("$defs", .object
       [("document", document),
        ("docs", docs),
        ("nodes", arrayOf (referTo "node")),
        ("node", node),
        ("validator", constraint)])]

def catalogRules : SchemaFile := .ofJson catalogSchema

/-- What is wrong with the structure of a catalog file. -/
def catalogViolations (value : Json) : List Violation := catalogRules.violations value

/-- Checks a value against a value that is used as a schema. -/
def validateAgainst (schema value : Json) : Except ValidationError Unit :=
  match documentFault schema with
  | some complaint => .error (.badSchema complaint)
  | none =>
    match (SchemaFile.ofJson schema).violations value with
    | [] => .ok ()
    | violations => .error (.invalid violations)

/-- Checks the structure of a catalog file. -/
def validateCatalog (value : Json) : Except ValidationError Unit :=
  match catalogViolations value with
  | [] => .ok ()
  | violations => .error (.invalid violations)

end ApiSchema
