import ApiSchema.JsonSchema.Reference
import ApiSchema.Pattern.Reader

/-!
# Schemas

A schema allows every value, none, or those that fulfil a list of rules.  The rules for the named
members of an object and for its other members stand together where the latter are restricted.
-/

namespace ApiSchema.JsonSchema

mutual

/-- A schema. -/
inductive Schema where
  | always
  | never
  | rules (list : List Rule)

/-- A rule of a schema. -/
inductive Rule where
  | types (allowed : List TypeName)
  | required (keys : List String)
  | properties (known : List (String × Schema))
  | onlyProperties (known : List (String × Schema))
  | noProperties
  | otherProperties (known : List (String × Schema)) (others : Schema)
  | items (each : Schema)
  | enum (options : List Json)
  | const (value : Json)
  | pattern (text : String) (reading : Option Pattern)
  | oneOf (branches : List Schema)
  | anyOf (branches : List Schema)
  | allOf (branches : List Schema)
  | whenThen (condition consequence : Schema)
  | reference (target : String)

end

/-- A schema together with the schemas that its references lead to. -/
structure SchemaFile where
  root : Schema
  targets : List (String × Schema)

/-- The types that a keyword's value names. -/
def typesOfJson : Json → List TypeName
  | .string name => (TypeName.ofName? name).toList
  | .array items => items.filterMap fun
    | .string name => TypeName.ofName? name
    | _ => none
  | _ => []

def textsOfJson : Json → List String
  | .array items => items.filterMap fun
    | .string s => some s
    | _ => none
  | _ => []

def itemsOfJson : Json → List Json
  | .array items => items
  | _ => []

/-- Does a keyword's value restrict the members of an object that are not named? -/
def restricts : Json → Bool
  | .bool b => !b
  | .object _ => true
  | _ => false

mutual

/-- The schema that a value describes. -/
def schemaOfJson : Json → Schema
  | .bool false => .never
  | .object members =>
    .rules (rulesOfMembers (namedSchemas "properties" members)
      (Keyed.has "properties" members)
      ((Keyed.get? "additionalProperties" members).any restricts)
      (schemaUnder "then" members) members)
  | _ => .always

/-- The rules of some members, given the schemas of the named members, whether there are such
schemas, whether other members are restricted, and what follows from a condition, if anything. -/
def rulesOfMembers (known : List (String × Schema)) (hasKnown restricted : Bool)
    (consequence : Option Schema) : List (String × Json) → List Rule
  | [] => []
  | (key, value) :: rest =>
    let others := rulesOfMembers known hasKnown restricted consequence rest
    match key with
    | "type" => .types (typesOfJson value) :: others
    | "required" => .required (textsOfJson value) :: others
    | "properties" => if restricted then others else .properties known :: others
    | "additionalProperties" =>
      match value with
      | .bool true => others
      | .bool false => (if hasKnown then .onlyProperties known else .noProperties) :: others
      | value => .otherProperties known (schemaOfJson value) :: others
    | "items" => .items (schemaOfJson value) :: others
    | "enum" => .enum (itemsOfJson value) :: others
    | "const" => .const value :: others
    | "pattern" =>
      match value with
      | .string text => .pattern text (Pattern.ofText? text) :: others
      | _ => others
    | "oneOf" => .oneOf (schemaArray value) :: others
    | "anyOf" => .anyOf (schemaArray value) :: others
    | "allOf" => .allOf (schemaArray value) :: others
    | "if" =>
      match consequence with
      | some schema => .whenThen (schemaOfJson value) schema :: others
      | none => others
    | "$ref" =>
      match value with
      | .string target => .reference target :: others
      | _ => others
    | _ => others

def schemaUnder (key : String) : List (String × Json) → Option Schema
  | [] => none
  | (k, value) :: rest => if k = key then some (schemaOfJson value) else schemaUnder key rest

/-- The schemas in the object under a key, by name. -/
def namedSchemas (key : String) : List (String × Json) → List (String × Schema)
  | [] => []
  | (k, value) :: rest => if k = key then schemaObject value else namedSchemas key rest

def schemaObject : Json → List (String × Schema)
  | .object members => schemasOfMembers members
  | _ => []

def schemasOfMembers : List (String × Json) → List (String × Schema)
  | [] => []
  | (key, value) :: rest => (key, schemaOfJson value) :: schemasOfMembers rest

def schemaArray : Json → List Schema
  | .array items => schemasOfItems items
  | _ => []

/-- The schemas that some values describe. -/
def schemasOfItems : List Json → List Schema
  | [] => []
  | item :: rest => schemaOfJson item :: schemasOfItems rest

end

/-- The schema that a reference leads to from the whole of a schema file. -/
def targetOf (document : Json) (reference : String) : Option (String × Schema) :=
  match resolve reference document with
  | .ok value => some (reference, schemaOfJson value)
  | .error _ => none

def SchemaFile.ofJson (value : Json) : SchemaFile where
  root := schemaOfJson value
  targets := (referencesIn value).eraseDups.filterMap (targetOf value)

end ApiSchema.JsonSchema
