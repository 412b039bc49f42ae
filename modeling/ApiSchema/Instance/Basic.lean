import ApiSchema.Api.EntryRecord
import ApiSchema.Document.Kind

/-!
# Instances

What a generated field's value is read from: a mapping, something that holds a mapping or a
document, or something with attributes.  The first of these that an instance offers is used.
-/

namespace ApiSchema

/-- A document: a mapping of a known kind. -/
structure Document where
  kind : DocumentKind
  members : List (String × Json)

/-- What an instance can hold. -/
inductive Payload where
  | mapping (members : List (String × Json))
  | document (document : Document)

def Payload.members : Payload → List (String × Json)
  | .mapping m => m
  | .document d => d.members

/-- What an instance offers. -/
structure Instance where
  mapping : Option (List (String × Json))
  payload : Option Payload
  attributes : String → Option Json

namespace Instance

/-- The instance that offers nothing. -/
def empty : Instance := ⟨none, none, fun _ => none⟩

/-- A JSON value as an instance; only an object offers something. -/
def ofJson (value : Json) : Instance := { empty with mapping := value.members? }

def ofMembers (members : List (String × Json)) : Instance := { empty with mapping := some members }

def holding (payload : Payload) : Instance := { empty with payload := some payload }

def ofDocument (document : Document) : Instance := holding (.document document)

/-- The value that an instance has under a key. -/
def get? (i : Instance) (key : String) : Option Json :=
  match i.mapping, i.payload with
  | some members, _ => Keyed.get? key members
  | none, some payload => Keyed.get? key payload.members
  | none, none => i.attributes key

end Instance

/-- The value of a field, or a default where the instance has none. -/
def Field.resolveOr (field : Field) (i : Instance) (default : Json) : Json :=
  match i.get? field.source with
  | some value => lowerFor field.type value
  | none => default

/-- The value of a field, `null` where the instance has none. -/
def Field.resolve (field : Field) (i : Instance) : Json := field.resolveOr i .null

end ApiSchema
