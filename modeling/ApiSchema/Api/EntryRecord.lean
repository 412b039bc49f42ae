import ApiSchema.Api.Type
import ApiSchema.Json.Basic

/-!
# Entry records

The fields of an API object are fixed, so a mapping with free keys becomes a list of records, each
with a key and a value.  The record is named after the type of the values.
-/

namespace ApiSchema

/-- The key of a record's key. -/
def entryKey : String := "key"

/-- The key of a record's value. -/
def entryValue : String := "value"

def entryName (value : ApiType) : String := "Entry" ++ value.fragment

def entryRecord (serial : Nat) (value : ApiType) : ObjectType :=
  { serial
    name := entryName value
    description := some s!"A named entry in a list of {value.fragment}"
    fields := [Field.ofKey entryKey (.scalar .string), Field.ofKey entryValue value]
    discriminator := none }

/-- The records of a mapping, in its order. -/
def entriesOf (members : List (String × Json)) : Json :=
  .array (members.map fun (key, value) => .object [(entryKey, .string key), (entryValue, value)])

/-- The value for a field of the given type: a mapping becomes records where a list is due. -/
def lowerFor (type : ApiType) (value : Json) : Json :=
  match value with
  | .object members => if type.isList then entriesOf members else value
  | _ => value

end ApiSchema
