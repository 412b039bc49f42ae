import ApiSchema.Api.Type
import ApiSchema.Json.Basic

/-!
# API types in JSON

A type is described by its own fields and members; other types stand in it by kind and name.
-/

namespace ApiSchema

/-- A member for an optional text, none when it is absent. -/
def optionalMember (key : String) : Option String → List (String × Json)
  | some text => [(key, .string text)]
  | none => []

def ApiType.toJson : ApiType → Json
  | .scalar s => .object [("kind", .string "scalar"), ("name", .string s.name)]
  | .object o => .object [("kind", .string "object"), ("name", .string o.name)]
  | .union u => .object [("kind", .string "union"), ("name", .string u.name)]
  | .list element => .object [("kind", .string "list"), ("ofType", element.toJson)]

def Field.toJson (field : Field) : Json :=
  .object
    ([("name", .string field.name), ("type", field.type.toJson),
      ("required", .bool field.required)] ++ optionalMember "description" field.description)

def ObjectType.toMembers (object : ObjectType) : List (String × Json) :=
  [("kind", .string "object"), ("name", .string object.name)] ++
    optionalMember "description" object.description ++
    [("fields", .array (object.fields.map Field.toJson))] ++
    optionalMember "discriminator" object.discriminator

def UnionType.toMembers (union : UnionType) : List (String × Json) :=
  [("kind", .string "union"), ("name", .string union.name)] ++
    optionalMember "description" union.description ++
    [("members", .array (union.members.map fun m => .string m.name))]

def NamedType.toJson : NamedType → Json
  | .object o => .object o.toMembers
  | .union u => .object u.toMembers

end ApiSchema
