import ApiSchema.Instance.Basic

/-!
# Projection

Reshapes an instance to the fields of an API type.  An object keeps its fields under their API
names; a union first chooses the member that a mapping belongs to and names it.
-/

namespace ApiSchema

/-- The key that holds the name of the chosen member of a union. -/
def typenameKey : String := "__typename"

/-- Does the mapping have the member's discriminator? -/
def ObjectType.isDiscriminated (members : List (String × Json)) (object : ObjectType) : Bool :=
  object.discriminator.any (Keyed.has · members)

/-- Does the mapping have the keys of all required fields? -/
def ObjectType.hasRequired (members : List (String × Json)) (object : ObjectType) : Bool :=
  (object.fields.filter (·.required)).all fun field => Keyed.has field.source members

/-- What decides whether a mapping belongs to a member: its discriminator if the mapping has one
of any member, else the lack of a discriminator if some member has one, else its required keys. -/
def memberTest (union : List ObjectType) (members : List (String × Json)) : ObjectType → Bool :=
  if union.any (·.isDiscriminated members) then (·.isDiscriminated members)
  else if union.any (·.discriminator.isSome) then (·.discriminator.isNone)
  else (·.hasRequired members)

/-- The member of a union that a mapping belongs to. -/
def UnionType.select? (union : UnionType) (members : List (String × Json)) : Option ObjectType :=
  union.members.find? (memberTest union.members members)

/-- Some members after the one that names a type. -/
def tagged (name : String) (members : List (String × Json)) : List (String × Json) :=
  Keyed.insertAll members [(typenameKey, .string name)]

mutual

def ApiType.project : ApiType → Json → Json
  | .scalar _, value => value
  | .object object, .object members => .object (object.projectWith (Keyed.get? · members))
  | .union union, .object members => union.projectMembers members
  | .list element, .array items =>
    .array (items.map fun item => element.project (lowerFor element item))
  | _, value => value

/-- The fields of an object type with the values that `get` finds under their keys. -/
def ObjectType.projectWith (get : String → Option Json) : ObjectType → List (String × Json)
  | ⟨_, _, _, fields, _⟩ => projectFields get [] fields

/-- Adds fields to the ones that are done. -/
def projectFields (get : String → Option Json) (done : List (String × Json)) :
    List Field → List (String × Json)
  | [] => done
  | field :: rest => projectFields get (Keyed.insert field.name (field.projectWith get) done) rest

/-- The reshaped value of a field, `null` where there is none. -/
def Field.projectWith (get : String → Option Json) : Field → Json
  | ⟨_, source, type, _, _⟩ =>
    type.project (match get source with
      | some value => lowerFor type value
      | none => .null)

/-- A mapping reshaped to the member of a union that it belongs to. -/
def UnionType.projectMembers (members : List (String × Json)) : UnionType → Json
  | ⟨_, _, union⟩ => projectFirst (memberTest union members) members union

/-- A mapping reshaped to the first type that passes a test. -/
def projectFirst (test : ObjectType → Bool) (members : List (String × Json)) :
    List ObjectType → Json
  | [] => .null
  | object :: rest =>
    if test object then
      .object (tagged object.name (object.projectWith (Keyed.get? · members)))
    else projectFirst test members rest

end

def ObjectType.project (object : ObjectType) (i : Instance) : List (String × Json) :=
  object.projectWith i.get?

end ApiSchema
