import ApiSchema.Text.KeyName

/-!
# API types

Scalars, objects, unions of objects, and lists of types.  A type holds the whole of the types that
it refers to.  An object carries the serial number of its registration: two objects with one name
are the same instance exactly when their serial numbers agree.
-/

namespace ApiSchema

/-- A simple API type.  `json` takes any value, and `generic` stands for several simple types. -/
inductive ApiScalar where
  | string
  | int
  | float
  | boolean
  | json
  | generic
  deriving DecidableEq, Repr

mutual

/-- The type of a field. -/
inductive ApiType where
  | scalar (scalar : ApiScalar)
  | object (object : ObjectType)
  | union (union : UnionType)
  | list (element : ApiType)

/-- A field of an object: its API name, the key that its value has in documents, and its type. -/
structure Field where
  name : String
  source : String
  type : ApiType
  required : Bool
  description : Option String

/-- An object type. -/
structure ObjectType where
  serial : Nat
  name : String
  description : Option String
  fields : List Field
  /-- The key whose presence chooses this object among a union's members. -/
  discriminator : Option String

/-- A union of object types. -/
structure UnionType where
  name : String
  description : Option String
  members : List ObjectType

end

instance : Inhabited ApiType := ⟨.scalar .string⟩

instance : Inhabited Field := ⟨⟨"", "", default, true, none⟩⟩

instance : Inhabited ObjectType := ⟨⟨0, "", none, [], none⟩⟩

instance : Inhabited UnionType := ⟨⟨"", none, []⟩⟩

/-- A type that is known by its name. -/
inductive NamedType where
  | object (object : ObjectType)
  | union (union : UnionType)

namespace ApiScalar

/-- All simple types. -/
def all : List ApiScalar := [.string, .int, .float, .boolean, .json, .generic]

/-- The name of a simple type. -/
def name : ApiScalar → String
  | .string => "String"
  | .int => "Int"
  | .float => "Float"
  | .boolean => "Boolean"
  | .json => "JSONString"
  | .generic => "GenericScalar"

/-- Does the type have to be declared? -/
def isCustom : ApiScalar → Bool
  | .json => true
  | .generic => true
  | _ => false

end ApiScalar

namespace ApiType

def isScalar : ApiType → Bool
  | .scalar _ => true
  | _ => false

def isList : ApiType → Bool
  | .list _ => true
  | _ => false

def scalar? : ApiType → Option ApiScalar
  | .scalar s => some s
  | _ => none

def object? : ApiType → Option ObjectType
  | .object o => some o
  | _ => none

/-- The type's name with `List` after it for each level of lists; it is fit to be part of another
name. -/
def fragment : ApiType → String
  | .scalar s => s.name
  | .object o => o.name
  | .union u => u.name
  | .list element => element.fragment ++ "List"

end ApiType

/-- A required field without description for a key. -/
def Field.ofKey (source : String) (type : ApiType) : Field :=
  ⟨KeyName.toCamel source, source, type, true, none⟩

def ObjectType.field? (object : ObjectType) (name : String) : Option Field :=
  object.fields.find? (·.name == name)

namespace NamedType

def name : NamedType → String
  | .object o => o.name
  | .union u => u.name

def toType : NamedType → ApiType
  | .object o => .object o
  | .union u => .union u

end NamedType

end ApiSchema
