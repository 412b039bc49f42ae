import ApiSchema.Api.Type
import ApiSchema.Text.Lines

/-!
# GraphQL text

Writes API types in the GraphQL schema language: the custom scalars that are used, then one block
for each type.  A description is a block string before what it describes.
-/

namespace ApiSchema.GraphQL

open Text

/-- How a type is written; an exclamation mark says that a value must be there. -/
def typeText (type : ApiType) (required : Bool) : String :=
  let name := match type with
    | .scalar s => s.name
    | .object o => o.name
    | .union u => u.name
    | .list element => "[" ++ typeText element false ++ "]"
  if required then name ++ "!" else name

/-- The text with a backslash before each three quotes. -/
def escapeQuotes : List Char → List Char
  | '"' :: '"' :: '"' :: rest => '\\' :: '"' :: '"' :: '"' :: escapeQuotes rest
  | c :: rest => c :: escapeQuotes rest
  | [] => []

/-- The three quotes at the ends of a block string. -/
def quotes : List Char := ['"', '"', '"']

/-- The block string of a description, with each of its lines after an indentation. -/
def blockString (indent text : List Char) : List Char :=
  let body := escapeQuotes text
  if body.contains '\n' then
    indent ++ quotes ++ ['\n'] ++
      (lines body).flatMap (fun line => indent ++ line ++ ['\n']) ++
      indent ++ quotes ++ ['\n']
  else indent ++ quotes ++ body ++ quotes ++ ['\n']

/-- The block string of a description, if there is one. -/
def description (indent : String) : Option String → String
  | some text => String.ofList (blockString indent.toList text.toList)
  | none => ""

def fieldText (field : Field) : String :=
  description "  " field.description ++
    s!"  {field.name}: {typeText field.type field.required}\n"

def objectText (object : ObjectType) : String :=
  description "" object.description ++ "type " ++ object.name ++ " \x7b\n" ++
    String.join (object.fields.map fieldText) ++ "\x7d"

def unionText (union : UnionType) : String :=
  description "" union.description ++ "union " ++ union.name ++ " = " ++
    join " | " (union.members.map ObjectType.name)

def namedText : NamedType → String
  | .object o => objectText o
  | .union u => unionText u

def holdsScalar (scalar : ApiScalar) : ApiType → Bool
  | .scalar s => s == scalar
  | .list element => holdsScalar scalar element
  | .object _ => false
  | .union _ => false

/-- Does one of the type's own fields hold the scalar? -/
def usesScalar (scalar : ApiScalar) : NamedType → Bool
  | .object o => o.fields.any fun field => holdsScalar scalar field.type
  | .union _ => false

/-- The blocks that declare the custom scalars in use. -/
def scalarBlocks (types : List NamedType) : List String :=
  (ApiScalar.all.filter fun s => s.isCustom && types.any (usesScalar s)).map fun s =>
    "scalar " ++ s.name

def render (types : List NamedType) : String :=
  let blocks := scalarBlocks types ++ types.map namedText
  if blocks.isEmpty then "" else join "\n\n" blocks ++ "\n"

end ApiSchema.GraphQL
