import ApiSchema.Json.Printer

/-!
# Violations of a schema

What is wrong with a value under a schema, and where in the value.
-/

namespace ApiSchema.JsonSchema

open Json (quoted)
open Text (join)

/-- A type of values that a schema can ask for. -/
inductive TypeName where
  | array
  | boolean
  | integer
  | null
  | number
  | object
  | string
  deriving DecidableEq, Repr

namespace TypeName

def all : List TypeName := [.array, .boolean, .integer, .null, .number, .object, .string]

def name : TypeName → String
  | .array => "array"
  | .boolean => "boolean"
  | .integer => "integer"
  | .null => "null"
  | .number => "number"
  | .object => "object"
  | .string => "string"

def ofName? (name : String) : Option TypeName := all.find? (·.name == name)

def holds : TypeName → Json → Bool
  | .array, .array _ => true
  | .boolean, .bool _ => true
  | .integer, .number n => n.isWhole
  | .null, .null => true
  | .number, .number _ => true
  | .object, .object _ => true
  | .string, .string _ => true
  | _, _ => false

end TypeName

/-- A step from a value to one inside it. -/
inductive PathStep where
  | key (name : String)
  | index (n : Nat)
  deriving DecidableEq

/-- How a pointer writes a character of a key. -/
def escapedChar (c : Char) : List Char :=
  if c = '~' then ['~', '0'] else if c = '/' then ['~', '1'] else [c]

/-- The text of a step: a tilde and a slash in a key are written `~0` and `~1`. -/
def PathStep.text : PathStep → String
  | .key name => String.ofList (name.toList.flatMap escapedChar)
  | .index n => toString n

/-- The pointer to the value that the steps lead to. -/
def pointer (path : List PathStep) : String :=
  String.join (path.map fun step => "/" ++ step.text)

/-- What is wrong with a value. -/
inductive Complaint where
  | wrongType (value : Json) (types : List TypeName)
  | missingKey (key : String)
  | unexpectedKeys (keys : List String)
  | notInEnum (value : Json) (options : List Json)
  | notConst (expected : Json)
  | noMatch (value : Json) (pattern : String)
  | noneOfAny (value : Json)
  | noneOfOne (value : Json)
  | manyOfOne (value : Json)
  | forbidden (value : Json)
  | tooFewItems (value : Json)
  | repeatedItems (value : Json)
  | notPattern (value : Json)
  | leadsNowhere (pointer : String)
  | badIndex (pointer index : String)
  | badEncoding (pointer : String)

/-- The types of a list, each once and by name. -/
def sortedTypes (types : List TypeName) : List TypeName :=
  TypeName.all.filter types.contains

/-- The wording of a wrong type. -/
def typeMessage (value : Json) (types : List TypeName) : String :=
  match sortedTypes types with
  | [single] => s!"{value.compact} is not of type \"{single.name}\""
  | several =>
    value.compact ++ " is not of types " ++ join ", " (several.map fun t => "\"" ++ t.name ++ "\"")

def Complaint.message : Complaint → String
  | .wrongType value types => typeMessage value types
  | .missingKey key => s!"{quoted key} is a required property"
  | .unexpectedKeys keys =>
    "Additional properties are not allowed (" ++ join ", " (keys.map fun k => "'" ++ k ++ "'") ++
      (if keys.length = 1 then " was unexpected)" else " were unexpected)")
  | .notInEnum value options =>
    s!"{value.compact} is not one of {(Json.array options).compact}"
  | .notConst expected => s!"{expected.compact} was expected"
  | .noMatch value pattern => s!"{value.compact} does not match \"{pattern}\""
  | .noneOfAny value =>
    s!"{value.compact} is not valid under any of the schemas listed in the 'anyOf' keyword"
  | .noneOfOne value =>
    s!"{value.compact} is not valid under any of the schemas listed in the 'oneOf' keyword"
  | .manyOfOne value =>
    s!"{value.compact} is valid under more than one of the schemas listed in the 'oneOf' keyword"
  | .forbidden value => s!"False schema does not allow {value.compact}"
  | .tooFewItems value => s!"{value.compact} has less than 1 item"
  | .repeatedItems value => s!"{value.compact} has non-unique elements"
  | .notPattern value => s!"{value.compact} is not a \"regex\""
  | .leadsNowhere pointer => s!"Pointer '{pointer}' does not exist"
  | .badIndex pointer index => s!"Failed to parse array index '{index}' in pointer '{pointer}'"
  | .badEncoding pointer =>
    s!"Invalid percent encoding in pointer '{pointer}'" ++
      ": the decoded bytes do not represent valid UTF-8"

/-- Something wrong with the value that a path leads to. -/
structure Violation where
  path : List PathStep
  complaint : Complaint

namespace Violation

def pointer (v : Violation) : String := JsonSchema.pointer v.path

def message (v : Violation) : String := v.complaint.message

/-- Place and complaint in one line. -/
def display (v : Violation) : String := s!"{v.pointer}: {v.message}"

end Violation

end ApiSchema.JsonSchema
