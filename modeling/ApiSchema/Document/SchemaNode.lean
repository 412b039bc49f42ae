import ApiSchema.Document.Kind

/-!
# Schema nodes

The shape of a document or of one of its fields.  A constraint can stand in place of a shape: the
name of a document, a choice between shapes, or a check that is known by its name only.
-/

namespace ApiSchema

/-- A simple value's type. -/
inductive ScalarKind where
  | string
  | integer
  | float
  | boolean
  | any
  deriving DecidableEq, Repr

mutual

/-- The shape of a value. -/
inductive SchemaNode where
  | scalar (kind : ScalarKind)
  | optional (inner : SchemaNode)
  | union (alternatives : List SchemaNode)
  | object (fields : List (String × SchemaNode))
  | list (element : SchemaNode)
  | map (value : SchemaNode)
  | reference (target : DocumentKind)
  | validated (constraint : Constraint)

/-- A constraint in place of a shape. -/
inductive Constraint where
  | documentName (target : DocumentKind)
  | alternatives (nodes : List SchemaNode)
  | custom (name : String)

end

namespace ScalarKind

/-- All types of simple values. -/
def all : List ScalarKind := [.string, .integer, .float, .boolean, .any]

/-- The name of a simple value's type. -/
def name : ScalarKind → String
  | .string => "string"
  | .integer => "integer"
  | .float => "float"
  | .boolean => "boolean"
  | .any => "any"

end ScalarKind

def Constraint.name : Constraint → String
  | .documentName _ => "doc_reference"
  | .alternatives _ => "alternatives"
  | .custom name => name

end ApiSchema
