import ApiSchema.Document.Kind
import ApiSchema.Documentation.Docstring

/-!
# Errors of synthesis

Why a document or a part of it has no API type.  Each error names the generated name at which it
arose.
-/

namespace ApiSchema

open Documentation (DocError valueTerm)

/-- Why there is no API type. -/
inductive SynthesisFault where
  /-- A document refers back to itself through the documents in between. -/
  | cycle (names : List String)
  | documentNotObject
  | noDefinition (kind : DocumentKind)
  | fieldClash (key earlier name : String)
  | emptyUnion
  | listAlternative
  | noValueTerm
  | entryNameTaken
  | nameOfUnion
  | nameOfObject
  | noFields
  | documentation (error : DocError)
  | mixedUnion
  | unsupportedConstraint (name : String)
  | ambiguousUnion
  deriving DecidableEq

def SynthesisFault.message : SynthesisFault → String
  | .cycle names => "cyclic document reference: " ++ Text.join " -> " names
  | .documentNotObject => "only objects are allowed as top-level document schemas"
  | .noDefinition kind => s!"no document definition for kind '{kind.name}'"
  | .fieldClash key earlier name => s!"{key} and {earlier} both generate the field {name}"
  | .emptyUnion => "union has no alternatives"
  | .listAlternative => "lists cannot be union alternatives"
  | .noValueTerm => "mapping documentation must describe its values under " ++ valueTerm
  | .entryNameTaken => "entry record name collides with a generated type"
  | .nameOfUnion => "name is already used by a union type"
  | .nameOfObject => "name is already used by an object type"
  | .noFields => "object has no documented fields to generate"
  | .documentation error => error.message
  | .mixedUnion => "union mixes scalar and non-scalar alternatives"
  | .unsupportedConstraint name => s!"unsupported validator '{name}'"
  | .ambiguousUnion => "union of different scalars is not allowed in strict mode"

/-- A fault and the generated name at which it arose. -/
structure SynthesisError where
  path : String
  fault : SynthesisFault
  deriving DecidableEq

def SynthesisError.message (e : SynthesisError) : String :=
  s!"schema conversion: {e.path}: {e.fault.message}"

def SynthesisError.exitCode (_ : SynthesisError) : Nat := 2

end ApiSchema
