import ApiSchema.Instance.Basic
import ApiSchema.Json.Shape

/-!
# Steps of a long operation

A step says how far an operation has come.  It has a JSON form, can be read as an instance, and has
an API type of its own.
-/

namespace ApiSchema

open Json (ShapeError)

/-- A step of an operation. -/
structure OperationStep where
  steps : Nat
  current : Nat
  text : String
  isEnd : Bool
  isError : Bool
  deriving DecidableEq

namespace OperationStep

def progress (steps current : Nat) (text : String) : OperationStep :=
  ⟨steps, current, text, false, false⟩

/-- The last step of an operation that succeeded. -/
def finished (steps current : Nat) (text : String) : OperationStep :=
  ⟨steps, current, text, true, false⟩

def failed (steps current : Nat) (text : String) : OperationStep :=
  ⟨steps, current, text, true, true⟩

def toJson (step : OperationStep) : Json :=
  .object
    [("steps", .ofInt step.steps), ("currentStep", .ofInt step.current),
     ("text", .string step.text), ("isEnd", .bool step.isEnd), ("isError", .bool step.isError)]

/-- The least number that does not fit into a step. -/
def countLimit : Int := Nat.pow 2 32

def countOfJson : Json → Except ShapeError Nat
  | .number (.whole n) =>
    if 0 ≤ n && n < countLimit then .ok n.toNat
    else .error (.outOfRange (Json.shown (.number (.whole n))) "u32")
  | value => Json.refuse value "u32"

/-- Reads a true or false value. -/
def boolOfJson : Json → Except ShapeError Bool
  | .bool b => .ok b
  | value => Json.refuse value "a boolean"

/-- What is wrong with a member of a step. -/
def checkMember (member : String × Json) : Except ShapeError Unit :=
  let (key, value) := member
  match key with
  | "steps" => (countOfJson value).map fun _ => ()
  | "currentStep" => (countOfJson value).map fun _ => ()
  | "text" => value.asString.map fun _ => ()
  | "isEnd" => (boolOfJson value).map fun _ => ()
  | "isError" => (boolOfJson value).map fun _ => ()
  | _ => .ok ()

/-- What is asked for where an array has too few items for a step. -/
def fiveItems : String := "struct ProgressStep with 5 elements"

/-- Reads a step from its parts in order. -/
def ofItems (items : List Json) : Except ShapeError OperationStep := do
  let step : OperationStep := {
    steps := ← Json.itemAs 0 items fiveItems countOfJson
    current := ← Json.itemAs 1 items fiveItems countOfJson
    text := ← Json.itemAs 2 items fiveItems Json.asString
    isEnd := ← Json.itemAs 3 items fiveItems boolOfJson
    isError := ← Json.itemAs 4 items fiveItems boolOfJson }
  if items.length ≤ 5 then return step
  else .error (.wrongLength items.length "fewer elements in array")

/-- Reads a step.  A member of the wrong kind is reported before one that is missing. -/
def ofJson : Json → Except ShapeError OperationStep
  | .object members => do
    members.forM checkMember
    return {
      steps := ← Json.memberAs "steps" members countOfJson
      current := ← Json.memberAs "currentStep" members countOfJson
      text := ← Json.memberAs "text" members Json.asString
      isEnd := ← Json.memberAs "isEnd" members boolOfJson
      isError := ← Json.memberAs "isError" members boolOfJson }
  | .array items => ofItems items
  | value => Json.refuse value "struct ProgressStep"

def attribute? (step : OperationStep) (name : String) : Option Json :=
  match name with
  | "steps" => some (.ofInt step.steps)
  | "current_step" => some (.ofInt step.current)
  | "text" => some (.string step.text)
  | "is_end" => some (.bool step.isEnd)
  | "is_error" => some (.bool step.isError)
  | _ => none

def toInstance (step : OperationStep) : Instance :=
  { Instance.empty with attributes := step.attribute? }

def typeField (source : String) (scalar : ApiScalar) (description : String) : Field :=
  { Field.ofKey source (.scalar scalar) with description := some description }

def apiType : ObjectType :=
  { serial := 0
    name := "ResultStep"
    description := some "A step of a long-running operation"
    fields :=
      [typeField "steps" .int "Total number of steps",
       typeField "current_step" .int "Index of the current step",
       typeField "text" .string "Description of the current step",
       typeField "is_end" .boolean "Whether this is the last step",
       typeField "is_error" .boolean "Whether the operation failed"]
    discriminator := none }

end OperationStep

end ApiSchema
