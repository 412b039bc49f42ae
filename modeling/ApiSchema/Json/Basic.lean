import ApiSchema.Keyed
import ApiSchema.Number.Notation

/-!
# JSON values

Objects keep the order of their members.  A number is a whole number or a double, as it was
written, and values are compared by what they stand for: `1` and `1.0` are the same value.
-/

namespace ApiSchema

open Number

/-- A JSON number. -/
inductive JsonNumber where
  | whole (value : Int)
  | double (value : Double)
  deriving DecidableEq

/-- A JSON value. -/
inductive Json where
  | null
  | bool (value : Bool)
  | number (value : JsonNumber)
  | string (value : String)
  | array (items : List Json)
  | object (members : List (String × Json))
  deriving Inhabited

namespace JsonNumber

def sameValue : JsonNumber → JsonNumber → Bool
  | .whole a, .whole b => a == b
  | .whole a, .double b => b.equalsInt a
  | .double a, .whole b => a.equalsInt b
  | .double a, .double b => a.sameValue b

def toDouble : JsonNumber → Double
  | .whole n => .ofInt n
  | .double x => x

def isWhole : JsonNumber → Bool
  | .whole _ => true
  | .double x => x.isWhole

def text : JsonNumber → String
  | .whole n => String.ofList (intText n)
  | .double x => String.ofList x.text

end JsonNumber

namespace Json

def ofInt (n : Int) : Json := .number (.whole n)

/-- The value of an optional text, `null` when it is absent. -/
def ofOption : Option String → Json
  | some s => .string s
  | none => .null

def members? : Json → Option (List (String × Json))
  | .object members => some members
  | _ => none

/-- The value under a key of an object. -/
def get? (key : String) : Json → Option Json
  | .object members => Keyed.get? key members
  | _ => none

mutual

/-- Do two values stand for the same thing?  The order of members does not matter. -/
def sameValue : Json → Json → Bool
  | .null, .null => true
  | .bool a, .bool b => a == b
  | .number a, .number b => a.sameValue b
  | .string a, .string b => a == b
  | .array xs, .array ys => sameItems xs ys
  | .object ms, .object ns => ms.length == ns.length && sameMembers ms ns
  | _, _ => false

/-- Do two lists hold the same values in the same order? -/
def sameItems : List Json → List Json → Bool
  | [], [] => true
  | x :: xs, y :: ys => sameValue x y && sameItems xs ys
  | _, _ => false

/-- Does an object have all the given members? -/
def sameMembers : List (String × Json) → List (String × Json) → Bool
  | [], _ => true
  | (key, value) :: rest, others =>
    (match Keyed.get? key others with
      | some other => sameValue value other
      | none => false) && sameMembers rest others

end

/-- Is a value the one that is asked for?  Two numbers need only be near to each other. -/
def matchesConst : Json → Json → Bool
  | .number a, .number b => a.toDouble.isNear b.toDouble
  | wanted, value => wanted.sameValue value

end Json

end ApiSchema
