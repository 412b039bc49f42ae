import ApiSchema.Json.Printer
import ApiSchema.Text.Property

/-!
# Shape errors

What is wrong when a JSON value does not have the shape that is asked for.
-/

namespace ApiSchema.Json

open Text

/-- A way in which a value can miss the shape that is asked for. -/
inductive ShapeError where
  | missingField (name : String)
  | unknownVariant (found : String) (known : List String)
  | wrongKind (found wanted : String)
  | outOfRange (found wanted : String)
  | wrongLength (found : Nat) (wanted : String)
  | ownTextNotString (key : String)
  | noAlternative
  deriving DecidableEq, Repr

def backquoted (name : String) : String := "`" ++ name ++ "`"

def ShapeError.message : ShapeError → String
  | .missingField name => "missing field " ++ backquoted name
  | .unknownVariant found known =>
    "unknown variant " ++ backquoted found ++ ", expected one of " ++
      join ", " (known.map backquoted)
  | .wrongKind found wanted => "invalid type: " ++ found ++ ", expected " ++ wanted
  | .outOfRange found wanted => "invalid value: " ++ found ++ ", expected " ++ wanted
  | .wrongLength found wanted => "invalid length " ++ toString found ++ ", expected " ++ wanted
  | .ownTextNotString key => key ++ " must be a string"
  | .noAlternative => "data did not match any variant of untagged enum Raw"

/-- How a message shows a character of a text: one that cannot be seen, by its number. -/
def shownChar (c : Char) : List Char :=
  match c.toNat with
  | 0x00 => ['\\', '0']
  | 0x09 => ['\\', 't']
  | 0x0A => ['\\', 'n']
  | 0x0D => ['\\', 'r']
  | 0x22 => ['\\', '"']
  | 0x5C => ['\\', '\\']
  | code =>
    if Property.visible.holds c then [c]
    else "\\u\x7b".toList ++ Nat.toDigits 16 code ++ "\x7d".toList

/-- How a message shows a value that is of the wrong kind. -/
def shown : Json → String
  | .null => "null"
  | .bool true => "boolean `true`"
  | .bool false => "boolean `false`"
  | .number (.whole n) => "integer " ++ backquoted (JsonNumber.whole n).text
  | .number (.double x) => "floating point " ++ backquoted (JsonNumber.double x).text
  | .string s => "string \"" ++ String.ofList (s.toList.flatMap shownChar) ++ "\""
  | .array _ => "sequence"
  | .object _ => "map"

def refuse {α : Type} (value : Json) (wanted : String) : Except ShapeError α :=
  .error (.wrongKind value.shown wanted)

/-- The text that a value is. -/
def asString : Json → Except ShapeError String
  | .string s => .ok s
  | value => refuse value "a string"

/-- Reads the value under a key, which must be there. -/
def memberAs {α : Type} (key : String) (members : List (String × Json))
    (readAs : Json → Except ShapeError α) : Except ShapeError α :=
  match Keyed.get? key members with
  | some value => readAs value
  | none => .error (.missingField key)

/-- Reads the item at a position of an array, which must be there. -/
def itemAs {α : Type} (position : Nat) (items : List Json) (wanted : String)
    (readAs : Json → Except ShapeError α) : Except ShapeError α :=
  match items[position]? with
  | some value => readAs value
  | none => .error (.wrongLength position wanted)

end ApiSchema.Json
