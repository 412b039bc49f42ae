import ApiSchema.Json.QuotedText
import ApiSchema.JsonSchema.Violation

/-!
# References

A reference is a number sign and a pointer.  The pointer's parts lead from a value to one inside
it: a key of an object or a position in an array.  Bytes of a pointer can be written by a percent
sign and two digits.
-/

namespace ApiSchema.JsonSchema

/-- The key that a part of a pointer stands for: `~1` is a slash and `~0` a tilde. -/
def unescaped : List Char → List Char
  | '~' :: '1' :: rest => '/' :: unescaped rest
  | '~' :: '0' :: rest => '~' :: unescaped rest
  | c :: rest => c :: unescaped rest
  | [] => []

/-- Reading a key back from a pointer gives the key. -/
theorem unescaped_flatMap_escapedChar (key : List Char) :
    unescaped (key.flatMap escapedChar) = key := by
  induction key with
  | nil => rfl
  | cons c rest ih =>
    by_cases tilde : c = '~'
    · subst tilde; simp [escapedChar, unescaped, ih]
    by_cases slash : c = '/'
    · subst slash; simp [escapedChar, unescaped, ih]
    · simp [escapedChar, unescaped, tilde, slash, ih]

/-- The bytes that a text with percent signs stands for. -/
def percentDecoded : List UInt8 → List UInt8
  | 0x25 :: a :: b :: rest =>
    match Json.hexValue? a, Json.hexValue? b with
    | some high, some low => UInt8.ofNat (high * 16 + low) :: percentDecoded rest
    | _, _ => 0x25 :: percentDecoded (a :: b :: rest)
  | byte :: rest => byte :: percentDecoded rest
  | [] => []

/-- The position that a part of a pointer spells. -/
def positionOfText? (text : List Char) : Option Nat :=
  let digits := match text with
    | '+' :: rest => rest
    | text => text
  if digits.isEmpty || !digits.all Char.isDigit then none
  else some (digits.foldl (fun n d => n * 10 + (d.toNat - 48)) 0)

/-- The value that the parts of a pointer lead to. -/
def followParts (pointer : String) : List (List Char) → Json → Except Complaint Json
  | [], value => .ok value
  | part :: rest, .array items =>
    match positionOfText? part with
    | none => .error (.badIndex pointer (String.ofList part))
    | some position =>
      match items[position]? with
      | some item => followParts pointer rest item
      | none => .error (.leadsNowhere pointer)
  | part :: rest, value =>
    match value.get? (String.ofList (unescaped part)) with
    | some inner => followParts pointer rest inner
    | none => .error (.leadsNowhere pointer)

/-- The value that a reference leads to from the whole of a schema file. -/
def resolve (reference : String) (document : Json) : Except Complaint Json :=
  let pointer := (reference.dropPrefix "#").toString
  match pointer.toList with
  | [] => .ok document
  | first :: rest =>
    if first ≠ '/' then .error (.leadsNowhere pointer)
    else
      match String.fromUTF8? ⟨(percentDecoded (String.ofList rest).toUTF8.toList).toArray⟩ with
      | some parts => followParts pointer (Text.pieces '/' parts.toList) document
      | none => .error (.badEncoding pointer)

mutual

def referencesIn : Json → List String
  | .object members => referencesInMembers members
  | .array items => referencesInItems items
  | _ => []

def referencesInMembers : List (String × Json) → List String
  | [] => []
  | ("$ref", .string target) :: rest => target :: referencesInMembers rest
  | (_, value) :: rest => referencesIn value ++ referencesInMembers rest

def referencesInItems : List Json → List String
  | [] => []
  | item :: rest => referencesIn item ++ referencesInItems rest

end

end ApiSchema.JsonSchema
