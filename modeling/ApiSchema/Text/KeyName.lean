import ApiSchema.Text.Casing
import ApiSchema.Text.Lines

/-!
# Names of keys

Documents name their keys in words joined by underscores (`run_as_root`); the API names its fields
in one word with inner capitals (`runAsRoot`).  `toCamel` and `toSnake` convert between the two,
and `capitalized` makes a key fit to continue a type's name.
-/

namespace ApiSchema.KeyName

open Text

/-- A word with a capital first character and a small rest. -/
def capitalWord : List Char → List Char
  | [] => []
  | c :: rest => capitalOf c ++ toSmall rest

/-- The first word as it is, followed by the other words with capitals. -/
def camelOfWords : List (List Char) → List Char
  | [] => []
  | first :: others => first ++ (others.map capitalWord).flatten

/-- The API name of a key: `some_field_value` becomes `someFieldValue`. -/
def toCamel (key : String) : String :=
  String.ofList (camelOfWords (pieces '_' key.toList))

/-- Is the character one of `A` to `Z`? -/
def isUpperLetter (c : Char) : Bool := 'A' ≤ c && c ≤ 'Z'

/-- Is the character one of `a` to `z`? -/
def isLowerLetter (c : Char) : Bool := 'a' ≤ c && c ≤ 'z'

/-- Is the character one of `0` to `9`? -/
def isDigit (c : Char) : Bool := '0' ≤ c && c ≤ '9'

/-- Puts a boundary before each capital that starts a run of small letters and has a character
other than a newline before it.  `inRun` says that the run of the last such capital still lasts,
so that its letters cannot be that character. -/
def markWords (inRun : Bool) : List Char → List Char
  | c :: u :: l :: rest =>
    if inRun && isLowerLetter c then c :: markWords true (u :: l :: rest)
    else if c ≠ '\n' && isUpperLetter u && isLowerLetter l then
      c :: '_' :: u :: markWords true (l :: rest)
    else c :: markWords false (u :: l :: rest)
  | short => short

/-- Puts a boundary between a small letter or digit and a capital. -/
def markCapitals : List Char → List Char
  | c :: u :: rest =>
    if (isLowerLetter c || isDigit c) && isUpperLetter u then
      c :: '_' :: markCapitals (u :: rest)
    else c :: markCapitals (u :: rest)
  | short => short

/-- The key of an API name: `someFieldValue` becomes `some_field_value`, and `HTTPServer` becomes
`http_server`. -/
def toSnake (name : String) : String :=
  String.ofList (toSmall (markCapitals (markWords false name.toList)))

/-- The name with a capital first character and an unchanged rest. -/
def capitalized (name : String) : String :=
  match name.toList with
  | [] => ""
  | c :: rest => String.ofList (capitalOf c ++ rest)

end ApiSchema.KeyName
