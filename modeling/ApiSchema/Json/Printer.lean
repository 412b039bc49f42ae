import ApiSchema.Json.Basic
import ApiSchema.Text.Lines

/-!
# Writing JSON

`compact` writes a value without blanks; `pretty` writes it with two spaces per level and one item
a line, empty containers apart.
-/

namespace ApiSchema.Json

open Text

/-- A digit of a base up to sixteen. -/
def hexDigit (n : Nat) : Char := (Nat.toDigits 16 (n % 16)).headD '0'

/-- The four-digit escape of a code below `2 ^ 16`. -/
def codeEscape (code : Nat) : List Char :=
  ['\\', 'u', hexDigit (code / 4096), hexDigit (code / 256), hexDigit (code / 16), hexDigit code]

/-- How a character is written inside a JSON string. -/
def escaped (c : Char) : List Char :=
  match c.toNat with
  | 0x22 => ['\\', '"']
  | 0x5C => ['\\', '\\']
  | 0x08 => ['\\', 'b']
  | 0x0C => ['\\', 'f']
  | 0x0A => ['\\', 'n']
  | 0x0D => ['\\', 'r']
  | 0x09 => ['\\', 't']
  | code => if code < 0x20 then codeEscape code else [c]

def quoted (text : String) : String :=
  "\"" ++ String.ofList (text.toList.flatMap escaped) ++ "\""

mutual

/-- The value without blanks. -/
def compact : Json → String
  | .null => "null"
  | .bool true => "true"
  | .bool false => "false"
  | .number n => n.text
  | .string s => quoted s
  | .array items => "[" ++ join "," (compactItems items) ++ "]"
  | .object members => "\x7b" ++ join "," (compactMembers members) ++ "\x7d"

/-- Each item without blanks. -/
def compactItems : List Json → List String
  | [] => []
  | item :: rest => compact item :: compactItems rest

/-- Each member without blanks. -/
def compactMembers : List (String × Json) → List String
  | [] => []
  | (key, value) :: rest => (quoted key ++ ":" ++ compact value) :: compactMembers rest

end

def indentation (level : Nat) : String :=
  String.ofList (List.replicate (2 * level) ' ')

/-- Parts between brackets, each on a line of its own one level deeper than the brackets. -/
def block (openMark closeMark : String) (level : Nat) (parts : List String) : String :=
  if parts.isEmpty then openMark ++ closeMark
  else
    let start := "\n" ++ indentation (level + 1)
    openMark ++ start ++ join ("," ++ start) parts ++ "\n" ++ indentation level ++ closeMark

mutual

/-- The value at a level of indentation. -/
def prettyAt (level : Nat) : Json → String
  | .array items => block "[" "]" level (prettyItems (level + 1) items)
  | .object members => block "\x7b" "\x7d" level (prettyMembers (level + 1) members)
  | .null => "null"
  | .bool true => "true"
  | .bool false => "false"
  | .number n => n.text
  | .string s => quoted s

def prettyItems (level : Nat) : List Json → List String
  | [] => []
  | item :: rest => prettyAt level item :: prettyItems level rest

def prettyMembers (level : Nat) : List (String × Json) → List String
  | [] => []
  | (key, value) :: rest =>
    (quoted key ++ ": " ++ prettyAt level value) :: prettyMembers level rest

end

/-- The value on several lines. -/
def pretty (value : Json) : String := prettyAt 0 value

end ApiSchema.Json
