import ApiSchema.Text.CaseTables
import ApiSchema.Text.Property

/-!
# Full case mapping

Capital and small forms of characters by the standard's tables.  A capital form can be several
characters long.  The small form of a capital sigma depends on whether it ends a word.
-/

namespace ApiSchema.Text

/-- The capital form of a character. -/
def capitalOf (c : Char) : List Char :=
  match longCapitals.find? (·.1 == c.toNat) with
  | some (_, codes) => codes.map Char.ofNat
  | none => [shiftBy capitals c]

/-- The small form of a character outside any word. -/
def smallOf (c : Char) : List Char :=
  if c.toNat = 0x130 then ['i', Char.ofNat 0x307] else [shiftBy smalls c]

/-- Is the first character that matters for a word's end a cased one? -/
def reachesCased (text : List Char) : Bool :=
  match text.dropWhile Property.caseIgnorable.holds with
  | [] => false
  | c :: _ => Property.cased.holds c

/-- The small form of a text that follows the characters `before`, nearest first.  A sigma is
final when a cased character stands before it and none after it. -/
def smallAfter (before : List Char) : List Char → List Char
  | [] => []
  | c :: rest =>
    let small :=
      if c.toNat = 0x3A3 then
        if reachesCased before && !reachesCased rest then [Char.ofNat 0x3C2] else [Char.ofNat 0x3C3]
      else smallOf c
    small ++ smallAfter (c :: before) rest

/-- The small form of a text. -/
def toSmall (text : List Char) : List Char :=
  smallAfter [] text

end ApiSchema.Text
