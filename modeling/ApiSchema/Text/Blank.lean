/-!
# Blank characters

The white space of the standard, and trimming by it.  Text is trimmed as a list of characters;
`leadingBytes` measures an indentation in bytes of the encoded text.
-/

namespace ApiSchema.Text

/-- The twenty-five characters with the White_Space property. -/
def blanks : List Nat :=
  [0x9, 0xA, 0xB, 0xC, 0xD, 0x20, 0x85, 0xA0, 0x1680, 0x2000, 0x2001, 0x2002, 0x2003, 0x2004,
   0x2005, 0x2006, 0x2007, 0x2008, 0x2009, 0x200A, 0x2028, 0x2029, 0x202F, 0x205F, 0x3000]

/-- Is the character white space? -/
def isBlank (c : Char) : Bool :=
  blanks.contains c.toNat

/-- The text without its leading white space. -/
def trimStart (text : List Char) : List Char :=
  text.dropWhile isBlank

/-- The text without the longest final part whose characters all satisfy `drop`. -/
def dropEndWhile (drop : Char → Bool) : List Char → List Char
  | [] => []
  | c :: rest =>
    match dropEndWhile drop rest with
    | [] => if drop c then [] else [c]
    | kept => c :: kept

/-- The text without its trailing white space. -/
def trimEnd (text : List Char) : List Char :=
  dropEndWhile isBlank text

/-- The size of a text in bytes when it is encoded. -/
def byteLength (text : List Char) : Nat :=
  text.foldl (fun size c => size + c.utf8Size) 0

/-- The size in bytes of the leading white space. -/
def leadingBytes (text : List Char) : Nat :=
  byteLength (text.takeWhile isBlank)

end ApiSchema.Text
