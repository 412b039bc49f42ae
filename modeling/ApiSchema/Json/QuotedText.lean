import ApiSchema.Json.Malformed

/-!
# Reading quoted text

Reads the bytes of a JSON string up to its closing quote.  An escape of four hexadecimal digits
stands for a code unit; two units of a surrogate pair stand for one character.
-/

namespace ApiSchema.Json

/-- The value of a hexadecimal digit. -/
def hexValue? (b : UInt8) : Option Nat :=
  if 48 ≤ b && b ≤ 57 then some (b.toNat - 48)
  else if 65 ≤ b && b ≤ 70 then some (b.toNat - 55)
  else if 97 ≤ b && b ≤ 102 then some (b.toNat - 87)
  else none

/-- The code unit of four hexadecimal digits. -/
def codeUnit? (a b c d : UInt8) : Option Nat := do
  let a ← hexValue? a
  let b ← hexValue? b
  let c ← hexValue? c
  let d ← hexValue? d
  return ((a * 16 + b) * 16 + c) * 16 + d

/-- The byte that a one-letter escape stands for. -/
def simpleEscape? (b : UInt8) : Option UInt8 :=
  match b.toNat with
  | 0x22 => some 0x22
  | 0x5C => some 0x5C
  | 0x2F => some 0x2F
  | 0x62 => some 0x08
  | 0x66 => some 0x0C
  | 0x6E => some 0x0A
  | 0x72 => some 0x0D
  | 0x74 => some 0x09
  | _ => none

/-- Is the code unit the first of a pair? -/
def isLeading (unit : Nat) : Bool := 0xD800 ≤ unit && unit ≤ 0xDBFF

/-- Is the code unit the second of a pair? -/
def isTrailing (unit : Nat) : Bool := 0xDC00 ≤ unit && unit ≤ 0xDFFF

def encodeCode (code : Nat) : List UInt8 :=
  (String.singleton (Char.ofNat code)).toUTF8.toList

/-- The bytes of a code point in front of the ones already read, which stand in reverse. -/
def pushCode (code : Nat) (done : List UInt8) : List UInt8 :=
  (encodeCode code).reverse ++ done

/-- Reads on to the closing quote.  `used` bytes lie behind, and `done` holds, in reverse, the
bytes they stand for; the answer has all of these and the number of bytes with the quote. -/
def readQuoted (used : Nat) (done : List UInt8) : List UInt8 → Except FaultAt (List UInt8 × Nat)
  | [] => .error ⟨.endInString, used⟩
  | 0x22 :: _ => .ok (done.reverse, used + 1)
  | 0x5C :: 0x75 :: a :: b :: c :: d :: rest =>
    match codeUnit? a b c d with
    | none => .error ⟨.invalidEscape, used + 6⟩
    | some unit =>
      if isTrailing unit then .error ⟨.loneSurrogate, used + 6⟩
      else if !isLeading unit then readQuoted (used + 6) (pushCode unit done) rest
      else
        match rest with
        | 0x5C :: 0x75 :: e :: f :: g :: h :: rest =>
          match codeUnit? e f g h with
          | none => .error ⟨.invalidEscape, used + 12⟩
          | some second =>
            if isTrailing second then
              readQuoted (used + 12)
                (pushCode ((unit - 0xD800) * 0x400 + (second - 0xDC00) + 0x10000) done) rest
            else .error ⟨.loneSurrogate, used + 12⟩
        | 0x5C :: 0x75 :: rest => .error ⟨.endInString, used + 8 + rest.length⟩
        | 0x5C :: _ :: _ => .error ⟨.endOfEscape, used + 8⟩
        | [0x5C] => .error ⟨.endInString, used + 7⟩
        | _ :: _ => .error ⟨.endOfEscape, used + 7⟩
        | [] => .error ⟨.endInString, used + 6⟩
  | 0x5C :: 0x75 :: rest => .error ⟨.endInString, used + 2 + rest.length⟩
  | 0x5C :: e :: rest =>
    match simpleEscape? e with
    | some b => readQuoted (used + 2) (b :: done) rest
    | none => .error ⟨.invalidEscape, used + 2⟩
  | [0x5C] => .error ⟨.endInString, used + 1⟩
  | b :: rest =>
    if b < 0x20 then .error ⟨.controlCharacter, used + 1⟩
    else readQuoted (used + 1) (b :: done) rest

/-- The text that some bytes encode. -/
def decodeBytes (bytes : List UInt8) : String :=
  (String.fromUTF8? ⟨bytes.toArray⟩).getD ""

end ApiSchema.Json
