import ApiSchema.Json.Numeral
import ApiSchema.Json.QuotedText

/-!
# JSON tokens

A text is cut into marks, quoted texts and other scalars.  A token that is ill formed carries its
fault, which counts only where the token may stand; nothing is read after it.
-/

namespace ApiSchema.Json

/-- What a token is. -/
inductive Lexeme where
  | openArray
  | closeArray
  | openObject
  | closeObject
  | comma
  | colon
  | text (content : Except FaultAt String)
  | scalar (value : Except FaultAt Json)
  | finish

/-- A token and the number of bytes before it. -/
structure Token where
  start : Nat
  lexeme : Lexeme

/-- Is the byte a blank between tokens? -/
def isGap (b : UInt8) : Bool := b == 32 || b == 9 || b == 10 || b == 13

/-- Compares the rest of a word with the text after `used` bytes; the answer tells how many bytes
are used then. -/
def readWord (used : Nat) : List UInt8 → List UInt8 → Except FaultAt Nat
  | [], _ => .ok used
  | _ :: _, [] => .error ⟨.endInValue, used⟩
  | w :: word, b :: rest =>
    if w = b then readWord (used + 1) word rest else .error ⟨.expectedWord, used + 1⟩

/-- The token of a reading that starts at `start`, and how many bytes lie after its first one. -/
def tokenOf {α : Type} (start : Nat) (make : Except FaultAt α → Lexeme) :
    Except FaultAt (α × Nat) → Token × Nat
  | .ok (value, used) => (⟨start, make (.ok value)⟩, used - 1)
  | .error fault => (⟨start, make (.error { fault with offset := start + fault.offset })⟩, 0)

def readWordValue (value : Json) (word rest : List UInt8) : Except FaultAt (Json × Nat) :=
  (readWord 1 word rest).map fun used => (value, used)

/-- The token that starts with the byte `b`, and how many bytes lie after its first one. -/
def firstToken (start : Nat) (b : UInt8) (rest : List UInt8) : Token × Nat :=
  match b.toNat with
  | 0x5B => (⟨start, .openArray⟩, 0)
  | 0x5D => (⟨start, .closeArray⟩, 0)
  | 0x7B => (⟨start, .openObject⟩, 0)
  | 0x7D => (⟨start, .closeObject⟩, 0)
  | 0x2C => (⟨start, .comma⟩, 0)
  | 0x3A => (⟨start, .colon⟩, 0)
  | 0x22 =>
    tokenOf start .text ((readQuoted 1 [] rest).map fun (bytes, used) => (decodeBytes bytes, used))
  | 0x6E => tokenOf start .scalar (readWordValue .null "ull".toUTF8.toList rest)
  | 0x74 => tokenOf start .scalar (readWordValue (.bool true) "rue".toUTF8.toList rest)
  | 0x66 => tokenOf start .scalar (readWordValue (.bool false) "alse".toUTF8.toList rest)
  | 0x2D => number
  | code =>
    if 48 ≤ code && code ≤ 57 then number
    else (⟨start, .scalar (.error ⟨.expectedValue, start + 1⟩)⟩, 0)
where
  /-- A token that starts like a number. -/
  number : Token × Nat :=
    tokenOf start .scalar ((readNumeral (b :: rest)).map fun (n, used) => (.number n, used))

/-- Is the token ill formed? -/
def Lexeme.isFaulty : Lexeme → Bool
  | .text (.error _) => true
  | .scalar (.error _) => true
  | _ => false

/-- The tokens of a text that follows `start` bytes, up to the end or the first ill-formed one. -/
def tokens (start : Nat) : List UInt8 → List Token
  | [] => [⟨start, .finish⟩]
  | b :: rest =>
    if isGap b then tokens (start + 1) rest
    else
      let (token, extra) := firstToken start b rest
      if token.lexeme.isFaulty then [token]
      else token :: tokens (start + 1 + extra) (rest.drop extra)
termination_by bytes => bytes.length
decreasing_by all_goals simp only [List.length_cons, List.length_drop]; omega

end ApiSchema.Json
