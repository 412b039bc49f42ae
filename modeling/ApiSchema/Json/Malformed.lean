/-!
# What can be wrong with JSON text

A fault is a kind of mistake; a `Malformed` report adds the place, counted in lines and in bytes of
the line.
-/

namespace ApiSchema.Json

/-- A kind of mistake in JSON text. -/
inductive Fault where
  | endInValue
  | endInList
  | endInObject
  | endInString
  | expectedValue
  | expectedWord
  | expectedColon
  | expectedItemEnd
  | expectedMemberEnd
  | keyNotString
  | trailingComma
  | trailingCharacters
  | invalidNumber
  | numberOutOfRange
  | invalidEscape
  | controlCharacter
  | endOfEscape
  | loneSurrogate
  | tooDeep
  deriving DecidableEq, Repr

def Fault.message : Fault → String
  | .endInValue => "EOF while parsing a value"
  | .endInList => "EOF while parsing a list"
  | .endInObject => "EOF while parsing an object"
  | .endInString => "EOF while parsing a string"
  | .expectedValue => "expected value"
  | .expectedWord => "expected ident"
  | .expectedColon => "expected `:`"
  | .expectedItemEnd => "expected `,` or `]`"
  | .expectedMemberEnd => "expected `,` or `\x7d`"
  | .keyNotString => "key must be a string"
  | .trailingComma => "trailing comma"
  | .trailingCharacters => "trailing characters"
  | .invalidNumber => "invalid number"
  | .numberOutOfRange => "number out of range"
  | .invalidEscape => "invalid escape"
  | .controlCharacter => "control character (\\u0000-\\u001F) found while parsing a string"
  | .endOfEscape => "unexpected end of hex escape"
  | .loneSurrogate => "lone leading surrogate in hex escape"
  | .tooDeep => "recursion limit exceeded"

/-- A fault together with the number of bytes up to and including the one it is reported at. -/
structure FaultAt where
  fault : Fault
  offset : Nat
  deriving DecidableEq, Repr

/-- A fault in a text, with its line and the byte of that line, both counted from one. -/
structure Malformed where
  fault : Fault
  line : Nat
  column : Nat
  deriving DecidableEq, Repr

/-- The line and column that the bytes of a text lead to. -/
def position (before : List UInt8) : Nat × Nat :=
  (1 + before.count 10, (before.reverse.takeWhile (· != 10)).length)

/-- The report of a fault found in the bytes of a text. -/
def FaultAt.locate (bytes : List UInt8) (f : FaultAt) : Malformed :=
  let (line, column) := position (bytes.take f.offset)
  ⟨f.fault, line, column⟩

/-- The wording of a report. -/
def Malformed.message (m : Malformed) : String :=
  s!"{m.fault.message} at line {m.line} column {m.column}"

end ApiSchema.Json
