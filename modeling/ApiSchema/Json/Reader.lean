import ApiSchema.Json.Token

/-!
# Reading JSON

A machine reads the tokens of a text one by one.  Its state is what it expects next, with the
container it is filling, and the unfinished containers around that one.  The number of containers
that may be open at once is limited, by `depthLimit` unless the reader says otherwise.
-/

namespace ApiSchema.Json

/-- An unfinished container that waits for the value inside it. -/
inductive Frame where
  | array (done : List Json)
  | object (done : List (String × Json)) (key : String)

/-- What may come next.  Items that are done stand in reverse. -/
inductive Expectation where
  | value
  | item (done : List Json) (first : Bool)
  | itemEnd (done : List Json)
  | key (done : List (String × Json)) (first : Bool)
  | colon (done : List (String × Json)) (key : String)
  | memberEnd (done : List (String × Json))
  | nothing (value : Json)

/-- The state of the machine. -/
structure ReaderState where
  around : List Frame
  next : Expectation

/-- How many containers may be open at once in a file. -/
def depthLimit : Nat := 127

/-- The state after a value that stands inside the given containers. -/
def place (value : Json) : List Frame → ReaderState
  | [] => ⟨[], .nothing value⟩
  | .array done :: around => ⟨around, .itemEnd (value :: done)⟩
  | .object done key :: around => ⟨around, .memberEnd (Keyed.insert key value done)⟩

/-- Opens a container inside the given ones. -/
def enter (limit : Nat) (token : Token) (around : List Frame) (next : Expectation) :
    Except FaultAt ReaderState :=
  if around.length < limit then .ok ⟨around, next⟩ else .error ⟨.tooDeep, token.start + 1⟩

/-- Reads the first token of a value that stands inside the given containers. -/
def startValue (limit : Nat) (token : Token) (around : List Frame) :
    Except FaultAt ReaderState :=
  match token.lexeme with
  | .openArray => enter limit token around (.item [] true)
  | .openObject => enter limit token around (.key [] true)
  | .text content => content.map fun s => place (.string s) around
  | .scalar value => value.map fun v => place v around
  | .finish => .error ⟨.endInValue, token.start⟩
  | _ => .error ⟨.expectedValue, token.start + 1⟩

/-- A fault at the first byte of a token, or the one for the end of the text. -/
def unexpected (token : Token) (fault atEnd : Fault) : Except FaultAt ReaderState :=
  match token.lexeme with
  | .finish => .error ⟨atEnd, token.start⟩
  | _ => .error ⟨fault, token.start + 1⟩

/-- Reads a token where an object's key may stand. -/
def startKey (token : Token) (state : ReaderState) (done : List (String × Json)) (first : Bool) :
    Except FaultAt ReaderState :=
  match token.lexeme with
  | .text content => content.map fun key => ⟨state.around, .colon done key⟩
  | .closeObject =>
    if first then .ok (place (.object done) state.around)
    else .error ⟨.trailingComma, token.start + 1⟩
  | _ => unexpected token .keyNotString (if first then .endInObject else .endInValue)

/-- Reads a token where an array's item may stand. -/
def startItem (limit : Nat) (token : Token) (state : ReaderState) (done : List Json)
    (first : Bool) : Except FaultAt ReaderState :=
  match token.lexeme with
  | .closeArray =>
    if first then .ok (place (.array done.reverse) state.around)
    else .error ⟨.trailingComma, token.start + 1⟩
  | .finish => .error ⟨if first then .endInList else .endInValue, token.start⟩
  | _ => startValue limit token (.array done :: state.around)

def step (limit : Nat) (state : ReaderState) (token : Token) : Except FaultAt ReaderState :=
  match state.next, token.lexeme with
  | .value, _ => startValue limit token state.around
  | .item done first, _ => startItem limit token state done first
  | .itemEnd done, .comma => .ok { state with next := .item done false }
  | .itemEnd done, .closeArray => .ok (place (.array done.reverse) state.around)
  | .itemEnd _, _ => unexpected token .expectedItemEnd .endInList
  | .key done first, _ => startKey token state done first
  | .colon done key, .colon => .ok ⟨.object done key :: state.around, .value⟩
  | .colon _ _, _ => unexpected token .expectedColon .endInObject
  | .memberEnd done, .comma => .ok { state with next := .key done false }
  | .memberEnd done, .closeObject => .ok (place (.object done) state.around)
  | .memberEnd _, _ => unexpected token .expectedMemberEnd .endInObject
  | .nothing _, .finish => .ok state
  | .nothing _, _ => .error ⟨.trailingCharacters, token.start + 1⟩

def readTokens (limit : Nat) (tokens : List Token) : Except FaultAt ReaderState :=
  tokens.foldlM (step limit) ⟨[], .value⟩

/-- The value that the bytes of a text spell, with at most `limit` containers open at once. -/
def readWithin (limit : Nat) (bytes : List UInt8) : Except Malformed Json :=
  match readTokens limit (tokens 0 bytes) with
  | .ok ⟨_, .nothing value⟩ => .ok value
  | .ok _ => .error (FaultAt.locate bytes ⟨.endInValue, bytes.length⟩)
  | .error fault => .error (fault.locate bytes)

/-- The value that a text spells. -/
def read (text : String) : Except Malformed Json :=
  readWithin depthLimit text.toUTF8.toList

end ApiSchema.Json
