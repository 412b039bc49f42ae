import ApiSchema.Pattern.Escape

/-!
# Bracketed sets

Reads a set in brackets: characters, ranges, escapes, named classes and inner sets, which are put
together, and the operators that take the sets before and after them.  Operators are applied from
the left.
-/

namespace ApiSchema.Pattern

open Text (CharSet)

/-- An operator on sets. -/
inductive SetOperator where
  | both
  | without
  | apart
  deriving DecidableEq

def SetOperator.apply : SetOperator → CharSet → CharSet → CharSet
  | .both => .both
  | .without => .without
  | .apart => .apart

/-- The operator at the start of a text. -/
def operator? : List Char → Option SetOperator
  | '&' :: '&' :: _ => some .both
  | '-' :: '-' :: _ => some .without
  | '~' :: '~' :: _ => some .apart
  | _ => none

/-- A set whose closing bracket has not been read. -/
structure OpenSet where
  negated : Bool
  /-- The set before the last operator. -/
  left : Option (CharSet × SetOperator)
  /-- The items after it. -/
  items : List CharSet

namespace OpenSet

def add (s : OpenSet) (item : CharSet) : OpenSet := { s with items := item :: s.items }

/-- The set that has been read so far. -/
def chars (ignoreCase : Bool) (s : OpenSet) : CharSet :=
  let right := CharSet.union s.items.reverse
  match s.left with
  | some (left, operator) =>
    operator.apply (usedSet ignoreCase false left) (usedSet ignoreCase false right)
  | none => right

def operate (ignoreCase : Bool) (s : OpenSet) (operator : SetOperator) : OpenSet :=
  { s with left := some (s.chars ignoreCase, operator), items := [] }

def close (ignoreCase : Bool) (s : OpenSet) : CharSet :=
  usedSet ignoreCase s.negated (s.chars ignoreCase)

end OpenSet

/-- Reads the start of a set after its bracket: a circumflex turns it around, and hyphens or a
bracket that follow stand for themselves. -/
def openSet (text : List Char) : OpenSet × List Char :=
  let (negated, text) := match text with
    | '^' :: rest => (true, rest)
    | text => (false, text)
  let hyphens := text.takeWhile (· == '-')
  let s : OpenSet := ⟨negated, none, hyphens.map CharSet.single⟩
  match hyphens, text.drop hyphens.length with
  | [], ']' :: rest => (s.add (.single ']'), rest)
  | _, rest => (s, rest)

/-- The class with a name that stands between colons. -/
def namedClass? : String → Option CharSet
  | "alnum" => rangeSet [(0x30, 0x39), (0x41, 0x5A), (0x61, 0x7A)]
  | "alpha" => rangeSet [(0x41, 0x5A), (0x61, 0x7A)]
  | "ascii" => rangeSet [(0, 0x7F)]
  | "blank" => rangeSet [(0x9, 0x9), (0x20, 0x20)]
  | "cntrl" => rangeSet [(0, 0x1F), (0x7F, 0x7F)]
  | "digit" => digitSet .plain
  | "graph" => rangeSet [(0x21, 0x7E)]
  | "lower" => rangeSet [(0x61, 0x7A)]
  | "print" => rangeSet [(0x20, 0x7E)]
  | "punct" => rangeSet [(0x21, 0x2F), (0x3A, 0x40), (0x5B, 0x60), (0x7B, 0x7E)]
  | "space" => rangeSet [(0x9, 0xD), (0x20, 0x20)]
  | "upper" => rangeSet [(0x41, 0x5A)]
  | "word" => wordSet .plain
  | "xdigit" => hexSet
  | _ => none

/-- The named class at the start of a text after its bracket and colon, and the text after it. -/
def classAt? (ignoreCase : Bool) (text : List Char) : Option (CharSet × List Char) := do
  let (negated, text) := match text with
    | '^' :: rest => (true, rest)
    | text => (false, text)
  let (name, rest) ← cutAt ':' text
  match rest with
  | ']' :: rest => return (usedSet ignoreCase negated (← namedClass? (String.ofList name)), rest)
  | _ => none

/-- Reads a character or an escape of a set. -/
def readItem (grammar : Grammar) : List Char → Read Escape
  | '\\' :: text => readEscape grammar true text
  | c :: rest => .ok (.char c, rest)
  | [] => .error .malformed

/-- Does a hyphen at the start of the text make a range? -/
def startsRange : List Char → Bool
  | '-' :: ']' :: _ => false
  | '-' :: '-' :: _ => false
  | '-' :: _ => true
  | _ => false

/-- Reads a character, a range or an escape of a set. -/
def readRange (grammar : Grammar) (ignoreCase : Bool) (text : List Char) :
    Except Refusal (CharSet × List Char) := do
  let (first, rest) ← readItem grammar text
  match first with
  | .char a =>
    if startsRange rest then
      let (last, rest) ← readItem grammar (rest.drop 1)
      match last with
      | .char b =>
        if a ≤ b then return (.between a.toNat b.toNat, rest) else .error .malformed
      | _ => .error .malformed
    else return (.single a, rest)
  | .set negated chars =>
    if startsRange rest then .error .malformed
    else return (usedSet ignoreCase negated chars, rest)
  | _ => .error .malformed

/-- Reads on in the innermost of some open sets, with at most so many characters left. -/
def readSets (grammar : Grammar) (ignoreCase : Bool) :
    Nat → OpenSet → List OpenSet → List Char → Read CharSet
  | 0, _, _, _ => .error .malformed
  | _, _, _, [] => .error .malformed
  | left + 1, s, around, ']' :: rest =>
    match around with
    | [] => .ok (s.close ignoreCase, rest)
    | outer :: around =>
      readSets grammar ignoreCase left (outer.add (s.close ignoreCase)) around rest
  | left + 1, s, around, '[' :: text =>
    let named := match text with
      | ':' :: inner => classAt? ignoreCase inner
      | _ => none
    match named with
    | some (chars, rest) => readSets grammar ignoreCase left (s.add chars) around rest
    | none =>
      let (inner, rest) := openSet text
      readSets grammar ignoreCase left inner (s :: around) rest
  | left + 1, s, around, text =>
    match operator? text with
    | some operator =>
      readSets grammar ignoreCase left (s.operate ignoreCase operator) around (text.drop 2)
    | none =>
      match readRange grammar ignoreCase text with
      | .ok (chars, rest) => readSets grammar ignoreCase left (s.add chars) around rest
      | .error refusal => .error refusal

def readBracket (grammar : Grammar) (ignoreCase : Bool) (text : List Char) : Read CharSet :=
  let (s, rest) := openSet text
  readSets grammar ignoreCase (text.length + 1) s [] rest

end ApiSchema.Pattern
