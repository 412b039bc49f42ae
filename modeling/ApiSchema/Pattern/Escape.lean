import ApiSchema.Pattern.Basic
import ApiSchema.Text.Lines
import ApiSchema.Text.NamedSet

/-!
# Escapes in patterns

What a backslash and the characters after it stand for.  There are two grammars: the plain one, and
an extended one for patterns that look around or refer back.  The plain grammar has classes of
ASCII characters, the extended one those of the whole standard.
-/

namespace ApiSchema.Pattern

open Text (CharSet CodeRun)

/-- The grammar that a pattern is read by. -/
inductive Grammar where
  | plain
  | extended
  deriving DecidableEq

/-- Why a text cannot be read as a pattern. -/
inductive Refusal where
  | malformed
  /-- The plain grammar has no such part. -/
  | notPlain
  deriving DecidableEq

/-- The outcome of reading a part of a pattern, with the characters after the part. -/
abbrev Read (α : Type) := Except Refusal (α × List Char)

/-- What an escape stands for. -/
inductive Escape where
  | char (c : Char)
  /-- The characters of a set, or those outside it. -/
  | set (negated : Bool) (chars : CharSet)
  | anchor (condition : Anchor)
  | backreference (index : Nat)
  | namedBackreference (name : String)
  | nothing

/-- A set as it is used: with case left out of account, and turned around, where that is asked
for. -/
def usedSet (ignoreCase negated : Bool) (chars : CharSet) : CharSet :=
  let chars := if ignoreCase then .anyCase chars else chars
  if negated then .outside chars else chars

def rangeSet (ranges : List (Nat × Nat)) : CharSet :=
  .runs (ranges.map fun (first, last) => ⟨first, last, 1⟩)

def digitSet : Grammar → CharSet
  | .plain => rangeSet [(0x30, 0x39)]
  | .extended => .ofCategories [.decimalNumber]

def wordSet : Grammar → CharSet
  | .plain => rangeSet [(0x30, 0x39), (0x41, 0x5A), (0x5F, 0x5F), (0x61, 0x7A)]
  | .extended => Text.Property.word

def spaceSet : Grammar → CharSet
  | .plain => rangeSet [(0x9, 0xD), (0x20, 0x20), (0xA0, 0xA0), (0xFEFF, 0xFEFF),
      (0x2003, 0x2003), (0x2029, 0x2029)]
  | .extended => Text.Property.whiteSpace

/-- Digits of base sixteen. -/
def hexSet : CharSet := rangeSet [(0x30, 0x39), (0x41, 0x46), (0x61, 0x66)]

/-- The value of a digit of base sixteen. -/
def hexDigit? (c : Char) : Option Nat :=
  if '0' ≤ c && c ≤ '9' then some (c.toNat - 0x30)
  else if 'A' ≤ c && c ≤ 'F' then some (c.toNat - 0x37)
  else if 'a' ≤ c && c ≤ 'f' then some (c.toNat - 0x57)
  else none

/-- The character with a number of base sixteen. -/
def hexChar? (digits : List Char) : Option Char := do
  if digits.isEmpty then none
  let values ← digits.mapM hexDigit?
  let code := values.foldl (fun n d => n * 16 + d) 0
  if h : code.isValidChar then some (Char.ofNatAux code h) else none

/-- Cuts a text at the first character of a kind, which is dropped. -/
def cutAt (mark : Char) (text : List Char) : Option (List Char × List Char) :=
  let inner := text.takeWhile (· != mark)
  match text.drop inner.length with
  | [] => none
  | _ :: rest => some (inner, rest)

/-- Reads a character by its number: so many digits, or any number of them in braces. -/
def readHex (count : Nat) : List Char → Read Escape
  | '\x7b' :: text =>
    match cutAt '\x7d' text with
    | some (digits, rest) =>
      match hexChar? digits with
      | some c => .ok (.char c, rest)
      | none => .error .malformed
    | none => .error .malformed
  | text =>
    let digits := text.take count
    match hexChar? digits with
    | some c => if digits.length = count then .ok (.char c, text.drop count) else .error .malformed
    | none => .error .malformed

/-- The set that the text of a property names. -/
def propertySet? (text : List Char) : Option (Bool × CharSet) :=
  let name := String.ofList text
  match name.splitOn "!=" with
  | [property, value] => (Text.NamedSet.ofValue? property value).map (true, ·)
  | _ =>
    let mark := if text.contains ':' then ':' else '='
    match cutAt mark text with
    | some (property, value) =>
      (Text.NamedSet.ofValue? (String.ofList property) (String.ofList value)).map (false, ·)
    | none => (Text.NamedSet.ofName? name).map (false, ·)

/-- Reads the characters with a property: its name in braces, or one letter. -/
def readProperty (negated : Bool) : List Char → Read Escape
  | '\x7b' :: text =>
    match cutAt '\x7d' text with
    | some (name, rest) =>
      let inverse := name.head? == some '^'
      match propertySet? (if inverse then name.drop 1 else name) with
      | some (other, chars) => .ok (.set (negated ^^ inverse ^^ other) chars, rest)
      | none => .error .malformed
    | none => .error .malformed
  | letter :: rest =>
    match Text.NamedSet.ofName? (String.singleton letter) with
    | some chars => .ok (.set negated chars, rest)
    | none => .error .malformed
  | [] => .error .malformed

/-- Reads the edge of a word: any edge, or the one that a name in braces tells. -/
def readWordEdge : List Char → Read Escape
  | '\x7b' :: text =>
    match cutAt '\x7d' text with
    | some (name, rest) =>
      match String.ofList name with
      | "start" => .ok (.anchor .wordStart, rest)
      | "end" => .ok (.anchor .wordEnd, rest)
      | "start-half" => .ok (.anchor .wordStartHalf, rest)
      | "end-half" => .ok (.anchor .wordEndHalf, rest)
      | _ => .error .malformed
    | none => .error .malformed
  | text => .ok (.anchor .wordEdge, text)

/-- The number that digits spell. -/
def decimalValue (digits : List Char) : Nat :=
  digits.foldl (fun n d => n * 10 + (d.toNat - 0x30)) 0

def readGroupNumber (text : List Char) : Read Escape :=
  let digits := text.takeWhile Char.isDigit
  .ok (.backreference (decimalValue digits), text.drop digits.length)

/-- Reads the name of a group up to a character. -/
def readGroupName (finish : Char) (text : List Char) : Read Escape :=
  match cutAt finish text with
  | some (name, rest) => .ok (.namedBackreference (String.ofList name), rest)
  | none => .error .malformed

/-- The character that a letter stands for in both grammars. -/
def letterChar? : Char → Option Char
  | 't' => some '\t'
  | 'n' => some '\n'
  | 'r' => some '\r'
  | 'f' => some '\x0c'
  | 'v' => some '\x0b'
  | _ => none

/-- Is the character one that stands for itself after a backslash? -/
def standsForItself (c : Char) : Bool :=
  c.toNat < 0x80 && !c.isAlphanum && c != '<' && c != '>'

/-- Reads an escape that is common to both grammars; `inSet` is said inside brackets. -/
def readCommonEscape (grammar : Grammar) (inSet : Bool) (c : Char) (rest : List Char) :
    Read Escape :=
  match c with
  | 'd' => .ok (.set false (digitSet grammar), rest)
  | 'D' => .ok (.set true (digitSet grammar), rest)
  | 'w' => .ok (.set false (wordSet grammar), rest)
  | 'W' => .ok (.set true (wordSet grammar), rest)
  | 's' => .ok (.set false (spaceSet grammar), rest)
  | 'S' => .ok (.set true (spaceSet grammar), rest)
  | 'x' => readHex 2 rest
  | 'u' => readHex 4 rest
  | 'U' => readHex 8 rest
  | 'p' => readProperty false rest
  | 'P' => readProperty true rest
  | c =>
    match letterChar? c with
    | some control => .ok (.char control, rest)
    | none =>
      if standsForItself c then .ok (.char c, rest)
      else if inSet then .error .malformed
      else
        match c with
        | 'A' => .ok (.anchor .textStart, rest)
        | 'z' => .ok (.anchor .textEnd, rest)
        | 'b' => readWordEdge rest
        | 'B' => .ok (.anchor .wordInside, rest)
        | '<' => .ok (.anchor .wordStart, rest)
        | '>' => .ok (.anchor .wordEnd, rest)
        | _ => .error .malformed

def readPlainEscape (inSet : Bool) (c : Char) (rest : List Char) : Read Escape :=
  if c.isDigit then .error .notPlain
  else
    match c, rest with
    | 'a', rest => if inSet then .ok (.char '\x07', rest) else .error .malformed
    | 'c', letter :: rest =>
      if letter.isAlpha then .ok (.char (Char.ofNat (letter.toNat % 32)), rest)
      else .error .malformed
    | c, rest => readCommonEscape .plain inSet c rest

def readExtendedEscape (inSet : Bool) (c : Char) (rest : List Char) : Read Escape :=
  if c.isDigit then (if inSet then .error .malformed else readGroupNumber (c :: rest))
  else
    match c, inSet, rest with
    | 'a', _, rest => .ok (.char '\x07', rest)
    | 'e', _, rest => .ok (.char '\x1b', rest)
    | 'h', _, rest => .ok (.set false hexSet, rest)
    | 'H', _, rest => .ok (.set true hexSet, rest)
    | 'b', true, rest => .ok (.char '\x08', rest)
    | '<', true, rest => .ok (.char '<', rest)
    | '>', true, rest => .ok (.char '>', rest)
    | 'k', false, '<' :: rest => readGroupName '>' rest
    | 'G', false, rest => .ok (.anchor .textStart, rest)
    | 'K', false, rest => .ok (.nothing, rest)
    | c, inSet, rest => readCommonEscape .extended inSet c rest

/-- Reads what stands after a backslash. -/
def readEscape (grammar : Grammar) (inSet : Bool) : List Char → Read Escape
  | [] => .error .malformed
  | c :: rest =>
    match grammar with
    | .plain => readPlainEscape inSet c rest
    | .extended => readExtendedEscape inSet c rest

end ApiSchema.Pattern
