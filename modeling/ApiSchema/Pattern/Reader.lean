import ApiSchema.Pattern.Bracket

/-!
# Reading patterns

A pattern's text is read from the left with a stack of open groups.  It is read by the plain
grammar first, and by the extended one if the first part that the plain grammar cannot read looks
around or refers back.
-/

namespace ApiSchema.Pattern

open Text (CharSet)

/-- How the parts of a pattern are to be understood. -/
structure Flags where
  ignoreCase : Bool := false
  /-- Are the ends of lines meant where else the ends of the text are? -/
  lines : Bool := false
  /-- Does a dot stand for a newline too? -/
  dotAll : Bool := false
  /-- Are repetitions as short as possible unless they are marked? -/
  swapped : Bool := false
  /-- Does white space not count? -/
  spaced : Bool := false

/-- What a group is for. -/
inductive GroupPurpose where
  | together
  | kept (index : Nat)
  | atomic
  | ahead (wanted : Bool)
  | behind (wanted : Bool)

/-- What stands last in a branch, which decides whether a repetition can follow. -/
inductive LastPart where
  | start
  | nothing
  | fixed
  | part
  | repeated
  deriving DecidableEq

/-- A group whose end has not been read: its finished branches and the parts of the last one, last
ones first. -/
structure OpenGroup where
  purpose : GroupPurpose
  /-- The flags after the group. -/
  flagsAfter : Flags
  branches : List Pattern
  parts : List Pattern
  last : LastPart

namespace OpenGroup

/-- A group of which nothing has been read. -/
def new (purpose : GroupPurpose) (flags : Flags) : OpenGroup := ⟨purpose, flags, [], [], .start⟩

def add (g : OpenGroup) (part : Pattern) (last : LastPart) : OpenGroup :=
  { g with parts := part :: g.parts, last := last }

def endBranch (g : OpenGroup) : OpenGroup :=
  { g with branches := .ofParts g.parts.reverse :: g.branches, parts := [], last := .start }

def content (g : OpenGroup) : Pattern := .ofBranches g.endBranch.branches.reverse

/-- What a group that only holds its content together is for what follows. -/
def lastOfContent (g : OpenGroup) : LastPart :=
  match g.branches, g.parts with
  | [], [] => .nothing
  | [], [_] => if g.last = .fixed then .fixed else .part
  | _, _ => .part

/-- Adds the content of a finished group to the group around it. -/
def addGroup (outer g : OpenGroup) : Except Refusal OpenGroup :=
  match g.purpose with
  | .together =>
    match g.lastOfContent with
    | .nothing => .ok { outer with last := .nothing }
    | last => .ok (outer.add g.content last)
  | .kept index => .ok (outer.add (.group index g.content) .part)
  | .atomic => .ok (outer.add (.atomic g.content) .part)
  | .ahead wanted => .ok (outer.add (.ahead wanted g.content) .fixed)
  | .behind wanted =>
    match lookBehind? wanted g.content with
    | some pattern => .ok (outer.add pattern .fixed)
    | none => .error .malformed

end OpenGroup

/-- A pattern that is being read. -/
structure Draft where
  flags : Flags
  /-- The innermost open group. -/
  group : OpenGroup
  /-- The groups around it, the innermost first. -/
  around : List OpenGroup
  /-- The number of groups whose texts are kept. -/
  count : Nat
  names : List (String × Nat)
  /-- The groups that are referred to. -/
  used : List Nat
  /-- Is a group referred to by its number? -/
  numbered : Bool

namespace Draft

/-- The pattern of which nothing has been read. -/
def start : Draft := ⟨{}, .new .together {}, [], 0, [], [], false⟩

def add (d : Draft) (part : Pattern) (last : LastPart) : Draft :=
  { d with group := d.group.add part last }

def addSet (d : Draft) (negated : Bool) (chars : CharSet) : Draft :=
  d.add (.set (usedSet d.flags.ignoreCase negated chars)) .part

/-- The greatest number of groups inside each other. -/
def deepest : Nat := 63

def openGroup (d : Draft) (purpose : GroupPurpose) : Draft :=
  { d with group := .new purpose d.flags, around := d.group :: d.around }

/-- Opens a group whose text is kept, under a name if it has one. -/
def openKept (d : Draft) (name : Option String) : Draft :=
  let index := d.count + 1
  let d := d.openGroup (.kept index)
  { d with
    count := index
    names := (name.map fun name => (name, index)).toList ++ d.names }

def closeGroup (d : Draft) : Except Refusal Draft :=
  match d.around with
  | [] => .error .malformed
  | outer :: around => do
    let group ← outer.addGroup d.group
    return { d with flags := d.group.flagsAfter, group, around }

def addEscape (d : Draft) : Escape → Except Refusal Draft
  | .char c => .ok (d.addSet false (.single c))
  | .set negated chars => .ok (d.addSet negated chars)
  | .anchor condition => .ok (d.add (.anchor condition) .fixed)
  | .backreference index =>
    if index ≤ d.count then
      .ok { d.add (.backreference index) .part with used := index :: d.used, numbered := true }
    else .error .malformed
  | .namedBackreference name =>
    match d.names.find? (·.1 == name) with
    | some (_, index) =>
      .ok { d.add (.backreference index) .part with used := index :: d.used }
    | none => .error .malformed
  | .nothing => .ok (d.add .empty .part)

/-- The finished pattern.  Groups that have names cannot be referred to by numbers. -/
def finish (d : Draft) : Except Refusal Pattern :=
  if d.around.isEmpty && !(d.numbered && !d.names.isEmpty) then
    .ok (d.group.content.keeping d.used)
  else .error .malformed

end Draft

/-! ## Repetitions -/

/-- The text without leading white space, if that does not count. -/
def afterSpace (spaced : Bool) (text : List Char) : List Char :=
  if spaced then text.dropWhile fun c => c == ' ' || c == '\t' || c == '\r' || c == '\n' else text

def readNumber (text : List Char) : Option (Nat × List Char) :=
  let digits := text.takeWhile Char.isDigit
  if digits.isEmpty then none else some (decimalValue digits, text.drop digits.length)

/-- The bounds of a repetition and the text after them. -/
abbrev Bounds := (Nat × Option Nat) × List Char

/-- Reads the rest of a repetition's bounds after the least number: the greatest one, which is the
least one without a comma, and unlimited without a number. -/
def readMost (spaced : Bool) (least : Nat) (text : List Char) : Option Bounds :=
  match afterSpace spaced text with
  | '\x7d' :: rest => some ((least, some least), rest)
  | ',' :: rest =>
    let rest := afterSpace spaced rest
    let (most, rest) := match readNumber rest with
      | some (most, rest) => (some most, rest)
      | none => (none, rest)
    match afterSpace spaced rest with
    | '\x7d' :: rest => some ((least, most), rest)
    | _ => none
  | _ => none

/-- Reads the bounds of a repetition after their brace; without a least number that is zero. -/
def readBounds (spaced : Bool) (text : List Char) : Option Bounds :=
  let text := afterSpace spaced text
  match readNumber text with
  | some (least, rest) => readMost spaced least rest
  | none => if text.head? = some ',' then readMost spaced 0 text else none

/-- Can the plain grammar read the bounds of a repetition?  They have a least number, which is not
above the greatest one, and white space around numbers does not count. -/
def hasPlainBounds (text : List Char) : Bool :=
  let text := afterSpace true text
  match readNumber text with
  | some (least, rest) =>
    match readMost true least rest with
    | some ((least, most), _) => most.all (least ≤ ·)
    | none => false
  | none => false

/-- Repeats the last part.  Marks after the bounds say that fewer are preferred, and that no other
number than the preferred one counts. -/
def Draft.repeatLast (d : Draft) (least : Nat) (most : Option Nat) (text : List Char) :
    Except Refusal (Draft × List Char) :=
  match d.group.last, d.group.parts with
  | .part, part :: parts =>
    let text := afterSpace d.flags.spaced text
    let (marked, text) := match text with
      | '?' :: rest => (true, rest)
      | text => (false, text)
    let repetition := Pattern.times part least most (marked == d.flags.swapped)
    let (repetition, text) := match text with
      | '+' :: rest => (.atomic repetition, rest)
      | text => (repetition, text)
    if most.all (least ≤ ·) then
      let group := { d.group with parts := repetition :: parts, last := .repeated }
      .ok ({ d with group }, text)
    else .error .malformed
  | _, _ => .error .malformed

/-- Reads a brace: the bounds of a repetition where one can stand, else the brace itself. -/
def Draft.readBrace (grammar : Grammar) (d : Draft) (text : List Char) :
    Except Refusal (Draft × List Char) :=
  let itself := (d.addSet false (.single '\x7b'), text)
  let bounds := readBounds d.flags.spaced text
  match grammar, d.group.last with
  | .plain, .part =>
    if hasPlainBounds text then
      match bounds with
      | some ((least, most), rest) => d.repeatLast least most rest
      | none => .ok itself
    else .error .malformed
  | .plain, .repeated => if hasPlainBounds text then .ok itself else .error .malformed
  | .plain, _ => .error .malformed
  | .extended, .start => .ok itself
  | .extended, .repeated => .ok itself
  | .extended, _ =>
    match bounds with
    | some ((least, most), rest) => d.repeatLast least most rest
    | none => .ok itself

/-! ## Groups -/

/-- Is the character one that names of groups are made of? -/
def isNameChar (c : Char) : Bool :=
  c = '_' || Text.Property.alphabetic.holds c || Text.inRuns
    (Text.Category.numbers.flatMap Text.Category.runs) c

/-- Is the text the name of a group?  In the plain grammar it does not start with a number. -/
def isGroupName (grammar : Grammar) (name : List Char) : Bool :=
  !name.isEmpty && name.all isNameChar &&
    (grammar = .extended || name.head?.any fun c =>
      c = '_' || Text.Property.alphabetic.holds c)

/-- Opens a group with a name, which the plain grammar takes only once. -/
def Draft.openNamed (grammar : Grammar) (d : Draft) (text : List Char) :
    Except Refusal (Draft × List Char) :=
  match cutAt '>' text with
  | some (name, rest) =>
    let known := d.names.any (·.1 == String.ofList name)
    if isGroupName grammar name && !(grammar = .plain && known) then
      .ok (d.openKept (some (String.ofList name)), rest)
    else .error .malformed
  | none => .error .malformed

/-- Sets or clears the flag with a letter. -/
def Flags.put (flags : Flags) (letter : Char) (on : Bool) : Option Flags :=
  match letter with
  | 'i' => some { flags with ignoreCase := on }
  | 'm' => some { flags with lines := on }
  | 's' => some { flags with dotAll := on }
  | 'U' => some { flags with swapped := on }
  | 'x' => some { flags with spaced := on }
  | 'u' => if on then some flags else none
  | _ => none

/-- The flags after some letters; letters after a hyphen clear theirs. -/
def flagsAfter (flags : Flags) (letters : List Char) : Option Flags :=
  let setting := letters.takeWhile (· != '-')
  let clearing := letters.drop (setting.length + 1)
  let halves := if setting.length < letters.length then !clearing.isEmpty else true
  if halves then do
    let flags ← setting.foldlM (fun flags letter => flags.put letter true) flags
    clearing.foldlM (fun flags letter => flags.put letter false) flags
  else none

/-- Reads flags, which count up to the end of the group around them or for a group of their own. -/
def Draft.readFlags (grammar : Grammar) (d : Draft) (text : List Char) :
    Except Refusal (Draft × List Char) :=
  let letters := text.takeWhile fun c => c != ')' && c != ':'
  let distinct := grammar = .extended || letters.Nodup
  match flagsAfter d.flags letters, text.drop letters.length with
  | some flags, ')' :: rest =>
    if distinct && !letters.isEmpty then
      .ok ({ d with flags := flags, group := { d.group with last := .nothing } }, rest)
    else .error .malformed
  | some flags, ':' :: rest =>
    if distinct then .ok ({ d.openGroup .together with flags := flags }, rest)
    else .error .malformed
  | _, _ => .error .malformed

/-- Opens a group that looks around or is atomic; the plain grammar has none that look around. -/
def Draft.openSpecial (grammar : Grammar) (d : Draft) (purpose : GroupPurpose)
    (text : List Char) : Except Refusal (Draft × List Char) :=
  match grammar, purpose with
  | .extended, _ => .ok (d.openGroup purpose, text)
  | .plain, .atomic => .error .malformed
  | .plain, _ => .error .notPlain

def skipComment : List Char → Option (List Char)
  | ')' :: rest => some rest
  | '\\' :: _ :: rest => skipComment rest
  | _ :: rest => skipComment rest
  | [] => none

/-- Reads what stands after an opening parenthesis. -/
def Draft.readOpening (grammar : Grammar) (d : Draft) (text : List Char) :
    Except Refusal (Draft × List Char) :=
  match afterSpace d.flags.spaced text with
  | '?' :: '=' :: rest => d.openSpecial grammar (.ahead true) rest
  | '?' :: '!' :: rest => d.openSpecial grammar (.ahead false) rest
  | '?' :: '<' :: '=' :: rest => d.openSpecial grammar (.behind true) rest
  | '?' :: '<' :: '!' :: rest => d.openSpecial grammar (.behind false) rest
  | '?' :: '>' :: rest => d.openSpecial grammar .atomic rest
  | '?' :: '<' :: rest => d.openNamed grammar rest
  | '?' :: 'P' :: '<' :: rest => d.openNamed grammar rest
  | '?' :: 'P' :: '=' :: rest =>
    match grammar, readGroupName ')' rest with
    | .extended, .ok (escape, rest) => (d.addEscape escape).map (·, rest)
    | _, _ => .error .malformed
  | '?' :: rest => d.readFlags grammar rest
  | rest => .ok (d.openKept none, rest)

/-! ## The whole text -/

/-- Reads the part that starts with a character. -/
def Draft.readPart (grammar : Grammar) (d : Draft) (c : Char) (text : List Char) :
    Except Refusal (Draft × List Char) :=
  match c with
  | '^' => .ok (d.add (.anchor (if d.flags.lines then .lineStart else .textStart)) .fixed, text)
  | '$' => .ok (d.add (.anchor (if d.flags.lines then .lineEnd else .textEnd)) .fixed, text)
  | '.' =>
    let left := if d.flags.dotAll then CharSet.empty else .single '\n'
    .ok (d.add (.set (.outside left)) .part, text)
  | '|' => .ok ({ d with group := d.group.endBranch }, text)
  | '*' => d.repeatLast 0 none text
  | '+' => d.repeatLast 1 none text
  | '?' => d.repeatLast 0 (some 1) text
  | '\x7b' => d.readBrace grammar text
  | ')' => d.closeGroup.map (·, text)
  | '(' =>
    match grammar, text with
    | .extended, '?' :: '#' :: text =>
      match skipComment text with
      | some rest => .ok (d, rest)
      | none => .error .malformed
    | _, text =>
      if d.around.length < Draft.deepest then d.readOpening grammar text else .error .malformed
  | '[' => do
    let (chars, rest) ← readBracket grammar d.flags.ignoreCase text
    return (d.add (.set chars) .part, rest)
  | '\\' => do
    let (escape, rest) ← readEscape grammar false text
    return (← d.addEscape escape, rest)
  | c => .ok (d.addSet false (.single c), text)

/-- Reads one part, or skips white space or a comment that does not count. -/
def Draft.readNext (grammar : Grammar) (d : Draft) (c : Char) (text : List Char) :
    Except Refusal (Draft × List Char) :=
  if d.flags.spaced && (c == ' ' || c == '\t' || c == '\r' || c == '\n') then .ok (d, text)
  else if d.flags.spaced && c == '#' then .ok (d, (text.dropWhile (· != '\n')).drop 1)
  else d.readPart grammar c text

/-- Reads all parts of a text, of which there are at most so many. -/
def Draft.readAll (grammar : Grammar) : Nat → Draft → List Char → Except Refusal Pattern
  | _, d, [] => d.finish
  | 0, _, _ => .error .malformed
  | left + 1, d, c :: text =>
    match d.readNext grammar c text with
    | .ok (d, rest) => Draft.readAll grammar left d rest
    | .error refusal => .error refusal

def read (grammar : Grammar) (text : List Char) : Except Refusal Pattern :=
  Draft.start.readAll grammar text.length text

def ofText? (text : String) : Option Pattern :=
  match read .plain text.toList with
  | .ok pattern => some pattern
  | .error .notPlain => (read .extended text.toList).toOption
  | .error .malformed => none

end ApiSchema.Pattern
