import ApiSchema.Pattern.Basic
import Std.Data.HashSet

/-!
# Matching

`Pattern.ends` lists the places at which matches that start at some places can end, preferred ones
first and each place once.  How a match goes on depends on its place alone.  So a pattern is found
in a text if a match starts at any place of the text, all taken together, and a repetition goes on
from each place only once, which bounds its work by the number of places.
-/

namespace ApiSchema

open Text (CharSet)

/-- Characters are hashed by their codes. -/
instance hashableChar : Hashable Char := ⟨fun c => hash c.val⟩

/-- The text kept for each group that has been matched. -/
abbrev Kept := List (Nat × List Char)

/-- A place in a text: the characters before it, nearest first, those after it, the number of those
before it, and the texts of the groups. -/
structure Place where
  before : List Char
  after : List Char
  position : Nat
  kept : Kept

/-- The places of a text after the characters `before`, nearest first, of which there are
`position`. -/
def placesFrom (before : List Char) (position : Nat) : List Char → List Place
  | [] => [⟨before, [], position, []⟩]
  | c :: rest =>
    ⟨before, c :: rest, position, []⟩ :: placesFrom (c :: before) (position + 1) rest

/-- What tells a place from the others of its text. -/
abbrev Place.key (p : Place) : Nat × Kept := (p.position, p.kept)

namespace Place

/-- The place after the next character, which must be in a set. -/
def pass (chars : CharSet) (p : Place) : Option Place :=
  match p.after with
  | c :: rest =>
    if chars.holds c then some ⟨c :: p.before, rest, p.position + 1, p.kept⟩ else none
  | [] => none

/-- The place after some text, which must come next. -/
def passText : List Char → Place → Option Place
  | [], p => some p
  | c :: rest, p => do passText rest (← p.pass (.single c))

/-- The place so many characters earlier. -/
def back : Nat → Place → Option Place
  | 0, p => some p
  | count + 1, p =>
    match p.before with
    | c :: rest => back count ⟨rest, c :: p.after, p.position - 1, p.kept⟩
    | [] => none

/-- The place with the text since an earlier place kept for a group. -/
def keep (index : Nat) (since p : Place) : Place :=
  let text := (p.before.take (p.position - since.position)).reverse
  { p with kept := (index, text) :: p.kept.filter (·.1 != index) }

/-- The place after a look at what is around it, from what has been found there. -/
def looked (wanted : Bool) (found : Option Place) (p : Place) : Option Place :=
  match found with
  | some q => if wanted then some { p with kept := q.kept } else none
  | none => if wanted then none else some p

/-- Is there a word character before the place? -/
def wordBefore (p : Place) : Bool := p.before.head?.any Text.Property.word.holds

/-- Is there a word character after the place? -/
def wordAfter (p : Place) : Bool := p.after.head?.any Text.Property.word.holds

end Place

def Anchor.holds : Anchor → Place → Bool
  | .textStart, p => p.before.isEmpty
  | .textEnd, p => p.after.isEmpty
  | .lineStart, p => p.before.head?.all (· == '\n')
  | .lineEnd, p => p.after.head?.all (· == '\n')
  | .wordEdge, p => p.wordBefore != p.wordAfter
  | .wordInside, p => p.wordBefore == p.wordAfter
  | .wordStart, p => !p.wordBefore && p.wordAfter
  | .wordEnd, p => p.wordBefore && !p.wordAfter
  | .wordStartHalf, p => !p.wordBefore
  | .wordEndHalf, p => !p.wordAfter

/-- The places of a list, each once. -/
def distinctPlaces (places : List Place) : List Place :=
  go ∅ places
where
  /-- The places that have not been seen yet. -/
  go (seen : Std.HashSet (Nat × Kept)) : List Place → List Place
    | [] => []
    | p :: rest => if seen.contains p.key then go seen rest else p :: go (seen.insert p.key) rest

/-- The places that so many moves lead to. -/
def moved (next : Place → List Place) : Nat → List Place → List Place
  | 0, places => places
  | count + 1, places => moved next count (distinctPlaces (places.flatMap next))

/-- The places from which a repetition has gone on, and those at which it can end, last ones
first.  Where the number of moves is limited, a place counts anew for each number left. -/
structure Spread where
  passed : Std.HashSet (Nat × Nat × Kept)
  found : List Place

/-- Adds a place at which the repetition can end. -/
def Spread.add (s : Spread) (p : Place) : Spread := { s with found := p :: s.found }

/-- Adds the places that at most `moves` moves lead to from a place.  Where the number of moves is
not limited, each of them goes forward. -/
def Spread.from (next : Place → List Place) (eager limited : Bool) :
    Nat → Spread → Place → Spread
  | 0, s, p => s.add p
  | moves + 1, s, p =>
    let key := (if limited then moves else 0, p.key)
    if s.passed.contains key then s
    else
      let s := { s with passed := s.passed.insert key }
      let s := if eager then s else s.add p
      let reached := (next p).filter fun q => limited || p.position < q.position
      let s := reached.foldl (Spread.from next eager limited moves) s
      if eager then s.add p else s

/-- The places that at most so many moves lead to from some places, any number without a limit.
Moves without a limit go forward, so there cannot be more of them than characters. -/
def spread (next : Place → List Place) (eager : Bool) (limit : Option Nat) (places : List Place) :
    List Place :=
  let s := places.foldl (fun (s : Spread) p =>
    Spread.from next eager limit.isSome (limit.getD (p.after.length + 1)) s p) ⟨∅, []⟩
  distinctPlaces s.found.reverse

mutual

/-- The places at which matches that start at some places can end. -/
def Pattern.ends : Pattern → List Place → List Place
  | .set chars, places => places.filterMap (·.pass chars)
  | .anchor condition, places => places.filter condition.holds
  | .sequence parts, places => sequenceEnds parts places
  | .choice branches, places => distinctPlaces (places.flatMap (choiceEnds branches))
  | .times part least most eager, places =>
    let next (p : Place) := Pattern.ends part [p]
    spread next eager (most.map (· - least)) (moved next least places)
  | .group index part, places =>
    distinctPlaces (places.flatMap fun p => (Pattern.ends part [p]).map (.keep index p))
  | .backreference index, places =>
    places.filterMap fun p =>
      (p.kept.find? (·.1 == index)).bind fun (_, text) => p.passText text
  | .atomic part, places =>
    distinctPlaces (places.filterMap fun p => (Pattern.ends part [p]).head?)
  | .ahead wanted part, places =>
    places.filterMap fun p => p.looked wanted (Pattern.ends part [p]).head?
  | .behind wanted length part, places =>
    places.filterMap fun p =>
      p.looked wanted ((p.back length).bind fun start => (Pattern.ends part [start]).head?)

/-- The places at which matches of one pattern after the other can end. -/
def sequenceEnds : List Pattern → List Place → List Place
  | [], places => places
  | part :: rest, places => sequenceEnds rest (Pattern.ends part places)

/-- The places at which a match of one of the patterns can end. -/
def choiceEnds : List Pattern → Place → List Place
  | [], _ => []
  | branch :: rest, p => Pattern.ends branch [p] ++ choiceEnds rest p

end

def Pattern.found (pattern : Pattern) (text : String) : Bool :=
  !(pattern.ends (placesFrom [] 0 text.toList)).isEmpty

end ApiSchema
