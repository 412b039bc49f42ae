import ApiSchema.Text.Property

/-!
# Patterns

A pattern says which parts of a text it matches and at which places.  Choices and repetitions are
ordered: what stands first is preferred, which matters where only the first match counts.
-/

namespace ApiSchema

open Text (CharSet)

/-- A condition on the characters around a place of a text. -/
inductive Anchor where
  | textStart
  | textEnd
  | lineStart
  | lineEnd
  | wordEdge
  | wordInside
  | wordStart
  | wordEnd
  | wordStartHalf
  | wordEndHalf
  deriving DecidableEq, Repr

/-- A pattern. -/
inductive Pattern where
  | set (chars : CharSet)
  | anchor (condition : Anchor)
  | sequence (parts : List Pattern)
  | choice (branches : List Pattern)
  /-- A part as often as a number allows; `eager` prefers more of it. -/
  | times (part : Pattern) (least : Nat) (most : Option Nat) (eager : Bool)
  /-- A part whose text is kept under a number. -/
  | group (index : Nat) (part : Pattern)
  /-- The text that is kept under a number. -/
  | backreference (index : Nat)
  /-- The preferred match of a part and no other. -/
  | atomic (part : Pattern)
  /-- A place after which a part is found, or is not. -/
  | ahead (wanted : Bool) (part : Pattern)
  /-- A place before which a part of so many characters is found, or is not. -/
  | behind (wanted : Bool) (length : Nat) (part : Pattern)

namespace Pattern

/-- The pattern that matches the empty text everywhere. -/
def empty : Pattern := .sequence []

/-- Parts in a row; a single part stands for itself. -/
def ofParts : List Pattern → Pattern
  | [part] => part
  | parts => .sequence parts

/-- Branches to choose from; a single branch stands for itself. -/
def ofBranches : List Pattern → Pattern
  | [branch] => branch
  | branches => .choice branches

mutual

/-- The number of characters that every match has, if there is one such number. -/
def fixedLength? : Pattern → Option Nat
  | .set _ => some 1
  | .anchor _ => some 0
  | .sequence parts => lengthOfAll? parts
  | .choice branches => commonLength? branches
  | .times part least most _ =>
    if most = some least then (fixedLength? part).map (· * least) else none
  | .group _ part => fixedLength? part
  | .backreference _ => none
  | .atomic part => fixedLength? part
  | .ahead _ _ => some 0
  | .behind _ _ _ => some 0

/-- The sum of the fixed lengths of some patterns. -/
def lengthOfAll? : List Pattern → Option Nat
  | [] => some 0
  | part :: rest => do return (← fixedLength? part) + (← lengthOfAll? rest)

/-- The fixed length that some patterns have in common. -/
def commonLength? : List Pattern → Option Nat
  | [] => none
  | [branch] => fixedLength? branch
  | branch :: rest => do
    let length ← fixedLength? branch
    if (← commonLength? rest) = length then return length else none

end

mutual

/-- The pattern without the groups whose texts are not in use. -/
def keeping (used : List Nat) : Pattern → Pattern
  | .set chars => .set chars
  | .anchor condition => .anchor condition
  | .sequence parts => .sequence (keepingAll used parts)
  | .choice branches => .choice (keepingAll used branches)
  | .times part least most eager => .times (keeping used part) least most eager
  | .group index part =>
    if used.contains index then .group index (keeping used part) else keeping used part
  | .backreference index => .backreference index
  | .atomic part => .atomic (keeping used part)
  | .ahead wanted part => .ahead wanted (keeping used part)
  | .behind wanted length part => .behind wanted length (keeping used part)

/-- The patterns without the groups whose texts are not in use. -/
def keepingAll (used : List Nat) : List Pattern → List Pattern
  | [] => []
  | part :: rest => keeping used part :: keepingAll used rest

end

/-- The place before which a pattern is found, or is not.  The pattern must have a fixed length, or
be a choice of branches that have one each. -/
def lookBehind? (wanted : Bool) (part : Pattern) : Option Pattern :=
  match part.fixedLength?, part with
  | some length, _ => some (.behind wanted length part)
  | none, .choice branches => do
    let each ← branches.mapM fun branch => branch.fixedLength?.map (.behind wanted · branch)
    return if wanted then .choice each else .sequence each
  | none, _ => none

end Pattern

end ApiSchema
