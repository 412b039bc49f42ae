import ApiSchema.Text.CaseTables

/-!
# Case folding

Characters that are the same when case does not matter.  `folded` gives one of them for all, and
`counterparts` gives all of them.
-/

namespace ApiSchema.Text

/-- The character that stands for all those that differ from it in case only. -/
def folded (c : Char) : Char := shiftBy foldings c

/-- The character that a run maps to `c`. -/
def CaseRun.source? (run : CaseRun) (c : Char) : Option Char :=
  let code := (c.toNat - run.shift).toNat
  if run.covers code then some (Char.ofNat code) else none

/-- All characters that differ from a character in case only, itself among them. -/
def counterparts (c : Char) : List Char :=
  folded c :: foldings.filterMap (·.source? (folded c))

end ApiSchema.Text
