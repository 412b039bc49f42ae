/-!
# Runs of code points

Classes of characters are stored as runs: code points with the same distance from one to the next.
Mappings of characters are stored as runs that share one shift.
-/

namespace ApiSchema.Text

/-- The code points `first`, `first + step`, … up to `last`. -/
structure CodeRun where
  first : Nat
  last : Nat
  step : Nat
  deriving DecidableEq, Repr

/-- A run of code points that all map to themselves plus `shift`. -/
structure CaseRun extends CodeRun where
  shift : Int

def CodeRun.covers (run : CodeRun) (code : Nat) : Bool :=
  run.first ≤ code && code ≤ run.last && (code - run.first) % run.step == 0

/-- Does one of the runs cover the character? -/
def inRuns (runs : List CodeRun) (c : Char) : Bool :=
  runs.any (·.covers c.toNat)

/-- The character that the first run covering `c` maps it to, else `c` itself. -/
def shiftBy (runs : List CaseRun) (c : Char) : Char :=
  match runs.find? (·.covers c.toNat) with
  | some run => Char.ofNat (c.toNat + run.shift).toNat
  | none => c

end ApiSchema.Text
