import ApiSchema.Text.Blank
import ApiSchema.Text.Lines

/-!
# Outlines of indented text

The lines of a text are grouped by indentation into blocks: paragraphs, bullets, quotes of deeper
text, and lists of terms that each have deeper text below them.  Every block takes at least one
line, and what lies inside one is deeper than its surroundings.
-/

namespace ApiSchema.Documentation

open Text

/-- A line that is not blank: its indentation in bytes and its text without outer blanks. -/
structure Row where
  indent : Nat
  text : List Char
  deriving DecidableEq

/-- A part of a text.  An item of a list is a term and the blocks below it. -/
inductive Block where
  | paragraph (lines : List (List Char))
  | bullets
  | definitions (items : List (List Char × List Block))
  | quote (inner : List Block)

/-- How many spaces stand for a tab. -/
def tabWidth : Nat := 8

/-- A line with spaces for its tabs. -/
def expandTabs (line : List Char) : List Char :=
  line.flatMap fun c => if c = '\t' then List.replicate tabWidth ' ' else [c]

/-- The row of a line, `none` when it is blank. -/
def Row.ofLine (line : List Char) : Option Row :=
  let text := trimEnd (trimStart line)
  if text.isEmpty then none else some ⟨leadingBytes line, text⟩

def rowsOf (text : List Char) : List (Option Row) :=
  (lines text).map fun line => Row.ofLine (expandTabs line)

def leastIndent : List (Option Row) → Option Nat
  | [] => none
  | none :: rest => leastIndent rest
  | some row :: rest =>
    match leastIndent rest with
    | some n => some (min row.indent n)
    | none => some row.indent

/-- Does the row belong to text deeper than `base`?  Blank lines do. -/
def inRegion (base : Nat) : Option Row → Bool
  | none => true
  | some row => base < row.indent

/-- Does the text go on with a row deeper than `base`? -/
def startsDeeper (base : Nat) : List (Option Row) → Bool
  | some row :: _ => base < row.indent
  | _ => false

/-- Does a row's text start with a bullet? -/
def isBullet : List Char → Bool
  | [c] => c == '-' || c == '*' || c == '+'
  | c :: d :: _ => (c == '-' || c == '*' || c == '+') && d == ' '
  | [] => false

/-- Does the row continue bullets that stand at `base`? -/
def continuesBullets (base : Nat) : Option Row → Bool
  | none => false
  | some row => row.indent != base || isBullet row.text

/-- The rows at `base` that continue a paragraph: up to a blank line, another indentation, or a
row with deeper text below it. -/
def paragraphRows (base : Nat) : List (Option Row) → List Row
  | some row :: rest =>
    if row.indent = base && !startsDeeper base rest then row :: paragraphRows base rest else []
  | _ => []

/-- Puts an item in front of the blocks that follow it; neighbouring items form one list. -/
def consItem (term : List Char) (body : List Block) : List Block → List Block
  | .definitions items :: rest => .definitions ((term, body) :: items) :: rest
  | blocks => .definitions [(term, body)] :: blocks

def headIndent : List (Option Row) → Nat
  | some row :: _ => row.indent
  | _ => 0

/-- The least indentation is greater than `base` if every row is deeper. -/
theorem lt_leastIndent {base least : Nat} : ∀ {rows : List (Option Row)},
    (∀ row ∈ rows, inRegion base row = true) → leastIndent rows = some least → base < least
  | [], _, h => by simp [leastIndent] at h
  | none :: rest, deep, h =>
    lt_leastIndent (fun row (mem : row ∈ rest) => deep row (.tail _ mem))
      (by simpa [leastIndent] using h)
  | some row :: rest, deep, h => by
    have here : base < row.indent := by simpa [inRegion] using deep _ (.head _)
    cases found : leastIndent rest with
    | none =>
      simp only [leastIndent, found, Option.some.injEq] at h
      omega
    | some n =>
      have := lt_leastIndent (fun row (mem : row ∈ rest) => deep row (.tail _ mem)) found
      simp only [leastIndent, found, Option.some.injEq] at h
      omega

theorem inRegion_takeWhile {base : Nat} {rows : List (Option Row)} :
    ∀ row ∈ rows.takeWhile (inRegion base), inRegion base row = true := fun row mem => by
  induction rows with
  | nil => simp at mem
  | cons first rest ih =>
    rw [List.takeWhile_cons] at mem
    split at mem
    · rcases List.mem_cons.1 mem with rfl | mem
      · assumption
      · exact ih mem
    · simp at mem

theorem length_takeWhile_le {α : Type} (p : α → Bool) (xs : List α) :
    (xs.takeWhile p).length ≤ xs.length :=
  (List.takeWhile_sublist p).length_le

theorem length_dropWhile_le {α : Type} (p : α → Bool) (xs : List α) :
    (xs.dropWhile p).length ≤ xs.length :=
  (List.dropWhile_sublist p).length_le

/-- The blocks of rows of which none is less deep than `base`. -/
def blocksAt (base : Nat) : List (Option Row) → List Block
  | [] => []
  | none :: rest => blocksAt base rest
  | some row :: rest =>
    let region := rest.takeWhile (inRegion base)
    let after := rest.dropWhile (inRegion base)
    if _ : base < row.indent then
      let inner :=
        match _ : leastIndent (some row :: region) with
        | some least => blocksAt least (some row :: region)
        | none => []
      .quote inner :: blocksAt base after
    else if isBullet row.text then
      .bullets :: blocksAt base (rest.dropWhile (continuesBullets base))
    else if startsDeeper base rest then
      let body :=
        match leastIndent region with
        | some least => blocksAt least region
        | none => []
      consItem row.text body (blocksAt base after)
    else
      let more := paragraphRows base rest
      .paragraph (row.text :: more.map Row.text) :: blocksAt base (rest.drop more.length)
termination_by rows => (rows.length, headIndent rows - base)
decreasing_by
  · exact Prod.Lex.left _ _ (by simp)
  · have short := length_takeWhile_le (inRegion base) rest
    have least_gt : base < least := by
      refine lt_leastIndent (fun r mem => ?_) ‹leastIndent _ = some least›
      rcases List.mem_cons.1 mem with rfl | mem
      · exact decide_eq_true ‹base < row.indent›
      · exact inRegion_takeWhile r mem
    rcases Nat.lt_or_eq_of_le short with less | same
    · exact Prod.Lex.left _ _ (by simpa using less)
    · have : (some row :: List.takeWhile (inRegion base) rest).length =
          (some row :: rest).length := by simpa using same
      simp only [headIndent, this]
      exact Prod.Lex.right _ (by omega)
  all_goals exact Prod.Lex.left _ _ (by
    simp only [List.length_cons, List.length_drop]
    have := length_dropWhile_le (inRegion base) rest
    have := length_dropWhile_le (continuesBullets base) rest
    have := length_takeWhile_le (inRegion base) rest
    omega)

def blocksOf (rows : List (Option Row)) : List Block :=
  match leastIndent rows with
  | some least => blocksAt least rows
  | none => []

end ApiSchema.Documentation
