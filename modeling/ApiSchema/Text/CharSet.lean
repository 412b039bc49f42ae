import ApiSchema.Text.Category
import ApiSchema.Text.Folding

/-!
# Sets of characters

Sets are built from runs of code points.  Membership follows the way a set is built.
-/

namespace ApiSchema.Text

/-- A set of characters. -/
inductive CharSet where
  | runs (list : List CodeRun)
  | either (a b : CharSet)
  | both (a b : CharSet)
  | outside (a : CharSet)
  | anyCase (a : CharSet)

namespace CharSet

def holds : CharSet → Char → Bool
  | .runs list, c => inRuns list c
  | .either a b, c => a.holds c || b.holds c
  | .both a b, c => a.holds c && b.holds c
  | .outside a, c => !a.holds c
  | .anyCase a, c => (counterparts c).any a.holds

/-- The set without characters. -/
def empty : CharSet := .runs []

def all : CharSet := .outside empty

/-- The characters with code points from one to another. -/
def between (first last : Nat) : CharSet := .runs [⟨first, last, 1⟩]

def single (c : Char) : CharSet := between c.toNat c.toNat

def union (sets : List CharSet) : CharSet := sets.foldr .either empty

/-- The characters of the first set that are not in the second. -/
def without (a b : CharSet) : CharSet := .both a (.outside b)

/-- The characters that are in one of the sets only. -/
def apart (a b : CharSet) : CharSet := .either (a.without b) (b.without a)

def ofCategories (categories : List Category) : CharSet :=
  .runs (categories.flatMap Category.runs)

/-- Characters that have no category. -/
def unassigned : CharSet := .outside (ofCategories Category.all)

@[simp] theorem holds_empty (c : Char) : empty.holds c = false := rfl

@[simp] theorem holds_all (c : Char) : all.holds c = true := rfl

/-- A union holds what one of its sets holds. -/
@[simp] theorem holds_union (sets : List CharSet) (c : Char) :
    (union sets).holds c = sets.any (·.holds c) := by
  induction sets with
  | nil => rfl
  | cons s rest ih => simpa [union, holds] using congrArg (s.holds c || ·) ih

theorem holds_between (first last : Nat) (c : Char) :
    (between first last).holds c = decide (first ≤ c.toNat ∧ c.toNat ≤ last) := by
  simp [between, holds, inRuns, CodeRun.covers, Nat.mod_one]

theorem holds_single (c d : Char) : (single c).holds d = decide (d = c) := by
  have : d = c ↔ c.toNat ≤ d.toNat ∧ d.toNat ≤ c.toNat :=
    ⟨fun h => h ▸ ⟨Nat.le_refl _, Nat.le_refl _⟩,
      fun h => Char.toNat_inj.1 (Nat.le_antisymm h.2 h.1)⟩
  simp [single, holds_between, this]

end CharSet

end ApiSchema.Text
