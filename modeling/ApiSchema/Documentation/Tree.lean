import ApiSchema.Keyed

/-!
# Documentation trees

The documentation of a document's fields.  A field has either a plain description or documentation
of its own fields, with an optional description beside it.
-/

namespace ApiSchema.Documentation

/-- The documentation of one field. -/
inductive Entry where
  | text (content : String)
  | nested (own : Option String) (fields : List (String × Entry))
  deriving Inhabited

/-- The documentation of several fields, in order. -/
abbrev Tree := List (String × Entry)

/-- The term under which a mapping's values are documented. -/
def valueTerm : String := "\x7bkey\x7d"

namespace Entry

/-- The description of the field itself. -/
def description : Entry → Option String
  | .text content => some content
  | .nested own _ => own

/-- The number of documented fields below, if there is a list of them. -/
def fieldCount : Entry → Option Nat
  | .text _ => none
  | .nested _ fields => some fields.length

end Entry

mutual

/-- Are two entries equal? -/
def sameEntry : Entry → Entry → Bool
  | .text a, .text b => a == b
  | .nested a fs, .nested b gs => a == b && sameTree fs gs
  | _, _ => false

/-- Are two trees equal, with the order of their fields? -/
def sameTree : List (String × Entry) → List (String × Entry) → Bool
  | [], [] => true
  | (k, e) :: rest, (l, f) :: others => k == l && sameEntry e f && sameTree rest others
  | _, _ => false

end

mutual

theorem eq_of_sameEntry : ∀ {e f : Entry}, sameEntry e f = true → e = f
  | .text a, .text b, h => by simpa [sameEntry] using h
  | .nested a fs, .nested b gs, h => by
    simp only [sameEntry, Bool.and_eq_true, beq_iff_eq] at h
    rw [h.1, eq_of_sameTree h.2]
  | .text _, .nested _ _, h => by simp [sameEntry] at h
  | .nested _ _, .text _, h => by simp [sameEntry] at h

theorem eq_of_sameTree : ∀ {t u : List (String × Entry)}, sameTree t u = true → t = u
  | [], [], _ => rfl
  | (k, e) :: rest, (l, f) :: others, h => by
    simp only [sameTree, Bool.and_eq_true, beq_iff_eq] at h
    rw [h.1.1, eq_of_sameEntry h.1.2, eq_of_sameTree h.2]
  | [], _ :: _, h => by simp [sameTree] at h
  | _ :: _, [], h => by simp [sameTree] at h

end

mutual

theorem sameEntry_refl : ∀ e : Entry, sameEntry e e = true
  | .text _ => by simp [sameEntry]
  | .nested _ fs => by simp [sameEntry, sameTree_refl fs]

theorem sameTree_refl : ∀ t : List (String × Entry), sameTree t t = true
  | [] => rfl
  | (_, e) :: rest => by simp [sameTree, sameEntry_refl e, sameTree_refl rest]

end

instance : DecidableEq Entry := fun e f =>
  if h : sameEntry e f = true then .isTrue (eq_of_sameEntry h)
  else .isFalse fun eq => h (eq ▸ sameEntry_refl e)

end ApiSchema.Documentation
