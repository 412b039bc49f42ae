/-!
# Keyed lists

Pairs of a key and a value in the order in which the keys were first put in.  `insert` of a key
that is already there replaces the value in its place, so keys stay distinct.
-/

namespace ApiSchema

/-- Values under distinct keys, in order of insertion. -/
abbrev Keyed (α : Type) := List (String × α)

namespace Keyed

variable {α : Type}

/-- The value under a key. -/
def get? (key : String) : Keyed α → Option α
  | [] => none
  | (k, v) :: rest => if k = key then some v else get? key rest

/-- Is there a value under the key? -/
def has (key : String) (entries : Keyed α) : Bool :=
  (get? key entries).isSome

/-- Puts a value under a key: in the key's old place if it has one, else at the end. -/
def insert (key : String) (value : α) : Keyed α → Keyed α
  | [] => [(key, value)]
  | (k, v) :: rest => if k = key then (key, value) :: rest else (k, v) :: insert key value rest

/-- Removes a key, keeping the order of the others. -/
def erase (key : String) (entries : Keyed α) : Keyed α :=
  entries.filter (·.1 != key)

/-- Puts in the pairs of a list, from the left. -/
def insertAll (pairs : List (String × α)) (entries : Keyed α) : Keyed α :=
  pairs.foldl (fun done (key, value) => insert key value done) entries

/-- The keys, in order. -/
def keys (entries : Keyed α) : List String := entries.map (·.1)

/-- Does no key stand twice? -/
def Distinct (entries : Keyed α) : Prop := (keys entries).Nodup

instance (entries : Keyed α) : Decidable (Distinct entries) :=
  inferInstanceAs (Decidable (keys entries).Nodup)

theorem distinct_nil : Distinct ([] : Keyed α) := List.nodup_nil

/-- A put value is found under its key, and nothing else changes. -/
theorem get?_insert (key other : String) (value : α) (entries : Keyed α) :
    get? other (insert key value entries) =
      if key = other then some value else get? other entries := by
  induction entries with
  | nil => rfl
  | cons entry rest ih =>
    by_cases h : entry.1 = key <;> by_cases h' : key = other <;>
      simp_all [insert, get?]

theorem isSome_get?_iff {key : String} {entries : Keyed α} :
    (get? key entries).isSome ↔ key ∈ keys entries := by
  induction entries with
  | nil => simp [get?, keys]
  | cons entry rest ih =>
    by_cases h : entry.1 = key
    · simp [get?, keys, h]
    · have h' : key ≠ entry.1 := fun e => h e.symm
      simpa [get?, keys, h, h'] using ih

theorem get?_eq_none_iff {key : String} {entries : Keyed α} :
    get? key entries = none ↔ key ∉ keys entries := by
  rw [← isSome_get?_iff, Option.not_isSome_iff_eq_none]

theorem mem_keys_insert {key other : String} {value : α} {entries : Keyed α} :
    other ∈ keys (insert key value entries) ↔ other = key ∨ other ∈ keys entries := by
  simp only [← isSome_get?_iff, get?_insert]
  by_cases h : key = other
  · simp [h]
  · simp [h, Ne.symm h]

/-- The value of a pair is found under its key, where keys are distinct. -/
theorem Distinct.get?_of_mem {entries : Keyed α} (distinct : Distinct entries) {key : String}
    {value : α} (mem : (key, value) ∈ entries) : get? key entries = some value := by
  induction entries with
  | nil => cases mem
  | cons entry rest ih =>
    obtain ⟨fresh, distinct⟩ := List.nodup_cons.1 distinct
    rcases List.mem_cons.1 mem with rfl | mem
    · simp [get?]
    · have other : entry.1 ≠ key := by
        rintro rfl
        exact fresh (List.mem_map.2 ⟨_, mem, rfl⟩)
      rw [get?, if_neg other]
      exact ih distinct mem

theorem insert_of_get?_eq_none {key : String} {entries : Keyed α}
    (fresh : get? key entries = none) (value : α) :
    insert key value entries = entries ++ [(key, value)] := by
  induction entries with
  | nil => rfl
  | cons entry rest ih =>
    by_cases same : entry.1 = key
    · simp [get?, same] at fresh
    · rw [get?, if_neg same] at fresh
      rw [insert, if_neg same, ih fresh]
      rfl

/-- Putting in a value keeps keys distinct. -/
theorem Distinct.insert {entries : Keyed α} (h : Distinct entries) (key : String) (value : α) :
    Distinct (Keyed.insert key value entries) := by
  induction entries with
  | nil => simp [Keyed.insert, Distinct, keys]
  | cons entry rest ih =>
    obtain ⟨fresh, distinct⟩ := List.nodup_cons.1 h
    by_cases e : entry.1 = key
    · subst e
      simpa [Keyed.insert, Distinct, keys] using h
    · simp only [Keyed.insert, e, if_false]
      refine List.nodup_cons.2 ⟨fun m => ?_, ih distinct⟩
      rcases mem_keys_insert.1 m with m | m
      · exact e m
      · exact fresh m

theorem length_erase_lt {key : String} {entries : Keyed α} (h : has key entries) :
    (erase key entries).length < entries.length := by
  obtain ⟨entry, member, same⟩ := List.mem_map.1 (isSome_get?_iff.1 h)
  exact List.length_filter_lt_length_iff_exists.2 ⟨entry, member, by simp [same]⟩

end Keyed

end ApiSchema
