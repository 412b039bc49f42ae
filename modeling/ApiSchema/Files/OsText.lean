/-!
# Texts of the operating system

Names, paths and arguments are bytes, which need not be UTF-8.  Where bytes that are not UTF-8 are
shown, a mark stands for every run of bytes that is the start of no character, or of one that breaks
off.
-/

namespace ApiSchema.Files

/-- A name, a path or an argument. -/
structure OsText where
  bytes : List UInt8
  deriving DecidableEq, Repr

namespace OsText

def ofString (s : String) : OsText := ⟨s.toUTF8.data.toList⟩

instance : Coe String OsText := ⟨ofString⟩

instance : Coe (List String) (List OsText) := ⟨List.map ofString⟩

instance : LT OsText := ⟨fun a b => a.bytes < b.bytes⟩

instance (a b : OsText) : Decidable (a < b) := inferInstanceAs (Decidable (a.bytes < b.bytes))

def isEmpty (t : OsText) : Bool := t.bytes.isEmpty

/-- The text that the bytes spell, if they are UTF-8. -/
def text? (t : OsText) : Option String := String.fromUTF8? ⟨t.bytes.toArray⟩

theorem text?_ofString (s : String) : (ofString s).text? = some s := by
  have valid : s.toUTF8.IsValidUTF8 := s.isValidUTF8
  rw [text?, ofString, Array.toArray_toList, String.fromUTF8?, dif_pos valid]
  rfl

/-- Where the bytes after the first byte of a character lie, from the least to the greatest; `none`
if no character starts with the byte. -/
def laterBytes (first : Nat) : Option (List (Nat × Nat)) :=
  let later := (0x80, 0xBF)
  if first < 0x80 then some []
  else if first < 0xC2 then none
  else if first < 0xE0 then some [later]
  else if first = 0xE0 then some [(0xA0, 0xBF), later]
  else if first = 0xED then some [(0x80, 0x9F), later]
  else if first < 0xF0 then some [later, later]
  else if first = 0xF0 then some [(0x90, 0xBF), later, later]
  else if first < 0xF4 then some [later, later, later]
  else if first = 0xF4 then some [(0x80, 0x8F), later, later]
  else none

/-- How many bytes at the start lie where they are to lie. -/
def fitting : List (Nat × Nat) → List UInt8 → Nat
  | (least, greatest) :: bounds, byte :: rest =>
    if least ≤ byte.toNat && byte.toNat ≤ greatest then fitting bounds rest + 1 else 0
  | _, _ => 0

/-- The character with a first byte and the bytes after it. -/
def charOf (first : Nat) (later : List UInt8) : Char :=
  let bits := if later.isEmpty then first else first % (0x40 >>> later.length)
  Char.ofNat (later.foldl (fun code byte => code * 0x40 + byte.toNat % 0x40) bits)

/-- The characters of some bytes, with a mark for those that spell none. -/
def marked : List UInt8 → List Char
  | [] => []
  | first :: rest =>
    match laterBytes first.toNat with
    | none => '\uFFFD' :: marked rest
    | some bounds =>
      let later := rest.take (fitting bounds rest)
      (if later.length = bounds.length then charOf first.toNat later else '\uFFFD') ::
        marked (rest.drop (fitting bounds rest))
termination_by bytes => bytes.length
decreasing_by all_goals simp only [List.length_cons, List.length_drop]; omega

/-- The text that is shown for the bytes. -/
def shown (t : OsText) : String := t.text?.getD (String.ofList (marked t.bytes))

/-- A text is shown as it is. -/
theorem shown_ofString (s : String) : (ofString s).shown = s := by
  rw [shown, text?_ofString, Option.getD_some]

end OsText

end ApiSchema.Files
