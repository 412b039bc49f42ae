import ApiSchema.Files.OsText
import ApiSchema.Text.Lines

/-!
# Paths

Paths as bytes with slashes.  A path is read by its components, which leave out empty parts and
dots, apart from a dot at the start.
-/

namespace ApiSchema.Files

open Text

/-- The byte that divides a path. -/
def slash : UInt8 := 0x2F

/-- The name of the directory itself. -/
def ownName : OsText := "."

/-- The name of the directory around another one. -/
def parentName : OsText := ".."

/-- The parts of a path between slashes. -/
def segments (path : OsText) : List OsText := (pieces slash path.bytes).map OsText.mk

/-- Parts with slashes between them. -/
def ofSegments (parts : List OsText) : OsText := ⟨joinPieces [slash] (parts.map OsText.bytes)⟩

/-- A component of a path and the parts after it. -/
structure Component where
  name : OsText
  rest : List OsText

/-- Is the part left out when it is not at the start? -/
def isIdle (part : OsText) : Bool := part.isEmpty || part == ownName

/-- The components among parts of a path that do not stand at its start. -/
def innerComponents : List OsText → List Component
  | [] => []
  | part :: rest =>
    if isIdle part then innerComponents rest else ⟨part, rest⟩ :: innerComponents rest

/-- The part at the start of a path that is a component though it would be left out elsewhere, with
the parts after it: a slash, or a dot. -/
def opening : List OsText → Option Component
  | [] => none
  | first :: rest =>
    if first == ownName then some ⟨ownName, rest⟩
    else if first.isEmpty && !rest.isEmpty then some ⟨⟨[slash]⟩, rest⟩
    else none

def components (path : OsText) : List Component :=
  match opening (segments path) with
  | some first => first :: innerComponents first.rest
  | none => innerComponents (segments path)

/-- The parts as a path, without parts that are left out at its end. -/
def trimmedPath (parts : List OsText) : OsText :=
  ofSegments (parts.reverse.dropWhile isIdle).reverse

/-- The path without parts that are left out at its end.  A slash or a dot at its start stays. -/
def trimmedWhole (path : OsText) : OsText :=
  match opening (segments path) with
  | some first =>
    let kept := (first.rest.reverse.dropWhile isIdle).reverse
    if first.name == ownName then ofSegments (ownName :: kept)
    else ⟨slash :: (ofSegments kept).bytes⟩
  | none => trimmedPath (segments path)

/-- What remains of a path after all components of another one, given the path's parts. -/
def afterComponents (parts : List OsText) : List Component → List Component → Option (List OsText)
  | [], _ => some parts
  | _ :: _, [] => none
  | b :: base, c :: path =>
    if b.name = c.name then afterComponents (c.rest.dropWhile isIdle) base path else none

/-- The path below a base, or the whole path where it does not lie there. -/
def relativeTo (base path : OsText) : OsText :=
  match components base with
  | [] => trimmedWhole path
  | first :: others =>
    match afterComponents (segments path) (first :: others) (components path) with
    | some parts => trimmedPath parts
    | none => path

/-- A path with a name below it. -/
def below (path name : OsText) : OsText :=
  if path.isEmpty || path.bytes.getLast? == some slash then ⟨path.bytes ++ name.bytes⟩
  else ⟨path.bytes ++ slash :: name.bytes⟩

def catalogExtension : OsText := ".json"

/-- Does a file's name have that extension and something before it? -/
def isCatalogName (name : OsText) : Bool :=
  catalogExtension.bytes.isSuffixOf name.bytes && name != catalogExtension

def fileName (path : OsText) : Option OsText :=
  match (components path).getLast? with
  | some ⟨name, _⟩ => if name = parentName then none else some name
  | none => none

end ApiSchema.Files
