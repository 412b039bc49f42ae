import ApiSchema.Documentation.Tree
import ApiSchema.Json.Shape

/-!
# Documentation trees in JSON

A tree is an object; a plain description is a string in it, and a nested entry is an object again.
The entry's own description stands last in that object under a key of its own.
-/

namespace ApiSchema.Documentation

open Json (ShapeError)

/-- The key of an entry's own description. -/
def ownTextKey : String := "<<text>>"

mutual

def Entry.toJson : Entry → Json
  | .text content => .string content
  | .nested none fields => .object (fieldMembers fields)
  | .nested (some own) fields =>
    .object (Keyed.insert ownTextKey (.string own) (fieldMembers fields))

def fieldMembers : List (String × Entry) → List (String × Json)
  | [] => []
  | (key, entry) :: rest => (key, entry.toJson) :: fieldMembers rest

end

def treeToJson (tree : Tree) : Json := .object (fieldMembers tree)

/-- The nested entry of some fields, of which one may be the entry's own description. -/
def nestedOf (fields : Tree) : Except ShapeError Entry :=
  match Keyed.get? ownTextKey fields with
  | none => .ok (.nested none fields)
  | some (.text own) => .ok (.nested (some own) (Keyed.erase ownTextKey fields))
  | some (.nested _ _) => .error (.ownTextNotString ownTextKey)

mutual

/-- Reads an entry.  What is wrong inside a nested entry is reported as one mismatch. -/
def entryOfJson : Json → Except ShapeError Entry
  | .string content => .ok (.text content)
  | .object members =>
    match fieldsOfMembers members with
    | .ok fields => nestedOf fields
    | .error _ => .error .noAlternative
  | _ => .error .noAlternative

/-- Reads the entries of some members, up to the first one that is none. -/
def fieldsOfMembers : List (String × Json) → Except ShapeError (List (String × Entry))
  | [] => .ok []
  | (key, value) :: rest => do
    let entry ← entryOfJson value
    let others ← fieldsOfMembers rest
    return (key, entry) :: others

end

def treeOfJson : Json → Except ShapeError Tree
  | .object members => fieldsOfMembers members
  | value => Json.refuse value "a map"

end ApiSchema.Documentation
