import ApiSchema.Api.EntryRecord
import ApiSchema.Synthesis.Error

/-!
# The registry

Holds the generated types by name, the entry records by the fragment of their value type, and the
advisories.  A synthesis reads and extends the registry, and keeps what it did even where it
fails; `rollback` goes back to an earlier checkpoint.
-/

namespace ApiSchema

/-- What an advisory is about: a field without documentation, a union of different simple types,
or a field that takes any value. -/
inductive AdvisoryKind where
  | undocumented
  | scalarUnion
  | untyped
  deriving DecidableEq, Repr

/-- Something found during synthesis that is no error. -/
structure Advisory where
  path : String
  kind : AdvisoryKind
  message : String
  deriving DecidableEq

/-- The state of synthesis. -/
structure Registry where
  /-- Types in the order in which their names were registered. -/
  types : List NamedType
  /-- Entry records by the fragment of their value type. -/
  entries : List (String × ObjectType)
  advisories : List Advisory
  /-- The serial number of the next registration, which is how many there were before. -/
  nextSerial : Nat

/-- Puts a type under its name: in place of the type that has the name, else at the end. -/
def putType (type : NamedType) : List NamedType → List NamedType
  | [] => [type]
  | t :: rest => if t.name = type.name then type :: rest else t :: putType type rest

/-- How far a registry has grown. -/
structure Checkpoint where
  types : Nat
  advisories : Nat
  serial : Nat

namespace Registry

/-- The registry without types. -/
def empty : Registry := ⟨[], [], [], 0⟩

def get? (r : Registry) (name : String) : Option NamedType :=
  r.types.find? (·.name == name)

/-- Is there a type under the name? -/
def has (r : Registry) (name : String) : Bool := (r.get? name).isSome

def advise (r : Registry) (advisory : Advisory) : Registry :=
  { r with advisories := r.advisories ++ [advisory] }

def register (r : Registry) (type : NamedType) : Registry :=
  { r with types := putType type r.types, nextSerial := r.nextSerial + 1 }

/-- The registry with the entry record of a fragment. -/
def keepRecord (r : Registry) (fragment : String) (record : ObjectType) : Registry :=
  { r with entries := Keyed.insert fragment record r.entries }

/-- How far the registry has grown. -/
def checkpoint (r : Registry) : Checkpoint := ⟨r.types.length, r.advisories.length, r.nextSerial⟩

/-- The registry cut back to a checkpoint; entry records whose type is gone go too. -/
def rollback (r : Registry) (c : Checkpoint) : Registry :=
  let types := r.types.take c.types
  { types
    entries := r.entries.filter fun (_, record) => types.any (·.name == record.name)
    advisories := r.advisories.take c.advisories
    nextSerial := c.serial }

end Registry

/-- A computation on the registry that can fail. -/
abbrev Synthesis := ExceptT SynthesisError (StateM Registry)

namespace Synthesis

/-- Fails at a generated name. -/
def fail {α : Type} (path : String) (fault : SynthesisFault) : Synthesis α :=
  throw ⟨path, fault⟩

def advise (path : String) (kind : AdvisoryKind) (message : String) : Synthesis Unit :=
  modify (·.advise ⟨path, kind, message⟩)

/-- Registers the object that has the next serial number. -/
def registerObject (make : Nat → ObjectType) : Synthesis ObjectType := do
  let r ← get
  let object := make r.nextSerial
  set (r.register (.object object))
  return object

def registerUnion (union : UnionType) : Synthesis UnionType := do
  modify (·.register (.union union))
  return union

/-- The object registered under a name; a union there is an error. -/
def objectNamed? (name : String) : Synthesis (Option ObjectType) := do
  match (← get).get? name with
  | none => return none
  | some (.object object) => return some object
  | some (.union _) => fail name .nameOfUnion

/-- The union registered under a name; an object there is an error. -/
def unionNamed? (name : String) : Synthesis (Option UnionType) := do
  match (← get).get? name with
  | none => return none
  | some (.union union) => return some union
  | some (.object _) => fail name .nameOfObject

/-- The record for entries whose values have a type; it is made only once for a fragment. -/
def entryRecordFor (value : ApiType) : Synthesis ObjectType := do
  let fragment := value.fragment
  match Keyed.get? fragment (← get).entries with
  | some record => return record
  | none =>
    if (← get).has (entryName value) then fail (entryName value) .entryNameTaken
    else
      let record ← registerObject fun serial => entryRecord serial value
      modify (·.keepRecord fragment record)
      return record

end Synthesis

end ApiSchema
