import ApiSchema.JsonSchema.Schema

/-!
# Well-formed schemas

Finds the first mistake in a value that is to be used as a schema.  The shape of the whole value is
looked at first, in three groups of keywords: references and definitions, then the keywords that
hold schemas, then the others.  The patterns and references that are of use are looked at after it.
-/

namespace ApiSchema.JsonSchema

/-- Complains unless a test holds. -/
def demand (test : Bool) (complaint : Complaint) : Option Complaint :=
  if test then none else some complaint

/-- The first complaint about the value of a type keyword. -/
def typeKeywordFault (value : Json) : Option Complaint :=
  let named : Json → Bool := fun
    | .string name => (TypeName.ofName? name).isSome
    | _ => false
  match value with
  | .array items =>
    demand (!items.isEmpty && items.all named && (typesOfJson value).Nodup) (.noneOfAny value)
  | value => demand (named value) (.noneOfAny value)

/-- The first complaint about the value of a keyword that holds texts, each at most once. -/
def textArrayFault (value : Json) : Option Complaint :=
  match value with
  | .array items =>
    (items.findSome? fun item => demand (TypeName.string.holds item) (.wrongType item [.string]))
      <|> demand ((textsOfJson value).Nodup) (.repeatedItems value)
  | value => some (.wrongType value [.array])

/-- The first complaint about a keyword whose value must have a type. -/
def typedFault (type : TypeName) (value : Json) : Option Complaint :=
  demand (type.holds value) (.wrongType value [type])

/-- The first complaint about a member, if it is there. -/
def memberFault (key : String) (members : List (String × Json))
    (fault : Json → Option Complaint) : Option Complaint :=
  (Keyed.get? key members).bind fault

mutual

/-- The first mistake in the shape of a schema. -/
def schemaFault : Json → Option Complaint
  | .bool _ => none
  | .object members =>
    memberFault "$ref" members (typedFault .string)
      <|> objectUnderFault "$defs" members
      <|> schemaUnderFault "items" members
      <|> schemaUnderFault "additionalProperties" members
      <|> objectUnderFault "properties" members
      <|> schemaUnderFault "if" members
      <|> schemaUnderFault "then" members
      <|> arrayUnderFault "allOf" members
      <|> arrayUnderFault "anyOf" members
      <|> arrayUnderFault "oneOf" members
      <|> memberFault "type" members typeKeywordFault
      <|> memberFault "enum" members (typedFault .array)
      <|> memberFault "pattern" members (typedFault .string)
      <|> memberFault "required" members textArrayFault
  | value => some (.wrongType value [.boolean, .object])

/-- The first mistake in the schema under a key. -/
def schemaUnderFault (key : String) : List (String × Json) → Option Complaint
  | [] => none
  | (k, value) :: rest => if k = key then schemaFault value else schemaUnderFault key rest

/-- The first mistake in the object of schemas under a key. -/
def objectUnderFault (key : String) : List (String × Json) → Option Complaint
  | [] => none
  | (k, value) :: rest => if k = key then objectFault value else objectUnderFault key rest

/-- The first mistake in an object of schemas. -/
def objectFault : Json → Option Complaint
  | .object members => membersFault members
  | value => some (.wrongType value [.object])

/-- The first mistake in the schemas of some members. -/
def membersFault : List (String × Json) → Option Complaint
  | [] => none
  | (_, value) :: rest => schemaFault value <|> membersFault rest

/-- The first mistake in the array of schemas under a key. -/
def arrayUnderFault (key : String) : List (String × Json) → Option Complaint
  | [] => none
  | (k, value) :: rest => if k = key then arrayFault value else arrayUnderFault key rest

/-- The first mistake in an array of schemas, which must not be empty. -/
def arrayFault : Json → Option Complaint
  | .array [] => some (.tooFewItems (.array []))
  | .array items => itemsFault items
  | value => some (.wrongType value [.array])

/-- The first mistake in some schemas. -/
def itemsFault : List Json → Option Complaint
  | [] => none
  | item :: rest => schemaFault item <|> itemsFault rest

end

/-- Something without which a schema cannot be used. -/
inductive Need where
  | pattern (text : String) (reading : Option Pattern)
  | reference (target : String)

mutual

/-- What a schema needs, in order. -/
def Schema.needs : Schema → List Need
  | .always => []
  | .never => []
  | .rules list => needsOfRules list

def Rule.needs : Rule → List Need
  | .properties known => needsOfNamed known
  | .onlyProperties known => needsOfNamed known
  | .otherProperties known others => needsOfNamed known ++ others.needs
  | .items each => each.needs
  | .pattern text reading => [.pattern text reading]
  | .oneOf branches => needsOfAll branches
  | .anyOf branches => needsOfAll branches
  | .allOf branches => needsOfAll branches
  | .whenThen condition consequence => condition.needs ++ consequence.needs
  | .reference target => [.reference target]
  | _ => []

def needsOfRules : List Rule → List Need
  | [] => []
  | rule :: rest => rule.needs ++ needsOfRules rest

def needsOfAll : List Schema → List Need
  | [] => []
  | schema :: rest => schema.needs ++ needsOfAll rest

def needsOfNamed : List (String × Schema) → List Need
  | [] => []
  | (_, schema) :: rest => schema.needs ++ needsOfNamed rest

end

/-- The complaint about a reference that does not lead to a schema. -/
def referenceFault (document : Json) (target : String) : Option Complaint :=
  match resolve target document with
  | .ok (.bool _) => none
  | .ok (.object _) => none
  | .ok value => some (.wrongType value [.boolean, .object])
  | .error complaint => some complaint

/-- The first need that is not met.  What a reference leads to is needed where the reference stands
first; `left` has the references that have not been met yet. -/
def unmetNeed (document : Json) (left : List (String × Schema)) : List Need → Option Complaint
  | [] => none
  | .pattern text none :: _ => some (.notPattern (.string text))
  | .pattern _ (some _) :: rest => unmetNeed document left rest
  | .reference target :: rest =>
    match h : Keyed.get? target left with
    | some schema =>
      have := Keyed.length_erase_lt (show Keyed.has target left by simp [Keyed.has, h])
      referenceFault document target
        <|> unmetNeed document (Keyed.erase target left) (schema.needs ++ rest)
    | none => referenceFault document target <|> unmetNeed document left rest
termination_by needs => (left.length, needs.length)

/-- The first mistake in a value that is to be used as a schema. -/
def documentFault (document : Json) : Option Complaint :=
  schemaFault document
    <|> unmetNeed document (SchemaFile.ofJson document).targets (schemaOfJson document).needs

/-- Why a value cannot be validated, or what is wrong with it. -/
inductive ValidationError where
  | badSchema (complaint : Complaint)
  | invalid (violations : List Violation)

def ValidationError.message : ValidationError → String
  | .badSchema complaint => s!"catalog schema could not be compiled: {complaint.message}"
  | .invalid violations => s!"validation failed with {violations.length} error(s)"

def ValidationError.exitCode : ValidationError → Nat
  | .badSchema _ => 2
  | .invalid _ => 1

end ApiSchema.JsonSchema
