import ApiSchema.JsonSchema.Schema
import ApiSchema.Pattern.Match

/-!
# Validation

Finds all violations of a schema by a value, in the order of the rules and, within a rule, of the
value's parts.  The recursion follows the value; at one value it follows the schema, and references
by at most as many hops as there are references.
-/

namespace ApiSchema.JsonSchema

/-- What a schema finds in a part of a value. -/
abbrev Judge := Schema → List Violation

/-- A value with its path and the judges of its parts. -/
structure Subject where
  path : List PathStep
  value : Json
  members : List (String × Judge)
  items : List Judge

namespace Subject

/-- A violation at the value itself. -/
def violation (s : Subject) (complaint : Complaint) : List Violation := [⟨s.path, complaint⟩]

/-- A violation at the value itself unless a test holds. -/
def ensure (s : Subject) (test : Bool) (complaint : Complaint) : List Violation :=
  if test then [] else s.violation complaint

/-- One violation for each required key that is absent. -/
def requireKeys (s : Subject) (keys : List String) : List Violation :=
  match s.value with
  | .object members =>
    keys.flatMap fun key => s.ensure (Keyed.has key members) (.missingKey key)
  | _ => []

/-- The violations in named members, in the order of the schema. -/
def judgeKnown (s : Subject) (known : List (String × Schema)) : List Violation :=
  known.flatMap fun (key, schema) =>
    match Keyed.get? key s.members with
    | some judge => judge schema
    | none => []

/-- The violations in all members, in the order of the value. -/
def judgeMembers (s : Subject) (known : List (String × Schema)) (others : Judge → List Violation) :
    List Violation :=
  s.members.flatMap fun (key, judge) =>
    match Keyed.get? key known with
    | some schema => judge schema
    | none => others judge

/-- The violation for members that are not named. -/
def forbidOthers (s : Subject) (known : List (String × Schema)) : List Violation :=
  let unexpected := (Keyed.keys s.members).filter fun key => !Keyed.has key known
  s.ensure unexpected.isEmpty (.unexpectedKeys unexpected)

/-- The violation for the first member of an object that may have none. -/
def forbidMembers (s : Subject) : List Violation :=
  match s.value with
  | .object ((_, value) :: _) => s.violation (.forbidden value)
  | _ => []

/-- The violation of a text that a pattern is not found in. -/
def matchPattern (s : Subject) (text : String) (reading : Option Pattern) : List Violation :=
  match s.value with
  | .string content =>
    s.ensure (reading.any (·.found content)) (.noMatch s.value text)
  | _ => []

/-- The violation of a choice of which exactly one branch must hold. -/
def judgeOne (s : Subject) (branches : List (List Violation)) : List Violation :=
  match branches.countP List.isEmpty with
  | 0 => s.violation (.noneOfOne s.value)
  | 1 => []
  | _ => s.violation (.manyOfOne s.value)

end Subject

mutual

/-- The violations of a schema by a value, given those of a reference. -/
def Schema.judge (follow : String → List Violation) (s : Subject) : Schema → List Violation
  | .always => []
  | .never => s.violation (.forbidden s.value)
  | .rules list => judgeRules follow s list

def Rule.judge (follow : String → List Violation) (s : Subject) : Rule → List Violation
  | .types allowed => s.ensure (allowed.any (·.holds s.value)) (.wrongType s.value allowed)
  | .required keys => s.requireKeys keys
  | .properties known => s.judgeKnown known
  | .onlyProperties known => s.judgeMembers known (fun _ => []) ++ s.forbidOthers known
  | .noProperties => s.forbidMembers
  | .otherProperties known others => s.judgeMembers known (· others)
  | .items each => s.items.flatMap (· each)
  | .enum options => s.ensure (options.any (·.sameValue s.value)) (.notInEnum s.value options)
  | .const value => s.ensure (value.matchesConst s.value) (.notConst value)
  | .pattern text reading => s.matchPattern text reading
  | .oneOf branches => s.judgeOne (judgeEach follow s branches)
  | .anyOf branches =>
    s.ensure ((judgeEach follow s branches).any List.isEmpty) (.noneOfAny s.value)
  | .allOf branches => (judgeEach follow s branches).flatten
  | .whenThen condition consequence =>
    if (Schema.judge follow s condition).isEmpty then Schema.judge follow s consequence else []
  | .reference name => follow name

def judgeRules (follow : String → List Violation) (s : Subject) : List Rule → List Violation
  | [] => []
  | rule :: rest => rule.judge follow s ++ judgeRules follow s rest

/-- The violations of several schemas, apart. -/
def judgeEach (follow : String → List Violation) (s : Subject) :
    List Schema → List (List Violation)
  | [] => []
  | schema :: rest => schema.judge follow s :: judgeEach follow s rest

end

/-- The violations of a schema by a value, with at most `hops` references followed in turn.  A
reference that leads back to itself at the same value asks for nothing more. -/
def judgeWithin (s : Subject) : Nat → List (String × Schema) → Judge
  | 0, _ => Schema.judge (fun _ => []) s
  | hops + 1, targets =>
    Schema.judge (fun target =>
      match Keyed.get? target targets with
      | some schema => judgeWithin s hops (Keyed.erase target targets) schema
      | none => []) s

/-- The violations of a schema by a value with known judges of its parts. -/
def judgeSubject (targets : List (String × Schema)) (s : Subject) : Judge :=
  judgeWithin s targets.length targets

mutual

/-- The violations of a schema by the value that a path leads to. -/
def judgeValue (targets : List (String × Schema)) (path : List PathStep) : Json → Judge
  | .array items => judgeSubject targets
      ⟨path, .array items, [], judgeItems targets path 0 items⟩
  | .object members => judgeSubject targets
      ⟨path, .object members, judgeMembersOf targets path members, []⟩
  | .null => judgeSubject targets ⟨path, .null, [], []⟩
  | .bool b => judgeSubject targets ⟨path, .bool b, [], []⟩
  | .number n => judgeSubject targets ⟨path, .number n, [], []⟩
  | .string s => judgeSubject targets ⟨path, .string s, [], []⟩

/-- The judges of the items of an array, from a position on. -/
def judgeItems (targets : List (String × Schema)) (path : List PathStep) (start : Nat) :
    List Json → List Judge
  | [] => []
  | item :: rest =>
    judgeValue targets (path ++ [.index start]) item ::
      judgeItems targets path (start + 1) rest

def judgeMembersOf (targets : List (String × Schema)) (path : List PathStep) :
    List (String × Json) → List (String × Judge)
  | [] => []
  | (key, value) :: rest =>
    (key, judgeValue targets (path ++ [.key key]) value) ::
      judgeMembersOf targets path rest

end

def SchemaFile.violations (file : SchemaFile) (value : Json) : List Violation :=
  judgeValue file.targets [] value file.root

def SchemaFile.accepts (file : SchemaFile) (value : Json) : Bool :=
  (file.violations value).isEmpty

end ApiSchema.JsonSchema
