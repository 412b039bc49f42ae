import ApiSchema.JsonSchema.Validation

/-!
# The meaning of schema keywords

A value fulfils a schema if validation finds no violation of it.  For each kind of rule there is one
lemma that says what the rule asks of a value and of its parts: a required key is there, a named
member fulfils its schema, exactly one branch of a choice holds.  A reference asks for what the
schema asks that it leads to (`exists_follow_of_reference`).
-/

namespace ApiSchema.JsonSchema

/-- The value at a path fulfils a schema. -/
def Fulfils (targets : List (String × Schema)) (path : List PathStep) (value : Json)
    (schema : Schema) : Prop :=
  judgeValue targets path value schema = []

/-- The value at a path with the judges of its parts. -/
def subjectAt (targets : List (String × Schema)) (path : List PathStep) : Json → Subject
  | .array items => ⟨path, .array items, [], judgeItems targets path 0 items⟩
  | .object members => ⟨path, .object members, judgeMembersOf targets path members, []⟩
  | value => ⟨path, value, [], []⟩

section Keywords

variable {follow : String → List Violation} {s : Subject} {targets : List (String × Schema)}
  {path : List PathStep}

theorem judgeValue_eq (value : Json) :
    judgeValue targets path value = judgeSubject targets (subjectAt targets path value) := by
  cases value <;> rfl

@[simp] theorem value_subjectAt (value : Json) : (subjectAt targets path value).value = value := by
  cases value <;> rfl

/-! ## Rules about the value -/

theorem ensure_eq_nil_iff {test : Bool} {complaint : Complaint} :
    s.ensure test complaint = [] ↔ test = true := by
  cases test
  · exact ⟨nofun, nofun⟩
  · exact ⟨fun _ => rfl, fun _ => rfl⟩

theorem judge_types_iff {allowed : List TypeName} :
    (Rule.types allowed).judge follow s = [] ↔ ∃ type ∈ allowed, type.holds s.value := by
  rw [Rule.judge, ensure_eq_nil_iff, List.any_eq_true]

theorem holds_object_iff {value : Json} :
    TypeName.object.holds value ↔ ∃ members, value = .object members := by
  cases value with
  | object members => exact ⟨fun _ => ⟨members, rfl⟩, fun _ => rfl⟩
  | _ => exact ⟨nofun, nofun⟩

theorem holds_array_iff {value : Json} :
    TypeName.array.holds value ↔ ∃ items, value = .array items := by
  cases value with
  | array items => exact ⟨fun _ => ⟨items, rfl⟩, fun _ => rfl⟩
  | _ => exact ⟨nofun, nofun⟩

theorem holds_string_iff {value : Json} :
    TypeName.string.holds value ↔ ∃ text, value = .string text := by
  cases value with
  | string text => exact ⟨fun _ => ⟨text, rfl⟩, fun _ => rfl⟩
  | _ => exact ⟨nofun, nofun⟩

theorem sameValue_string_iff {text : String} {value : Json} :
    (Json.string text).sameValue value ↔ value = .string text := by
  cases value with
  | string other =>
    rw [Json.sameValue, beq_iff_eq]
    exact ⟨fun same => same ▸ rfl, fun same => (Json.string.inj same).symm⟩
  | _ => exact ⟨nofun, nofun⟩

theorem judge_enum_iff {names : List String} :
    (Rule.enum (names.map .string)).judge follow s = [] ↔
      ∃ name ∈ names, s.value = .string name := by
  rw [Rule.judge, ensure_eq_nil_iff, List.any_map, List.any_eq_true]
  exact exists_congr fun name => and_congr_right fun _ => sameValue_string_iff

theorem judge_const_iff {text : String} :
    (Rule.const (.string text)).judge follow s = [] ↔ s.value = .string text := by
  have compared : ∀ value,
      (Json.string text).matchesConst value = (Json.string text).sameValue value := by
    intro value
    rw [Json.matchesConst]
    exact nofun
  rw [Rule.judge, ensure_eq_nil_iff, compared, sameValue_string_iff]

theorem judge_pattern_iff {text content : String} {reading : Option Pattern}
    (value : s.value = .string content) :
    (Rule.pattern text reading).judge follow s = [] ↔ reading.any (·.found content) = true := by
  rw [Rule.judge, Subject.matchPattern, value]
  exact ensure_eq_nil_iff

/-! ## Rules about the parts of the value -/

theorem judge_required_iff {keys : List String} {members : List (String × Json)}
    (value : s.value = .object members) :
    (Rule.required keys).judge follow s = [] ↔
      ∀ key ∈ keys, ∃ inner, Keyed.get? key members = some inner := by
  rw [Rule.judge, Subject.requireKeys, value]
  dsimp only
  rw [List.flatMap_eq_nil_iff]
  refine forall₂_congr fun key _ => ?_
  rw [ensure_eq_nil_iff, Keyed.has, Option.isSome_iff_exists]

theorem get?_judgeMembersOf (key : String) (members : List (String × Json)) :
    Keyed.get? key (judgeMembersOf targets path members) =
      (Keyed.get? key members).map (judgeValue targets (path ++ [.key key])) := by
  induction members with
  | nil => rfl
  | cons member rest ih =>
    by_cases same : member.1 = key
    · subst same
      simp [judgeMembersOf, Keyed.get?]
    · simp [judgeMembersOf, Keyed.get?, same, ih]

theorem judge_properties_iff {known : List (String × Schema)} {members : List (String × Json)} :
    (Rule.properties known).judge follow (subjectAt targets path (.object members)) = [] ↔
      ∀ entry ∈ known, ∀ inner, Keyed.get? entry.1 members = some inner →
        Fulfils targets (path ++ [.key entry.1]) inner entry.2 := by
  rw [Rule.judge, Subject.judgeKnown, List.flatMap_eq_nil_iff]
  refine forall₂_congr fun entry _ => ?_
  rw [subjectAt]
  dsimp only
  rw [get?_judgeMembersOf]
  rcases Keyed.get? entry.1 members with _ | inner
  · exact ⟨fun _ => nofun, fun _ => rfl⟩
  · exact ⟨fun none _ same => Option.some.inj same ▸ none, fun fulfils => fulfils inner rfl⟩

theorem judgeMembersOf_eq_map (members : List (String × Json)) :
    judgeMembersOf targets path members =
      members.map fun (key, inner) => (key, judgeValue targets (path ++ [.key key]) inner) := by
  induction members with
  | nil => rfl
  | cons member rest ih => rw [judgeMembersOf, ih, List.map_cons]

theorem judge_onlyProperties_iff {known : List (String × Schema)}
    {members : List (String × Json)} :
    (Rule.onlyProperties known).judge follow (subjectAt targets path (.object members)) = [] ↔
      ∀ member ∈ members, ∃ schema, Keyed.get? member.1 known = some schema ∧
        Fulfils targets (path ++ [.key member.1]) member.2 schema := by
  have named : (subjectAt targets path (.object members)).forbidOthers known = [] ↔
      ∀ member ∈ members, ∃ schema, Keyed.get? member.1 known = some schema := by
    rw [Subject.forbidOthers, ensure_eq_nil_iff, subjectAt, judgeMembersOf_eq_map]
    simp [Keyed.keys, Keyed.has, Option.ne_none_iff_exists']
  rw [Rule.judge, List.append_eq_nil_iff, named, Subject.judgeMembers, subjectAt,
    judgeMembersOf_eq_map, List.flatMap_map, List.flatMap_eq_nil_iff]
  constructor
  · rintro ⟨judged, named⟩ member mem
    obtain ⟨schema, found⟩ := named member mem
    have fulfils := judged member mem
    dsimp only at fulfils
    rw [found] at fulfils
    exact ⟨schema, found, fulfils⟩
  · intro all
    refine ⟨fun member mem => ?_, fun member mem => ?_⟩
    · obtain ⟨schema, found, fulfils⟩ := all member mem
      dsimp only
      rw [found]
      exact fulfils
    · obtain ⟨schema, found, -⟩ := all member mem
      exact ⟨schema, found⟩

theorem judge_otherProperties_iff {known : List (String × Schema)} {others : Schema}
    {members : List (String × Json)} :
    (Rule.otherProperties known others).judge follow (subjectAt targets path (.object members)) =
      [] ↔
      ∀ member ∈ members, Fulfils targets (path ++ [.key member.1]) member.2
        ((Keyed.get? member.1 known).getD others) := by
  rw [Rule.judge, Subject.judgeMembers, subjectAt, judgeMembersOf_eq_map, List.flatMap_map,
    List.flatMap_eq_nil_iff]
  refine forall₂_congr fun member _ => ?_
  dsimp only
  rcases Keyed.get? member.1 known <;> rfl

theorem forall_mem_judgeItems_iff {P : Judge → Prop} (start : Nat) (items : List Json) :
    (∀ judge ∈ judgeItems targets path start items, P judge) ↔
      ∀ index item, items[index]? = some item →
        P (judgeValue targets (path ++ [.index (start + index)]) item) := by
  induction items generalizing start with
  | nil => exact ⟨fun _ _ _ found => (nomatch found), fun _ _ => nofun⟩
  | cons item rest ih =>
    rw [judgeItems, List.forall_mem_cons, ih]
    constructor
    · rintro ⟨first, later⟩ (_ | index) item' found
      · cases found
        exact first
      · have shifted : start + (index + 1) = start + 1 + index := by omega
        rw [shifted]
        exact later index item' found
    · intro all
      refine ⟨all 0 item rfl, fun index item' found => ?_⟩
      have shifted : start + 1 + index = start + (index + 1) := by omega
      rw [shifted]
      exact all (index + 1) item' found

theorem judge_items_iff {each : Schema} {items : List Json} :
    (Rule.items each).judge follow (subjectAt targets path (.array items)) = [] ↔
      ∀ index item, items[index]? = some item →
        Fulfils targets (path ++ [.index index]) item each := by
  rw [Rule.judge, subjectAt, List.flatMap_eq_nil_iff,
    forall_mem_judgeItems_iff (P := fun judge => judge each = [])]
  simp only [Nat.zero_add]
  rfl

/-! ## Rules made of schemas -/

theorem judge_rules_iff {rules : List Rule} :
    Schema.judge follow s (.rules rules) = [] ↔ ∀ rule ∈ rules, rule.judge follow s = [] := by
  rw [Schema.judge]
  induction rules with
  | nil => exact ⟨fun _ => nofun, fun _ => rfl⟩
  | cons rule rest ih => rw [judgeRules, List.append_eq_nil_iff, ih, List.forall_mem_cons]

/-- Values of one type are asked for, and of such a value the other rules. -/
theorem judge_typed_iff {type : TypeName} {rules : List Rule} {value : Json} :
    Schema.judge follow (subjectAt targets path value) (.rules (.types [type] :: rules)) = [] ↔
      type.holds value ∧
        ∀ rule ∈ rules, rule.judge follow (subjectAt targets path value) = [] := by
  rw [judge_rules_iff, List.forall_mem_cons, judge_types_iff, value_subjectAt]
  refine and_congr_left fun _ => ?_
  constructor
  · rintro ⟨type', mem, holds⟩
    exact List.mem_singleton.1 mem ▸ holds
  · intro holds
    exact ⟨type, List.mem_singleton_self _, holds⟩

theorem judge_object_iff {rules : List Rule} {value : Json} :
    Schema.judge follow (subjectAt targets path value) (.rules (.types [.object] :: rules)) = [] ↔
      ∃ members, value = .object members ∧
        ∀ rule ∈ rules, rule.judge follow (subjectAt targets path (.object members)) = [] := by
  rw [judge_typed_iff, holds_object_iff]
  constructor
  · rintro ⟨⟨members, rfl⟩, others⟩
    exact ⟨members, rfl, others⟩
  · rintro ⟨members, rfl, others⟩
    exact ⟨⟨members, rfl⟩, others⟩

theorem judge_array_iff {rules : List Rule} {value : Json} :
    Schema.judge follow (subjectAt targets path value) (.rules (.types [.array] :: rules)) = [] ↔
      ∃ items, value = .array items ∧
        ∀ rule ∈ rules, rule.judge follow (subjectAt targets path (.array items)) = [] := by
  rw [judge_typed_iff, holds_array_iff]
  constructor
  · rintro ⟨⟨items, rfl⟩, others⟩
    exact ⟨items, rfl, others⟩
  · rintro ⟨items, rfl, others⟩
    exact ⟨⟨items, rfl⟩, others⟩

theorem judge_string_iff {rules : List Rule} {value : Json} :
    Schema.judge follow (subjectAt targets path value) (.rules (.types [.string] :: rules)) = [] ↔
      ∃ text, value = .string text ∧
        ∀ rule ∈ rules, rule.judge follow (subjectAt targets path (.string text)) = [] := by
  rw [judge_typed_iff, holds_string_iff]
  constructor
  · rintro ⟨⟨text, rfl⟩, others⟩
    exact ⟨text, rfl, others⟩
  · rintro ⟨text, rfl, others⟩
    exact ⟨⟨text, rfl⟩, others⟩

theorem judgeEach_eq_map (branches : List Schema) :
    judgeEach follow s branches = branches.map (Schema.judge follow s) := by
  induction branches with
  | nil => rfl
  | cons branch rest ih => rw [judgeEach, ih, List.map_cons]

theorem judge_oneOf_iff {branches : List Schema} :
    (Rule.oneOf branches).judge follow s = [] ↔
      branches.countP (fun branch => (Schema.judge follow s branch).isEmpty) = 1 := by
  have counted : (judgeEach follow s branches).countP List.isEmpty =
      branches.countP fun branch => (Schema.judge follow s branch).isEmpty := by
    rw [judgeEach_eq_map, List.countP_map]
    rfl
  rw [Rule.judge, Subject.judgeOne, counted]
  rcases branches.countP fun branch => (Schema.judge follow s branch).isEmpty with _ | _ | count
  · exact iff_of_false (List.cons_ne_nil _ _) (by omega)
  · exact iff_of_true rfl rfl
  · exact iff_of_false (List.cons_ne_nil _ _) (by omega)

theorem judge_anyOf_iff {branches : List Schema} :
    (Rule.anyOf branches).judge follow s = [] ↔
      ∃ branch ∈ branches, Schema.judge follow s branch = [] := by
  rw [Rule.judge, ensure_eq_nil_iff, judgeEach_eq_map, List.any_map, List.any_eq_true]
  exact exists_congr fun branch => and_congr_right fun _ => List.isEmpty_iff

theorem judge_allOf_iff {branches : List Schema} :
    (Rule.allOf branches).judge follow s = [] ↔
      ∀ branch ∈ branches, Schema.judge follow s branch = [] := by
  rw [Rule.judge, judgeEach_eq_map, List.flatten_eq_nil_iff, List.forall_mem_map]

theorem judge_whenThen_iff {condition consequence : Schema} :
    (Rule.whenThen condition consequence).judge follow s = [] ↔
      (Schema.judge follow s condition = [] → Schema.judge follow s consequence = []) := by
  rw [Rule.judge]
  by_cases holds : Schema.judge follow s condition = []
  · rw [if_pos (List.isEmpty_iff.2 holds)]
    exact ⟨fun consequent _ => consequent, fun consequent => consequent holds⟩
  · rw [if_neg fun empty => holds (List.isEmpty_iff.1 empty)]
    exact ⟨fun _ given => absurd given holds, fun _ => rfl⟩

end Keywords

/-! ## Values and schemas -/

/-- What a reference finds in a value. -/
def followAt (targets : List (String × Schema)) (s : Subject) (name : String) : List Violation :=
  match Keyed.get? name targets with
  | some schema => judgeWithin s (targets.length - 1) (Keyed.erase name targets) schema
  | none => []

/-- A value fulfils a schema if its rules find nothing, with references followed from the value. -/
theorem fulfils_iff_judge (targets : List (String × Schema)) (path : List PathStep) (value : Json)
    (schema : Schema) :
    Fulfils targets path value schema ↔
      Schema.judge (followAt targets (subjectAt targets path value)) (subjectAt targets path value)
        schema = [] := by
  rw [Fulfils, judgeValue_eq, judgeSubject]
  rcases targets with _ | ⟨target, rest⟩
  · rfl
  · rfl

/-- A reference asks for what the schema asks that it leads to, with references in that schema
followed in turn. -/
theorem exists_follow_of_reference {targets : List (String × Schema)} {name : String}
    {schema : Schema} (found : Keyed.get? name targets = some schema) (path : List PathStep)
    (value : Json) :
    ∃ follow, Fulfils targets path value (.rules [.reference name]) ↔
      Schema.judge follow (subjectAt targets path value) schema = [] := by
  rw [fulfils_iff_judge, Schema.judge, judgeRules, judgeRules, List.append_nil, Rule.judge,
    followAt, found]
  dsimp only
  rcases targets.length - 1 with _ | hops
  · exact ⟨_, Iff.rfl⟩
  · exact ⟨_, Iff.rfl⟩

end ApiSchema.JsonSchema
