import ApiSchema.Document.CatalogFile
import ApiSchema.Proofs.SchemaKeywords

/-!
# What the schema of catalog files asks for

The schema of catalog files and its definitions, each with what it asks of a value.  Nodes and
constraints follow one plan: the member `tag` names a variant, and some variants ask for a member
with their content (`judge_tagged_iff`).
-/

namespace ApiSchema

open JsonSchema

/-! ## Where references lead -/

namespace JsonSchema

def partsOf? (reference : String) : Option (List (List Char)) :=
  match (reference.dropPrefix "#").toString.toList with
  | [] => some []
  | first :: rest =>
    if first ≠ '/' then none
    else (String.fromUTF8? ⟨(percentDecoded (String.ofList rest).toUTF8.toList).toArray⟩).map
      fun parts => Text.pieces '/' parts.toList

theorem resolve_eq_followParts {reference : String} {parts : List (List Char)}
    (read : partsOf? reference = some parts) (document : Json) :
    resolve reference document =
      followParts (reference.dropPrefix "#").toString parts document := by
  unfold partsOf? at read
  unfold resolve
  dsimp only
  rcases pointer : (reference.dropPrefix "#").toString.toList with _ | ⟨first, rest⟩
  · rw [pointer] at read
    cases read
    rfl
  · rw [pointer] at read
    dsimp only at read ⊢
    by_cases slash : first ≠ '/'
    · rw [if_pos slash] at read
      cases read
    · rw [if_neg slash] at read ⊢
      rcases decoded : String.fromUTF8?
          ⟨(percentDecoded (String.ofList rest).toUTF8.toList).toArray⟩ with _ | text
      · rw [decoded] at read
        cases read
      · rw [decoded] at read
        cases read
        rfl

/-- The schema at the end of a reference is read from where its parts lead. -/
theorem targetOf_eq_some {reference : String} {parts : List (List Char)} {document value : Json}
    (read : partsOf? reference = some parts)
    (leads : ∀ pointer, followParts pointer parts document = .ok value) :
    targetOf document reference = some (reference, schemaOfJson value) := by
  rw [targetOf, resolve_eq_followParts read, leads]

end JsonSchema

namespace CatalogSchema

/-- A schema that refers to a definition. -/
def referring (name : String) : Schema := .rules [.reference ("#/$defs/" ++ name)]

/-- The schemas that the references of the catalog schema lead to. -/
def targets : List (String × Schema) :=
  [("#/$defs/document", schemaOfJson document), ("#/$defs/node", schemaOfJson node),
   ("#/$defs/docs", schemaOfJson docs), ("#/$defs/nodes", schemaOfJson (arrayOf (referTo "node"))),
   ("#/$defs/validator", schemaOfJson constraint)]

theorem targets_catalogRules : catalogRules.targets = targets := by
  have references : (referencesIn catalogSchema).eraseDups = targets.map Prod.fst := by
    decide +kernel
  have parts : ∀ name ∈ ["document", "node", "docs", "nodes", "validator"],
      partsOf? ("#/$defs/" ++ name) = some ["$defs".toList, name.toList] := by
    decide +kernel
  have target : ∀ name ∈ ["document", "node", "docs", "nodes", "validator"], ∀ value,
      (∀ pointer, followParts pointer ["$defs".toList, name.toList] catalogSchema = .ok value) →
        targetOf catalogSchema ("#/$defs/" ++ name) =
          some ("#/$defs/" ++ name, schemaOfJson value) :=
    fun name mem value leads => targetOf_eq_some (parts name mem) leads
  have document_target := target "document" (by simp) document fun _ => rfl
  have node_target := target "node" (by simp) node fun _ => rfl
  have docs_target := target "docs" (by simp) docs fun _ => rfl
  have nodes_target := target "nodes" (by simp) (arrayOf (referTo "node")) fun _ => rfl
  have constraint_target := target "validator" (by simp) constraint fun _ => rfl
  change (referencesIn catalogSchema).eraseDups.filterMap (targetOf catalogSchema) = targets
  rw [references]
  change List.filterMap (targetOf catalogSchema) ["#/$defs/" ++ "document", "#/$defs/" ++ "node",
    "#/$defs/" ++ "docs", "#/$defs/" ++ "nodes", "#/$defs/" ++ "validator"] = targets
  simp only [List.filterMap_cons, List.filterMap_nil, document_target, node_target, docs_target,
    nodes_target, constraint_target]
  rfl

/-! ## Single schemas -/

variable {path : List PathStep} {value : Json}

def textSchema : Schema := .rules [.types [.string]]

def namePattern : String := "^[A-Za-z_][A-Za-z0-9_]*$"

def nameSchema : Schema :=
  .rules [.types [.string], .pattern namePattern (Pattern.ofText? namePattern)]

/-- The schema that asks for the name of a document kind. -/
def kindSchema : Schema := .rules [.enum (DocumentKind.all.map fun kind => .string kind.name)]

/-- The schema of arrays with a schema for each item. -/
def arraySchema (each : Schema) : Schema := .rules [.types [.array], .items each]

/-- The schema of objects with a schema for each member. -/
def mapSchema (each : Schema) : Schema := .rules [.types [.object], .otherProperties [] each]

theorem fulfils_text_iff :
    Fulfils targets path value textSchema ↔ ∃ text, value = .string text := by
  rw [fulfils_iff_judge, textSchema, judge_string_iff]
  exact exists_congr fun text => and_iff_left nofun

theorem fulfils_name_iff :
    Fulfils targets path value nameSchema ↔ ∃ name, value = .string name ∧
      (Pattern.ofText? namePattern).any (·.found name) = true := by
  rw [fulfils_iff_judge, nameSchema, judge_string_iff]
  refine exists_congr fun name => and_congr_right fun _ => ?_
  rw [List.forall_mem_singleton, judge_pattern_iff rfl]

theorem fulfils_kind_iff :
    Fulfils targets path value kindSchema ↔ ∃ kind : DocumentKind, value = .string kind.name := by
  have names : kindSchema = .rules [.enum ((DocumentKind.all.map DocumentKind.name).map .string)] :=
    rfl
  rw [fulfils_iff_judge, names, judge_rules_iff, List.forall_mem_singleton, judge_enum_iff,
    value_subjectAt]
  constructor
  · rintro ⟨name, mem, rfl⟩
    obtain ⟨kind, -, rfl⟩ := List.mem_map.1 mem
    exact ⟨kind, rfl⟩
  · rintro ⟨kind, rfl⟩
    exact ⟨kind.name, List.mem_map_of_mem (by cases kind <;> decide), rfl⟩

theorem judge_arraySchema_iff {follow : String → List Violation} {each : Schema} :
    Schema.judge follow (subjectAt targets path value) (arraySchema each) = [] ↔
      ∃ items, value = .array items ∧ ∀ index item, items[index]? = some item →
        Fulfils targets (path ++ [.index index]) item each := by
  rw [arraySchema, judge_array_iff]
  refine exists_congr fun items => and_congr_right fun _ => ?_
  rw [List.forall_mem_singleton, judge_items_iff]

theorem judge_mapSchema_iff {follow : String → List Violation} {each : Schema} :
    Schema.judge follow (subjectAt targets path value) (mapSchema each) = [] ↔
      ∃ members, value = .object members ∧ ∀ member ∈ members,
        Fulfils targets (path ++ [.key member.1]) member.2 each := by
  rw [mapSchema, judge_object_iff]
  refine exists_congr fun members => and_congr_right fun _ => ?_
  rw [List.forall_mem_singleton, judge_otherProperties_iff]
  rfl

/-! ## Tagged objects -/

/-- The content of a variant: the key that it stands under and the schema that it fulfils. -/
structure Content where
  variant : String
  key : String
  schema : Schema

/-- Asks for the content of a variant where the member `tag` names it or is absent. -/
def Content.rules (tag : String) (content : Content) : Schema :=
  .rules [.whenThen (.rules [.properties [(tag, .rules [.const (.string content.variant)])]])
    (.rules [.required [content.key], .properties [(content.key, content.schema)]])]

/-- The schema of objects whose member `tag` names a variant. -/
def taggedSchema (tag : String) (variants : List String) (contents : List Content) : Schema :=
  .rules
    [.types [.object], .required [tag],
     .properties [(tag, .rules [.enum (variants.map .string)])],
     .allOf (contents.map (Content.rules tag))]

/-- The content of a variant is there, and fulfils its schema, if its variant is the one named. -/
theorem judge_content_iff {follow : String → List Violation} {tag variant : String}
    {members : List (String × Json)} (named : Keyed.get? tag members = some (.string variant))
    (content : Content) :
    Schema.judge follow (subjectAt targets path (.object members)) (content.rules tag) = [] ↔
      (content.variant = variant → ∃ inner, Keyed.get? content.key members = some inner ∧
        Fulfils targets (path ++ [.key content.key]) inner content.schema) := by
  have condition : Schema.judge follow (subjectAt targets path (.object members))
      (.rules [.properties [(tag, .rules [.const (.string content.variant)])]]) = [] ↔
        content.variant = variant := by
    rw [judge_rules_iff, List.forall_mem_singleton, judge_properties_iff, List.forall_mem_singleton]
    have fulfils : Fulfils targets (path ++ [.key tag]) (.string variant)
        (.rules [.const (.string content.variant)]) ↔ variant = content.variant := by
      rw [fulfils_iff_judge, judge_rules_iff, List.forall_mem_singleton, judge_const_iff,
        value_subjectAt, Json.string.injEq]
    rw [named]
    refine ⟨fun all => (fulfils.1 (all _ rfl)).symm, ?_⟩
    rintro same inner ⟨⟩
    exact fulfils.2 same.symm
  have consequence : Schema.judge follow (subjectAt targets path (.object members))
      (.rules [.required [content.key], .properties [(content.key, content.schema)]]) = [] ↔
        ∃ inner, Keyed.get? content.key members = some inner ∧
          Fulfils targets (path ++ [.key content.key]) inner content.schema := by
    rw [judge_rules_iff, List.forall_mem_cons, List.forall_mem_singleton,
      judge_required_iff (value_subjectAt _), judge_properties_iff, List.forall_mem_singleton,
      List.forall_mem_singleton]
    constructor
    · rintro ⟨⟨inner, found⟩, fulfils⟩
      exact ⟨inner, found, fulfils inner found⟩
    · rintro ⟨inner, found, fulfils⟩
      refine ⟨⟨inner, found⟩, fun inner' found' => ?_⟩
      cases found.symm.trans found'
      exact fulfils
  rw [Content.rules, judge_rules_iff, List.forall_mem_singleton, judge_whenThen_iff, condition,
    consequence]

/-- An object whose member `tag` names a variant and that has the content that the variant asks
for. -/
def Tagged (tag : String) (variants : List String) (contents : List Content)
    (path : List PathStep) (value : Json) : Prop :=
  ∃ members variant, value = .object members ∧ variant ∈ variants ∧
    Keyed.get? tag members = some (.string variant) ∧
    ∀ content ∈ contents, content.variant = variant →
      ∃ inner, Keyed.get? content.key members = some inner ∧
        Fulfils targets (path ++ [.key content.key]) inner content.schema

theorem judge_tagged_iff {follow : String → List Violation} {tag : String}
    {variants : List String} {contents : List Content} :
    Schema.judge follow (subjectAt targets path value) (taggedSchema tag variants contents) = [] ↔
      Tagged tag variants contents path value := by
  rw [taggedSchema, judge_object_iff]
  refine exists_congr fun members => ?_
  have variant_iff : ∀ inner, Fulfils targets (path ++ [.key tag]) inner
      (.rules [.enum (variants.map .string)]) ↔ ∃ variant ∈ variants, inner = .string variant := by
    intro inner
    rw [fulfils_iff_judge, judge_rules_iff, List.forall_mem_singleton, judge_enum_iff,
      value_subjectAt]
  rw [List.forall_mem_cons, List.forall_mem_cons, List.forall_mem_singleton,
    judge_required_iff (value_subjectAt _), judge_properties_iff, judge_allOf_iff,
    List.forall_mem_map, List.forall_mem_singleton, List.forall_mem_singleton]
  constructor
  · rintro ⟨rfl, ⟨inner, found⟩, each, all⟩
    obtain ⟨variant, mem, rfl⟩ := (variant_iff inner).1 (each inner found)
    exact ⟨variant, rfl, mem, found, fun content mem =>
      (judge_content_iff found content).1 (all content mem)⟩
  · rintro ⟨variant, rfl, mem, found, all⟩
    refine ⟨rfl, ⟨_, found⟩, fun inner found' => ?_, fun content mem =>
      (judge_content_iff found content).2 (all content mem)⟩
    cases found.symm.trans found'
    exact (variant_iff _).2 ⟨variant, mem, rfl⟩

def nodeContents : List Content :=
  [⟨"optional", "inner", referring "node"⟩, ⟨"union", "alternatives", referring "nodes"⟩,
   ⟨"object", "fields", mapSchema (referring "node")⟩,
   ⟨"list", "element", referring "node"⟩, ⟨"map", "value", referring "node"⟩,
   ⟨"reference", "target", kindSchema⟩, ⟨"validated", "validator", referring "validator"⟩]

def constraintContents : List Content :=
  [⟨"doc_reference", "target", kindSchema⟩, ⟨"alternatives", "alternatives", referring "nodes"⟩,
   ⟨"custom", "name", textSchema⟩]

/-! ## The definitions -/

theorem fulfils_node_iff :
    Fulfils targets path value (referring "node") ↔
      Tagged "type" nodeVariants nodeContents path value := by
  have found : Keyed.get? "#/$defs/node" targets =
      some (taggedSchema "type" nodeVariants nodeContents) := rfl
  obtain ⟨follow, fulfils⟩ := exists_follow_of_reference found path value
  exact fulfils.trans judge_tagged_iff

theorem fulfils_constraint_iff :
    Fulfils targets path value (referring "validator") ↔
      Tagged "kind" constraintVariants constraintContents path value := by
  have found : Keyed.get? "#/$defs/validator" targets =
      some (taggedSchema "kind" constraintVariants constraintContents) := rfl
  obtain ⟨follow, fulfils⟩ := exists_follow_of_reference found path value
  exact fulfils.trans judge_tagged_iff

theorem fulfils_nodes_iff :
    Fulfils targets path value (referring "nodes") ↔ ∃ items, value = .array items ∧
      ∀ index item, items[index]? = some item →
        Fulfils targets (path ++ [.index index]) item (referring "node") := by
  have found : Keyed.get? "#/$defs/nodes" targets = some (arraySchema (referring "node")) := rfl
  obtain ⟨follow, fulfils⟩ := exists_follow_of_reference found path value
  exact fulfils.trans judge_arraySchema_iff

theorem fulfils_docs_iff :
    Fulfils targets path value (referring "docs") ↔ ∃ members, value = .object members ∧
      ∀ member ∈ members, (∃ text, member.2 = .string text) ∨
        Fulfils targets (path ++ [.key member.1]) member.2 (referring "docs") := by
  have found : Keyed.get? "#/$defs/docs" targets =
      some (mapSchema (.rules [.anyOf [textSchema, referring "docs"]])) := rfl
  obtain ⟨follow, fulfils⟩ := exists_follow_of_reference found path value
  refine fulfils.trans (judge_mapSchema_iff.trans ?_)
  refine exists_congr fun members => and_congr_right fun _ => forall₂_congr fun member _ => ?_
  rw [fulfils_iff_judge, judge_rules_iff, List.forall_mem_singleton, judge_anyOf_iff]
  simp only [List.mem_cons, List.not_mem_nil, or_false, exists_eq_or_imp, exists_eq_left,
    ← fulfils_iff_judge, fulfils_text_iff]

/-- The members that a document may have, with their schemas. -/
def documentMembers : List (String × Schema) :=
  [("kind", kindSchema),
   ("name", nameSchema),
   ("description", textSchema),
   ("schema", referring "node"),
   ("docstring", textSchema),
   ("docs", referring "docs"),
   ("skipFields", arraySchema textSchema),
   ("discriminator", textSchema)]

/-- A document is an object that has its kind, name and schema, exactly one of a docstring and a
tree, and no members but the known ones. -/
theorem fulfils_document_iff :
    Fulfils targets path value (referring "document") ↔ ∃ members, value = .object members ∧
      (∀ key ∈ ["kind", "name", "schema"], ∃ inner, Keyed.get? key members = some inner) ∧
      (∀ member ∈ members, ∃ schema, Keyed.get? member.1 documentMembers = some schema ∧
        Fulfils targets (path ++ [.key member.1]) member.2 schema) ∧
      ((Keyed.get? "docstring" members).isSome ↔ (Keyed.get? "docs" members).isNone) := by
  have found : Keyed.get? "#/$defs/document" targets =
      some (.rules [.types [.object], .required ["kind", "name", "schema"],
        .onlyProperties documentMembers, .oneOf [.rules [.required ["docstring"]],
          .rules [.required ["docs"]]]]) := rfl
  obtain ⟨follow, fulfils⟩ := exists_follow_of_reference found path value
  refine fulfils.trans (judge_object_iff.trans ?_)
  refine exists_congr fun members => and_congr_right fun _ => ?_
  have required : ∀ key, (Schema.judge follow (subjectAt targets path (.object members))
      (.rules [.required [key]])).isEmpty = (Keyed.get? key members).isSome := by
    intro key
    rw [Bool.eq_iff_iff, List.isEmpty_iff, judge_rules_iff, List.forall_mem_singleton,
      judge_required_iff (value_subjectAt _), List.forall_mem_singleton, Option.isSome_iff_exists]
  rw [List.forall_mem_cons, List.forall_mem_cons, List.forall_mem_singleton,
    judge_required_iff (value_subjectAt _), judge_onlyProperties_iff, judge_oneOf_iff]
  refine and_congr_right fun _ => and_congr_right fun _ => ?_
  rw [List.countP_cons, List.countP_cons, List.countP_nil, required, required]
  rcases Keyed.get? "docstring" members with _ | docstring <;>
    rcases Keyed.get? "docs" members with _ | docs <;> simp

/-- A catalog file is an object with an array of documents and nothing else. -/
theorem catalogViolations_eq_nil_iff :
    catalogViolations value = [] ↔ ∃ members, value = .object members ∧
      (∃ documents, Keyed.get? "documents" members = some documents) ∧
      ∀ member ∈ members, member.1 = "documents" ∧ ∃ items, member.2 = .array items ∧
        ∀ index item, items[index]? = some item →
          Fulfils targets [.key "documents", .index index] item (referring "document") := by
  have root : catalogRules.root = .rules [.types [.object], .required ["documents"],
      .onlyProperties [("documents", arraySchema (referring "document"))]] := rfl
  have fulfils : catalogViolations value = [] ↔ Fulfils targets [] value catalogRules.root := by
    rw [Fulfils, ← targets_catalogRules]
    rfl
  rw [fulfils, fulfils_iff_judge, root, judge_object_iff]
  refine exists_congr fun members => and_congr_right fun _ => ?_
  rw [List.forall_mem_cons, List.forall_mem_singleton, judge_required_iff (value_subjectAt _),
    List.forall_mem_singleton, judge_onlyProperties_iff]
  refine and_congr_right fun _ => forall₂_congr fun member _ => ?_
  by_cases named : member.1 = "documents"
  · have documents : Fulfils targets [.key "documents"] member.2
        (arraySchema (referring "document")) ↔ ∃ items, member.2 = .array items ∧
          ∀ index item, items[index]? = some item →
            Fulfils targets ([.key "documents"] ++ [.index index]) item (referring "document") :=
      (fulfils_iff_judge ..).trans judge_arraySchema_iff
    rw [named]
    refine Iff.trans ?_ ((and_iff_right rfl).trans documents.symm).symm
    refine ⟨?_, fun fulfils => ⟨_, rfl, fulfils⟩⟩
    rintro ⟨schema, ⟨⟩, fulfils⟩
    exact fulfils
  · refine iff_of_false ?_ fun known => named known.1
    rintro ⟨schema, known, -⟩
    rw [Keyed.get?, if_neg (Ne.symm named)] at known
    cases known

end CatalogSchema

end ApiSchema
