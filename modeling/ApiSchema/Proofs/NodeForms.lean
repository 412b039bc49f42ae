import ApiSchema.Proofs.AcceptedNodes

/-!
# The JSON form of schema nodes

Writing and reading nodes are inverse to each other as far as they can be.  What is written for a
node is accepted by the schema of nodes and read back as the node; what the schema accepts can be
read, and what is written for it is the value itself without the members that no variant uses
(`node_forms_faithful`).
-/

namespace ApiSchema

open JsonSchema CatalogSchema
open Json (ShapeError)

/-! ## Written nodes are read back -/

theorem bind_pure_ok {α β ε : Type} {x : Except ε α} {a : α} (f : α → β) (ok : x = .ok a) :
    (x >>= fun a => pure (f a)) = .ok (f a) := by
  rw [ok]
  rfl

mutual

theorem nodeOfJson_toJson : ∀ node : SchemaNode, nodeOfJson node.toJson = .ok node
  | .scalar kind => by cases kind <;> rfl
  | .optional inner => bind_pure_ok SchemaNode.optional (nodeOfJson_toJson inner)
  | .union alternatives => bind_pure_ok SchemaNode.union (nodesOfJson_toJson alternatives)
  | .object fields => bind_pure_ok SchemaNode.object (fieldsOfJson_toJson fields)
  | .list element => bind_pure_ok SchemaNode.list (nodeOfJson_toJson element)
  | .map value => bind_pure_ok SchemaNode.map (nodeOfJson_toJson value)
  | .reference target => bind_pure_ok SchemaNode.reference (kindOfJson_name target)
  | .validated constraint => bind_pure_ok SchemaNode.validated (constraintOfJson_toJson constraint)

theorem constraintOfJson_toJson :
    ∀ constraint : Constraint, constraintOfJson constraint.toJson = .ok constraint
  | .documentName target => bind_pure_ok Constraint.documentName (kindOfJson_name target)
  | .alternatives nodes => bind_pure_ok Constraint.alternatives (nodesOfJson_toJson nodes)
  | .custom _ => rfl

theorem nodesOfJson_toJson :
    ∀ nodes : List SchemaNode, nodesOfJson (nodesToJson nodes) = .ok nodes
  | [] => rfl
  | node :: rest => by
    rw [nodesToJson, nodesOfJson, nodeOfJson_toJson node, nodesOfJson_toJson rest]
    rfl

theorem fieldsOfJson_toJson :
    ∀ fields : List (String × SchemaNode), fieldsOfJson (fieldsToJson fields) = .ok fields
  | [] => rfl
  | (key, node) :: rest => by
    rw [fieldsToJson, fieldsOfJson, nodeOfJson_toJson node, fieldsOfJson_toJson rest]
    rfl

end

/-! ## Written nodes are accepted -/

section Accepted

variable {path : List PathStep}

theorem tagged_pair {tag variant key : String} {variants : List String} {contents : List Content}
    {inner : Json} (known : variant ∈ variants) (apart : tag ≠ key)
    (content : ∀ content ∈ contents, content.variant = variant →
      content.key = key ∧ Fulfils targets (path ++ [.key key]) inner content.schema) :
    Tagged tag variants contents path (.object [(tag, .string variant), (key, inner)]) := by
  refine ⟨_, variant, rfl, known, by simp [Keyed.get?], fun asked mem named => ?_⟩
  obtain ⟨at_key, fulfils⟩ := content asked mem named
  rw [at_key]
  exact ⟨inner, by simp [Keyed.get?, apart], fulfils⟩

theorem fulfils_nodes_of_mem {items : List Json}
    (each : ∀ item ∈ items, ∀ path, Fulfils targets path item (referring "node")) :
    Fulfils targets path (.array items) (referring "nodes") :=
  fulfils_nodes_iff.2
    ⟨items, rfl, fun _ item found => each item (List.mem_of_getElem? found) _⟩

theorem fulfils_fields_of_mem {members : List (String × Json)}
    (each : ∀ member ∈ members, ∀ path, Fulfils targets path member.2 (referring "node")) :
    Fulfils targets path (.object members) (mapSchema (referring "node")) :=
  (fulfils_iff_judge ..).2
    (judge_mapSchema_iff.2 ⟨members, rfl, fun member mem => each member mem _⟩)

mutual

theorem fulfils_toJson : ∀ (node : SchemaNode) (path : List PathStep),
    Fulfils targets path node.toJson (referring "node")
  | .scalar kind, path => by
    rw [SchemaNode.toJson, fulfils_node_iff]
    refine ⟨_, kind.name, rfl, ?_, rfl, ?_⟩
    · cases kind <;> decide
    · cases kind <;> simp [nodeContents, ScalarKind.name]
  | .optional inner, path => by
    rw [SchemaNode.toJson, fulfils_node_iff]
    refine tagged_pair (by decide) (by decide) ?_
    simpa [nodeContents] using fulfils_toJson inner _
  | .union alternatives, path => by
    rw [SchemaNode.toJson, fulfils_node_iff]
    refine tagged_pair (by decide) (by decide) ?_
    simpa [nodeContents] using fulfils_nodes_of_mem (fulfils_of_mem_nodesToJson alternatives)
  | .object fields, path => by
    rw [SchemaNode.toJson, fulfils_node_iff]
    refine tagged_pair (by decide) (by decide) ?_
    simpa [nodeContents] using fulfils_fields_of_mem (fulfils_of_mem_fieldsToJson fields)
  | .list element, path => by
    rw [SchemaNode.toJson, fulfils_node_iff]
    refine tagged_pair (by decide) (by decide) ?_
    simpa [nodeContents] using fulfils_toJson element _
  | .map value, path => by
    rw [SchemaNode.toJson, fulfils_node_iff]
    refine tagged_pair (by decide) (by decide) ?_
    simpa [nodeContents] using fulfils_toJson value _
  | .reference target, path => by
    rw [SchemaNode.toJson, fulfils_node_iff]
    refine tagged_pair (by decide) (by decide) ?_
    simpa [nodeContents] using fulfils_kind_iff.2 ⟨target, rfl⟩
  | .validated constraint, path => by
    rw [SchemaNode.toJson, fulfils_node_iff]
    refine tagged_pair (by decide) (by decide) ?_
    simpa [nodeContents] using fulfils_constraintToJson constraint _

theorem fulfils_constraintToJson : ∀ (constraint : Constraint) (path : List PathStep),
    Fulfils targets path constraint.toJson (referring "validator")
  | .documentName target, path => by
    rw [Constraint.toJson, fulfils_constraint_iff]
    refine tagged_pair (by decide) (by decide) ?_
    simpa [constraintContents] using fulfils_kind_iff.2 ⟨target, rfl⟩
  | .alternatives nodes, path => by
    rw [Constraint.toJson, fulfils_constraint_iff]
    refine tagged_pair (by decide) (by decide) ?_
    simpa [constraintContents] using fulfils_nodes_of_mem (fulfils_of_mem_nodesToJson nodes)
  | .custom name, path => by
    rw [Constraint.toJson, fulfils_constraint_iff]
    refine tagged_pair (by decide) (by decide) ?_
    simpa [constraintContents] using fulfils_text_iff.2 ⟨name, rfl⟩

theorem fulfils_of_mem_nodesToJson : ∀ (nodes : List SchemaNode), ∀ item ∈ nodesToJson nodes,
    ∀ path, Fulfils targets path item (referring "node")
  | [], item, mem, path => by cases mem
  | node :: rest, item, mem, path => by
    rw [nodesToJson] at mem
    rcases List.mem_cons.1 mem with rfl | mem
    · exact fulfils_toJson node path
    · exact fulfils_of_mem_nodesToJson rest item mem path

theorem fulfils_of_mem_fieldsToJson : ∀ (fields : List (String × SchemaNode)),
    ∀ member ∈ fieldsToJson fields, ∀ path, Fulfils targets path member.2 (referring "node")
  | [], member, mem, path => by cases mem
  | (key, node) :: rest, member, mem, path => by
    rw [fieldsToJson] at mem
    rcases List.mem_cons.1 mem with rfl | mem
    · exact fulfils_toJson node path
    · exact fulfils_of_mem_fieldsToJson rest member mem path

end

end Accepted

/-! ## Members that no variant uses -/

/-- What a value of the format stands for. -/
inductive Part where
  | node
  | nodes
  | fields
  | constraint
  | plain

/-- The key under which a variant of nodes has its content, and what stands there. -/
def nodePart : String → Option (String × Part)
  | "optional" => some ("inner", .node)
  | "union" => some ("alternatives", .nodes)
  | "object" => some ("fields", .fields)
  | "list" => some ("element", .node)
  | "map" => some ("value", .node)
  | "reference" => some ("target", .plain)
  | "validated" => some ("validator", .constraint)
  | _ => none

/-- The key under which a variant of constraints has its content, and what stands there. -/
def constraintPart : String → Option (String × Part)
  | "doc_reference" => some ("target", .plain)
  | "alternatives" => some ("alternatives", .nodes)
  | "custom" => some ("name", .plain)
  | _ => none

/-- The members of an object without those that the variant under `tag` does not use, the tag
first; `under` gives the member with the variant's content. -/
def usedMembers (tag : String) (partOf : String → Option (String × Part))
    (under : String → Part → List (String × Json)) (members : List (String × Json)) :
    List (String × Json) :=
  match Keyed.get? tag members with
  | some (.string variant) =>
    (tag, .string variant) ::
      match partOf variant with
      | some (key, part) => under key part
      | none => []
  | _ => members

namespace Json

mutual

/-- The value without the members that no variant uses, at every depth, and with the tags first. -/
def trimmed : Part → Json → Json
  | .node, .object members =>
    .object (usedMembers "type" nodePart (trimmedUnder · · members) members)
  | .constraint, .object members =>
    .object (usedMembers "kind" constraintPart (trimmedUnder · · members) members)
  | .nodes, .array items => .array (trimmedItems items)
  | .fields, .object members => .object (trimmedFields members)
  | _, value => value

/-- The member under a key, trimmed. -/
def trimmedUnder (key : String) (part : Part) : List (String × Json) → List (String × Json)
  | [] => []
  | (k, value) :: rest =>
    if k = key then [(key, trimmed part value)] else trimmedUnder key part rest

def trimmedItems : List Json → List Json
  | [] => []
  | item :: rest => trimmed .node item :: trimmedItems rest

/-- The fields of an object node, trimmed. -/
def trimmedFields : List (String × Json) → List (String × Json)
  | [] => []
  | (key, value) :: rest => (key, trimmed .node value) :: trimmedFields rest

end

theorem trimmedUnder_eq {key : String} {part : Part} {members : List (String × Json)} {value : Json}
    (found : Keyed.get? key members = some value) :
    trimmedUnder key part members = [(key, trimmed part value)] := by
  induction members with
  | nil => cases found
  | cons member rest ih =>
    rw [Keyed.get?] at found
    rw [trimmedUnder]
    by_cases same : member.1 = key
    · rw [if_pos same] at found ⊢
      rw [Option.some.inj found]
    · rw [if_neg same] at found ⊢
      exact ih found

theorem usedMembers_eq {tag variant key : String} {partOf : String → Option (String × Part)}
    {part : Part} {members : List (String × Json)} {inner : Json}
    (named : Keyed.get? tag members = some (.string variant))
    (uses : partOf variant = some (key, part)) (found : Keyed.get? key members = some inner) :
    usedMembers tag partOf (trimmedUnder · · members) members =
      [(tag, .string variant), (key, trimmed part inner)] := by
  simp only [usedMembers, named, uses, trimmedUnder_eq found]

end Json

/-! ## What is read from an accepted value -/

section Written

/-- Nodes and constraints that are read from accepted parts of a value are written as these parts
are without their unused members. -/
def PartsTrimmed (value : Json) : Prop :=
  ∀ inner, sizeOf inner < sizeOf value →
    (∀ path node, Fulfils targets path inner (referring "node") → nodeOfJson inner = .ok node →
      node.toJson = inner.trimmed .node) ∧
    ∀ path constraint, Fulfils targets path inner (referring "validator") →
      constraintOfJson inner = .ok constraint → constraint.toJson = inner.trimmed .constraint

theorem nodesToJson_of_read {items : List Json} {nodes : List SchemaNode}
    (read : nodesOfJson items = .ok nodes)
    (each : ∀ item ∈ items, ∀ node, nodeOfJson item = .ok node →
      node.toJson = item.trimmed .node) :
    nodesToJson nodes = Json.trimmedItems items := by
  induction items generalizing nodes with
  | nil =>
    cases read
    rfl
  | cons item rest ih =>
    obtain ⟨here, later⟩ := List.forall_mem_cons.1 each
    rw [nodesOfJson] at read
    rcases first : nodeOfJson item with e | node
    · rw [first] at read
      cases read
    · rcases others : nodesOfJson rest with e | nodes'
      · rw [first, others] at read
        cases read
      · rw [first, others] at read
        cases read
        rw [nodesToJson, Json.trimmedItems, here node first, ih others later]

theorem fieldsToJson_of_read {members : List (String × Json)}
    {fields : List (String × SchemaNode)} (read : fieldsOfJson members = .ok fields)
    (each : ∀ member ∈ members, ∀ node, nodeOfJson member.2 = .ok node →
      node.toJson = member.2.trimmed .node) :
    fieldsToJson fields = Json.trimmedFields members := by
  induction members generalizing fields with
  | nil =>
    cases read
    rfl
  | cons member rest ih =>
    obtain ⟨here, later⟩ := List.forall_mem_cons.1 each
    rw [fieldsOfJson] at read
    rcases first : nodeOfJson member.2 with e | node
    · rw [first] at read
      cases read
    · rcases others : fieldsOfJson rest with e | fields'
      · rw [first, others] at read
        cases read
      · rw [first, others] at read
        cases read
        rw [fieldsToJson, Json.trimmedFields, here node first, ih others later]

theorem exists_of_bind_pure {α β ε : Type} {x : Except ε α} {f : α → β} {b : β}
    (ok : (x >>= fun a => pure (f a)) = .ok b) : ∃ a, x = .ok a ∧ f a = b := by
  cases x with
  | error e => cases ok
  | ok a =>
    cases ok
    exact ⟨a, rfl, rfl⟩

variable {value : Json} {members : List (String × Json)} {key : String} {inner : Json}
  {path : List PathStep}

theorem PartsTrimmed.nodeUnder (parts : PartsTrimmed (.object members))
    (found : Keyed.get? key members = some inner)
    (fulfils : Fulfils targets path inner (referring "node")) {node : SchemaNode}
    (read : nodeUnder key members = .ok node) : node.toJson = inner.trimmed .node := by
  rw [nodeUnder_eq found] at read
  exact (parts inner (Json.sizeOf_lt_of_mem_members (Keyed.mem_of_get? found))).1 _ _ fulfils read

theorem PartsTrimmed.constraintUnder (parts : PartsTrimmed (.object members))
    (found : Keyed.get? key members = some inner)
    (fulfils : Fulfils targets path inner (referring "validator")) {constraint : Constraint}
    (read : constraintUnder key members = .ok constraint) :
    constraint.toJson = inner.trimmed .constraint := by
  rw [constraintUnder_eq found] at read
  exact (parts inner (Json.sizeOf_lt_of_mem_members (Keyed.mem_of_get? found))).2 _ _ fulfils read

theorem PartsTrimmed.nodesUnder (parts : PartsTrimmed (.object members))
    (found : Keyed.get? key members = some inner)
    (fulfils : Fulfils targets path inner (referring "nodes")) {nodes : List SchemaNode}
    (read : nodesUnder key members = .ok nodes) :
    .array (nodesToJson nodes) = inner.trimmed .nodes := by
  rw [nodesUnder_eq found] at read
  obtain ⟨items, rfl, each⟩ := fulfils_nodes_iff.1 fulfils
  rw [Json.trimmed, nodesToJson_of_read read fun item mem node item_read => ?_]
  obtain ⟨index, found'⟩ := List.mem_iff_getElem?.1 mem
  have smaller := Nat.lt_trans (Json.sizeOf_lt_of_mem_items mem)
    (Json.sizeOf_lt_of_mem_members (Keyed.mem_of_get? found))
  exact (parts item smaller).1 _ _ (each index item found') item_read

theorem PartsTrimmed.fieldsUnder (parts : PartsTrimmed (.object members))
    (found : Keyed.get? key members = some inner)
    (fulfils : Fulfils targets path inner (mapSchema (referring "node")))
    {fields : List (String × SchemaNode)} (read : fieldsUnder key members = .ok fields) :
    .object (fieldsToJson fields) = inner.trimmed .fields := by
  rw [fieldsUnder_eq found] at read
  obtain ⟨inside, rfl, each⟩ := judge_mapSchema_iff.1 ((fulfils_iff_judge ..).1 fulfils)
  rw [Json.trimmed, fieldsToJson_of_read read fun member mem node member_read => ?_]
  have smaller := Nat.lt_trans (Json.sizeOf_lt_of_mem_members mem)
    (Json.sizeOf_lt_of_mem_members (Keyed.mem_of_get? found))
  exact (parts member.2 smaller).1 _ _ (each member mem) member_read

theorem kindUnder_eq (found : Keyed.get? key members = some inner)
    (fulfils : Fulfils targets path inner kindSchema) {kind : DocumentKind}
    (read : Json.memberAs key members kindOfJson = .ok kind) :
    .string kind.name = inner.trimmed .plain := by
  obtain ⟨known, rfl⟩ := fulfils_kind_iff.1 fulfils
  rw [memberAs_eq found, kindOfJson_name] at read
  cases read
  rfl

/-- A node that is read from an accepted value is written as the value without its unused
members, if this holds of all its parts. -/
theorem PartsTrimmed.node_toJson (parts : PartsTrimmed value)
    (tagged : Tagged "type" nodeVariants nodeContents path value) {node : SchemaNode}
    (read : nodeOfJson value = .ok node) : node.toJson = value.trimmed .node := by
  obtain ⟨members, variant, rfl, mem, named, contents⟩ := tagged
  rw [nodeOfJson, variantOf_eq named] at read
  rw [Json.trimmed]
  simp only [nodeContents, List.forall_mem_cons] at contents
  obtain ⟨optional, union, object, list, map, reference, validated, -⟩ := contents
  rcases List.mem_append.1 mem with mem | mem
  · obtain ⟨kind, -, rfl⟩ := List.mem_map.1 mem
    have scalar : node = .scalar kind := by cases kind <;> cases read <;> rfl
    rw [usedMembers, named, scalar]
    cases kind <;> rfl
  · simp only [List.mem_cons, List.not_mem_nil, or_false] at mem
    rcases mem with rfl | rfl | rfl | rfl | rfl | rfl | rfl
    · obtain ⟨inner, found, fulfils⟩ := optional rfl
      obtain ⟨part, part_read, rfl⟩ := exists_of_bind_pure (f := SchemaNode.optional) read
      rw [Json.usedMembers_eq named rfl found, SchemaNode.toJson,
        parts.nodeUnder found fulfils part_read]
    · obtain ⟨inner, found, fulfils⟩ := union rfl
      obtain ⟨part, part_read, rfl⟩ := exists_of_bind_pure (f := SchemaNode.union) read
      rw [Json.usedMembers_eq named rfl found, SchemaNode.toJson,
        parts.nodesUnder found fulfils part_read]
    · obtain ⟨inner, found, fulfils⟩ := object rfl
      obtain ⟨part, part_read, rfl⟩ := exists_of_bind_pure (f := SchemaNode.object) read
      rw [Json.usedMembers_eq named rfl found, SchemaNode.toJson,
        parts.fieldsUnder found fulfils part_read]
    · obtain ⟨inner, found, fulfils⟩ := list rfl
      obtain ⟨part, part_read, rfl⟩ := exists_of_bind_pure (f := SchemaNode.list) read
      rw [Json.usedMembers_eq named rfl found, SchemaNode.toJson,
        parts.nodeUnder found fulfils part_read]
    · obtain ⟨inner, found, fulfils⟩ := map rfl
      obtain ⟨part, part_read, rfl⟩ := exists_of_bind_pure (f := SchemaNode.map) read
      rw [Json.usedMembers_eq named rfl found, SchemaNode.toJson,
        parts.nodeUnder found fulfils part_read]
    · obtain ⟨inner, found, fulfils⟩ := reference rfl
      obtain ⟨part, part_read, rfl⟩ := exists_of_bind_pure (f := SchemaNode.reference) read
      rw [Json.usedMembers_eq named rfl found, SchemaNode.toJson,
        kindUnder_eq found fulfils part_read]
    · obtain ⟨inner, found, fulfils⟩ := validated rfl
      obtain ⟨part, part_read, rfl⟩ := exists_of_bind_pure (f := SchemaNode.validated) read
      rw [Json.usedMembers_eq named rfl found, SchemaNode.toJson,
        parts.constraintUnder found fulfils part_read]

/-- A constraint that is read from an accepted value is written as the value without its unused
members, if this holds of all its parts. -/
theorem PartsTrimmed.constraint_toJson (parts : PartsTrimmed value)
    (tagged : Tagged "kind" constraintVariants constraintContents path value)
    {constraint : Constraint} (read : constraintOfJson value = .ok constraint) :
    constraint.toJson = value.trimmed .constraint := by
  obtain ⟨members, variant, rfl, mem, named, contents⟩ := tagged
  rw [constraintOfJson, variantOf_eq named] at read
  rw [Json.trimmed]
  simp only [constraintContents, List.forall_mem_cons] at contents
  obtain ⟨documentName, alternatives, custom, -⟩ := contents
  simp only [constraintVariants, List.mem_cons, List.not_mem_nil, or_false] at mem
  rcases mem with rfl | rfl | rfl
  · obtain ⟨inner, found, fulfils⟩ := documentName rfl
    obtain ⟨part, part_read, rfl⟩ := exists_of_bind_pure (f := Constraint.documentName) read
    rw [Json.usedMembers_eq named rfl found, Constraint.toJson,
      kindUnder_eq found fulfils part_read]
  · obtain ⟨inner, found, fulfils⟩ := alternatives rfl
    obtain ⟨part, part_read, rfl⟩ := exists_of_bind_pure (f := Constraint.alternatives) read
    rw [Json.usedMembers_eq named rfl found, Constraint.toJson,
      parts.nodesUnder found fulfils part_read]
  · obtain ⟨inner, found, fulfils⟩ := custom rfl
    obtain ⟨name, rfl⟩ := fulfils_text_iff.1 fulfils
    obtain ⟨part, part_read, rfl⟩ := exists_of_bind_pure (f := Constraint.custom) read
    rw [memberAs_eq found] at part_read
    cases part_read
    rw [Json.usedMembers_eq named rfl found, Constraint.toJson]
    rfl

theorem partsTrimmed (value : Json) : PartsTrimmed value := by
  induction size : sizeOf value using Nat.strongRecOn generalizing value with
  | ind size ih =>
    subst size
    intro inner smaller
    have parts : PartsTrimmed inner := ih _ smaller inner rfl
    exact ⟨fun path node fulfils => parts.node_toJson (fulfils_node_iff.1 fulfils),
      fun path constraint fulfils => parts.constraint_toJson (fulfils_constraint_iff.1 fulfils)⟩

end Written

/-- The JSON form of nodes is faithful: what is written for a node is accepted by the schema of
nodes and read back as the node, and whatever the schema accepts can be read, and is written again
without the members that no variant uses and with the tags first. -/
theorem node_forms_faithful :
    (∀ node : SchemaNode, nodeOfJson node.toJson = .ok node ∧
      ∀ path, Fulfils catalogRules.targets path node.toJson (referring "node")) ∧
    ∀ path value, Fulfils catalogRules.targets path value (referring "node") →
      ∃ node, nodeOfJson value = .ok node ∧ node.toJson = value.trimmed .node := by
  rw [targets_catalogRules]
  refine ⟨fun node => ⟨nodeOfJson_toJson node, fulfils_toJson node⟩, fun path value fulfils => ?_⟩
  obtain ⟨node, read⟩ := nodeOfJson_of_fulfils fulfils
  exact ⟨node, read, (partsTrimmed value).node_toJson (fulfils_node_iff.1 fulfils) read⟩

/-- A node with its tag last and with members of other variants, inside a constraint too. -/
def spareMembers : Json :=
  .object
    [("validator", .object
      [("name", .string "spare"),
       ("alternatives", .array [.object [("inner", .null), ("type", .string "any")]]),
       ("kind", .string "alternatives")]),
     ("fields", .null), ("type", .string "validated")]

theorem spareMembers_trimmed :
    Fulfils catalogRules.targets [] spareMembers (referring "node") ∧
    ∃ node, nodeOfJson spareMembers = .ok node ∧ node.toJson =
      .object
        [("type", .string "validated"),
         ("validator", .object
           [("kind", .string "alternatives"),
            ("alternatives", .array [.object [("type", .string "any")]])])] := by
  obtain ⟨-, accepted⟩ := node_forms_faithful
  have any : ∀ path, Fulfils targets path (.object [("inner", .null), ("type", .string "any")])
      (referring "node") :=
    fun path => fulfils_node_iff.2 ⟨_, "any", rfl, by decide, rfl, by simp [nodeContents]⟩
  have fulfils : Fulfils catalogRules.targets [] spareMembers (referring "node") := by
    rw [targets_catalogRules, fulfils_node_iff]
    refine ⟨_, "validated", rfl, by decide, rfl, ?_⟩
    simp only [nodeContents, List.forall_mem_cons]
    refine ⟨nofun, nofun, nofun, nofun, nofun, nofun, fun _ => ⟨_, rfl, ?_⟩, nofun⟩
    rw [fulfils_constraint_iff]
    refine ⟨_, "alternatives", rfl, by decide, rfl, ?_⟩
    simp only [constraintContents, List.forall_mem_cons]
    refine ⟨nofun, fun _ => ⟨_, rfl, ?_⟩, nofun, nofun⟩
    refine fulfils_nodes_of_mem fun item mem => ?_
    rw [List.mem_singleton.1 mem]
    exact any
  obtain ⟨node, read, written⟩ := accepted [] spareMembers fulfils
  exact ⟨fulfils, node, read, written⟩

end ApiSchema
