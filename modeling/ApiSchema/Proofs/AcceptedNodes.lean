import ApiSchema.Proofs.CatalogLoading
import ApiSchema.Proofs.CatalogRules

/-!
# Accepted nodes can be read

The schema of nodes and the reader of nodes are two descriptions of one format.  Whatever fulfils
the schema can be read (`nodeOfJson_of_fulfils`): both go by the variant, and the schema asks for
the content under the key that the reader takes it from.
-/

namespace ApiSchema

open JsonSchema CatalogSchema
open Json (ShapeError)

/-! ## Parts of a value are smaller -/

theorem Keyed.mem_of_get? {α : Type} {key : String} {entries : Keyed α} {value : α}
    (found : Keyed.get? key entries = some value) : (key, value) ∈ entries := by
  induction entries with
  | nil => cases found
  | cons entry rest ih =>
    rw [Keyed.get?] at found
    by_cases same : entry.1 = key
    · rw [if_pos same] at found
      cases found
      exact List.mem_cons.2 (.inl (Prod.ext same.symm rfl))
    · rw [if_neg same] at found
      exact List.mem_cons_of_mem _ (ih found)

namespace Json

variable {key : String} {value : Json}

theorem sizeOf_lt_of_mem_members {members : List (String × Json)}
    (mem : (key, value) ∈ members) : sizeOf value < sizeOf (Json.object members) := by
  have member := List.sizeOf_lt_of_mem mem
  rw [Prod.mk.sizeOf_spec] at member
  rw [Json.object.sizeOf_spec]
  omega

theorem sizeOf_lt_of_mem_items {items : List Json} (mem : value ∈ items) :
    sizeOf value < sizeOf (Json.array items) := by
  have item := List.sizeOf_lt_of_mem mem
  rw [Json.array.sizeOf_spec]
  omega

end Json

/-! ## Reading under a key -/

section Reading

variable {key : String} {members : List (String × Json)} {value : Json}

/-- A reader that goes through members up to a key reads the value under that key. -/
theorem under_eq {α : Type} {read : Json → Except ShapeError α}
    {under : List (String × Json) → Except ShapeError α}
    (step : ∀ k v rest, under ((k, v) :: rest) = if k = key then read v else under rest)
    (found : Keyed.get? key members = some value) : under members = read value := by
  induction members with
  | nil => cases found
  | cons member rest ih =>
    rw [Keyed.get?] at found
    rw [step]
    by_cases same : member.1 = key
    · rw [if_pos same] at found ⊢
      rw [Option.some.inj found]
    · rw [if_neg same] at found ⊢
      exact ih found

theorem nodeUnder_eq (found : Keyed.get? key members = some value) :
    nodeUnder key members = nodeOfJson value :=
  under_eq (fun _ _ _ => by rw [nodeUnder]) found

theorem nodesUnder_eq (found : Keyed.get? key members = some value) :
    nodesUnder key members = nodeArrayOfJson value :=
  under_eq (fun _ _ _ => by rw [nodesUnder]) found

theorem fieldsUnder_eq (found : Keyed.get? key members = some value) :
    fieldsUnder key members = fieldObjectOfJson value :=
  under_eq (fun _ _ _ => by rw [fieldsUnder]) found

theorem constraintUnder_eq (found : Keyed.get? key members = some value) :
    constraintUnder key members = constraintOfJson value :=
  under_eq (fun _ _ _ => by rw [constraintUnder]) found

theorem memberAs_eq {α : Type} {readAs : Json → Except ShapeError α}
    (found : Keyed.get? key members = some value) :
    Json.memberAs key members readAs = readAs value := by
  rw [Json.memberAs, found]

theorem variantOf_eq {variant : String} (found : Keyed.get? key members = some (.string variant)) :
    variantOf key members = .ok variant := memberAs_eq found

theorem nodesOfJson_eq_mapM (items : List Json) : nodesOfJson items = items.mapM nodeOfJson := by
  induction items with
  | nil => rfl
  | cons item rest ih => rw [nodesOfJson, ih, List.mapM_cons]

theorem fieldsOfJson_eq_mapM (members : List (String × Json)) :
    fieldsOfJson members =
      members.mapM fun member => (nodeOfJson member.2).map fun node => (member.1, node) := by
  induction members with
  | nil => rfl
  | cons member rest ih =>
    rw [fieldsOfJson, ih, List.mapM_cons]
    rcases nodeOfJson member.2 with e | node <;> rfl

end Reading

/-! ## Nodes and constraints -/

section Nodes

variable {value : Json}

theorem kindOfJson_name (kind : DocumentKind) : kindOfJson (.string kind.name) = .ok kind := by
  cases kind <;> rfl

theorem nodeArrayOfJson_ok {items : List Json}
    (readable : ∀ item ∈ items, ∃ node, nodeOfJson item = .ok node) :
    ∃ nodes, nodeArrayOfJson (.array items) = .ok nodes := by
  rw [nodeArrayOfJson, nodesOfJson_eq_mapM]
  exact exists_mapM_eq_ok_iff.2 readable

theorem fieldObjectOfJson_ok {members : List (String × Json)}
    (readable : ∀ member ∈ members, ∃ node, nodeOfJson member.2 = .ok node) :
    ∃ fields, fieldObjectOfJson (.object members) = .ok fields := by
  rw [fieldObjectOfJson, fieldsOfJson_eq_mapM]
  refine exists_mapM_eq_ok_iff.2 fun member mem => ?_
  obtain ⟨node, read⟩ := readable member mem
  exact ⟨(member.1, node), by rw [read]; rfl⟩

/-- All parts of a value that fulfil the schema of nodes or of constraints can be read. -/
def PartsReadable (value : Json) : Prop :=
  ∀ inner, sizeOf inner < sizeOf value →
    (∀ path, Fulfils targets path inner (referring "node") → ∃ node, nodeOfJson inner = .ok node) ∧
    ∀ path, Fulfils targets path inner (referring "validator") →
      ∃ constraint, constraintOfJson inner = .ok constraint

theorem PartsReadable.nodes {members : List (String × Json)}
    (parts : PartsReadable (.object members)) {key : String} {inner : Json} {path : List PathStep}
    (found : Keyed.get? key members = some inner)
    (fulfils : Fulfils targets path inner (referring "nodes")) :
    ∃ nodes, nodesUnder key members = .ok nodes := by
  rw [nodesUnder_eq found]
  obtain ⟨items, rfl, each⟩ := fulfils_nodes_iff.1 fulfils
  refine nodeArrayOfJson_ok fun item mem => ?_
  obtain ⟨index, found'⟩ := List.mem_iff_getElem?.1 mem
  have smaller := Nat.lt_trans (Json.sizeOf_lt_of_mem_items mem)
    (Json.sizeOf_lt_of_mem_members (Keyed.mem_of_get? found))
  exact (parts item smaller).1 _ (each index item found')

theorem PartsReadable.node {members : List (String × Json)}
    (parts : PartsReadable (.object members)) {key : String} {inner : Json} {path : List PathStep}
    (found : Keyed.get? key members = some inner)
    (fulfils : Fulfils targets path inner (referring "node")) :
    ∃ node, nodeUnder key members = .ok node := by
  rw [nodeUnder_eq found]
  exact (parts inner (Json.sizeOf_lt_of_mem_members (Keyed.mem_of_get? found))).1 path fulfils

theorem PartsReadable.fields {members : List (String × Json)}
    (parts : PartsReadable (.object members)) {key : String} {inner : Json} {path : List PathStep}
    (found : Keyed.get? key members = some inner)
    (fulfils : Fulfils targets path inner (mapSchema (referring "node"))) :
    ∃ fields, fieldsUnder key members = .ok fields := by
  rw [fieldsUnder_eq found]
  obtain ⟨fields, rfl, each⟩ := judge_mapSchema_iff.1 ((fulfils_iff_judge ..).1 fulfils)
  refine fieldObjectOfJson_ok fun field mem => ?_
  have smaller := Nat.lt_trans (Json.sizeOf_lt_of_mem_members mem)
    (Json.sizeOf_lt_of_mem_members (Keyed.mem_of_get? found))
  exact (parts field.2 smaller).1 _ (each field mem)

theorem PartsReadable.constraint {members : List (String × Json)}
    (parts : PartsReadable (.object members)) {key : String} {inner : Json} {path : List PathStep}
    (found : Keyed.get? key members = some inner)
    (fulfils : Fulfils targets path inner (referring "validator")) :
    ∃ constraint, constraintUnder key members = .ok constraint := by
  rw [constraintUnder_eq found]
  exact (parts inner (Json.sizeOf_lt_of_mem_members (Keyed.mem_of_get? found))).2 path fulfils

theorem memberAs_kind_ok {members : List (String × Json)} {key : String} {inner : Json}
    {path : List PathStep} (found : Keyed.get? key members = some inner)
    (fulfils : Fulfils targets path inner kindSchema) :
    ∃ kind, Json.memberAs key members kindOfJson = .ok kind := by
  obtain ⟨kind, rfl⟩ := fulfils_kind_iff.1 fulfils
  exact ⟨kind, by rw [memberAs_eq found, kindOfJson_name]⟩

theorem exists_bind_pure {α β ε : Type} {x : Except ε α} (f : α → β) (ok : ∃ a, x = .ok a) :
    ∃ b, (x >>= fun a => pure (f a)) = .ok b := by
  obtain ⟨a, rfl⟩ := ok
  exact ⟨f a, rfl⟩

theorem PartsReadable.nodeOfJson_ok {path : List PathStep} (parts : PartsReadable value)
    (tagged : Tagged "type" nodeVariants nodeContents path value) :
    ∃ node, nodeOfJson value = .ok node := by
  obtain ⟨members, variant, rfl, mem, named, contents⟩ := tagged
  rw [nodeOfJson, variantOf_eq named]
  simp only [nodeContents, List.forall_mem_cons] at contents
  obtain ⟨optional, union, object, list, map, reference, validated, -⟩ := contents
  rcases List.mem_append.1 mem with mem | mem
  · obtain ⟨kind, -, rfl⟩ := List.mem_map.1 mem
    exact ⟨.scalar kind, by cases kind <;> rfl⟩
  · simp only [List.mem_cons, List.not_mem_nil, or_false] at mem
    rcases mem with rfl | rfl | rfl | rfl | rfl | rfl | rfl
    · obtain ⟨inner, found, fulfils⟩ := optional rfl
      exact exists_bind_pure SchemaNode.optional (parts.node found fulfils)
    · obtain ⟨inner, found, fulfils⟩ := union rfl
      exact exists_bind_pure SchemaNode.union (parts.nodes found fulfils)
    · obtain ⟨inner, found, fulfils⟩ := object rfl
      exact exists_bind_pure SchemaNode.object (parts.fields found fulfils)
    · obtain ⟨inner, found, fulfils⟩ := list rfl
      exact exists_bind_pure SchemaNode.list (parts.node found fulfils)
    · obtain ⟨inner, found, fulfils⟩ := map rfl
      exact exists_bind_pure SchemaNode.map (parts.node found fulfils)
    · obtain ⟨inner, found, fulfils⟩ := reference rfl
      exact exists_bind_pure SchemaNode.reference (memberAs_kind_ok found fulfils)
    · obtain ⟨inner, found, fulfils⟩ := validated rfl
      exact exists_bind_pure SchemaNode.validated (parts.constraint found fulfils)

theorem PartsReadable.constraintOfJson_ok {path : List PathStep} (parts : PartsReadable value)
    (tagged : Tagged "kind" constraintVariants constraintContents path value) :
    ∃ constraint, constraintOfJson value = .ok constraint := by
  obtain ⟨members, variant, rfl, mem, named, contents⟩ := tagged
  rw [constraintOfJson, variantOf_eq named]
  simp only [constraintContents, List.forall_mem_cons] at contents
  obtain ⟨documentName, alternatives, custom, -⟩ := contents
  simp only [constraintVariants, List.mem_cons, List.not_mem_nil, or_false] at mem
  rcases mem with rfl | rfl | rfl
  · obtain ⟨inner, found, fulfils⟩ := documentName rfl
    exact exists_bind_pure Constraint.documentName (memberAs_kind_ok found fulfils)
  · obtain ⟨inner, found, fulfils⟩ := alternatives rfl
    exact exists_bind_pure Constraint.alternatives (parts.nodes found fulfils)
  · obtain ⟨inner, found, fulfils⟩ := custom rfl
    obtain ⟨name, rfl⟩ := fulfils_text_iff.1 fulfils
    exact exists_bind_pure Constraint.custom ⟨name, memberAs_eq found⟩

/-- Whatever fulfils the schema of nodes, or that of constraints, can be read. -/
theorem partsReadable (value : Json) : PartsReadable value := by
  induction size : sizeOf value using Nat.strongRecOn generalizing value with
  | ind size ih =>
    subst size
    intro inner smaller
    have parts : PartsReadable inner := ih _ smaller inner rfl
    exact ⟨fun path fulfils => parts.nodeOfJson_ok (fulfils_node_iff.1 fulfils),
      fun path fulfils => parts.constraintOfJson_ok (fulfils_constraint_iff.1 fulfils)⟩

theorem nodeOfJson_of_fulfils {path : List PathStep}
    (fulfils : Fulfils targets path value (referring "node")) :
    ∃ node, nodeOfJson value = .ok node :=
  (partsReadable value).nodeOfJson_ok (fulfils_node_iff.1 fulfils)

end Nodes

end ApiSchema
