import ApiSchema.Proofs.Permanence
import ApiSchema.Proofs.UnionNests

/-!
# Leaves of nested unions

Inner unions are classified, joined or registered before the outer ones see their types.  Still the
outermost union depends on the types of the leaves only, in their order, as long as no leaf claims
the name of one of the unions (`union_of_leaves`).
-/

namespace ApiSchema

open Documentation (Entry Tree)
open Synthesis

/-! ## The union of a nest -/

theorem Catalog.namesReferences (catalog : Catalog) (strict : Bool) (busy : List String) :
    Conversion.NamesReferences ⟨strict, catalog.typeOf strict busy⟩ := by
  intro path kind r type r' run
  obtain ⟨named, rfl, -⟩ := (Catalog.provides_of_typeOf run).found
  cases named <;> rfl

theorem exists_nest_of_leafTypes {c : Conversion} {path : String} {docs : Option Entry}
    {node : SchemaNode} {r r' : Registry} {leaves : List ApiType}
    (run : (c.leafTypes path docs node).run r = (.ok leaves, r')) :
    ∃ nest, (c.nestTypes path docs node).run r = (.ok nest, r') ∧ nest.leaves = leaves := by
  rw [Conversion.leafTypes, map_eq_pure_bind] at run
  obtain ⟨nest, r₁, nestRun, done⟩ := run_bind_ok run
  cases done
  exact ⟨nest, nestRun, rfl⟩

/-- A nest of unions, none of them empty, whose names are free and claimed by no leaf, depends only
on the types of its leaves in turn.  Simple ones of one type have that type; different ones have the
type for several, or are an error if unions are strict; objects and unions have the union of their
objects without repeats, under the path; and other leaves are an error. -/
theorem union_of_leaves (catalog : Catalog) (strict : Bool) (busy : List String) (path : String)
    (docs : Option Entry) (node : SchemaNode) (is_union : node.isUnion = true)
    (filled : node.isFilled = true) (r r' : Registry) (leaves : List ApiType)
    (free : ∀ name ∈ node.unionNames path, r.get? name = none)
    (unclaimed : ∀ leaf ∈ node.leaves path, ∀ name ∈ node.unionNames path,
      KeepsFree name
        (Conversion.convert ⟨strict, catalog.typeOf strict busy⟩ leaf.1 docs leaf.2))
    (run : (Conversion.leafTypes ⟨strict, catalog.typeOf strict busy⟩ path docs node).run r =
      (.ok leaves, r')) :
    let result := (Conversion.convert ⟨strict, catalog.typeOf strict busy⟩ path docs node).run r
    let union : UnionType :=
      ⟨path, docs.bind Entry.description, withoutRepeats (leaves.flatMap ApiType.objects)⟩
    (∀ s, (∀ t ∈ leaves, t = .scalar s) →
      result = (.ok (.scalar s), r') ∧ r'.types = r.types) ∧
    ((∀ t ∈ leaves, ∃ s, t = .scalar s) → (¬ ∃ s, ∀ t ∈ leaves, t = .scalar s) →
      if strict then ∃ e, result.1 = .error e
      else result = (.ok (.scalar .generic), r') ∧ r'.types = r.types) ∧
    ((∀ t ∈ leaves, t.isNamed = true) →
      result = (.ok (.union union), r') ∧ r'.get? path = some (.union union)) ∧
    ((∃ t ∈ leaves, t.scalar? = none) → (∃ t ∈ leaves, t.isNamed = false) →
      ∃ e, result.1 = .error e) := by
  intro result union
  obtain ⟨nest, nestRun, rfl⟩ := exists_nest_of_leafTypes run
  obtain ⟨quiet, outcome⟩ := Conversion.nestTypes_explains (catalog.namesReferences strict busy)
    node path r r' nest filled free unclaimed nestRun
  rcases given : nest.given with _ | type
  · rw [given] at outcome
    obtain ⟨no_union, e, r₁, failed⟩ := outcome
    have fails : ∃ e, result.1 = .error e := ⟨e, congrArg Prod.fst failed⟩
    refine ⟨fun s all => ?_, fun simple different => ?_, fun named => absurd (.inr named) no_union,
      fun _ _ => fails⟩
    · exact absurd (haveUnion_of_simple (fun t mem => ⟨s, all t mem⟩) fun _ => ⟨s, all⟩) no_union
    · split_ifs with is_strict
      · exact fails
      · exact absurd (haveUnion_of_simple simple fun strict => absurd strict is_strict) no_union
  · rw [given] at outcome
    obtain ⟨⟨-, made⟩, ok⟩ := outcome
    obtain ⟨r₁, made⟩ := made is_union
    refine ⟨fun s all => ?_, fun simple different => ?_, fun named => ?_,
      fun ⟨t, inside, compound⟩ ⟨u, inside', unnamed⟩ => ?_⟩
    · rw [← made.eq_scalar all]
      exact ⟨ok, quiet fun t mem => ⟨s, all t mem⟩⟩
    · obtain ⟨lenient, rfl⟩ := made.eq_generic simple different
      rw [if_neg lenient]
      exact ⟨ok, quiet simple⟩
    · obtain ⟨rfl, registered⟩ := made.eq_union named
      exact ⟨ok, registered⟩
    · rcases made.simple_or_named with simple | named
      · obtain ⟨s, rfl⟩ := simple t inside
        cases compound
      · rw [named u inside'] at unnamed
        cases unnamed

/-! ## Leaves that claim other names -/

section

variable {c : Conversion} {name : String}

theorem keepsFree_fail {α : Type} (path : String) (fault : SynthesisFault) :
    KeepsFree name (Synthesis.fail path fault : Synthesis α) := by
  intro r a r' _ run
  cases run

theorem keepsFree_advise (path : String) (kind : AdvisoryKind) (message : String) :
    KeepsFree name (Synthesis.advise path kind message) := by
  intro r a r' free run
  cases run
  exact free

theorem keepsFree_objectNamed? (other : String) :
    KeepsFree name (Synthesis.objectNamed? other) := by
  intro r a r' free run
  rw [run_objectNamed?] at run
  split at run <;> cases run <;> exact free

theorem keepsFree_registerFields {other : String} (ne : other ≠ name)
    (description discriminator : Option String) (fields : List Field) :
    KeepsFree name (Conversion.registerFields other description discriminator fields) := by
  unfold Conversion.registerFields
  split_ifs
  · exact keepsFree_fail _ _
  · intro r a r' free run
    cases run
    exact Registry.get?_register_eq_none free ne

namespace Conversion

/-- The fields of an object register no name that none of their nodes does. -/
theorem convertFields_keepsFree {nodes : List (String × SchemaNode)}
    (each : ∀ entry ∈ nodes, ∀ path docs, KeepsFree name (c.convert path docs entry.2))
    (parent : String) (tree : Tree) (skip : List String) (done : List Field) :
    KeepsFree name (c.convertFields parent tree skip done nodes) := by
  induction nodes generalizing done with
  | nil =>
    rw [convertFields]
    exact keepsFree_pure _
  | cons entry rest ih =>
    obtain ⟨first, later⟩ := List.forall_mem_cons.1 each
    rw [convertFields]
    split
    · exact ih later done
    · dsimp only
      split
      · exact (keepsFree_advise _ _ _).bind fun _ => ih later done
      · split
        · exact keepsFree_fail _ _
        · exact (first _ _).bind fun type => ih later _

theorem convert_object_keepsFree {path : String} (ne : path ≠ name) {own : Option String}
    {tree : Tree} {nodes : List (String × SchemaNode)}
    (each : ∀ entry ∈ nodes, ∀ path docs, KeepsFree name (c.convert path docs entry.2)) :
    KeepsFree name (c.convert path (some (.nested own tree)) (.object nodes)) := by
  simp only [convert]
  refine (keepsFree_objectNamed? path).bind fun found => ?_
  cases found with
  | some object => exact keepsFree_pure _
  | none =>
    exact (convertFields_keepsFree each path tree [] []).bind fun fields =>
      (keepsFree_registerFields ne own none fields).bind fun object => keepsFree_pure _

theorem convert_scalar_keepsFree (path : String) (docs : Option Entry) (kind : ScalarKind) :
    KeepsFree name (c.convert path docs (.scalar kind)) := by
  rw [convert]
  cases kind with
  | any => exact (keepsFree_advise _ _ _).bind fun _ => keepsFree_pure _
  | string | integer | float | boolean => exact keepsFree_pure _

end Conversion

theorem Definition.objectWith_keepsFree {d : Definition} (ne : d.name ≠ name) {strict : Bool}
    {busy : List String} {resolve : d.name ∉ busy → String → DocumentKind → Synthesis ApiType}
    (each : ∀ new nodes, d.schema = .object nodes → ∀ entry ∈ nodes, ∀ path docs,
      KeepsFree name (Conversion.convert ⟨strict, resolve new⟩ path docs entry.2)) :
    KeepsFree name (d.objectWith strict busy resolve) := by
  unfold Definition.objectWith
  refine (keepsFree_objectNamed? d.name).bind fun found => ?_
  cases found with
  | some object => exact keepsFree_pure _
  | none =>
    dsimp only
    split_ifs with new
    · exact keepsFree_fail _ _
    · rcases schema : d.schema with _ | _ | _ | nodes | _ | _ | _ | _
      all_goals try exact keepsFree_fail _ _
      exact (Conversion.convertFields_keepsFree (each new nodes schema) _ _ _ _).bind
        fun fields => keepsFree_registerFields ne _ _ fields

end

/-! ## A nest of documents and objects -/

namespace Synthesizer

/-- A service, or in a second union the same service or a named thing. -/
def serviceOrNamed : SchemaNode :=
  .union
    [.optional (.reference .service),
     .validated (.alternatives [.reference .service, .object [("name", .scalar .string)]])]

/-- The documentation of the named thing. -/
def namedDocs : Option Entry := some (.nested none [("name", .text "Its name")])

/-- The catalog of a service with an image. -/
def imageCatalog : Catalog := ⟨[imageService]⟩

theorem imageCatalog_keepsFree {name : String} (ne : "Service" ≠ name) (path : String) :
    KeepsFree name (imageCatalog.typeOf false [] path .service) := by
  rw [Catalog.typeOf_eq]
  have single : imageCatalog.definitions .service = [imageService] := rfl
  rw [single]
  refine KeepsFree.bind (Definition.objectWith_keepsFree ne ?_) fun object => keepsFree_pure _
  rintro new nodes ⟨⟩ entry mem path docs
  rw [List.mem_singleton.1 mem]
  exact Conversion.convert_scalar_keepsFree path docs .string

theorem serviceOrNamed_members :
    let c : Conversion := ⟨false, imageCatalog.typeOf false []⟩
    let service : ObjectType :=
      ⟨0, "Service", none, [⟨"image", "image", .scalar .string, true, some "Docker image"⟩], none⟩
    let named : ObjectType :=
      ⟨1, "ChoiceAlternative2Alternative2", none,
        [⟨"name", "name", .scalar .string, true, some "Its name"⟩], none⟩
    let union : UnionType := ⟨"Choice", none, [service, named]⟩
    ∃ r', (c.leafTypes "Choice" namedDocs serviceOrNamed).run .empty =
        (.ok [.object service, .object service, .object named], r') ∧
      (c.convert "Choice" namedDocs serviceOrNamed).run .empty = (.ok (.union union), r') ∧
      r'.get? "Choice" = some (.union union) := by
  intro c service named union
  have leaves : ∃ r', (c.leafTypes "Choice" namedDocs serviceOrNamed).run .empty =
      (.ok [.object service, .object service, .object named], r') := by
    have resolve : imageCatalog.typeOf false [] = fun path kind =>
        imageCatalog.typeOfAll false [] path kind (imageCatalog.definitions kind) :=
      funext fun path => funext fun kind => Catalog.typeOf_eq _ _ _ _ _
    have c_eq : c = ⟨false, fun path kind =>
        imageCatalog.typeOfAll false [] path kind (imageCatalog.definitions kind)⟩ :=
      congrArg (Conversion.mk false) resolve
    rw [c_eq]
    exact ⟨_, rfl⟩
  obtain ⟨r', run⟩ := leaves
  have free : ∀ name ∈ serviceOrNamed.unionNames "Choice", Registry.empty.get? name = none :=
    fun _ _ => rfl
  have leaf_nodes : serviceOrNamed.leaves "Choice" =
      [("ChoiceAlternative1", .reference .service),
        ("ChoiceAlternative2Alternative1", .reference .service),
        ("ChoiceAlternative2Alternative2", .object [("name", .scalar .string)])] := rfl
  have unclaimed : ∀ leaf ∈ serviceOrNamed.leaves "Choice",
      ∀ name ∈ serviceOrNamed.unionNames "Choice",
        KeepsFree name (c.convert leaf.1 namedDocs leaf.2) := by
    intro leaf inside name is_union
    have no_service : "Service" ≠ name := by
      rintro rfl
      exact absurd is_union (by decide)
    rw [leaf_nodes] at inside
    rcases List.mem_cons.1 inside with rfl | inside
    · rw [Conversion.convert]
      exact imageCatalog_keepsFree no_service _
    rcases List.mem_cons.1 inside with rfl | inside
    · rw [Conversion.convert]
      exact imageCatalog_keepsFree no_service _
    rw [List.mem_singleton.1 inside]
    refine Conversion.convert_object_keepsFree ?_ fun entry mem path docs => ?_
    · rintro rfl
      exact absurd is_union (by decide)
    · rw [List.mem_singleton.1 mem]
      exact Conversion.convert_scalar_keepsFree path docs .string
  exact ⟨r', run, (union_of_leaves imageCatalog false [] "Choice" namedDocs serviceOrNamed rfl rfl
    .empty r' _ free unclaimed run).2.2.1 (by simp [ApiType.isNamed])⟩

end Synthesizer

end ApiSchema
