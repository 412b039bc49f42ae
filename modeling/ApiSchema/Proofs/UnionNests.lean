import ApiSchema.Proofs.ObjectNames
import ApiSchema.Proofs.UnionSums

/-!
# Nests of unions

Unions may stand in unions, also as optional alternatives or in constraints.  The walk converts the
leaves of such a nest in turn (`Conversion.nestTypes`) and makes the inner unions on the way, before
the outer ones see their types.  As long as no leaf claims the name of one of the unions, what the
walk gives stands for the leaves (`Conversion.nestTypes_explains`).
-/

namespace ApiSchema

open Documentation (Entry)
open Synthesis

/-! ## Nests -/

/-- Is the node a union, or an optional one? -/
def SchemaNode.isUnion : SchemaNode → Bool
  | .optional inner => inner.isUnion
  | .union _ => true
  | .validated (.alternatives _) => true
  | _ => false

mutual

def SchemaNode.unionNames (path : String) : SchemaNode → List String
  | .optional inner => SchemaNode.unionNames path inner
  | .union nodes => path :: unionNamesOf path 0 nodes
  | .validated (.alternatives nodes) => path :: unionNamesOf path 0 nodes
  | _ => []

/-- The names of the unions in the alternatives of a union, from an index on. -/
def unionNamesOf (path : String) (index : Nat) : List SchemaNode → List String
  | [] => []
  | node :: rest =>
    SchemaNode.unionNames (alternativePath path index) node ++ unionNamesOf path (index + 1) rest

end

mutual

/-- The nodes in a nest that are no unions, with their paths. -/
def SchemaNode.leaves (path : String) : SchemaNode → List (String × SchemaNode)
  | .optional inner => SchemaNode.leaves path inner
  | .union nodes => leavesOf path 0 nodes
  | .validated (.alternatives nodes) => leavesOf path 0 nodes
  | node => [(path, node)]

/-- The leaves of the alternatives of a union, from an index on. -/
def leavesOf (path : String) (index : Nat) : List SchemaNode → List (String × SchemaNode)
  | [] => []
  | node :: rest =>
    SchemaNode.leaves (alternativePath path index) node ++ leavesOf path (index + 1) rest

end

mutual

/-- Does every union of the nest have an alternative? -/
def SchemaNode.isFilled : SchemaNode → Bool
  | .optional inner => SchemaNode.isFilled inner
  | .union nodes => !nodes.isEmpty && areFilled nodes
  | .validated (.alternatives nodes) => !nodes.isEmpty && areFilled nodes
  | _ => true

/-- Does every union in some alternatives have an alternative? -/
def areFilled : List SchemaNode → Bool
  | [] => true
  | node :: rest => SchemaNode.isFilled node && areFilled rest

end

/-- What a computation gives, if it succeeds. -/
def Synthesis.attempt {α : Type} (m : Synthesis α) : Synthesis (Option α) :=
  tryCatch (some <$> m) fun _ => pure none

/-- The types of the leaves of a nest, and what the nest itself gives, if it has a type. -/
structure NestTypes (α : Type) where
  leaves : List ApiType
  given : Option α

namespace Conversion

/-- The union of the alternatives of a nest, if they have types of which one can be made. -/
def unionOfNest (c : Conversion) (path : String) (docs : Option Entry)
    (alternatives : Synthesis (NestTypes (List ApiType))) : Synthesis (NestTypes ApiType) := do
  let nest ← alternatives
  match nest.given with
  | none => return ⟨nest.leaves, none⟩
  | some types =>
    return ⟨nest.leaves, ← attempt (c.unionOf path (docs.bind Entry.description) types)⟩

mutual

/-- Converts the leaves of a nest in turn.  The unions on the way are made where they can be, and
left out where not. -/
def nestTypes (c : Conversion) (path : String) (docs : Option Entry) :
    SchemaNode → Synthesis (NestTypes ApiType)
  | .optional inner => nestTypes c path docs inner
  | .union nodes => unionOfNest c path docs (nestTypesOf c path docs 0 nodes)
  | .validated (.alternatives nodes) => unionOfNest c path docs (nestTypesOf c path docs 0 nodes)
  | node => do
    let type ← c.convert path docs node
    return ⟨[type], some type⟩

/-- Converts the leaves of the alternatives of a union in turn, from an index on. -/
def nestTypesOf (c : Conversion) (path : String) (docs : Option Entry) (index : Nat) :
    List SchemaNode → Synthesis (NestTypes (List ApiType))
  | [] => return ⟨[], some []⟩
  | node :: rest => do
    let first ← nestTypes c (alternativePath path index) docs node
    let others ← nestTypesOf c path docs (index + 1) rest
    return ⟨first.leaves ++ others.leaves,
      first.given.bind fun type => others.given.map fun types => type :: types⟩

end

/-- The types of the leaves of a nest, which are converted in turn. -/
def leafTypes (c : Conversion) (path : String) (docs : Option Entry) (node : SchemaNode) :
    Synthesis (List ApiType) :=
  NestTypes.leaves <$> c.nestTypes path docs node

end Conversion

/-! ## Names of a nest -/

mutual

theorem exists_indices_of_mem_unionNames {root name : String} : ∀ (node : SchemaNode)
    (pieces : List String), name ∈ node.unionNames (spelled root pieces) →
    ∃ indices : List Nat, name = spelled root (pieces ++ indices.map alternativePiece)
  | .optional inner, pieces, mem => by
    rw [SchemaNode.unionNames] at mem
    exact exists_indices_of_mem_unionNames inner pieces mem
  | .union nodes, pieces, mem | .validated (.alternatives nodes), pieces, mem => by
    rw [SchemaNode.unionNames] at mem
    rcases List.mem_cons.1 mem with rfl | mem
    · exact ⟨[], by simp⟩
    · obtain ⟨i, _, indices, same⟩ := exists_indices_of_mem_unionNamesOf nodes pieces 0 mem
      exact ⟨i :: indices, same⟩
  | .scalar _, pieces, mem | .object _, pieces, mem | .list _, pieces, mem | .map _, pieces, mem
  | .reference _, pieces, mem | .validated (.documentName _), pieces, mem
  | .validated (.custom _), pieces, mem => by
    simp only [SchemaNode.unionNames] at mem
    cases mem

theorem exists_indices_of_mem_unionNamesOf {root name : String} : ∀ (nodes : List SchemaNode)
    (pieces : List String) (index : Nat), name ∈ unionNamesOf (spelled root pieces) index nodes →
    ∃ i ≥ index, ∃ indices : List Nat,
      name = spelled root (pieces ++ (i :: indices).map alternativePiece)
  | [], pieces, index, mem => by
    rw [unionNamesOf] at mem
    cases mem
  | node :: rest, pieces, index, mem => by
    rw [unionNamesOf, spelled_alternativePiece] at mem
    rcases List.mem_append.1 mem with mem | mem
    · obtain ⟨indices, same⟩ := exists_indices_of_mem_unionNames node _ mem
      refine ⟨index, Nat.le_refl _, indices, ?_⟩
      rw [same, List.append_assoc]
      rfl
    · obtain ⟨i, later, found⟩ := exists_indices_of_mem_unionNamesOf rest pieces (index + 1) mem
      exact ⟨i, Nat.le_of_succ_le later, found⟩

end

theorem not_mem_unionNamesOf {path name : String} {index : Nat} {node : SchemaNode}
    {rest : List SchemaNode} (mem : name ∈ node.unionNames (alternativePath path index)) :
    name ∉ unionNamesOf path (index + 1) rest := by
  intro mem'
  have root : alternativePath path index = spelled path [alternativePiece index] :=
    spelled_alternativePiece path [] index
  rw [root] at mem
  obtain ⟨indices, same⟩ := exists_indices_of_mem_unionNames node _ mem
  obtain ⟨i, later, indices', same'⟩ := exists_indices_of_mem_unionNamesOf rest [] (index + 1) mem'
  have pieces : ∀ list : List Nat, ∀ text ∈ list.map alternativePiece,
      isPiece text.toList = true := by
    intro list text mem
    obtain ⟨j, -, rfl⟩ := List.mem_map.1 mem
    exact isPiece_alternativePiece j
  have lists := eq_of_spelled_eq (pieces (index :: indices)) (pieces (i :: indices'))
    (same.symm.trans same')
  have first := alternativePiece_inj (List.cons.inj lists).1
  omega

/-! ## Free names -/

namespace Synthesis

variable {α β : Type} {name : String}

/-- The computation registers nothing under the name. -/
def KeepsFree (name : String) (m : Synthesis α) : Prop :=
  ∀ r a r', r.get? name = none → m.run r = (.ok a, r') → r'.get? name = none

theorem keepsFree_pure (a : α) : KeepsFree name (pure a : Synthesis α) := by
  intro r b r' free run
  cases run
  exact free

theorem KeepsFree.bind {m : Synthesis α} {f : α → Synthesis β} (first : KeepsFree name m)
    (next : ∀ a, KeepsFree name (f a)) : KeepsFree name (m >>= f) := by
  intro r b r' free run
  obtain ⟨a, r₁, firstRun, nextRun⟩ := run_bind_ok run
  exact next a r₁ b r' (first r a r₁ free firstRun) nextRun

theorem run_attempt (m : Synthesis α) (r : Registry) :
    (attempt m).run r =
      match m.run r with
      | (.ok a, r') => (.ok (some a), r')
      | (.error _, r') => (.ok none, r') := by
  have mapped : (some <$> m).run r =
      match m.run r with
      | (.ok a, r') => (.ok (some a), r')
      | (.error e, r') => (.error e, r') := by
    rw [map_eq_pure_bind, run_bind]
    rfl
  have caught : (attempt m).run r =
      match (some <$> m).run r with
      | (.ok a, r') => (.ok a, r')
      | (.error _, r') => (.ok none, r') := by
    simp only [attempt, tryCatch, tryCatchThe, MonadExceptOf.tryCatch, ExceptT.tryCatch,
      ExceptT.run, ExceptT.mk, bind, StateT.bind]
    rcases (some <$> m) r with ⟨_ | _, r'⟩ <;> rfl
  rw [caught, mapped]
  rcases m.run r with ⟨_ | _, r'⟩ <;> rfl

end Synthesis

theorem Registry.get?_register_eq_none {r : Registry} {name : String} {type : NamedType}
    (free : r.get? name = none) (other : type.name ≠ name) :
    (r.register type).get? name = none := by
  rw [get?_eq_none] at free ⊢
  intro mem
  by_cases taken : type.name ∈ typeNames r.types
  · exact free (by rwa [Registry.register, typeNames_putType_of_mem taken] at mem)
  · rw [Registry.register, putType_of_not_mem taken, typeNames, List.map_append] at mem
    rcases List.mem_append.1 mem with mem | mem
    · exact free mem
    · exact other (List.mem_singleton.1 mem).symm

namespace Conversion

variable {c : Conversion} {docs : Option Entry} {name : String}

theorem keepsFree_attempt_unionOf {path : String} (other : path ≠ name)
    (description : Option String) (types : List ApiType) :
    KeepsFree name (attempt (c.unionOf path description types)) := by
  intro r a r' free run
  have same : r' = ((c.unionOf path description types).run r).2 := by
    rw [run_attempt] at run
    split at run <;> cases run <;> simp_all
  rw [same]
  rcases c.registry_unionOf path description types r with eq | ⟨advisory, eq⟩ | ⟨union, is_path, eq⟩
  · rwa [eq]
  · rwa [eq]
  · rw [eq]
    exact Registry.get?_register_eq_none free (by rwa [← is_path] at other)

theorem keepsFree_unionOfNest {path : String} (other : path ≠ name)
    {alternatives : Synthesis (NestTypes (List ApiType))} (keeps : KeepsFree name alternatives) :
    KeepsFree name (c.unionOfNest path docs alternatives) := by
  refine keeps.bind fun nest => ?_
  split
  · exact keepsFree_pure _
  · exact (keepsFree_attempt_unionOf other _ _).bind fun _ => keepsFree_pure _

theorem keepsFree_leaf {path : String} {node : SchemaNode}
    (keeps : KeepsFree name (c.convert path docs node)) :
    KeepsFree name (do
      let type ← c.convert path docs node
      return (⟨[type], some type⟩ : NestTypes ApiType)) :=
  keeps.bind fun _ => keepsFree_pure _

mutual

/-- A name that no union of a nest has, and no leaf registers, stays free. -/
theorem nestTypes_keepsFree : ∀ (node : SchemaNode) (path : String),
    name ∉ node.unionNames path →
    (∀ leaf ∈ node.leaves path, KeepsFree name (c.convert leaf.1 docs leaf.2)) →
    KeepsFree name (c.nestTypes path docs node)
  | .optional inner, path, other, keeps => by
    rw [SchemaNode.unionNames] at other
    rw [SchemaNode.leaves] at keeps
    rw [nestTypes]
    exact nestTypes_keepsFree inner path other keeps
  | .union nodes, path, other, keeps | .validated (.alternatives nodes), path, other, keeps => by
    rw [SchemaNode.unionNames, List.mem_cons, not_or] at other
    rw [SchemaNode.leaves] at keeps
    rw [nestTypes]
    exact keepsFree_unionOfNest (Ne.symm other.1) (nestTypesOf_keepsFree nodes path 0 other.2 keeps)
  | .scalar _, path, other, keeps | .object _, path, other, keeps | .list _, path, other, keeps
  | .map _, path, other, keeps | .reference _, path, other, keeps
  | .validated (.documentName _), path, other, keeps
  | .validated (.custom _), path, other, keeps => by
    simp only [SchemaNode.leaves, List.mem_singleton, forall_eq] at keeps
    simp only [nestTypes]
    exact keepsFree_leaf keeps

theorem nestTypesOf_keepsFree : ∀ (nodes : List SchemaNode) (path : String) (index : Nat),
    name ∉ unionNamesOf path index nodes →
    (∀ leaf ∈ leavesOf path index nodes, KeepsFree name (c.convert leaf.1 docs leaf.2)) →
    KeepsFree name (c.nestTypesOf path docs index nodes)
  | [], path, index, other, keeps => by
    rw [nestTypesOf]
    exact keepsFree_pure _
  | node :: rest, path, index, other, keeps => by
    rw [unionNamesOf, List.mem_append, not_or] at other
    rw [leavesOf, List.forall_mem_append] at keeps
    rw [nestTypesOf]
    refine (nestTypes_keepsFree node _ other.1 keeps.1).bind fun first => ?_
    exact (nestTypesOf_keepsFree rest path _ other.2 keeps.2).bind fun others => keepsFree_pure _

end

/-! ## Walks of nests -/

/-- What the types of the leaves say about a walk: it gives what stands for them, from the registry
to the later one, or fails where they have no union.  Simple types register nothing. -/
def Explains {α : Type} (c : Conversion) (Stands : α → List ApiType → Prop) (m : Synthesis α)
    (r : Registry) (nest : NestTypes α) (r' : Registry) : Prop :=
  ((∀ t ∈ nest.leaves, ∃ s, t = .scalar s) → r'.types = r.types) ∧
    match nest.given with
    | some a => Stands a nest.leaves ∧ m.run r = (.ok a, r')
    | none => ¬ HaveUnion c.strict nest.leaves ∧ ∃ e r₁, m.run r = (.error e, r₁)

/-- The type stands for the leaves of the node, and is made of them if the node is a union. -/
def StandsFor (c : Conversion) (path : String) (docs : Option Entry) (node : SchemaNode)
    (r' : Registry) (type : ApiType) (leaves : List ApiType) : Prop :=
  SumsUp c.strict type leaves ∧ (node.isUnion = true → ∃ r₁,
    MakesUnion c.strict path (docs.bind Entry.description) leaves r₁ type r')

/-- Each of the types stands for some of the leaves, in order. -/
def StandInTurn (strict : Bool) (count : Nat) (types leaves : List ApiType) : Prop :=
  types.length = count ∧
    ∃ parts, List.Forall₂ (SumsUp strict) types parts ∧ leaves = parts.flatten

variable {r r' : Registry}

theorem Explains.mono {α : Type} {Stands Stands' : α → List ApiType → Prop} {m : Synthesis α}
    {nest : NestTypes α} (explains : Explains c Stands m r nest r')
    (weaker : ∀ a leaves, Stands a leaves → Stands' a leaves) :
    Explains c Stands' m r nest r' := by
  refine ⟨explains.1, ?_⟩
  have outcome := explains.2
  split at outcome
  · exact ⟨weaker _ _ outcome.1, outcome.2⟩
  · exact outcome

/-- A union at a free name, of at least one alternative, is made of what the alternatives give. -/
theorem run_unionAt {path : String} {nodes : List SchemaNode} (free : r.get? path = none)
    (nonempty : nodes ≠ []) (alternatives : Synthesis (List ApiType)) :
    (c.unionAt path docs nodes alternatives).run r =
      match alternatives.run r with
      | (.ok types, r₁) => (c.unionOf path (docs.bind Entry.description) types).run r₁
      | (.error e, r₁) => (.error e, r₁) := by
  have filled : ¬ nodes.isEmpty = true := by simpa using nonempty
  simp only [unionAt, run_bind, run_unionNamed?, free, if_neg filled]
  rcases alternatives.run r with ⟨_ | _, _⟩ <;> rfl

theorem unionOfNest_explains {path : String} {nodes : List SchemaNode} {node : SchemaNode}
    (free : r.get? path = none) (nonempty : nodes ≠ []) {alternatives : Synthesis (List ApiType)}
    {nested : Synthesis (NestTypes (List ApiType))} {nest : NestTypes ApiType}
    (explains : ∀ nest r₁, nested.run r = (.ok nest, r₁) →
      Explains c (StandInTurn c.strict nodes.length) alternatives r nest r₁)
    (run : (c.unionOfNest path docs nested).run r = (.ok nest, r')) :
    Explains c (StandsFor c path docs node r') (c.unionAt path docs nodes alternatives) r nest
      r' := by
  obtain ⟨given, r₁, first, last⟩ := run_bind_ok run
  obtain ⟨quiet, outcome⟩ := explains given r₁ first
  rw [Explains, run_unionAt free nonempty]
  rcases inner : given.given with _ | types
  · rw [inner] at outcome last
    cases last
    obtain ⟨no_union, e, r₂, failed⟩ := outcome
    rw [failed]
    exact ⟨quiet, no_union, e, r₂, rfl⟩
  · rw [inner] at outcome last
    obtain ⟨⟨length, parts, sums, flat⟩, ok⟩ := outcome
    have types_ne : types ≠ [] := by
      rintro rfl
      exact nonempty (List.length_eq_zero_iff.1 length.symm)
    have union := unionOf_of_sumsUp c path (docs.bind Entry.description) r₁ sums types_ne
    rw [← flat] at union
    rw [ok]
    obtain ⟨type, r₂, attempted, done⟩ := run_bind_ok last
    cases done
    rw [run_attempt] at attempted
    rcases made : (c.unionOf path (docs.bind Entry.description) types).run r₁ with ⟨e | t, r₃⟩
    · rw [made] at attempted union
      cases attempted
      rw [union.2]
      exact ⟨quiet, union.1, e, _, made⟩
    · rw [made] at attempted union
      cases attempted
      refine ⟨fun simple => ?_, ⟨union.sumsUp, fun _ => ⟨r₁, union⟩⟩, made⟩
      cases union with
      | scalars _ _ _ same => exact same.trans (quiet simple)
      | objects some named =>
        obtain ⟨t, mem⟩ := List.exists_mem_of_ne_nil _ some
        obtain ⟨s, rfl⟩ := simple t mem
        cases named _ mem

/-! ## Leaves -/

theorem convert_object_ne_scalar {path : String} {nodes : List (String × SchemaNode)}
    {s : ApiScalar} (run : (c.convert path docs (.object nodes)).run r = (.ok (.scalar s), r')) :
    False := by
  rcases docs with _ | _ | ⟨own, tree⟩
  · simp only [convert] at run
    cases run
  · simp only [convert] at run
    cases run
  · simp only [convert] at run
    obtain ⟨found, r₁, _, later⟩ := run_bind_ok run
    cases found with
    | some object => cases later
    | none =>
      obtain ⟨fields, r₂, _, later⟩ := run_bind_ok later
      obtain ⟨object, r₃, _, done⟩ := run_bind_ok later
      cases done

/-- Every type that a reference gives is an object or a union. -/
def NamesReferences (c : Conversion) : Prop :=
  ∀ path kind r type r', (c.resolve path kind).run r = (.ok type, r') → type.isNamed = true

/-- A node that is no union and has a simple type registers nothing. -/
theorem types_eq_of_convert_scalar (references : c.NamesReferences) {s : ApiScalar} :
    ∀ (node : SchemaNode) (path : String), node.isUnion = false →
      (c.convert path docs node).run r = (.ok (.scalar s), r') → r'.types = r.types
  | .optional inner, path, leaf, run => by
    rw [convert] at run
    exact types_eq_of_convert_scalar references inner path leaf run
  | .scalar kind, path, _, run => by
    rw [convert] at run
    cases kind <;> cases run <;> rfl
  | .object nodes, path, _, run => (convert_object_ne_scalar run).elim
  | .list element, path, _, run => by
    rw [convert] at run
    obtain ⟨type, r₁, _, done⟩ := run_bind_ok run
    cases done
  | .map value, path, _, run => by
    rw [convert] at run
    obtain ⟨inner, r₁, _, later⟩ := run_bind_ok run
    obtain ⟨type, r₂, _, later⟩ := run_bind_ok later
    obtain ⟨record, r₃, _, done⟩ := run_bind_ok later
    cases done
  | .reference kind, path, _, run => by
    rw [convert] at run
    cases references path kind r _ r' run
  | .validated (.documentName target), path, _, run => by
    rw [convert, convertConstraint] at run
    cases references path target r _ r' run
  | .validated (.custom _), path, _, run => by
    rw [convert, convertConstraint] at run
    cases run

theorem leaf_explains (references : c.NamesReferences) {path : String} {node : SchemaNode}
    {nest : NestTypes ApiType} (leaf : node.isUnion = false)
    (run : (do
      let type ← c.convert path docs node
      return (⟨[type], some type⟩ : NestTypes ApiType)).run r = (.ok nest, r')) :
    Explains c (StandsFor c path docs node r') (c.convert path docs node) r nest r' := by
  obtain ⟨type, r₁, converted, done⟩ := run_bind_ok run
  cases done
  refine ⟨fun simple => ?_, ⟨SumsUp.self c.strict type, by simp [leaf]⟩, converted⟩
  obtain ⟨s, rfl⟩ := simple type (List.mem_singleton_self type)
  exact types_eq_of_convert_scalar references node path leaf converted

/-! ## The walk of a nest -/

/-- The leaves of an alternative and those of the later ones explain the walk of all of them. -/
theorem Explains.cons {m : Synthesis ApiType} {later : Synthesis (List ApiType)} {r₁ : Registry}
    {first : NestTypes ApiType} {others : NestTypes (List ApiType)} {count : Nat}
    (explainsFirst : Explains c (SumsUp c.strict) m r first r₁)
    (explainsOthers : Explains c (StandInTurn c.strict count) later r₁ others r') :
    Explains c (StandInTurn c.strict (count + 1))
      (do
        let type ← m
        return type :: (← later)) r
      ⟨first.leaves ++ others.leaves,
        first.given.bind fun type => others.given.map fun types => type :: types⟩ r' := by
  obtain ⟨quiet, outcome⟩ := explainsFirst
  obtain ⟨quiet', outcome'⟩ := explainsOthers
  refine ⟨fun simple => ?_, ?_⟩
  · obtain ⟨simple_first, simple_others⟩ := List.forall_mem_append.1 simple
    exact (quiet' simple_others).trans (quiet simple_first)
  · rcases given : first.given with _ | type
    · rw [given] at outcome
      obtain ⟨no_union, e, r₂, failed⟩ := outcome
      refine ⟨fun union => no_union (union.of_subset (List.subset_append_left _ _)), e, r₂, ?_⟩
      rw [run_bind, failed]
    · rw [given] at outcome
      obtain ⟨sums, ok⟩ := outcome
      rcases given' : others.given with _ | types
      · rw [given'] at outcome'
        obtain ⟨no_union, e, r₂, failed⟩ := outcome'
        refine ⟨fun union => no_union (union.of_subset (List.subset_append_right _ _)), e, r₂, ?_⟩
        simp only [run_bind, ok, failed]
      · rw [given'] at outcome'
        obtain ⟨⟨length, parts, sums', flat⟩, ok'⟩ := outcome'
        refine ⟨⟨congrArg Nat.succ length, first.leaves :: parts, .cons sums sums', ?_⟩, ?_⟩
        · rw [flat]
          rfl
        · simp only [run_bind, ok, ok']
          rfl

mutual

theorem nestTypes_explains (references : c.NamesReferences) : ∀ (node : SchemaNode) (path : String)
    (r r' : Registry) (nest : NestTypes ApiType), node.isFilled = true →
    (∀ name ∈ node.unionNames path, r.get? name = none) →
    (∀ leaf ∈ node.leaves path, ∀ name ∈ node.unionNames path,
      KeepsFree name (c.convert leaf.1 docs leaf.2)) →
    (c.nestTypes path docs node).run r = (.ok nest, r') →
    Explains c (StandsFor c path docs node r') (c.convert path docs node) r nest r'
  | .optional inner, path, r, r', nest, filled, free, keeps, run => by
    rw [SchemaNode.isFilled] at filled
    rw [SchemaNode.unionNames] at free keeps
    rw [SchemaNode.leaves] at keeps
    rw [nestTypes] at run
    rw [convert]
    exact nestTypes_explains references inner path r r' nest filled free keeps run
  | .union nodes, path, r, r', nest, filled, free, keeps, run
  | .validated (.alternatives nodes), path, r, r', nest, filled, free, keeps, run => by
    rw [nestTypes] at run
    simp only [convert, convertConstraint]
    rw [SchemaNode.isFilled, Bool.and_eq_true] at filled
    rw [SchemaNode.unionNames] at free keeps
    rw [SchemaNode.leaves] at keeps
    obtain ⟨here, later⟩ := List.forall_mem_cons.1 free
    exact unionOfNest_explains here (by simpa using filled.1) (fun given r₁ nested =>
      nestTypesOf_explains references nodes path 0 r r₁ given filled.2 later
        (fun leaf mem name named => keeps leaf mem name (List.mem_cons_of_mem _ named)) nested) run
  | .scalar _, path, r, r', nest, _, _, _, run | .object _, path, r, r', nest, _, _, _, run
  | .list _, path, r, r', nest, _, _, _, run | .map _, path, r, r', nest, _, _, _, run
  | .reference _, path, r, r', nest, _, _, _, run
  | .validated (.documentName _), path, r, r', nest, _, _, _, run
  | .validated (.custom _), path, r, r', nest, _, _, _, run => by
    simp only [nestTypes] at run
    exact leaf_explains references rfl run

theorem nestTypesOf_explains (references : c.NamesReferences) : ∀ (nodes : List SchemaNode)
    (path : String) (index : Nat) (r r' : Registry) (nest : NestTypes (List ApiType)),
    areFilled nodes = true → (∀ name ∈ unionNamesOf path index nodes, r.get? name = none) →
    (∀ leaf ∈ leavesOf path index nodes, ∀ name ∈ unionNamesOf path index nodes,
      KeepsFree name (c.convert leaf.1 docs leaf.2)) →
    (c.nestTypesOf path docs index nodes).run r = (.ok nest, r') →
    Explains c (StandInTurn c.strict nodes.length) (c.convertAlternatives path docs index nodes) r
      nest r'
  | [], path, index, r, r', nest, filled, free, keeps, run => by
    rw [nestTypesOf] at run
    cases run
    rw [convertAlternatives]
    exact ⟨fun _ => rfl, ⟨rfl, [], .nil, rfl⟩, rfl⟩
  | node :: rest, path, index, r, r', nest, filled, free, keeps, run => by
    rw [nestTypesOf] at run
    rw [areFilled, Bool.and_eq_true] at filled
    rw [unionNamesOf, List.forall_mem_append] at free
    rw [leavesOf, List.forall_mem_append, unionNamesOf] at keeps
    obtain ⟨first, r₁, firstRun, laterRun⟩ := run_bind_ok run
    obtain ⟨others, r₂, othersRun, done⟩ := run_bind_ok laterRun
    cases done
    have explainsFirst := nestTypes_explains references node _ r r₁ first filled.1 free.1
      (fun leaf mem name named => keeps.1 leaf mem name (List.mem_append_left _ named)) firstRun
    -- the first alternative leaves the names of the later ones free
    have still_free : ∀ name ∈ unionNamesOf path (index + 1) rest, r₁.get? name = none := by
      intro name named
      exact nestTypes_keepsFree node _ (fun named' => not_mem_unionNamesOf named' named)
        (fun leaf mem => keeps.1 leaf mem name (List.mem_append_right _ named)) r first r₁
        (free.2 name named) firstRun
    have explainsOthers := nestTypesOf_explains references rest path (index + 1) r₁ r' others
      filled.2 still_free
      (fun leaf mem name named => keeps.2 leaf mem name (List.mem_append_right _ named)) othersRun
    rw [convertAlternatives]
    exact (explainsFirst.mono fun _ _ stands => stands.1).cons explainsOthers

end

end Conversion

end ApiSchema
