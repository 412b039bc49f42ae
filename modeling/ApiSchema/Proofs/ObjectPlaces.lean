import ApiSchema.Proofs.MirroredWalk

/-!
# Places of nested objects

The object nodes of a definition's own schema that its walk visits, each with the pieces that lead
to it: one for each key and one for each alternative.  A walk that succeeds claims for each place,
in order, the definition's name followed by these pieces (`claims_of_places`).
-/

namespace ApiSchema

open Documentation (Entry Tree)
open KeyName

/-! ## Pieces of a name -/

/-- What a key adds to a name. -/
def keyPiece (key : String) : String := capitalized (toCamel key)

/-- What an alternative adds to a name. -/
def alternativePiece (index : Nat) : String := "Alternative" ++ toString (index + 1)

/-- A name followed by some pieces. -/
def spelled (root : String) (pieces : List String) : String := pieces.foldl (· ++ ·) root

theorem spelled_keyPiece (root : String) (pieces : List String) (key : String) :
    fieldPath (spelled root pieces) key = spelled root (pieces ++ [keyPiece key]) := by
  rw [spelled, spelled, List.foldl_append]
  rfl

theorem spelled_alternativePiece (root : String) (pieces : List String) (index : Nat) :
    alternativePath (spelled root pieces) index =
      spelled root (pieces ++ [alternativePiece index]) := by
  rw [spelled, spelled, List.foldl_append, alternativePath, String.append_assoc]
  rfl

/-- An object node with the pieces that lead to it and its documentation. -/
structure ObjectPlace where
  pieces : List String
  own : Option String
  tree : Tree
  nodes : List (String × SchemaNode)

/-- The name that the object at a place gets in a definition of the given name. -/
def ObjectPlace.name (root : String) (place : ObjectPlace) : String := spelled root place.pieces

def ObjectPlace.claim (root : String) (place : ObjectPlace) : String × Construct :=
  (place.name root, .object place.own place.tree place.nodes)

mutual

/-- The object nodes that the walk of a node visits. -/
def placesOf (pieces : List String) (docs : Option Entry) : SchemaNode → List ObjectPlace
  | .scalar _ => []
  | .optional inner => placesOf pieces docs inner
  | .union nodes => placesOfAlternatives pieces docs 0 nodes
  | .object nodes =>
    match docs with
    | some (.nested own tree) => ⟨pieces, own, tree, nodes⟩ :: placesOfFields pieces tree [] nodes
    | _ => []
  | .list element => placesOf pieces docs element
  | .map value => placesOf pieces (valueEntry docs) value
  | .reference _ => []
  | .validated constraint => placesOfConstraint pieces docs constraint

/-- The object nodes that the walk of a constraint visits. -/
def placesOfConstraint (pieces : List String) (docs : Option Entry) :
    Constraint → List ObjectPlace
  | .documentName _ => []
  | .alternatives nodes => placesOfAlternatives pieces docs 0 nodes
  | .custom _ => []

/-- The object nodes that the walk of alternatives visits, from an index on. -/
def placesOfAlternatives (pieces : List String) (docs : Option Entry) (index : Nat) :
    List SchemaNode → List ObjectPlace
  | [] => []
  | node :: rest =>
    placesOf (pieces ++ [alternativePiece index]) docs node ++
      placesOfAlternatives pieces docs (index + 1) rest

/-- The object nodes that the walk of an object's fields visits. -/
def placesOfFields (pieces : List String) (tree : Tree) (skip : List String) :
    List (String × SchemaNode) → List ObjectPlace
  | [] => []
  | (key, node) :: rest =>
    if isHiddenKey skip key then placesOfFields pieces tree skip rest
    else
      match Keyed.get? key tree with
      | none => placesOfFields pieces tree skip rest
      | some docs =>
        placesOf (pieces ++ [keyPiece key]) (some docs) node ++
          placesOfFields pieces tree skip rest

end

/-- The nested object nodes of a definition's own schema that its walk visits. -/
def Definition.places (d : Definition) : List ObjectPlace :=
  match d.schema with
  | .object nodes => placesOfFields [] d.docs d.skipFields nodes
  | _ => []

theorem Definition.places_of_schema {d : Definition} {nodes : List (String × SchemaNode)}
    (schema : d.schema = .object nodes) :
    d.places = placesOfFields [] d.docs d.skipFields nodes := by
  rw [places, schema]

theorem Definition.subset_places {d : Definition} {nodes : List (String × SchemaNode)}
    (schema : d.schema = .object nodes) :
    placesOfFields [] d.docs d.skipFields nodes ⊆ d.places := by
  rw [places_of_schema schema]
  exact List.Subset.refl _

/-! ## Visits -/

section Visits

open Plain

variable {strict : Bool} {resolve : String → DocumentKind → Plain ApiType} {root : String}

theorem unionAt_claimed {path : String} {docs : Option Entry} {nodes : List SchemaNode}
    {alternatives : Plain (List ApiType)} {claims : List (String × Construct)} {type : ApiType}
    {places : List (String × Construct)}
    (eq : unionAt strict path docs nodes alternatives = ⟨claims, .ok type⟩)
    (parts : ∀ {inner types}, alternatives = ⟨inner, .ok types⟩ → places.Sublist inner) :
    places.Sublist claims := by
  obtain ⟨first, _, later, claimed, rest_eq, rfl⟩ := bind_eq_ok eq
  split_ifs at rest_eq
  · exact (fail_ne_ok rest_eq).elim
  · obtain ⟨middle, types, last, types_eq, -, rfl⟩ := bind_eq_ok rest_eq
    have inner : places.Sublist (middle ++ last) :=
      (parts types_eq).trans (List.sublist_append_left _ _)
    exact inner.trans (List.sublist_append_right _ _)

mutual

/-- A walk that succeeds claims the names of the places that it visits, in their order. -/
theorem places_claimed : ∀ (node : SchemaNode) {pieces : List String} {docs : Option Entry}
    {claims : List (String × Construct)} {type : ApiType},
    convert strict resolve (spelled root pieces) docs node = ⟨claims, .ok type⟩ →
    ((placesOf pieces docs node).map (·.claim root)).Sublist claims
  | .scalar kind, pieces, docs, claims, type, eq => by
    rw [placesOf]
    exact List.nil_sublist _
  | .optional inner, pieces, docs, claims, type, eq => by
    rw [convert] at eq
    rw [placesOf]
    exact places_claimed inner eq
  | .union nodes, pieces, docs, claims, type, eq => by
    rw [convert] at eq
    rw [placesOf]
    exact unionAt_claimed eq (placesOfAlternatives_claimed nodes)
  | .object nodes, pieces, docs, claims, type, eq => by
    rcases docs with _ | _ | ⟨own, tree⟩
    · exact List.nil_sublist _
    · exact List.nil_sublist _
    · rw [convert] at eq
      obtain ⟨object, rfl, object_eq⟩ := of_bind_object eq
      obtain ⟨inner, rfl, fields_eq, -⟩ := objectAt_eq_ok object_eq
      rw [placesOf]
      exact (placesOfFields_claimed nodes fields_eq).cons_cons _
  | .list element, pieces, docs, claims, type, eq => by
    rw [convert] at eq
    obtain ⟨first, inner, later, inner_eq, -, rfl⟩ := bind_eq_ok eq
    rw [placesOf]
    exact (places_claimed element inner_eq).trans (List.sublist_append_left _ _)
  | .map value, pieces, docs, claims, type, eq => by
    rw [convert] at eq
    obtain ⟨first, docs', later, docs_eq, rest_eq, rfl⟩ := bind_eq_ok eq
    obtain ⟨middle, inner, last, inner_eq, -, rfl⟩ := bind_eq_ok rest_eq
    obtain ⟨rfl, rfl⟩ := valueDocs_eq_ok docs_eq
    rw [placesOf]
    exact (places_claimed value inner_eq).trans (List.sublist_append_left _ _)
  | .reference kind, pieces, docs, claims, type, eq => by
    rw [placesOf]
    exact List.nil_sublist _
  | .validated constraint, pieces, docs, claims, type, eq => by
    rw [convert] at eq
    rw [placesOf]
    exact placesOfConstraint_claimed constraint eq

theorem placesOfConstraint_claimed : ∀ (constraint : Constraint) {pieces : List String}
    {docs : Option Entry} {claims : List (String × Construct)} {type : ApiType},
    convertConstraint strict resolve (spelled root pieces) docs constraint =
      ⟨claims, .ok type⟩ →
    ((placesOfConstraint pieces docs constraint).map (·.claim root)).Sublist claims
  | .documentName target, pieces, docs, claims, type, eq => by
    rw [placesOfConstraint]
    exact List.nil_sublist _
  | .alternatives nodes, pieces, docs, claims, type, eq => by
    rw [convertConstraint] at eq
    rw [placesOfConstraint]
    exact unionAt_claimed eq (placesOfAlternatives_claimed nodes)
  | .custom name, pieces, docs, claims, type, eq => by
    rw [placesOfConstraint]
    exact List.nil_sublist _

theorem placesOfAlternatives_claimed : ∀ (nodes : List SchemaNode) {pieces : List String}
    {docs : Option Entry} {index : Nat} {claims : List (String × Construct)}
    {types : List ApiType},
    convertAlternatives strict resolve (spelled root pieces) docs index nodes =
      ⟨claims, .ok types⟩ →
    ((placesOfAlternatives pieces docs index nodes).map (·.claim root)).Sublist claims
  | [], pieces, docs, index, claims, types, eq => by
    rw [placesOfAlternatives]
    exact List.nil_sublist _
  | node :: rest, pieces, docs, index, claims, types, eq => by
    rw [convertAlternatives, spelled_alternativePiece] at eq
    obtain ⟨first, part, later, part_eq, rest_eq, rfl⟩ := bind_eq_ok eq
    obtain ⟨middle, parts, last, parts_eq, -, rfl⟩ := bind_eq_ok rest_eq
    have there := (placesOfAlternatives_claimed rest parts_eq).trans
      (List.sublist_append_left middle last)
    rw [placesOfAlternatives, List.map_append]
    exact (places_claimed node part_eq).append there

theorem placesOfFields_claimed : ∀ (nodes : List (String × SchemaNode)) {pieces : List String}
    {tree : Tree} {skip : List String} {done : List Field}
    {claims : List (String × Construct)} {fields : List Field},
    convertFields strict resolve (spelled root pieces) tree skip done nodes =
      ⟨claims, .ok fields⟩ →
    ((placesOfFields pieces tree skip nodes).map (·.claim root)).Sublist claims
  | [], pieces, tree, skip, done, claims, fields, eq => by
    rw [placesOfFields]
    exact List.nil_sublist _
  | (key, node) :: rest, pieces, tree, skip, done, claims, fields, eq => by
    rw [convertFields] at eq
    rw [placesOfFields]
    split_ifs at eq ⊢
    · exact placesOfFields_claimed rest eq
    · rcases documented : Keyed.get? key tree with _ | docs
      · rw [documented] at eq
        exact placesOfFields_claimed rest eq
      · rw [documented] at eq
        dsimp only at eq ⊢
        split at eq
        · exact (fail_ne_ok eq).elim
        · rw [spelled_keyPiece] at eq
          obtain ⟨first, type, later, type_eq, rest_eq, rfl⟩ := bind_eq_ok eq
          rw [List.map_append]
          exact (places_claimed node type_eq).append (placesOfFields_claimed rest rest_eq)

end

end Visits

/-- A walk of a definition that succeeds claims the names of its nested objects, in their order. -/
theorem claims_of_places {catalog : Catalog} {strict : Bool} {busy : List String} {d : Definition}
    {claims : List (String × Construct)} {object : ObjectType}
    (eq : catalog.plainObjectIn strict busy d = ⟨claims, .ok object⟩) :
    (d.places.map (·.claim d.name)).Sublist claims := by
  obtain ⟨inner, new, nodes, rfl, schema, fields_eq, -⟩ := Plain.definitionWith_eq_ok eq
  rw [Definition.places_of_schema schema]
  have claimed : ((placesOfFields [] d.docs d.skipFields nodes).map (·.claim d.name)).Sublist
      inner := placesOfFields_claimed nodes fields_eq
  exact claimed.cons _

end ApiSchema
