import ApiSchema.Proofs.Mirrors

/-!
# The walk gives types that mirror their schema

The types of the walk without a registry mirror their nodes.  Only unions need the claims: a member
is left out if one of its name is there already, and where no name is claimed by two constructs that
one is the same object, since both come from a visit of one construct (`Visited.eq_of_name`).  By
the agreement of the two walks the synthesis of a definition gives a type that mirrors the
definition (`synthesize_mirrors`).
-/

namespace ApiSchema

open Documentation (Entry Tree valueTerm)

/-! ## Parts of a walk that succeeds -/

namespace Plain

variable {α β : Type} {claims : List (String × Construct)}

theorem bind_eq_ok {m : Plain α} {f : α → Plain β} {b : β} (eq : m >>= f = ⟨claims, .ok b⟩) :
    ∃ first a later, m = ⟨first, .ok a⟩ ∧ f a = ⟨later, .ok b⟩ ∧ claims = first ++ later := by
  rcases m with ⟨first, e | a⟩
  · cases congrArg Plain.result eq
  · rw [ok_bind] at eq
    rcases next : f a with ⟨later, e | c⟩
    · rw [next] at eq
      cases congrArg Plain.result eq
    · rw [next] at eq
      cases eq
      exact ⟨first, a, later, rfl, next, rfl⟩

theorem fail_ne_ok {path : String} {fault : SynthesisFault} {a : α} :
    (fail path fault : Plain α) ≠ ⟨claims, .ok a⟩ := by
  intro eq
  cases eq

/-- An object that is made has the name and the fields that were given. -/
theorem objectOf_eq_ok {name : String} {description discriminator : Option String}
    {fields : List Field} {object : ObjectType}
    (eq : objectOf name description discriminator fields = ⟨claims, .ok object⟩) :
    claims = [] ∧ object.name = name ∧ object.fields = fields := by
  rw [objectOf] at eq
  split_ifs at eq
  · exact (fail_ne_ok eq).elim
  · cases eq
    exact ⟨rfl, rfl, rfl⟩

theorem objectAt_eq_ok {path : String} {own : Option String} {tree : Tree}
    {nodes : List (String × SchemaNode)} {fields : Plain (List Field)} {object : ObjectType}
    (eq : objectAt path own tree nodes fields = ⟨claims, .ok object⟩) :
    ∃ inner, claims = (path, .object own tree nodes) :: inner ∧
      fields = ⟨inner, .ok object.fields⟩ ∧ object.name = path := by
  obtain ⟨first, _, later, claimed, rest, rfl⟩ := bind_eq_ok eq
  cases claimed
  obtain ⟨inner, made, more, fields_eq, made_eq, rfl⟩ := bind_eq_ok rest
  obtain ⟨rfl, named, rfl⟩ := objectOf_eq_ok made_eq
  exact ⟨inner, by rw [List.append_nil, List.singleton_append], fields_eq, named⟩

/-- The object of a definition is made of its fields, after the definition's claim. -/
theorem definitionWith_eq_ok {d : Definition} {strict : Bool} {busy : List String}
    {resolve : d.name ∉ busy → String → DocumentKind → Plain ApiType} {object : ObjectType}
    (eq : definitionWith d strict busy resolve = ⟨claims, .ok object⟩) :
    ∃ inner new nodes, claims = (d.name, .definition d) :: inner ∧ d.schema = .object nodes ∧
      convertFields strict (resolve new) d.name d.docs d.skipFields [] nodes =
        ⟨inner, .ok object.fields⟩ ∧ object.name = d.name := by
  obtain ⟨first, _, later, claimed, rest, rfl⟩ := bind_eq_ok eq
  cases claimed
  obtain ⟨inner, made, more, fields_eq, made_eq, rfl⟩ := bind_eq_ok rest
  obtain ⟨rfl, named, rfl⟩ := objectOf_eq_ok made_eq
  rw [definitionFields] at fields_eq
  split_ifs at fields_eq with new
  · exact (fail_ne_ok fields_eq).elim
  · split at fields_eq
    · rename_i nodes schema
      exact ⟨inner, new, nodes, by rw [List.append_nil, List.singleton_append], schema,
        fields_eq, named⟩
    · exact (fail_ne_ok fields_eq).elim

theorem valueDocs_eq_ok {path : String} {docs inner : Option Entry}
    (eq : valueDocs path docs = ⟨claims, .ok inner⟩) : claims = [] ∧ inner = valueEntry docs := by
  rcases docs with _ | _ | ⟨own, fields⟩
  · cases eq
    exact ⟨rfl, rfl⟩
  · cases eq
    exact ⟨rfl, rfl⟩
  · rw [valueDocs] at eq
    rcases found : Keyed.get? valueTerm fields with _ | entry
    · rw [found] at eq
      exact (fail_ne_ok eq).elim
    · rw [found] at eq
      cases eq
      exact ⟨rfl, found.symm⟩

theorem mapM_eq_ok {f : α → Plain β} {list : List α} {values : List β}
    (eq : list.mapM f = ⟨claims, .ok values⟩) :
    ∀ b ∈ values, ∃ a inner, f a = ⟨inner, .ok b⟩ ∧ inner ⊆ claims := by
  induction list generalizing claims values with
  | nil =>
    cases eq
    simp
  | cons a rest ih =>
    rw [List.mapM_cons] at eq
    obtain ⟨first, b, later, first_eq, rest_eq, rfl⟩ := bind_eq_ok eq
    obtain ⟨middle, bs, last, middle_eq, last_eq, rfl⟩ := bind_eq_ok rest_eq
    cases last_eq
    refine List.forall_mem_cons.2 ⟨⟨a, first, first_eq, List.subset_append_left _ _⟩, ?_⟩
    intro b mem
    obtain ⟨a', inner, eq', inside⟩ := ih middle_eq b mem
    refine ⟨a', inner, eq', fun claim mem => ?_⟩
    simp [inside mem]

/-! ## Unions -/

/-- What is there stays, a candidate is there by name, and nothing else comes in. -/
theorem mem_add (candidates done : List ObjectType) :
    done ⊆ unionMembers.add done candidates ∧
      (∀ o ∈ candidates, ∃ m ∈ unionMembers.add done candidates, m.name = o.name) ∧
      unionMembers.add done candidates ⊆ done ++ candidates := by
  induction candidates generalizing done with
  | nil => exact ⟨List.Subset.refl _, by simp, by simp [unionMembers.add]⟩
  | cons candidate rest ih =>
    rw [unionMembers.add, List.foldl_cons]
    split_ifs with known
    · obtain ⟨kept, named, bounded⟩ := ih done
      refine ⟨kept, List.forall_mem_cons.2 ⟨?_, named⟩, fun m mem => ?_⟩
      · obtain ⟨m, mem, same⟩ := List.any_eq_true.1 known
        exact ⟨m, kept mem, beq_iff_eq.1 same⟩
      · have := bounded mem
        simp only [List.mem_append, List.mem_cons] at this ⊢
        tauto
    · obtain ⟨kept, named, bounded⟩ := ih (done ++ [candidate])
      refine ⟨fun m mem => kept (List.mem_append_left _ mem),
        List.forall_mem_cons.2 ⟨?_, named⟩, fun m mem => ?_⟩
      · exact ⟨candidate, kept (List.mem_append_right _ (List.mem_singleton_self _)), rfl⟩
      · have := bounded mem
        simp only [List.mem_append, List.mem_cons, List.not_mem_nil, or_false] at this ⊢
        tauto

/-- The members that some types give to a union are objects of the types, and each such object is
there by name. -/
theorem unionMembers_eq_ok {path : String} {types : List ApiType} {done members : List ObjectType}
    (eq : unionMembers path done types = ⟨claims, .ok members⟩) :
    done ⊆ members ∧ (∀ t ∈ types, ∃ named : NamedType, t = named.toType) ∧
      (∀ t ∈ types, ∀ o ∈ t.objects, ∃ m ∈ members, m.name = o.name) ∧
      ∀ m ∈ members, m ∈ done ∨ ∃ t ∈ types, m ∈ t.objects := by
  induction types generalizing done with
  | nil =>
    cases eq
    exact ⟨List.Subset.refl _, by simp, by simp, fun m mem => .inl mem⟩
  | cons type rest ih =>
    have step : ∀ named : NamedType, type = named.toType →
        unionMembers path (unionMembers.add done type.objects) rest = ⟨claims, .ok members⟩ →
        done ⊆ members ∧ (∀ t ∈ type :: rest, ∃ named : NamedType, t = named.toType) ∧
          (∀ t ∈ type :: rest, ∀ o ∈ t.objects, ∃ m ∈ members, m.name = o.name) ∧
          ∀ m ∈ members, m ∈ done ∨ ∃ t ∈ type :: rest, m ∈ t.objects := by
      intro named same eq
      obtain ⟨kept, names, found, bounded⟩ := ih eq
      obtain ⟨added, foundHere, boundedHere⟩ := mem_add type.objects done
      refine ⟨fun m mem => kept (added mem), List.forall_mem_cons.2 ⟨⟨named, same⟩, names⟩,
        List.forall_mem_cons.2 ⟨fun o mem => ?_, found⟩, fun m mem => ?_⟩
      · obtain ⟨m, inside, same_name⟩ := foundHere o mem
        exact ⟨m, kept inside, same_name⟩
      · rcases bounded m mem with here | ⟨t, later, inside⟩
        · rcases List.mem_append.1 (boundedHere here) with old | new
          · exact .inl old
          · exact .inr ⟨type, List.mem_cons_self .., new⟩
        · exact .inr ⟨t, List.mem_cons_of_mem _ later, inside⟩
    cases type with
    | object o => exact step (.object o) rfl eq
    | union u => exact step (.union u) rfl eq
    | list _ | scalar _ => exact (fail_ne_ok eq).elim

/-- A union of some types is simple if they are, or else it has their objects by name. -/
theorem unionOf_eq_ok {strict : Bool} {path : String} {description : Option String}
    {types : List ApiType} {type : ApiType}
    (eq : unionOf strict path description types = ⟨claims, .ok type⟩) :
    (∃ scalar, type = .scalar scalar ∧ ∀ t ∈ types, ∃ s, t = .scalar s) ∨
      ∃ members, type = .union ⟨path, description, members⟩ ∧
        (∀ t ∈ types, ∃ named : NamedType, t = named.toType) ∧
        (∀ t ∈ types, ∀ o ∈ t.objects, ∃ m ∈ members, m.name = o.name) ∧
        ∀ m ∈ members, ∃ t ∈ types, m ∈ t.objects := by
  rcases scalars : types.filterMap ApiType.scalar? with _ | ⟨first, others⟩
  · rw [unionOf_members scalars] at eq
    obtain ⟨first, members, later, members_eq, made, rfl⟩ := bind_eq_ok eq
    cases made
    obtain ⟨-, named, found, bounded⟩ := unionMembers_eq_ok members_eq
    exact .inr ⟨members, rfl, named, found, fun m mem => (bounded m mem).resolve_left (by simp)⟩
  · rw [unionOf_scalars scalars] at eq
    split_ifs at eq with all
    · rw [← scalars, List.filterMap_length_eq_length] at all
      have simple : ∀ t ∈ types, ∃ s, t = .scalar s := by
        intro t mem
        have := all t mem
        cases t with
        | scalar s => exact ⟨s, rfl⟩
        | object _ | union _ | list _ => cases this
      rw [scalarUnion] at eq
      split_ifs at eq
      · cases eq
        exact .inl ⟨first, rfl, simple⟩
      · exact (fail_ne_ok eq).elim
      · cases eq
        exact .inl ⟨.generic, rfl, simple⟩
    · exact (fail_ne_ok eq).elim

end Plain

namespace Catalog

variable {catalog : Catalog} {strict : Bool} {scope : List (String × Construct)}
  {busy : List String}

/-- The object is what the visit of a construct in scope gives. -/
def Visited (catalog : Catalog) (strict : Bool) (scope : List (String × Construct))
    (busy : List String) (object : ObjectType) : Prop :=
  ∃ construct, (object.name, construct) ∈ scope ∧
    (catalog.visit strict busy object.name construct).result = .ok (.object object)

/-- Where no name is claimed by two constructs, objects of one name are one object. -/
theorem Visited.eq_of_name (clear : Unambiguous scope) {a b : ObjectType}
    (first : catalog.Visited strict scope busy a) (second : catalog.Visited strict scope busy b)
    (same : a.name = b.name) : a = b := by
  obtain ⟨construct, claimed, gives⟩ := first
  obtain ⟨other, claimed', gives'⟩ := second
  rw [same] at claimed gives
  rw [clear _ _ _ claimed claimed', gives'] at gives
  cases gives
  rfl

theorem admits_of_unionOf (clear : Unambiguous scope) {path : String}
    {description : Option String} {types : List ApiType} {type : ApiType}
    {claims : List (String × Construct)}
    (eq : Plain.unionOf strict path description types = ⟨claims, .ok type⟩)
    (visited : ∀ t ∈ types, ∀ o ∈ t.objects, catalog.Visited strict scope busy o) :
    (∀ t ∈ types, type.Admits t) ∧ ∀ o ∈ type.objects, catalog.Visited strict scope busy o := by
  rcases Plain.unionOf_eq_ok eq with ⟨scalar, rfl, simple⟩ | ⟨members, rfl, named, found, bounded⟩
  · refine ⟨fun t mem => ?_, by simp [ApiType.objects]⟩
    obtain ⟨s, rfl⟩ := simple t mem
    trivial
  · have inside : ∀ t ∈ types, ∀ o ∈ t.objects, o ∈ members := by
      intro t mem o object
      obtain ⟨m, member, same⟩ := found t mem o object
      obtain ⟨t', mem', object'⟩ := bounded m member
      rwa [(visited t' mem' m object').eq_of_name clear (visited t mem o object) same] at member
    refine ⟨fun t mem => ?_, fun m mem => ?_⟩
    · obtain ⟨named, rfl⟩ := named t mem
      cases named with
      | object o => exact inside _ mem o (List.mem_singleton_self o)
      | union u => exact inside _ mem
    · obtain ⟨t, mem, object⟩ := bounded m mem
      exact visited t mem m object

/-! ## Documents -/

theorem plainObjectIn_visited {d : Definition} {object : ObjectType}
    {claims : List (String × Construct)}
    (eq : catalog.plainObjectIn strict busy d = ⟨claims, .ok object⟩) (inside : claims ⊆ scope) :
    catalog.Visited strict scope busy object := by
  obtain ⟨inner, new, nodes, rfl, -, -, named⟩ := Plain.definitionWith_eq_ok eq
  refine ⟨.definition d, inside ?_, ?_⟩
  · rw [named]
    exact List.mem_cons_self ..
  · rw [visit, eq]
    rfl

/-- A reference gives an object or a union of objects that are visited. -/
theorem plainTypeOf_visited {path : String} {kind : DocumentKind} {type : ApiType}
    {claims : List (String × Construct)}
    (eq : catalog.plainTypeOf strict busy path kind = ⟨claims, .ok type⟩)
    (inside : claims ⊆ scope) :
    (∃ named : NamedType, type = named.toType) ∧
      ∀ o ∈ type.objects, catalog.Visited strict scope busy o := by
  rw [plainTypeOf_eq] at eq
  generalize catalog.definitions kind = definitions at eq
  rcases definitions with _ | ⟨single, _ | ⟨second, rest⟩⟩
  · exact (Plain.fail_ne_ok eq).elim
  · obtain ⟨first, object, later, object_eq, made, rfl⟩ := Plain.bind_eq_ok eq
    cases made
    refine ⟨⟨.object object, rfl⟩, fun o mem => ?_⟩
    rw [List.mem_singleton.1 mem]
    exact plainObjectIn_visited object_eq (List.append_subset.1 inside).1
  · obtain ⟨first, _, later, claimed, rest_eq, rfl⟩ := Plain.bind_eq_ok eq
    obtain ⟨middle, members, last, members_eq, made, rfl⟩ := Plain.bind_eq_ok rest_eq
    cases made
    refine ⟨⟨.union ⟨kind.typeName, none, members⟩, rfl⟩, fun o mem => ?_⟩
    obtain ⟨d, inner, object_eq, included⟩ := Plain.mapM_eq_ok members_eq o mem
    refine plainObjectIn_visited object_eq fun claim mem => inside ?_
    simp [included mem]

/-! ## Nodes -/

/-- A union at a path mirrors its alternatives if the types that it is made of do. -/
theorem unionAt_mirrors (clear : Unambiguous scope) {nodes : List SchemaNode} {path : String}
    {docs : Option Entry} {alternatives : Plain (List ApiType)}
    {claims : List (String × Construct)} {type : ApiType}
    (eq : Plain.unionAt strict path docs nodes alternatives = ⟨claims, .ok type⟩)
    (inside : claims ⊆ scope)
    (parts : ∀ {inner types}, alternatives = ⟨inner, .ok types⟩ → inner ⊆ scope →
      (∀ type : ApiType, (∀ t ∈ types, type.Admits t) →
        MirrorsAlternatives path docs 0 type nodes) ∧
        ∀ t ∈ types, ∀ o ∈ t.objects, catalog.Visited strict scope busy o) :
    MirrorsAlternatives path docs 0 type nodes ∧
      ∀ o ∈ type.objects, catalog.Visited strict scope busy o := by
  obtain ⟨first, _, later, claimed, rest_eq, rfl⟩ := Plain.bind_eq_ok eq
  split_ifs at rest_eq
  · exact (Plain.fail_ne_ok rest_eq).elim
  · obtain ⟨middle, types, last, types_eq, union_eq, rfl⟩ := Plain.bind_eq_ok rest_eq
    obtain ⟨mirrors, visited⟩ := parts types_eq fun claim mem => inside (by simp [mem])
    obtain ⟨admits, visitedUnion⟩ := admits_of_unionOf clear union_eq visited
    exact ⟨mirrors type admits, visitedUnion⟩

mutual

/-- The type of a node mirrors it, and the objects that it gives to a union are visited. -/
theorem convert_mirrors (clear : Unambiguous scope) : ∀ (node : SchemaNode) {path : String}
    {docs : Option Entry} {claims : List (String × Construct)} {type : ApiType},
    Plain.convert strict (catalog.plainTypeOf strict busy) path docs node = ⟨claims, .ok type⟩ →
    claims ⊆ scope →
    Mirrors path docs node type ∧ ∀ o ∈ type.objects, catalog.Visited strict scope busy o
  | .scalar kind, path, docs, claims, type, eq, inside => by
    rw [Plain.convert] at eq
    cases eq
    rw [Mirrors]
    exact ⟨⟨_, rfl⟩, by simp [ApiType.objects]⟩
  | .optional inner, path, docs, claims, type, eq, inside => by
    rw [Plain.convert] at eq
    rw [Mirrors]
    exact convert_mirrors clear inner eq inside
  | .union nodes, path, docs, claims, type, eq, inside => by
    rw [Plain.convert] at eq
    rw [Mirrors]
    exact unionAt_mirrors clear eq inside (convertAlternatives_mirrors clear nodes)
  | .object nodes, path, docs, claims, type, eq, inside => by
    rcases docs with _ | _ | ⟨own, tree⟩
    · rw [Plain.convert] at eq
      · exact (Plain.fail_ne_ok eq).elim
      · simp
    · rw [Plain.convert] at eq
      · exact (Plain.fail_ne_ok eq).elim
      · simp
    · rw [Plain.convert] at eq
      obtain ⟨object, rfl, object_eq⟩ := Plain.of_bind_object eq
      obtain ⟨inner, rfl, fields_eq, named⟩ := Plain.objectAt_eq_ok object_eq
      obtain ⟨claimed, claims⟩ := List.cons_subset.1 inside
      obtain ⟨added, same, fields, distinct⟩ := convertFields_mirrors clear nodes fields_eq claims
      rw [List.nil_append] at same
      rw [← same] at fields
      rw [Mirrors]
      refine ⟨⟨own, tree, object, rfl, rfl, named, distinct List.nodup_nil, fields⟩, ?_⟩
      intro o mem
      rw [List.mem_singleton.1 mem]
      refine ⟨.object own tree nodes, by rwa [named], ?_⟩
      rw [named, visit, object_eq]
      rfl
  | .list element, path, docs, claims, type, eq, inside => by
    rw [Plain.convert] at eq
    obtain ⟨first, inner, later, inner_eq, made, rfl⟩ := Plain.bind_eq_ok eq
    cases made
    rw [Mirrors]
    exact ⟨⟨inner, rfl, (convert_mirrors clear element inner_eq (List.append_subset.1 inside).1).1⟩,
      by simp [ApiType.objects]⟩
  | .map value, path, docs, claims, type, eq, inside => by
    rw [Plain.convert] at eq
    obtain ⟨first, docs', later, docs_eq, rest_eq, rfl⟩ := Plain.bind_eq_ok eq
    obtain ⟨middle, inner, last, inner_eq, record_eq, rfl⟩ := Plain.bind_eq_ok rest_eq
    obtain ⟨rfl, rfl⟩ := Plain.valueDocs_eq_ok docs_eq
    cases record_eq
    rw [Mirrors]
    refine ⟨⟨0, inner, rfl, (convert_mirrors clear value inner_eq fun claim mem => inside ?_).1⟩,
      by simp [ApiType.objects]⟩
    simp [mem]
  | .reference kind, path, docs, claims, type, eq, inside => by
    rw [Plain.convert] at eq
    rw [Mirrors]
    exact plainTypeOf_visited eq inside
  | .validated constraint, path, docs, claims, type, eq, inside => by
    rw [Plain.convert] at eq
    rw [Mirrors]
    exact convertConstraint_mirrors clear constraint eq inside

theorem convertConstraint_mirrors (clear : Unambiguous scope) : ∀ (constraint : Constraint)
    {path : String} {docs : Option Entry} {claims : List (String × Construct)} {type : ApiType},
    Plain.convertConstraint strict (catalog.plainTypeOf strict busy) path docs constraint =
      ⟨claims, .ok type⟩ → claims ⊆ scope →
    MirrorsConstraint path docs type constraint ∧
      ∀ o ∈ type.objects, catalog.Visited strict scope busy o
  | .documentName target, path, docs, claims, type, eq, inside => by
    rw [Plain.convertConstraint] at eq
    rw [MirrorsConstraint]
    exact plainTypeOf_visited eq inside
  | .alternatives nodes, path, docs, claims, type, eq, inside => by
    rw [Plain.convertConstraint] at eq
    rw [MirrorsConstraint]
    exact unionAt_mirrors clear eq inside (convertAlternatives_mirrors clear nodes)
  | .custom name, path, docs, claims, type, eq, inside => by
    rw [Plain.convertConstraint] at eq
    exact (Plain.fail_ne_ok eq).elim

theorem convertAlternatives_mirrors (clear : Unambiguous scope) : ∀ (nodes : List SchemaNode)
    {path : String} {docs : Option Entry} {index : Nat} {claims : List (String × Construct)}
    {types : List ApiType},
    Plain.convertAlternatives strict (catalog.plainTypeOf strict busy) path docs index nodes =
      ⟨claims, .ok types⟩ → claims ⊆ scope →
    (∀ type : ApiType, (∀ t ∈ types, type.Admits t) →
      MirrorsAlternatives path docs index type nodes) ∧
      ∀ t ∈ types, ∀ o ∈ t.objects, catalog.Visited strict scope busy o
  | [], path, docs, index, claims, types, eq, inside => by
    rw [Plain.convertAlternatives] at eq
    cases eq
    simp [MirrorsAlternatives]
  | node :: rest, path, docs, index, claims, types, eq, inside => by
    rw [Plain.convertAlternatives] at eq
    obtain ⟨first, part, later, part_eq, rest_eq, rfl⟩ := Plain.bind_eq_ok eq
    obtain ⟨middle, parts, last, parts_eq, made, rfl⟩ := Plain.bind_eq_ok rest_eq
    cases made
    have here := convert_mirrors clear node part_eq fun claim mem => inside (by simp [mem])
    have there := convertAlternatives_mirrors clear rest parts_eq fun claim mem =>
      inside (by simp [mem])
    refine ⟨fun type admits => ?_, List.forall_mem_cons.2 ⟨here.2, there.2⟩⟩
    obtain ⟨admitsPart, admitsParts⟩ := List.forall_mem_cons.1 admits
    rw [MirrorsAlternatives]
    exact ⟨⟨part, admitsPart, here.1⟩, there.1 type admitsParts⟩

/-- The fields that are added mirror the object's keys, and names stay distinct. -/
theorem convertFields_mirrors (clear : Unambiguous scope) :
    ∀ (nodes : List (String × SchemaNode)) {parent : String} {tree : Tree}
      {skip : List String} {done : List Field} {claims : List (String × Construct)}
      {fields : List Field},
    Plain.convertFields strict (catalog.plainTypeOf strict busy) parent tree skip done nodes =
      ⟨claims, .ok fields⟩ → claims ⊆ scope →
    ∃ added, fields = done ++ added ∧ MirrorsFields parent tree skip added nodes ∧
      ((done.map Field.name).Nodup → (fields.map Field.name).Nodup)
  | [], parent, tree, skip, done, claims, fields, eq, inside => by
    rw [Plain.convertFields] at eq
    cases eq
    exact ⟨[], (List.append_nil _).symm, by rw [MirrorsFields], id⟩
  | (key, node) :: rest, parent, tree, skip, done, claims, fields, eq, inside => by
    rw [Plain.convertFields] at eq
    simp only [MirrorsFields]
    split_ifs at eq ⊢
    · exact convertFields_mirrors clear rest eq inside
    · rcases documented : Keyed.get? key tree with _ | docs
      · rw [documented] at eq
        exact convertFields_mirrors clear rest eq inside
      · rw [documented] at eq
        dsimp only at eq
        split at eq
        · exact (Plain.fail_ne_ok eq).elim
        · rename_i new
          obtain ⟨first, type, later, type_eq, rest_eq, rfl⟩ := Plain.bind_eq_ok eq
          obtain ⟨claimsHere, claimsThere⟩ := List.append_subset.1 inside
          have here := convert_mirrors clear node type_eq claimsHere
          obtain ⟨added, rfl, mirrors, distinct⟩ :=
            convertFields_mirrors clear rest rest_eq claimsThere
          refine ⟨_ :: added, List.append_assoc _ [_] added,
            ⟨_, added, rfl, rfl, rfl, here.1, mirrors⟩, fun nodup => distinct ?_⟩
          rw [List.map_append, List.nodup_append]
          refine ⟨nodup, List.nodup_singleton _, ?_⟩
          rintro name mem other (_ | ⟨_, ⟨⟩⟩) rfl
          obtain ⟨field, member, named⟩ := List.mem_map.1 mem
          have := List.find?_eq_none.1 new field member
          simp [named] at this

end

theorem plainObjectIn_mirrors {d : Definition} {claims : List (String × Construct)}
    {object : ObjectType} (eq : catalog.plainObjectIn strict busy d = ⟨claims, .ok object⟩)
    (clear : Unambiguous claims) : d.Mirrored object := by
  obtain ⟨inner, new, nodes, rfl, schema, fields_eq, named⟩ := Plain.definitionWith_eq_ok eq
  obtain ⟨added, same, fields, distinct⟩ := convertFields_mirrors clear nodes fields_eq
    (List.subset_cons_self ..)
  rw [List.nil_append] at same
  rw [← same] at fields
  exact ⟨nodes, schema, named, distinct List.nodup_nil, fields⟩

end Catalog

/-! ## Synthesis -/

namespace Synthesizer

theorem unambiguous_of_nodup {claims : List (String × Construct)}
    (distinct : (claims.map Prod.fst).Nodup) : Unambiguous claims := by
  intro name a b claimed claimed'
  have same := List.inj_on_of_nodup_map distinct claimed claimed' rfl
  cases same
  rfl

/-- The claims of the walk of a definition, from its start. -/
def claimsOf (catalog : Catalog) (strict : Bool) (d : Definition) : List (String × Construct) :=
  (catalog.plainObjectIn strict [] d).claims

/-- The object of a definition, asked for first of all, is what the walk without a registry gives,
if no name of that walk is claimed by two constructs. -/
theorem plain_of_synthesize {catalog : Catalog} {strict : Bool} {d : Definition}
    {object : ObjectType} (given : ((new catalog strict).synthesize d).1 = .ok object)
    (clear : Unambiguous (claimsOf catalog strict d)) :
    catalog.plainObjectIn strict [] d = ⟨claimsOf catalog strict d, .ok object.unnumbered⟩ := by
  have waits : Catalog.Waits (claimsOf catalog strict d) [] Registry.empty :=
    ⟨fun _ => (List.not_mem_nil · |>.elim), fun _ => (List.not_mem_nil · |>.elim)⟩
  have outcome := Catalog.objectIn_follows clear d (fun _ => Catalog.typeOf_follows clear _)
    Registry.empty (catalog.faithful_empty strict) waits (List.Subset.refl _)
  have whole : catalog.objectIn strict [] d = catalog.objectOf strict d := rfl
  change ((new catalog strict).run (catalog.objectOf strict d)).1 = .ok object at given
  rcases run : (catalog.objectOf strict d).run Registry.empty with ⟨e | made, r⟩
  · rw [run_error (s := new catalog strict) run] at given
    cases given
  · rw [run_ok (s := new catalog strict) run] at given
    cases given
    rw [whole, run] at outcome
    obtain ⟨-, waits', -, claims, agrees, -⟩ := outcome
    have eq : catalog.plainObjectIn strict [] d = ⟨claims, .ok object.unnumbered⟩ :=
      agrees [] waits'.missing
    rw [claimsOf, eq]

/-- The object of a definition, asked for first of all, mirrors the definition, if no name of its
walk is claimed by two constructs. -/
theorem synthesize_mirrors {catalog : Catalog} {strict : Bool} {d : Definition}
    {object : ObjectType} (given : ((new catalog strict).synthesize d).1 = .ok object)
    (clear : Unambiguous (claimsOf catalog strict d)) : d.Mirrored object :=
  (Catalog.plainObjectIn_mirrors (plain_of_synthesize given clear) clear).numbered

end Synthesizer

end ApiSchema
