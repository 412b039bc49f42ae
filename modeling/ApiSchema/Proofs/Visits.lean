import ApiSchema.Proofs.Agreement

/-!
# Visits of constructs

A visit to an object, a union or an entry record finds its name registered or makes the type and
registers it.  Either way it gives what a visit without the registry gives, if the parts do: a found
type was made by the construct that claims the name, and the name of a made one is still free when
it is registered.
-/

namespace ApiSchema

open Documentation (Entry)

/-! ## Shapes of results -/

namespace Plain

theorem of_bind_object {m : Plain ObjectType} {claims : List (String × Construct)} {type : ApiType}
    (eq : (do return .object (← m)) = (⟨claims, .ok type⟩ : Plain ApiType)) :
    ∃ object, type = .object object ∧ m = ⟨claims, .ok object⟩ := by
  rcases m with ⟨claims', e | object⟩
  · cases congrArg Plain.result eq
  · have claims_eq : claims' ++ [] = claims := congrArg Plain.claims eq
    have result_eq : Except.ok (ApiType.object object) = .ok type := congrArg Plain.result eq
    cases result_eq
    rw [List.append_nil] at claims_eq
    exact ⟨object, rfl, by rw [claims_eq]⟩

theorem claims_unionMembers (path : String) (done : List ObjectType) (types : List ApiType) :
    (unionMembers path done types).claims = [] := by
  induction types generalizing done with
  | nil => rfl
  | cons type rest ih =>
    cases type with
    | object object => exact ih _
    | union union => exact ih _
    | list element => rfl
    | scalar scalar => rfl

theorem unionOf_scalars {strict : Bool} {path : String} {description : Option String}
    {types : List ApiType} {first : ApiScalar} {others : List ApiScalar}
    (scalars : types.filterMap ApiType.scalar? = first :: others) :
    unionOf strict path description types =
      if (first :: others).length = types.length then scalarUnion strict path first others
      else fail path .mixedUnion := by
  rw [unionOf, scalars]

theorem unionOf_members {strict : Bool} {path : String} {description : Option String}
    {types : List ApiType} (scalars : types.filterMap ApiType.scalar? = []) :
    unionOf strict path description types = do
      return .union ⟨path, description, ← unionMembers path [] types⟩ := by
  rw [unionOf, scalars]

theorem claims_unionOf (strict : Bool) (path : String) (description : Option String)
    (types : List ApiType) : (unionOf strict path description types).claims = [] := by
  rcases scalars : types.filterMap ApiType.scalar? with _ | ⟨first, others⟩
  · rw [unionOf_members scalars]
    have nothing := claims_unionMembers path [] types
    generalize unionMembers path [] types = walk at nothing ⊢
    rcases walk with ⟨claims, e | members⟩
    · cases nothing
      rfl
    · cases nothing
      rfl
  · rw [unionOf_scalars scalars, scalarUnion]
    split_ifs <;> rfl

theorem unionOf_result_ne {strict : Bool} {path : String} {description : Option String}
    {types : List ApiType} (object : ObjectType) :
    (unionOf strict path description types).result ≠ .ok (.object object) := by
  rcases scalars : types.filterMap ApiType.scalar? with _ | ⟨first, others⟩
  · rw [unionOf_members scalars]
    rcases unionMembers path [] types with ⟨claims, e | members⟩
    · intro eq
      cases eq
    · intro eq
      cases eq
  · rw [unionOf_scalars scalars, scalarUnion]
    split_ifs <;> (intro eq; cases eq)

theorem unionAt_result_ne {strict : Bool} {path : String} {docs : Option Entry}
    {nodes : List SchemaNode} {alternatives : Plain (List ApiType)} (object : ObjectType) :
    (unionAt strict path docs nodes alternatives).result ≠ .ok (.object object) := by
  rw [unionAt, claim_bind]
  dsimp only
  split_ifs
  · intro eq
    cases eq
  · rcases alternatives with ⟨claims, e | types⟩
    · intro eq
      cases eq
    · exact unionOf_result_ne object

theorem variantsOf_result_ne {kind : DocumentKind} {members : Plain (List ObjectType)}
    (object : ObjectType) : (variantsOf kind members).result ≠ .ok (.object object) := by
  rcases members with ⟨claims, e | members⟩
  · intro eq
    cases eq
  · intro eq
    cases eq

end Plain

/-! ## Found or made -/

namespace Synthesis

/-- The object registered under a name, or else the one that is made. -/
def objectOr (name : String) (make : Synthesis ObjectType) : Synthesis ObjectType := do
  match ← objectNamed? name with
  | some object => return object
  | none => make

/-- The union registered under a name, or else the type that is made. -/
def unionOr (name : String) (make : Synthesis ApiType) : Synthesis ApiType := do
  match ← unionNamed? name with
  | some union => return .union union
  | none => make

end Synthesis

namespace Catalog

variable {catalog : Catalog} {strict : Bool} {scope : List (String × Construct)}
  {busy : List String} {r r' : Registry}

theorem Agrees.object {whole : List String → Plain ObjectType} {name : String}
    {construct : Construct} {object : ObjectType}
    (visit : ∀ busy, catalog.visit strict busy name construct = do return .object (← whole busy))
    (agrees : catalog.Agrees strict scope (fun busy => catalog.visit strict busy name construct)
      (ApiType.object object) r r') : catalog.Agrees strict scope whole object r r' := by
  obtain ⟨claims, agrees, gains⟩ := agrees
  refine ⟨claims, fun busy missing => ?_, gains⟩
  have eq := agrees busy missing
  dsimp only at eq
  rw [visit] at eq
  obtain ⟨object', same, whole_eq⟩ := Plain.of_bind_object eq
  cases same
  exact whole_eq

theorem unnumbered_object (serial : Nat) (name : String) (description : Option String)
    (fields : List Field) (discriminator : Option String) :
    (ApiType.object ⟨serial, name, description, fields, discriminator⟩).unnumbered =
      .object ⟨0, name, description, fields.map Field.unnumbered, discriminator⟩ := by
  rw [ApiType.unnumbered, ObjectType.unnumbered, unnumberedFields_eq_map]

/-- An object of which the fields agree agrees, where its name is free. -/
theorem follows_registerFields (clear : Unambiguous scope) {construct : Construct}
    {name : String} {description discriminator : Option String} {body : Synthesis (List Field)}
    {plain : List String → Plain (List Field)} {whole : List String → Plain ObjectType}
    (visit : ∀ busy, catalog.visit strict busy name construct = do return .object (← whole busy))
    (whole_eq : ∀ busy, Fits construct name busy → whole busy = do
      Plain.claim name construct
      Plain.objectOf name description discriminator (← plain busy))
    (fits : Fits construct name busy) (other : ∀ value, construct ≠ .record value)
    (free : r.get? name = none) (claimed_name : (name, construct) ∈ scope)
    (follows : catalog.Follows strict scope busy r body plain (List.map Field.unnumbered)
      fun fields r => ∀ f ∈ fields, Known f.type r) :
    catalog.Follows strict scope busy r
      (body >>= Conversion.registerFields name description discriminator) whole
      ObjectType.unnumbered fun object r => .object object ∈ r.types := by
  intro faithful waits claimed
  have whole_busy := (whole_eq busy fits).trans (Plain.claim_bind ..)
  have outcome := follows faithful waits fun _ mem => claimed <| by
    rw [whole_busy]
    exact List.mem_cons_of_mem _ (Plain.claims_subset_bind _ _ mem)
  rw [Synthesis.run_bind]
  rcases run : body.run r with ⟨e | fields, r₁⟩
  · rw [run] at outcome
    show (whole busy).result = .error e
    rw [whole_busy]
    exact Plain.result_bind_of_error outcome _
  · rw [run] at outcome
    obtain ⟨faithful₁, waits₁, known, claims, agrees, gains⟩ := outcome
    dsimp only
    rw [Conversion.registerFields]
    split_ifs with empty
    · show (whole busy).result = .error ⟨name, .noFields⟩
      rw [whole_busy, agrees busy waits₁.missing, Plain.ok_bind, Plain.objectOf,
        if_pos (by simpa using empty)]
      rfl
    · have made : Plain.objectOf name description discriminator (fields.map Field.unnumbered) =
          ⟨[], .ok ⟨0, name, description, fields.map Field.unnumbered, discriminator⟩⟩ := by
        rw [Plain.objectOf, if_neg (by simpa using empty), Plain.pure_eq]
      have walked : Walked catalog strict scope construct name busy r r₁ claims
          (.ok (NamedType.object
            ⟨r₁.nextSerial, name, description, fields, discriminator⟩).toType.unnumbered) := by
        refine ⟨faithful₁, waits₁, fits, free, claimed_name, gains, fun busy' missing fits' => ?_⟩
        rw [visit, whole_eq busy' fits', agrees busy' missing, NamedType.toType, unnumbered_object]
        simp only [Plain.claim_bind, Plain.ok_bind, made, Plain.pure_eq, List.append_nil]
      obtain ⟨faithful₂, waits₂, known₂, agrees₂⟩ :=
        walked.registers clear rfl (by simp) (by simpa [NamedType.parts] using known) other
      exact ⟨faithful₂, waits₂, known_object.1 known₂, agrees₂.object visit⟩

/-- An object of which the fields agree agrees, whether it is found or made. -/
theorem follows_objectOr (clear : Unambiguous scope) (construct : Construct) {name : String}
    {description discriminator : Option String} {body : Synthesis (List Field)}
    {plain : List String → Plain (List Field)} {whole : List String → Plain ObjectType}
    (visit : ∀ busy, catalog.visit strict busy name construct = do return .object (← whole busy))
    (whole_eq : ∀ busy, Fits construct name busy → whole busy = do
      Plain.claim name construct
      Plain.objectOf name description discriminator (← plain busy))
    (fits : Fits construct name busy) (other : ∀ value, construct ≠ .record value)
    (follows : r.get? name = none → (name, construct) ∈ scope →
      catalog.Follows strict scope busy r body plain (List.map Field.unnumbered)
        fun fields r => ∀ f ∈ fields, Known f.type r) :
    catalog.Follows strict scope busy r
      (Synthesis.objectOr name
        (body >>= Conversion.registerFields name description discriminator))
      whole ObjectType.unnumbered fun object r => .object object ∈ r.types := by
  intro faithful waits claimed
  have claimed_name : (name, construct) ∈ scope := by
    refine claimed ?_
    rw [whole_eq busy fits, Plain.claim_bind]
    exact List.mem_cons_self ..
  rw [Synthesis.objectOr, Synthesis.run_bind, Synthesis.run_objectNamed?]
  rcases look : r.get? name with _ | object | union
  · exact follows_registerFields clear visit whole_eq fits other look claimed_name
      (follows look claimed_name) faithful waits claimed
  · have agrees := faithful.agrees_found clear claimed_name look
    exact ⟨faithful, waits, Registry.mem_of_get? look, agrees.object visit⟩
  · -- what the construct makes is an object, so the name is not that of a union
    obtain ⟨claims, agrees, _⟩ := faithful.agrees_found clear claimed_name look
    have eq := agrees busy waits.missing
    dsimp only at eq
    rw [visit] at eq
    obtain ⟨object, same, _⟩ := Plain.of_bind_object eq
    cases same

/-! ## Entry records -/

theorem follows_entryRecordFor (clear : Unambiguous scope) {value : ApiType}
    (known : Known value r) :
    catalog.Follows strict scope busy r (Synthesis.entryRecordFor value)
      (fun _ => Plain.entryRecordFor value.unnumbered) ObjectType.unnumbered
      fun object r => .object object ∈ r.types := by
  intro faithful waits claimed
  have claimed_name : (entryName value, .record value.unnumbered) ∈ scope := by
    rw [← entryName_unnumbered]
    exact claimed (List.mem_cons_self ..)
  have visit : ∀ busy, catalog.visit strict busy (entryName value) (.record value.unnumbered) = do
      return .object (← Plain.entryRecordFor value.unnumbered) := fun _ => rfl
  rw [Synthesis.run_entryRecordFor]
  rcases cached : Keyed.get? value.fragment r.entries with _ | record
  · dsimp only
    split_ifs with taken
    · -- what is registered under the record's name is a record, and records are kept
      obtain ⟨type, look⟩ := Option.isSome_iff_exists.1 taken
      refine (faithful.recordKept type (Registry.mem_of_get? look) value.unnumbered ?_ ?_).elim
      · rw [Registry.name_of_get? look]
        exact claimed_name
      · rw [value.fragment_unnumbered]
        exact cached
    · have free : r.get? (entryName value) = none := by
        simpa [Registry.has] using taken
      have walked : Walked catalog strict scope (.record value.unnumbered) (entryName value) busy r
          r [] (.ok (NamedType.object (entryRecord r.nextSerial value)).toType.unnumbered) := by
        refine ⟨faithful, waits, fits_of_ne (by simp), free, claimed_name, gains_refl r,
          fun busy' _ _ => ?_⟩
        rw [visit, NamedType.toType, ApiType.unnumbered, entryRecord_unnumbered,
          ← entryName_unnumbered]
        rfl
      have types : ((r.register (.object (entryRecord r.nextSerial value))).keepRecord
          value.fragment (entryRecord r.nextSerial value)).types =
          r.types ++ [.object (entryRecord r.nextSerial value)] := Registry.types_register free
      refine ⟨walked.faithful_keepRecord clear rfl known,
        walked.waits_registered clear rfl types, ?_, (walked.agrees rfl types).object visit⟩
      exact Registry.mem_of_get? (Registry.get?_register r _)
  · have mem := faithful.tidy.records cached
    have look : r.get? (entryName value) = some (.object record) := by
      rw [← show (NamedType.object record).name = entryName value from faithful.recordName cached]
      exact Registry.get?_of_mem faithful.orderly.distinct mem
    exact ⟨faithful, waits, mem, (faithful.agrees_found clear claimed_name look).object visit⟩

/-! ## Unions -/

/-- Two objects of the table have one serial number exactly if they have one name. -/
theorem FaithfulTo.serial_beq (faithful : catalog.FaithfulTo strict scope r) {a b : ObjectType}
    (mem_a : .object a ∈ r.types) (mem_b : .object b ∈ r.types) :
    (a.serial == b.serial) = (a.name == b.name) := by
  have inPlace := faithful.tidy.inPlace
  have distinct := faithful.orderly.distinct
  rw [Bool.eq_iff_iff, beq_iff_eq, beq_iff_eq]
  constructor
  · intro same
    obtain ⟨i, at_i⟩ := List.mem_iff_getElem?.1 mem_a
    obtain ⟨j, at_j⟩ := List.mem_iff_getElem?.1 mem_b
    rw [inPlace i a at_i, inPlace j b at_j] at same
    rw [same, at_j] at at_i
    cases at_i
    rfl
  · intro same
    have found_a := Registry.get?_of_mem distinct mem_a
    have found_b := Registry.get?_of_mem distinct mem_b
    rw [show (NamedType.object a).name = (NamedType.object b).name from same, found_b] at found_a
    cases found_a
    rfl

theorem FaithfulTo.mem_of_member (faithful : catalog.FaithfulTo strict scope r) {union : UnionType}
    {m : ObjectType} (mem : .union union ∈ r.types) (member : m ∈ union.members) :
    .object m ∈ r.types := by
  refine faithful.tidy.earlier.mem mem (mem_references.2 ⟨.object m, ?_, rfl⟩)
  exact List.mem_map_of_mem member

theorem FaithfulTo.add_unnumbered (faithful : catalog.FaithfulTo strict scope r)
    (candidates done : List ObjectType) (mem : ∀ m ∈ candidates, .object m ∈ r.types)
    (mem_done : ∀ m ∈ done, .object m ∈ r.types) :
    (Conversion.unionMembers.add done candidates).map ObjectType.unnumbered =
      Plain.unionMembers.add (done.map ObjectType.unnumbered)
        (candidates.map ObjectType.unnumbered) := by
  induction candidates generalizing done with
  | nil => rfl
  | cons candidate rest ih =>
    obtain ⟨mem_first, mem_rest⟩ := List.forall_mem_cons.1 mem
    have same : (done.map ObjectType.unnumbered).any (·.name == candidate.unnumbered.name) =
        done.any (·.serial == candidate.serial) := by
      rw [List.any_map, Bool.eq_iff_iff, List.any_eq_true, List.any_eq_true]
      refine exists_congr fun m => and_congr_right fun mem_m => ?_
      rw [Function.comp_apply, ObjectType.name_unnumbered, ObjectType.name_unnumbered,
        faithful.serial_beq (mem_done m mem_m) mem_first]
    rw [Conversion.unionMembers.add, Plain.unionMembers.add, List.map_cons, List.foldl_cons,
      List.foldl_cons, same]
    by_cases known : done.any (·.serial == candidate.serial)
    · rw [if_pos known, if_pos known]
      exact ih done mem_rest mem_done
    · rw [if_neg known, if_neg known, ← List.map_singleton, ← List.map_append]
      refine ih _ mem_rest fun m mem_m => ?_
      rcases List.mem_append.1 mem_m with old | new
      · exact mem_done m old
      · rwa [List.mem_singleton.1 new]

/-- The members that some types give to a union do not depend on how they are told apart. -/
theorem FaithfulTo.run_unionMembers (faithful : catalog.FaithfulTo strict scope r) (path : String)
    (types : List ApiType) (known : ∀ t ∈ types, Known t r) (done : List ObjectType)
    (mem_done : ∀ m ∈ done, .object m ∈ r.types) :
    ((Conversion.unionMembers path done types).run r = (.error ⟨path, .listAlternative⟩, r) ∧
      Plain.unionMembers path (done.map ObjectType.unnumbered) (types.map ApiType.unnumbered) =
        Plain.fail path .listAlternative) ∨
    ∃ members, (Conversion.unionMembers path done types).run r = (.ok members, r) ∧
      (∀ m ∈ members, .object m ∈ r.types) ∧
      Plain.unionMembers path (done.map ObjectType.unnumbered) (types.map ApiType.unnumbered) =
        pure (members.map ObjectType.unnumbered) := by
  induction types generalizing done with
  | nil => exact .inr ⟨done, rfl, mem_done, rfl⟩
  | cons type rest ih =>
    obtain ⟨known_first, known_rest⟩ := List.forall_mem_cons.1 known
    have step : ∀ candidates : List ObjectType, (∀ m ∈ candidates, .object m ∈ r.types) →
        ∀ m ∈ Conversion.unionMembers.add done candidates, .object m ∈ r.types := by
      intro candidates mem m mem_m
      rcases Law.mem_add mem_m with old | new
      · exact mem_done m old
      · exact mem m new
    cases type with
    | object object =>
      have mem : ∀ m ∈ [object], .object m ∈ r.types := by
        rintro m (_ | ⟨_, ⟨⟩⟩)
        exact known_first _ rfl
      rw [Conversion.unionMembers, List.map_cons, ApiType.unnumbered, Plain.unionMembers,
        ← List.map_singleton, ← faithful.add_unnumbered [object] done mem mem_done]
      exact ih known_rest _ (step _ mem)
    | union union =>
      have mem : ∀ m ∈ union.members, .object m ∈ r.types := fun m member =>
        faithful.mem_of_member (known_first _ rfl) member
      have members : union.unnumbered.members = union.members.map ObjectType.unnumbered := by
        rcases union with ⟨name, description, members⟩
        exact unnumberedObjects_eq_map members
      rw [Conversion.unionMembers, List.map_cons, ApiType.unnumbered, Plain.unionMembers, members,
        ← faithful.add_unnumbered union.members done mem mem_done]
      exact ih known_rest _ (step _ mem)
    | list element => exact .inl ⟨rfl, rfl⟩
    | scalar scalar => exact .inl ⟨rfl, rfl⟩

namespace Walked

variable {docs : Option Entry} {nodes : List SchemaNode} {path : String} {before after : Registry}
  {claims : List (String × Construct)}

theorem scalar {scalar : ApiScalar}
    (walked : Walked catalog strict scope (.union docs nodes) path busy before after claims
      (.ok (.scalar scalar))) (advised : Registry)
    (faithful : catalog.FaithfulTo strict scope advised) (types : advised.types = after.types) :
    catalog.Outcome strict scope busy before
      (fun busy => catalog.visit strict busy path (.union docs nodes)) ApiType.unnumbered Known
      (.ok (.scalar scalar), advised) := by
  have same : after.types <+: advised.types := ⟨[], by rw [List.append_nil, types]⟩
  have gains := walked.gains.trans (n := 1) (gains_refl after)
  refine ⟨faithful, ⟨fun name mem => ?_, walked.waits.claimed⟩, known_scalar _ _,
    (path, .union docs nodes) :: claims, fun busy' missing => ?_, gains.types.trans same,
    fun type mem => ?_⟩
  · rw [Registry.get?_eq_none, types, ← Registry.get?_eq_none]
    exact walked.waits.missing name mem
  · exact walked.visit busy' (missing.of_prefix same) (fits_of_ne (by simp))
  · rw [types] at mem
    rcases gains.made type mem with old | made
    · exact .inl old
    · exact .inr (made.mono same (Nat.le_refl _))

theorem unionOf (clear : Unambiguous scope)
    (resolve : String → DocumentKind → Synthesis ApiType) {types : List ApiType}
    (walked : Walked catalog strict scope (.union docs nodes) path busy before after claims
      (Plain.unionOf strict path (docs.bind Entry.description)
        (types.map ApiType.unnumbered)).result)
    (known : ∀ t ∈ types, Known t after) :
    catalog.Outcome strict scope busy before
      (fun busy => catalog.visit strict busy path (.union docs nodes)) ApiType.unnumbered Known
      ((Conversion.unionOf ⟨strict, resolve⟩ path (docs.bind Entry.description) types).run
        after) := by
  have visit := walked.visit busy walked.waits.missing walked.fits
  have scalars : (types.map ApiType.unnumbered).filterMap ApiType.scalar? =
      types.filterMap ApiType.scalar? := by
    have same : ApiType.scalar? ∘ ApiType.unnumbered = ApiType.scalar? := by
      funext type
      exact type.scalar?_unnumbered
    rw [List.filterMap_map, same]
  unfold Conversion.unionOf
  dsimp only
  rcases simple : types.filterMap ApiType.scalar? with _ | ⟨first, others⟩
  · rw [Plain.unionOf_members (scalars.trans simple)] at walked visit
    dsimp only
    rw [Synthesis.run_bind]
    rcases walked.faithful.run_unionMembers path types known [] (by simp) with
      ⟨run, plain⟩ | ⟨members, run, mem, plain⟩
    · rw [run]
      rw [show [] = List.map ObjectType.unnumbered [] from rfl, plain] at visit
      show (catalog.visit strict busy path (.union docs nodes)).result = _
      rw [visit]
      rfl
    · rw [run]
      have result : (do
          return .union ⟨path, docs.bind Entry.description,
            ← Plain.unionMembers path [] (types.map ApiType.unnumbered)⟩ : Plain ApiType).result =
          .ok (NamedType.union ⟨path, docs.bind Entry.description, members⟩).toType.unnumbered := by
        rw [show [] = List.map ObjectType.unnumbered [] from rfl, plain, NamedType.toType,
          ApiType.unnumbered, UnionType.unnumbered, unnumberedObjects_eq_map]
        rfl
      rw [result] at walked
      exact walked.registers clear rfl (by simp)
        (by simpa [NamedType.parts, known_object] using mem) (by simp)
  · rw [Plain.unionOf_scalars (scalars.trans simple), List.length_map] at walked visit
    dsimp only
    split_ifs at walked visit ⊢ with all
    · rw [Conversion.scalarUnion]
      rw [Plain.scalarUnion] at walked visit
      dsimp only
      split_ifs at walked visit ⊢ with same refused
      · exact walked.scalar after walked.faithful rfl
      · show (catalog.visit strict busy path (.union docs nodes)).result = _
        rw [visit]
        rfl
      · exact walked.scalar _ (walked.faithful.advise _) rfl
    · show (catalog.visit strict busy path (.union docs nodes)).result = _
      rw [visit]
      rfl

end Walked

theorem follows_unionOr (clear : Unambiguous scope) {construct : Construct} {name : String}
    {make : Synthesis ApiType}
    (claims : (name, construct) ∈ (catalog.visit strict busy name construct).claims)
    (no_object : ∀ object, (catalog.visit strict busy name construct).result ≠ .ok (.object object))
    (follows : r.get? name = none → (name, construct) ∈ scope →
      catalog.Follows strict scope busy r make
        (fun busy => catalog.visit strict busy name construct) ApiType.unnumbered Known) :
    catalog.Follows strict scope busy r (Synthesis.unionOr name make)
      (fun busy => catalog.visit strict busy name construct) ApiType.unnumbered Known := by
  intro faithful waits claimed
  have claimed_name := claimed claims
  rw [Synthesis.unionOr, Synthesis.run_bind, Synthesis.run_unionNamed?]
  rcases look : r.get? name with _ | object | union
  · exact follows look claimed_name faithful waits claimed
  · obtain ⟨claims, agrees, _⟩ := faithful.agrees_found clear claimed_name look
    exact (no_object _ (congrArg Plain.result (agrees busy waits.missing))).elim
  · have agrees := faithful.agrees_found clear claimed_name look
    exact ⟨faithful, waits, known_toType (Registry.mem_of_get? look), agrees⟩

/-- A union of which the alternatives agree agrees, whether it is found or made. -/
theorem follows_unionAt (clear : Unambiguous scope)
    (resolve : String → DocumentKind → Synthesis ApiType) {path : String} {docs : Option Entry}
    {nodes : List SchemaNode} {alternatives : Synthesis (List ApiType)}
    {plain : List String → Plain (List ApiType)}
    (visit : ∀ busy, catalog.visit strict busy path (.union docs nodes) =
      Plain.unionAt strict path docs nodes (plain busy))
    (follows : catalog.Follows strict scope busy r alternatives plain (List.map ApiType.unnumbered)
      fun types r => ∀ t ∈ types, Known t r) :
    catalog.Follows strict scope busy r
      (Conversion.unionAt ⟨strict, resolve⟩ path docs nodes alternatives)
      (fun busy => Plain.unionAt strict path docs nodes (plain busy)) ApiType.unnumbered Known := by
  simp only [← visit]
  refine follows_unionOr clear ?_ (fun object => ?_)
    fun free claimed_name faithful waits claimed => ?_
  · rw [visit]
    exact List.mem_cons_self ..
  · rw [visit]
    exact Plain.unionAt_result_ne object
  · by_cases empty : nodes.isEmpty
    · rw [if_pos empty]
      show (catalog.visit strict busy path (.union docs nodes)).result = _
      rw [visit, Plain.unionAt, if_pos empty]
      rfl
    · have whole : ∀ busy, catalog.visit strict busy path (.union docs nodes) =
          Plain.claim path (.union docs nodes) >>= fun _ => plain busy >>= fun types =>
            Plain.unionOf strict path (docs.bind Entry.description) types := by
        intro busy
        rw [visit, Plain.unionAt, if_neg empty]
      have outcome := follows faithful waits fun _ mem => claimed <| by
        dsimp only
        rw [whole]
        exact List.mem_cons_of_mem _ (Plain.claims_subset_bind _ _ mem)
      rw [if_neg empty, Synthesis.run_bind]
      rcases run : alternatives.run r with ⟨e | types, r₁⟩
      · rw [run] at outcome
        show (catalog.visit strict busy path (.union docs nodes)).result = _
        rw [whole]
        exact Plain.result_bind_of_error outcome _
      · rw [run] at outcome
        obtain ⟨faithful₁, waits₁, known, claims, agrees, gains⟩ := outcome
        have walked : Walked catalog strict scope (.union docs nodes) path busy r r₁ claims
            (Plain.unionOf strict path (docs.bind Entry.description)
              (types.map ApiType.unnumbered)).result := by
          refine ⟨faithful₁, waits₁, fits_of_ne (by simp), free, claimed_name, gains,
            fun busy' missing _ => ?_⟩
          rw [whole, agrees busy' missing, Plain.claim_bind, Plain.ok_bind, Plain.claims_unionOf,
            List.append_nil]
        exact walked.unionOf clear resolve known

/-- The union of a kind of which the documents agree agrees, whether it is found or made. -/
theorem follows_variants (clear : Unambiguous scope) {kind : DocumentKind}
    {members : Synthesis (List ObjectType)} {plain : List String → Plain (List ObjectType)}
    (visit : ∀ busy, catalog.visit strict busy kind.typeName (.variants kind) =
      Plain.variantsOf kind (plain busy))
    (follows : catalog.Follows strict scope busy r members plain (List.map ObjectType.unnumbered)
      fun objects r => ∀ o ∈ objects, .object o ∈ r.types) :
    catalog.Follows strict scope busy r
      (Synthesis.unionOr kind.typeName do
        return .union (← Synthesis.registerUnion ⟨kind.typeName, none, ← members⟩))
      (fun busy => Plain.variantsOf kind (plain busy)) ApiType.unnumbered Known := by
  simp only [← visit]
  refine follows_unionOr clear ?_ (fun object => ?_)
    fun free claimed_name faithful waits claimed => ?_
  · rw [visit]
    exact List.mem_cons_self ..
  · rw [visit]
    exact Plain.variantsOf_result_ne object
  · have outcome := follows faithful waits fun _ mem => claimed <| by
      dsimp only
      rw [visit]
      exact List.mem_cons_of_mem _ (Plain.claims_subset_bind _ _ mem)
    rw [Synthesis.run_bind]
    rcases run : members.run r with ⟨e | objects, r₁⟩
    · rw [run] at outcome
      show (catalog.visit strict busy kind.typeName (.variants kind)).result = _
      rw [visit]
      exact Plain.result_bind_of_error outcome _
    · rw [run] at outcome
      obtain ⟨faithful₁, waits₁, mem, claims, agrees, gains⟩ := outcome
      have walked : Walked catalog strict scope (.variants kind) kind.typeName busy r r₁ claims
          (.ok (NamedType.union ⟨kind.typeName, none, objects⟩).toType.unnumbered) := by
        refine ⟨faithful₁, waits₁, fits_of_ne (by simp), free, claimed_name, gains,
          fun busy' missing _ => ?_⟩
        rw [visit, Plain.variantsOf, agrees busy' missing, Plain.claim_bind, Plain.ok_bind,
          NamedType.toType, ApiType.unnumbered, UnionType.unnumbered, unnumberedObjects_eq_map]
        simp only [Plain.pure_eq, List.append_nil]
      exact walked.registers clear rfl (by simp)
        (by simpa [NamedType.parts, known_object] using mem) (by simp)

end Catalog

end ApiSchema
