import ApiSchema.Proofs.Closure
import ApiSchema.Proofs.PlainWalk

/-!
# Agreement with the walk without a registry

What it means that a walk with the registry gives what the walk without it gives, and the rules by
which this goes from the parts of a walk to the whole.  A type that is found under a name was made
by the one construct that claims the name (`FaithfulTo`), and making it anew gives the same,
whichever documents are being walked, as long as none of them is registered (`Makes`).  A construct
cannot be registered in its own walk: the walks of the types registered on the way claim fewer names
than the walk of the construct does (`Walked.still_free`).
-/

namespace ApiSchema

/-- What a type names is in the table. -/
def Known (type : ApiType) (r : Registry) : Prop :=
  ∀ named, type.named? = some named → named ∈ r.types

theorem Known.mono {type : ApiType} {r r' : Registry} (grown : r.types <+: r'.types)
    (known : Known type r) : Known type r' := fun named eq => grown.subset (known named eq)

theorem known_scalar (scalar : ApiScalar) (r : Registry) : Known (.scalar scalar) r := by
  intro named eq
  cases eq

theorem known_object {object : ObjectType} {r : Registry} :
    Known (.object object) r ↔ .object object ∈ r.types := by
  constructor
  · intro known
    exact known _ rfl
  · rintro mem named ⟨⟩
    exact mem

theorem known_toType {type : NamedType} {r : Registry} (mem : type ∈ r.types) :
    Known type.toType r := by
  intro named eq
  rw [named?_toType, Option.some.injEq] at eq
  rwa [← eq]

/-- None of the names is registered. -/
def Registry.Misses (r : Registry) (names : List String) : Prop :=
  ∀ name ∈ names, r.get? name = none

theorem Registry.Misses.of_prefix {r r' : Registry} {names : List String}
    (missing : r'.Misses names) (grown : r.types <+: r'.types) : r.Misses names :=
  fun name mem => get?_eq_none_of_prefix grown (missing name mem)

/-- No name is claimed by two constructs. -/
def Unambiguous (claims : List (String × Construct)) : Prop :=
  ∀ name a b, (name, a) ∈ claims → (name, b) ∈ claims → a = b

namespace Catalog

/-! ## What is kept

The walk stays inside a `scope`: the claims that some whole walk makes, of which it is a part. -/

section Kept

variable (catalog : Catalog) (strict : Bool) (scope : List (String × Construct))

/-- A construct that claims the type's name makes the type, and claims no more than `size` names on
the way, whichever documents are being walked that the registry does not have. -/
def Makes (r : Registry) (size : Nat) (type : NamedType) : Prop :=
  ∃ construct claims, (type.name, construct) ∈ scope ∧ claims.length ≤ size ∧
    ∀ busy, r.Misses busy →
      catalog.visit strict busy type.name construct = ⟨claims, .ok type.toType.unnumbered⟩

/-- Every type of the registry was made by a construct, and nothing was replaced. -/
structure FaithfulTo (r : Registry) : Prop where
  orderly : r.Orderly
  unreplaced : r.Unreplaced
  made : ∀ type ∈ r.types, ∃ size, catalog.Makes strict scope r size type
  recordName : ∀ {fragment record}, Keyed.get? fragment r.entries = some record →
    record.name = "Entry" ++ fragment
  recordKept : ∀ type ∈ r.types, ∀ value, (type.name, .record value) ∈ scope →
    Keyed.get? value.fragment r.entries ≠ none

/-- The documents that are being walked are definitions, and not registered yet. -/
structure Waits (busy : List String) (r : Registry) : Prop where
  missing : r.Misses busy
  claimed : ∀ name ∈ busy, ∃ d, (name, .definition d) ∈ scope

/-- The types that the later registry has more are made with few claims. -/
structure Gains (size : Nat) (before after : Registry) : Prop where
  types : before.types <+: after.types
  made : ∀ type ∈ after.types, type ∈ before.types ∨ catalog.Makes strict scope after size type

/-- Whichever documents are being walked that the registry does not have, the plain walk gives the
same with the same claims; they bound those of what was registered. -/
def Agrees {β : Type} (plain : List String → Plain β) (value : β) (before after : Registry) :
    Prop :=
  ∃ claims, (∀ busy, after.Misses busy → plain busy = ⟨claims, .ok value⟩) ∧
    catalog.Gains strict scope claims.length before after

/-- A run gives what the plain walk gives, in the form that `shape` says. -/
def Outcome {α β : Type} (busy : List String) (before : Registry) (plain : List String → Plain β)
    (shape : α → β) (Good : α → Registry → Prop) : Except SynthesisError α × Registry → Prop
  | (.ok a, after) => catalog.FaithfulTo strict scope after ∧ Waits scope busy after ∧
      Good a after ∧ catalog.Agrees strict scope plain (shape a) before after
  | (.error e, _) => (plain busy).result = .error e

/-- From a faithful registry on, the computation gives what the plain walk gives. -/
def Follows {α β : Type} (busy : List String) (r : Registry) (m : Synthesis α)
    (plain : List String → Plain β) (shape : α → β) (Good : α → Registry → Prop) : Prop :=
  catalog.FaithfulTo strict scope r → Waits scope busy r →
    (plain busy).claims ⊆ scope →
    catalog.Outcome strict scope busy r plain shape Good (m.run r)

end Kept

variable {catalog : Catalog} {strict : Bool} {scope : List (String × Construct)}
  {busy : List String} {r r' r'' : Registry}
  {m n : Nat} {α β γ δ : Type}

theorem FaithfulTo.tidy (faithful : catalog.FaithfulTo strict scope r) : r.Tidy :=
  faithful.orderly.tidy faithful.unreplaced

theorem Makes.mono {type : NamedType} (made : catalog.Makes strict scope r m type)
    (grown : r.types <+: r'.types) (le : m ≤ n) : catalog.Makes strict scope r' n type := by
  obtain ⟨construct, claims, claimed, length, visit⟩ := made
  exact ⟨construct, claims, claimed, Nat.le_trans length le, fun busy missing =>
    visit busy (missing.of_prefix grown)⟩

theorem gains_refl (r : Registry) : catalog.Gains strict scope n r r :=
  ⟨List.prefix_refl _, fun _ mem => .inl mem⟩

theorem Gains.trans (first : catalog.Gains strict scope m r r')
    (second : catalog.Gains strict scope n r' r'') :
    catalog.Gains strict scope (m + n) r r'' := by
  refine ⟨first.types.trans second.types, fun type mem => ?_⟩
  rcases second.made type mem with old | made
  · rcases first.made type old with older | made
    · exact .inl older
    · exact .inr (made.mono second.types (Nat.le_add_right m n))
  · exact .inr (made.mono (List.prefix_refl _) (Nat.le_add_left n m))

/-! ## Rules -/

theorem follows_pure {a : α} {b : β} {shape : α → β} {Good : α → Registry → Prop} (good : Good a r)
    (same : b = shape a) :
    catalog.Follows strict scope busy r (pure a) (fun _ => pure b) shape Good := by
  intro faithful waits _
  refine ⟨faithful, waits, good, [], fun _ _ => ?_, gains_refl r⟩
  rw [same]
  rfl

theorem follows_fail {shape : α → β} {Good : α → Registry → Prop} (path : String)
    (fault : SynthesisFault) :
    catalog.Follows strict scope busy r (Synthesis.fail path fault) (fun _ => Plain.fail path fault)
      shape Good :=
  fun _ _ _ => rfl

theorem Follows.bind {first : Synthesis α} {next : α → Synthesis γ}
    {plain : List String → Plain β} {plainNext : List String → β → Plain δ} {shape : α → β}
    {shape' : γ → δ} {Good : α → Registry → Prop} {Good' : γ → Registry → Prop}
    (follows : catalog.Follows strict scope busy r first plain shape Good)
    (followsNext : ∀ a r', catalog.FaithfulTo strict scope r' → r.types <+: r'.types → Good a r' →
      catalog.Follows strict scope busy r' (next a) (fun busy => plainNext busy (shape a)) shape'
        Good') :
    catalog.Follows strict scope busy r (first >>= next)
      (fun busy => plain busy >>= plainNext busy) shape' Good' := by
  intro faithful waits claimed
  have outcome := follows faithful waits fun _ mem =>
    claimed (Plain.claims_subset_bind (plain busy) (plainNext busy) mem)
  rw [Synthesis.run_bind]
  rcases run : first.run r with ⟨e | a, r₁⟩
  · rw [run] at outcome
    exact Plain.result_bind_of_error outcome (plainNext busy)
  · rw [run] at outcome
    obtain ⟨faithful₁, waits₁, good, claims, agrees, gains⟩ := outcome
    have whole : ∀ busy, r₁.Misses busy → plain busy >>= plainNext busy =
        ⟨claims ++ (plainNext busy (shape a)).claims, (plainNext busy (shape a)).result⟩ := by
      intro busy missing
      rw [agrees busy missing, Plain.ok_bind]
    have more : (plainNext busy (shape a)).claims ⊆ scope := by
      intro claim mem
      refine claimed ?_
      show claim ∈ (plain busy >>= plainNext busy).claims
      rw [whole busy waits₁.missing]
      exact List.mem_append_right _ mem
    have later := followsNext a r₁ faithful₁ gains.types good faithful₁ waits₁ more
    dsimp only
    rcases runNext : (next a).run r₁ with ⟨e | c, r₂⟩
    · rw [runNext] at later
      show (plain busy >>= plainNext busy).result = .error e
      rw [whole busy waits₁.missing]
      exact later
    · rw [runNext] at later
      obtain ⟨faithful₂, waits₂, good', claims', agrees', gains'⟩ := later
      refine ⟨faithful₂, waits₂, good', claims ++ claims', fun busy missing => ?_, ?_⟩
      · have rest : plainNext busy (shape a) = ⟨claims', .ok (shape' c)⟩ := agrees' busy missing
        dsimp only
        rw [whole busy (missing.of_prefix gains'.types), rest]
      · rw [List.length_append]
        exact gains.trans gains'

theorem FaithfulTo.advise (faithful : catalog.FaithfulTo strict scope r) (advisory : Advisory) :
    catalog.FaithfulTo strict scope (r.advise advisory) :=
  ⟨faithful.orderly.advise advisory, faithful.unreplaced, faithful.made, faithful.recordName,
    faithful.recordKept⟩

/-- An advisory makes no difference to the walk without a registry. -/
theorem follows_advise {next : Unit → Synthesis α} {plain : List String → Plain β} {shape : α → β}
    {Good : α → Registry → Prop} (path : String) (kind : AdvisoryKind) (message : String)
    (follows : catalog.Follows strict scope busy (r.advise ⟨path, kind, message⟩) (next ()) plain
      shape Good) :
    catalog.Follows strict scope busy r (Synthesis.advise path kind message >>= next) plain shape
      Good := by
  intro faithful waits claimed
  have outcome := follows (faithful.advise _) ⟨waits.missing, waits.claimed⟩ claimed
  rw [Synthesis.run_bind]
  show catalog.Outcome strict scope busy r plain shape Good
    ((next ()).run (r.advise ⟨path, kind, message⟩))
  rcases run : (next ()).run (r.advise ⟨path, kind, message⟩) with ⟨e | a, r'⟩
  · rw [run] at outcome
    exact outcome
  · rw [run] at outcome
    obtain ⟨faithful', waits', good, claims, agrees, gains⟩ := outcome
    exact ⟨faithful', waits', good, claims, agrees, gains.types, gains.made⟩

/-! ## A name that is found -/

section Clear

variable (clear : Unambiguous scope)

include clear

/-- What is found under a name is what the construct that claims the name gives. -/
theorem FaithfulTo.agrees_found (faithful : catalog.FaithfulTo strict scope r) {name : String}
    {construct : Construct} {type : NamedType}
    (claimed : (name, construct) ∈ scope) (look : r.get? name = some type) :
    catalog.Agrees strict scope (fun busy => catalog.visit strict busy name construct)
      type.toType.unnumbered r r := by
  have name_eq := Registry.name_of_get? look
  obtain ⟨size, other, claims, claimed', length, visit⟩ :=
    faithful.made type (Registry.mem_of_get? look)
  rw [name_eq] at claimed' visit
  rw [clear name other construct claimed' claimed] at visit
  exact ⟨claims, visit, gains_refl r⟩

end Clear

/-! ## A name that is free -/

/-- Only a definition may not be walked again while it is being walked. -/
def Fits (construct : Construct) (name : String) (busy : List String) : Prop :=
  (∃ d, construct = .definition d) → name ∉ busy

theorem fits_of_ne {construct : Construct} {name : String}
    (other : ∀ d, construct ≠ .definition d) : Fits construct name busy := by
  rintro ⟨d, eq⟩
  exact (other d eq).elim

/-- A construct whose name was free has been walked, and the type that it makes is to be registered
next: its visit claims its own name first, then `claims`, and ends with `last`. -/
structure Walked (catalog : Catalog) (strict : Bool) (scope : List (String × Construct))
    (construct : Construct) (name : String) (busy : List String) (before after : Registry)
    (claims : List (String × Construct)) (last : Except SynthesisError ApiType) : Prop where
  faithful : catalog.FaithfulTo strict scope after
  waits : Waits scope busy after
  fits : Fits construct name busy
  free : before.get? name = none
  claimed : (name, construct) ∈ scope
  gains : catalog.Gains strict scope claims.length before after
  visit : ∀ busy, after.Misses busy → Fits construct name busy →
    catalog.visit strict busy name construct = ⟨(name, construct) :: claims, last⟩

namespace Walked

variable {construct : Construct} {name : String} {before after : Registry}
  {claims : List (String × Construct)} {last : Except SynthesisError ApiType}

/-- The name is still free, for the walk of whatever was registered under it would have claimed as
many names as the walk in which it was registered. -/
theorem still_free (clear : Unambiguous scope)
    (walked : Walked catalog strict scope construct name busy before after claims last) :
    after.get? name = none := by
  rcases look : after.get? name with _ | type
  · rfl
  have name_eq := Registry.name_of_get? look
  rcases walked.gains.made type (Registry.mem_of_get? look) with old | made
  · refine (Registry.get?_eq_none.1 walked.free ?_).elim
    rw [← name_eq]
    exact List.mem_map_of_mem old
  · obtain ⟨other, claims', claimed, length, visit⟩ := made
    rw [name_eq] at claimed visit
    have same := clear name other construct claimed walked.claimed
    have first := visit busy walked.waits.missing
    rw [same, walked.visit busy walked.waits.missing walked.fits] at first
    have claims_eq := congrArg Plain.claims first
    dsimp only at claims_eq
    rw [← claims_eq, List.length_cons] at length
    omega

/-- The name is none of those of the documents that are being walked. -/
theorem new (clear : Unambiguous scope)
    (walked : Walked catalog strict scope construct name busy before after claims last) :
    name ∉ busy := by
  intro mem
  obtain ⟨d, claimed⟩ := walked.waits.claimed name mem
  exact walked.fits ⟨d, clear name _ _ walked.claimed claimed⟩ mem

section Registered

variable {type : NamedType} {registered : Registry}

/-- With the type in the table, a visit of the construct gives the type, for a definition that is
registered is not being walked. -/
theorem visit_registered
    (walked : Walked catalog strict scope construct name busy before after claims
      (.ok type.toType.unnumbered)) (named : type.name = name)
    (types : registered.types = after.types ++ [type]) {busy' : List String}
    (missing : registered.Misses busy') :
    catalog.visit strict busy' name construct =
      ⟨(name, construct) :: claims, .ok type.toType.unnumbered⟩ := by
  have grown : after.types <+: registered.types := ⟨[type], types.symm⟩
  refine walked.visit busy' (missing.of_prefix grown) fun _ mem => ?_
  refine Registry.get?_eq_none.1 (missing name mem) ?_
  rw [types, ← named]
  exact List.mem_map_of_mem (List.mem_append_right _ (List.mem_singleton_self type))

theorem makes (walked : Walked catalog strict scope construct name busy before after claims
      (.ok type.toType.unnumbered)) (named : type.name = name)
    (types : registered.types = after.types ++ [type]) :
    catalog.Makes strict scope registered (claims.length + 1) type := by
  refine ⟨construct, (name, construct) :: claims, ?_, Nat.le_refl _, fun busy' missing => ?_⟩
  · rw [named]
    exact walked.claimed
  · rw [named]
    exact walked.visit_registered named types missing

theorem made (walked : Walked catalog strict scope construct name busy before after claims
      (.ok type.toType.unnumbered)) (named : type.name = name)
    (types : registered.types = after.types ++ [type]) :
    ∀ t ∈ registered.types, ∃ size, catalog.Makes strict scope registered size t := by
  intro t mem
  rw [types] at mem
  rcases List.mem_append.1 mem with old | new
  · obtain ⟨size, made⟩ := walked.faithful.made t old
    exact ⟨size, made.mono ⟨[type], types.symm⟩ (Nat.le_refl _)⟩
  · rw [List.mem_singleton.1 new]
    exact ⟨_, walked.makes named types⟩

theorem agrees (walked : Walked catalog strict scope construct name busy before after claims
      (.ok type.toType.unnumbered)) (named : type.name = name)
    (types : registered.types = after.types ++ [type]) :
    catalog.Agrees strict scope (fun busy => catalog.visit strict busy name construct)
      type.toType.unnumbered before registered := by
  have grown : after.types <+: registered.types := ⟨[type], types.symm⟩
  refine ⟨(name, construct) :: claims,
    fun busy' missing => walked.visit_registered named types missing,
    walked.gains.types.trans grown, fun t mem => ?_⟩
  rw [types] at mem
  rcases List.mem_append.1 mem with old | new
  · rcases walked.gains.made t old with older | made
    · exact .inl older
    · exact .inr (made.mono grown (Nat.le_succ _))
  · rw [List.mem_singleton.1 new]
    exact .inr (walked.makes named types)

theorem waits_registered (clear : Unambiguous scope)
    (walked : Walked catalog strict scope construct name busy before after claims
      (.ok type.toType.unnumbered)) (named : type.name = name)
    (types : registered.types = after.types ++ [type]) : Waits scope busy registered := by
  refine ⟨fun other mem => ?_, walked.waits.claimed⟩
  rw [Registry.get?_eq_none, types, typeNames, List.map_append, List.mem_append, not_or]
  refine ⟨Registry.get?_eq_none.1 (walked.waits.missing other mem), fun same => ?_⟩
  rw [List.map_singleton, List.mem_singleton] at same
  rw [same, named] at mem
  exact walked.new clear mem

theorem faithful_register (clear : Unambiguous scope)
    (walked : Walked catalog strict scope construct name busy before after claims
      (.ok type.toType.unnumbered)) (named : type.name = name)
    (serial : ∀ object, type = .object object → object.serial = after.nextSerial)
    (known : ∀ part ∈ type.parts, Known part after) (other : ∀ value, construct ≠ .record value) :
    catalog.FaithfulTo strict scope (after.register type) := by
  have free : after.get? type.name = none := by
    rw [named]
    exact walked.still_free clear
  have types := Registry.types_register free
  refine ⟨walked.faithful.orderly.register serial fun _ ref refers => ?_, ?_,
    walked.made named types, walked.faithful.recordName, fun t mem value claimed => ?_⟩
  · obtain ⟨part, mem, eq⟩ := mem_references.1 refers
    exact known part mem ref eq
  · exact (Registry.unreplaced_register_iff walked.faithful.orderly.length_le).2
      ⟨walked.faithful.unreplaced, free⟩
  · rw [types] at mem
    rcases List.mem_append.1 mem with old | new
    · exact walked.faithful.recordKept t old value claimed
    · rw [List.mem_singleton.1 new, named] at claimed
      exact (other value (clear name _ _ walked.claimed claimed)).elim

theorem faithful_keepRecord (clear : Unambiguous scope) {value : ApiType}
    {record : ObjectType} (made : record = entryRecord after.nextSerial value)
    (walked : Walked catalog strict scope (.record value.unnumbered) (entryName value) busy before
      after claims (.ok (ApiType.object record).unnumbered)) (known : Known value after) :
    catalog.FaithfulTo strict scope
      ((after.register (.object record)).keepRecord value.fragment record) := by
  have named : (NamedType.object record).name = entryName value := by rw [made]; rfl
  have free : after.get? (NamedType.object record).name = none := by
    rw [named]
    exact walked.still_free clear
  have types := Registry.types_register free
  have mem_record : .object record ∈ (after.register (.object record)).types :=
    Registry.mem_of_get? (Registry.get?_register after (.object record))
  refine ⟨Registry.Orderly.keepRecord (walked.faithful.orderly.register (fun object eq => ?_)
    fun _ ref refers => ?_) _ mem_record, ?_, walked.made named types,
    fun {fragment other} found => ?_, fun t mem other claimed => ?_⟩
  · cases eq
    rw [made]
    rfl
  · rw [made] at refers
    exact known ref (named?_of_mem_references_entryRecord refers)
  · exact (Registry.unreplaced_register_iff walked.faithful.orderly.length_le).2
      ⟨walked.faithful.unreplaced, free⟩
  · rw [Registry.keepRecord, Keyed.get?_insert] at found
    split_ifs at found with same
    · cases found
      rw [← same]
      exact named
    · exact walked.faithful.recordName found
  · rw [Registry.keepRecord, Keyed.get?_insert]
    split_ifs with same
    · simp
    · change t ∈ (after.register (.object record)).types at mem
      rw [types] at mem
      rcases List.mem_append.1 mem with old | new
      · exact walked.faithful.recordKept t old other claimed
      · rw [List.mem_singleton.1 new, named] at claimed
        cases clear _ _ _ claimed walked.claimed
        exact (same value.fragment_unnumbered.symm).elim

/-- The outcome of a walk that ends with the registration of its type. -/
theorem registers (clear : Unambiguous scope)
    (walked : Walked catalog strict scope construct name busy before after claims
      (.ok type.toType.unnumbered)) (named : type.name = name)
    (serial : ∀ object, type = .object object → object.serial = after.nextSerial)
    (known : ∀ part ∈ type.parts, Known part after) (other : ∀ value, construct ≠ .record value) :
    catalog.Outcome strict scope busy before (fun busy => catalog.visit strict busy name construct)
      ApiType.unnumbered Known (.ok type.toType, after.register type) := by
  have free : after.get? type.name = none := by
    rw [named]
    exact walked.still_free clear
  have types := Registry.types_register free
  refine ⟨walked.faithful_register clear named serial known other,
    walked.waits_registered clear named types, ?_, walked.agrees named types⟩
  exact known_toType (Registry.mem_of_get? (Registry.get?_register after type))

end Registered

end Walked

end Catalog

end ApiSchema
