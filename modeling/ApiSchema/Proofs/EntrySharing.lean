import ApiSchema.Proofs.EntryCaching

/-!
# Sharing of entry records

Two mappings that were converted share their record exactly if their value types have one fragment.
The fragment of a list is that of its elements with `List` after it, so a list of objects has the
fragment of an object whose name ends so, and the second of these value types gets the record of the
first (`portLists_share_record`).  Where no registered name is a simple type's, or another
registered one, with such endings, types with one fragment are equal, so that records are shared
exactly by value type (`entry_records_shared`).
-/

namespace ApiSchema

open Synthesis

/-! ## Fragments -/

/-- The text with `List` after it some times. -/
def listed (base : String) : Nat → String
  | 0 => base
  | depth + 1 => listed base depth ++ "List"

/-- The type of lists of a type, through some lists. -/
def ApiType.lists (type : ApiType) : Nat → ApiType
  | 0 => type
  | depth + 1 => .list (type.lists depth)

/-- No registered name is a simple type's with `List` after it any number of times, or another
registered one with `List` after it at least once. -/
structure Registry.ClearNames (r : Registry) : Prop where
  scalars : ∀ type ∈ r.types, ∀ (scalar : ApiScalar) depth, type.name ≠ listed scalar.name depth
  lists : ∀ type ∈ r.types, ∀ other ∈ r.types, ∀ depth, type.name ≠ listed other.name (depth + 1)

theorem suffix_listed (base : String) (depth : Nat) :
    "List".toList <:+ (listed base (depth + 1)).toList :=
  ⟨(listed base depth).toList, String.toList_append.symm⟩

theorem ApiScalar.name_ne_listed (scalar : ApiScalar) (base : String) (depth : Nat) :
    scalar.name ≠ listed base (depth + 1) := by
  intro same
  have ends := suffix_listed base depth
  rw [← same] at ends
  revert ends
  cases scalar <;> decide

theorem ApiScalar.name_inj {a b : ApiScalar} (same : a.name = b.name) : a = b := by
  revert same
  cases a <;> cases b <;> decide

theorem listed_add (base : String) (depth : Nat) : ∀ more : Nat,
    listed base (depth + more) = listed (listed base depth) more
  | 0 => rfl
  | more + 1 => congrArg (· ++ "List") (listed_add base depth more)

theorem listed_inj {a b : String} {depth : Nat} (same : listed a depth = listed b depth) :
    a = b := by
  induction depth with
  | zero => exact same
  | succ depth ih =>
    refine ih (String.toList_inj.1 ?_)
    have texts := congrArg String.toList same
    simp only [listed, String.toList_append] at texts
    exact List.append_cancel_right texts

namespace ApiType

theorem fragment_lists (type : ApiType) : ∀ depth : Nat,
    (type.lists depth).fragment = listed type.fragment depth
  | 0 => rfl
  | depth + 1 => congrArg (· ++ "List") (type.fragment_lists depth)

theorem named?_lists (type : ApiType) : ∀ depth : Nat, (type.lists depth).named? = type.named?
  | 0 => rfl
  | depth + 1 => type.named?_lists depth

theorem exists_lists : ∀ type : ApiType, ∃ (base : ApiType) (depth : Nat), type = base.lists depth ∧
    ((∃ scalar, base = .scalar scalar) ∨ ∃ named : NamedType, base = named.toType)
  | .scalar s => ⟨.scalar s, 0, rfl, .inl ⟨s, rfl⟩⟩
  | .object o => ⟨.object o, 0, rfl, .inr ⟨.object o, rfl⟩⟩
  | .union u => ⟨.union u, 0, rfl, .inr ⟨.union u, rfl⟩⟩
  | .list element => by
    obtain ⟨base, depth, same, sort⟩ := exists_lists element
    exact ⟨base, depth + 1, by rw [lists, same], sort⟩

end ApiType

theorem NamedType.fragment_toType (type : NamedType) : type.toType.fragment = type.name := by
  cases type <;> rfl

namespace Registry

variable {r : Registry}

/-- What a type names is in the table. -/
def Has (r : Registry) (type : ApiType) : Prop :=
  ∀ named, type.named? = some named → named ∈ r.types

/-- A simple or named type whose fragment is that of another one with some endings is that one. -/
theorem ClearNames.base_eq (clear : r.ClearNames) (distinct : (typeNames r.types).Nodup)
    {a b : ApiType} (has : r.Has a) (has' : r.Has b)
    (sort : (∃ scalar, a = .scalar scalar) ∨ ∃ named : NamedType, a = named.toType)
    (sort' : (∃ scalar, b = .scalar scalar) ∨ ∃ named : NamedType, b = named.toType)
    {depth : Nat} (same : a.fragment = listed b.fragment depth) : depth = 0 ∧ a = b := by
  rcases sort with ⟨s, rfl⟩ | ⟨m, rfl⟩ <;> rcases sort' with ⟨s', rfl⟩ | ⟨m', rfl⟩
  · cases depth with
    | zero => exact ⟨rfl, congrArg ApiType.scalar (ApiScalar.name_inj same)⟩
    | succ depth => exact (s.name_ne_listed _ _ same).elim
  · rw [m'.fragment_toType] at same
    cases depth with
    | zero => exact (clear.scalars m' (has' m' (named?_toType m')) s 0 same.symm).elim
    | succ depth => exact (s.name_ne_listed _ _ same).elim
  · rw [m.fragment_toType] at same
    exact (clear.scalars m (has m (named?_toType m)) s' depth same).elim
  · rw [m.fragment_toType, m'.fragment_toType] at same
    have mem := has m (named?_toType m)
    have mem' := has' m' (named?_toType m')
    cases depth with
    | zero =>
      have found := get?_of_mem distinct mem
      rw [show m.name = m'.name from same, get?_of_mem distinct mem'] at found
      exact ⟨rfl, by rw [Option.some.inj found]⟩
    | succ depth => exact (clear.lists m mem m' mem' depth same).elim

/-- Where names are clear, known types with one fragment are equal. -/
theorem ClearNames.eq_of_fragment (clear : r.ClearNames) (distinct : (typeNames r.types).Nodup)
    {a b : ApiType} (has : r.Has a) (has' : r.Has b) (same : a.fragment = b.fragment) : a = b := by
  obtain ⟨x, m, rfl, sort⟩ := a.exists_lists
  obtain ⟨y, n, rfl, sort'⟩ := b.exists_lists
  simp only [Has, ApiType.named?_lists] at has has'
  rw [x.fragment_lists, y.fragment_lists] at same
  rcases Nat.le_total m n with le | le
  · obtain ⟨more, rfl⟩ := Nat.exists_eq_add_of_le' le
    rw [listed_add] at same
    obtain ⟨rfl, rfl⟩ := clear.base_eq distinct has has' sort sort' (listed_inj same)
    rw [Nat.zero_add]
  · obtain ⟨more, rfl⟩ := Nat.exists_eq_add_of_le' le
    rw [listed_add] at same
    obtain ⟨rfl, rfl⟩ := clear.base_eq distinct has' has sort' sort (listed_inj same).symm
    rw [Nat.zero_add]

/-- Names are clear if none is a simple type's and none ends in `List`. -/
theorem clearNames_of_endings
    (plain : ∀ name ∈ typeNames r.types, name ∉ ApiScalar.all.map ApiScalar.name ∧
      ¬ "List".toList <:+ name.toList) : r.ClearNames := by
  have named : ∀ type ∈ r.types, type.name ∈ typeNames r.types := fun _ => List.mem_map_of_mem
  refine ⟨fun type mem scalar depth same => ?_, fun type mem other _ depth same => ?_⟩
  · cases depth with
    | zero =>
      refine (plain _ (named type mem)).1 ?_
      rw [same]
      exact List.mem_map_of_mem (by cases scalar <;> decide)
    | succ depth =>
      refine (plain _ (named type mem)).2 ?_
      rw [same]
      exact suffix_listed _ _
  · refine (plain _ (named type mem)).2 ?_
    rw [same]
    exact suffix_listed _ _

end Registry

namespace Synthesizer

/-! ## The mappings of calls -/

/-- The mappings that a request converts; one that fails leaves none. -/
def mappingsOf {α : Type} (s : Synthesizer) (noted : Synthesis (Noted α)) : List Mapping :=
  match noted.run s.registry with
  | (.ok given, _) => given.2
  | (.error _, _) => []

/-- The mappings that a call for a kind converts. -/
def mappingsOfKind (s : Synthesizer) (kind : DocumentKind) : List Mapping :=
  s.mappingsOf (s.catalog.typeNoted s.strict [] kind.typeName kind)

/-- The mappings that calls for some kinds convert, up to the first that fails. -/
def mappingsOfKinds (s : Synthesizer) : List DocumentKind → List Mapping
  | [] => []
  | kind :: rest =>
    match s.documentType kind with
    | (.ok _, after) => s.mappingsOfKind kind ++ after.mappingsOfKinds rest
    | (.error _, _) => []

/-- The mappings that a call converts. -/
def mappingsOfCall (s : Synthesizer) : Call → List Mapping
  | .synthesize d => s.mappingsOf (s.catalog.objectNoted s.strict d)
  | .documentType kind => s.mappingsOfKind kind
  | .synthesizeCatalog => s.mappingsOfKinds s.catalog.kinds

/-- The mappings that some calls in turn convert. -/
def mappingsOfCalls (s : Synthesizer) : List Call → List Mapping
  | [] => []
  | call :: rest => s.mappingsOfCall call ++ (s.afterCall call).mappingsOfCalls rest

/-- What holds of a synthesizer that has converted some mappings. -/
structure Keeps (s : Synthesizer) (mappings : List Mapping) : Prop where
  recorded : s.registry.Recorded
  inv : sharing.Inv s.registry
  kept : ∀ m ∈ mappings, m.KeptIn s.registry

variable {s : Synthesizer} {mappings : List Mapping}

theorem Keeps.run {α : Type} {request : Synthesis α} {noted : Synthesis (Noted α)}
    {Q Q' : α → Registry → Prop} (keeps : s.Keeps mappings) (erased : Prod.fst <$> noted = request)
    (lead : sharing.Leads s.registry s.registry noted (NotedIn Q))
    (grows : growth.Leads s.registry s.registry request Q') :
    (s.run request).2.Keeps (mappings ++ s.mappingsOf noted) := by
  unfold Law.Leads at lead grows
  unfold mappingsOf
  have same : request.run s.registry =
      match noted.run s.registry with
      | (.ok given, r) => (.ok given.1, r)
      | (.error e, r) => (.error e, r) := by
    rw [← erased, map_eq_pure_bind, run_bind]
    rcases noted.run s.registry with ⟨_ | _, _⟩ <;> rfl
  rcases run : noted.run s.registry with ⟨e | given, r⟩
  · rw [run] at same
    rw [same] at grows
    rw [run_error same, Registry.rollback_eq keeps.recorded grows.2]
    simpa using keeps
  · rw [run] at same lead
    rw [same] at grows
    rw [run_ok same]
    refine ⟨grows.1, lead.1, fun m mem => ?_⟩
    rcases List.mem_append.1 mem with mem | mem
    · exact (keeps.kept m mem).mono lead.2.1
    · exact lead.2.2.2 m mem

theorem Keeps.documentType (keeps : s.Keeps mappings) (kind : DocumentKind) :
    (s.documentType kind).2.Keeps (mappings ++ s.mappingsOfKind kind) :=
  keeps.run (s.catalog.typeNoted_erased s.strict [] kind.typeName kind)
    (Law.typeNoted_leads [] _ kind _ keeps.inv) (Law.typeOf_leads [] _ kind _ keeps.recorded)

theorem Keeps.kinds (kinds : List DocumentKind) (keeps : s.Keeps mappings) (total current : Nat)
    (done : List ApiType) :
    (s.synthesizeKinds total current done kinds).after.Keeps
      (mappings ++ s.mappingsOfKinds kinds) := by
  induction kinds generalizing s mappings current done with
  | nil =>
    rw [mappingsOfKinds, List.append_nil]
    exact keeps
  | cons kind rest ih =>
    have next := keeps.documentType kind
    rw [synthesizeKinds, mappingsOfKinds]
    rcases call : s.documentType kind with ⟨e | type, after⟩
    · rw [call] at next
      dsimp only
      rw [List.append_nil]
      exact ⟨next.recorded, next.inv, fun m mem => next.kept m (List.mem_append_left _ mem)⟩
    · rw [call] at next
      dsimp only
      rw [← List.append_assoc]
      exact ih next _ _

theorem Keeps.call (keeps : s.Keeps mappings) (call : Call) :
    (s.afterCall call).Keeps (mappings ++ s.mappingsOfCall call) := by
  cases call with
  | synthesize d =>
    exact keeps.run (s.catalog.objectNoted_erased s.strict d)
      (Law.objectNoted_leads d keeps.inv) (Law.objectOf_leads d keeps.recorded)
  | documentType kind => exact keeps.documentType kind
  | synthesizeCatalog => exact keeps.kinds _ _ _ _

/-- Every mapping that some calls have converted is kept after them. -/
theorem keeps_afterCalls (keeps : s.Keeps mappings) (calls : List Call) :
    (s.afterCalls calls).Keeps (mappings ++ s.mappingsOfCalls calls) := by
  induction calls generalizing s mappings with
  | nil =>
    rw [mappingsOfCalls, List.append_nil]
    exact keeps
  | cons call rest ih =>
    rw [mappingsOfCalls, ← List.append_assoc]
    exact ih (keeps.call call)

/-- The table has what the value type of a cached record names, where nothing was replaced. -/
theorem has_of_cached {r : Registry} (orderly : r.Orderly) (unreplaced : r.Unreplaced)
    {fragment : String} {serial : Nat} {value : ApiType}
    (cached : Keyed.get? fragment r.entries = some (entryRecord serial value)) : r.Has value := by
  intro named eq
  have tidy := orderly.tidy unreplaced
  refine tidy.earlier.mem (tidy.records cached) (mem_references.2 ⟨value, ?_, eq⟩)
  simp [NamedType.parts, entryRecord, Field.ofKey]

/-- Two mappings that any calls have converted share their record exactly if their value types have
one fragment, and the record's value type has that fragment.  Where nothing was replaced and names
are clear, they share it exactly if their value types are equal, and the record's value type is
theirs. -/
theorem entry_records_shared (catalog : Catalog) (strict : Bool) (calls : List Call) :
    let start := new catalog strict
    let s := start.afterCalls calls
    (∀ busy path kind, Prod.fst <$> catalog.typeNoted strict busy path kind =
      catalog.typeOf strict busy path kind) ∧
    (∀ d, Prod.fst <$> catalog.objectNoted strict d = catalog.objectOf strict d) ∧
    ∀ a ∈ start.mappingsOfCalls calls, ∀ b ∈ start.mappingsOfCalls calls,
      (a.record = b.record ↔ a.value.fragment = b.value.fragment) ∧
      (∃ serial value, a.record = entryRecord serial value ∧
        value.fragment = a.value.fragment) ∧
      (s.registry.Unreplaced → s.registry.ClearNames →
        (a.record = b.record ↔ a.value = b.value) ∧
        ∃ serial, a.record = entryRecord serial a.value) := by
  intro start s
  have made : Registry.empty.RecordsMade := fun _ _ found => by cases found
  have started : start.Keeps [] :=
    ⟨Registry.recorded_empty, ⟨Registry.orderly_empty, made⟩, by simp⟩
  have keeps : s.Keeps (start.mappingsOfCalls calls) := keeps_afterCalls started calls
  refine ⟨catalog.typeNoted_erased strict, catalog.objectNoted_erased strict,
    fun a mem b mem' => ?_⟩
  obtain ⟨cached, known⟩ := keeps.kept a mem
  obtain ⟨cached', known'⟩ := keeps.kept b mem'
  obtain ⟨serial, value, record, fragment⟩ := keeps.inv.2 _ _ cached
  obtain ⟨serial', value', record', fragment'⟩ := keeps.inv.2 _ _ cached'
  have shared : a.record = b.record ↔ a.value.fragment = b.value.fragment := by
    constructor
    · intro same
      rw [record, record'] at same
      have names := congrArg ObjectType.name same
      rw [← fragment, ← fragment']
      exact String.append_right_inj "Entry" |>.1 names
    · intro same
      rw [same, cached'] at cached
      exact (Option.some.inj cached).symm
  refine ⟨shared, ⟨serial, value, record, fragment⟩, fun unreplaced clear => ⟨?_, serial, ?_⟩⟩
  · have distinct := keeps.inv.1.distinct
    rw [shared]
    exact ⟨clear.eq_of_fragment distinct (known (Nat.le_of_eq unreplaced.symm))
      (known' (Nat.le_of_eq unreplaced.symm)), congrArg ApiType.fragment⟩
  · rw [record] at cached ⊢
    rw [clear.eq_of_fragment keeps.inv.1.distinct
      (has_of_cached keeps.inv.1 unreplaced cached)
      (known (Nat.le_of_eq unreplaced.symm)) fragment]

/-- An app with three mappings, of which two are to texts. -/
def settingsApp : Definition where
  kind := .app
  name := "App"
  description := none
  schema := .object
    [("env", .map (.scalar .string)), ("ports", .map (.scalar .integer)),
     ("labels", .optional (.map (.scalar .string)))]
  docs := [("env", .text "Settings"), ("ports", .text "Ports"), ("labels", .text "Labels")]
  skipFields := []
  discriminator := none

theorem settingsApp_shared :
    let start := new ⟨[settingsApp]⟩ false
    let texts : Mapping := ⟨.scalar .string, entryRecord 0 (.scalar .string)⟩
    let numbers : Mapping := ⟨.scalar .int, entryRecord 1 (.scalar .int)⟩
    start.mappingsOfCalls [.synthesize settingsApp] = [texts, numbers, texts] ∧
      (texts.record = numbers.record ↔ texts.value = numbers.value) ∧
      ∃ serial, texts.record = entryRecord serial texts.value := by
  intro start texts numbers
  let s := start.afterCalls [.synthesize settingsApp]
  have mappings : start.mappingsOfCalls [.synthesize settingsApp] = [texts, numbers, texts] := rfl
  have unreplaced : s.registry.Unreplaced := rfl
  have clear : s.registry.ClearNames := by
    have names : typeNames s.registry.types = ["EntryString", "EntryInt", "App"] := rfl
    refine Registry.clearNames_of_endings ?_
    rw [names]
    decide
  have shared := (entry_records_shared ⟨[settingsApp]⟩ false [.synthesize settingsApp]).2.2
    texts (by rw [mappings]; exact List.mem_cons_self ..)
    numbers (by rw [mappings]; exact List.mem_cons_of_mem _ (List.mem_cons_self ..))
  exact ⟨mappings, shared.2.2 unreplaced clear⟩

/-- An app with two mappings: to lists of ports, and to port lists. -/
def portListsApp : Definition where
  kind := .app
  name := "App"
  description := none
  schema := .object
    [("port", .map (.list (.object [("number", .scalar .integer)]))),
     ("port_list", .map (.object [("name", .scalar .string)]))]
  docs :=
    [("port",
      .nested none [(Documentation.valueTerm, .nested none [("number", .text "Its number")])]),
     ("port_list",
      .nested none [(Documentation.valueTerm, .nested none [("name", .text "Its name")])])]
  skipFields := []
  discriminator := none

/-- The mapping to port lists gets the record for lists of ports. -/
theorem portLists_share_record :
    ∃ lists objects,
      (new ⟨[portListsApp]⟩ false).mappingsOfCalls [.synthesize portListsApp] =
        [lists, objects] ∧
      lists.value ≠ objects.value ∧ lists.record = objects.record ∧
      ∃ serial, objects.record = entryRecord serial lists.value ∧
        ∀ serial', objects.record ≠ entryRecord serial' objects.value := by
  refine ⟨_, _, rfl, nofun, rfl, _, rfl, fun serial' same => ?_⟩
  have fields := congrArg ObjectType.fields same
  simp [entryRecord, Field.ofKey] at fields

end Synthesizer

end ApiSchema
