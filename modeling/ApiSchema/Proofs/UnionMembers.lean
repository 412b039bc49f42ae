import ApiSchema.Proofs.Origins

/-!
# Members of unions

The union of some alternatives has no member twice, and where nothing was replaced, its members have
distinct names.  The union of a kind has one member for each of the kind's definitions, in their
order and under their names, so two definitions of one name give it the same member twice
(`twinCommands_share_member`).  Each of these members has the discriminator of its definition,
unless its name is also that of another definition, of an object inside one or of an entry record
(`union_members`).
-/

namespace ApiSchema

open Synthesis

/-- Where nothing was replaced, members with distinct serial numbers have distinct names. -/
theorem Registry.Orderly.nodup_member_names {r : Registry} (orderly : r.Orderly)
    (unreplaced : r.Unreplaced) {union : UnionType} (mem : .union union ∈ r.types)
    (distinct : (union.members.map ObjectType.serial).Nodup) :
    (union.members.map ObjectType.name).Nodup := by
  have registered : ∀ m ∈ union.members, .object m ∈ r.types := fun m member =>
    (orderly.tidy unreplaced).earlier.mem mem
      (mem_references.2 ⟨.object m, List.mem_map_of_mem member, rfl⟩)
  refine List.Nodup.map_on (fun m member n member' same => ?_) (List.Nodup.of_map _ distinct)
  have found := Registry.get?_of_mem orderly.distinct (registered m member)
  have found' := Registry.get?_of_mem orderly.distinct (registered n member')
  simp only [NamedType.name, same] at found found'
  rw [found] at found'
  simpa using found'

/-- The name is that of an object inside a known definition, or of an entry record. -/
def IsInnerName (known : Definition → Prop) (name : String) : Prop :=
  (∃ d, known d ∧ ∃ place ∈ d.places, place.name d.name = name) ∨
    ∃ value : ApiType, entryName value = name

/-- An object that was made for a definition has its name and its discriminator; any other object
has an inner name and no discriminator. -/
theorem ObjectOrigin.discriminator {known : Definition → Prop} {object : ObjectType}
    (origin : ObjectOrigin known object) :
    (∃ d, known d ∧ d.name = object.name ∧ object.discriminator = d.discriminator) ∨
      IsInnerName known object.name ∧ object.discriminator = none := by
  cases origin with
  | document is_known => exact .inl ⟨_, is_known, rfl, rfl⟩
  | nested is_known inside => exact .inr ⟨.inl ⟨_, is_known, _, inside, rfl⟩, rfl⟩
  | record serial value => exact .inr ⟨.inr ⟨value, rfl⟩, rfl⟩

/-- An object under a definition's name has the definition's discriminator, unless the name is also
that of another known definition or an inner one. -/
theorem ObjectOrigin.discriminator_of_name {known : Definition → Prop} {object : ObjectType}
    (origin : ObjectOrigin known object) {d : Definition} (same : object.name = d.name) :
    object.discriminator = d.discriminator ∨
      (∃ d', known d' ∧ d' ≠ d ∧ d'.name = d.name ∧ object.discriminator = d'.discriminator) ∨
      IsInnerName known d.name ∧ object.discriminator = none := by
  rcases origin.discriminator with ⟨d', is_known, name, equal⟩ | inner
  · by_cases own : d' = d
    · exact .inl (own ▸ equal)
    · exact .inr (.inl ⟨d', is_known, own, name.trans same, equal⟩)
  · rw [same] at inner
    exact .inr (.inr inner)

/-- Where the name of a kind's union is free, the type of the kind is a union whose members are
named as the kind's definitions. -/
theorem Catalog.exists_members_of_typeOf {catalog : Catalog} {strict : Bool} {busy : List String}
    {path : String} {kind : DocumentKind} {r r' : Registry} {type : ApiType}
    {known : Definition → Prop} (inside : ∀ d ∈ catalog.all, known d)
    (origins : r.Originates catalog known) (several : 2 ≤ (catalog.definitions kind).length)
    (free : r.get? kind.typeName = none)
    (run : (catalog.typeOf strict busy path kind).run r = (.ok type, r')) :
    ∃ members, type = .union ⟨kind.typeName, none, members⟩ ∧
      members.map ObjectType.name = (catalog.definitions kind).map Definition.name := by
  have traces : ∀ d ∈ catalog.definitions kind,
      Traces catalog known (catalog.objectIn strict busy d) fun object =>
        ObjectOrigin known object ∧ object.name = d.name := fun d mem =>
    objectWith_traces (inside d (List.mem_filter.1 mem).1) busy fun _ => typeOf_traces inside _
  rw [Catalog.typeOf_eq] at run
  rcases definitions : catalog.definitions kind with _ | ⟨first, _ | ⟨second, rest⟩⟩
  · simp [definitions] at several
  · simp [definitions] at several
  · rw [definitions] at run traces
    obtain ⟨found, r₁, look, later⟩ := run_bind_ok run
    rw [run_unionNamed?, free] at look
    cases look
    obtain ⟨members, r₂, making, registering⟩ := run_bind_ok later
    obtain ⟨union, r₃, registered, done⟩ := run_bind_ok registering
    cases registered
    cases done
    exact ⟨members, rfl, ((mapM_traces _ traces) _ _ _ origins making).2.1⟩

namespace Synthesizer

/-- Where the name of a kind's union is free, a call for the kind that succeeds gives and registers
a union whose members are named as the kind's definitions. -/
theorem exists_members_of_documentType {s : Synthesizer} {known : Definition → Prop}
    (inside : ∀ d ∈ s.catalog.all, known d) (origins : s.registry.Originates s.catalog known)
    {kind : DocumentKind} (several : 2 ≤ (s.catalog.definitions kind).length)
    (free : s.lookup kind.typeName = none) {type : ApiType}
    (given : (s.documentType kind).1 = .ok type) :
    ∃ members, type = .union ⟨kind.typeName, none, members⟩ ∧
      (s.documentType kind).2.lookup kind.typeName =
        some (.union ⟨kind.typeName, none, members⟩) ∧
      members.map ObjectType.name = (s.catalog.definitions kind).map Definition.name := by
  have provides := provides_of_documentType given
  unfold documentType at given
  rcases run : (s.catalog.typeOf s.strict [] kind.typeName kind).run s.registry with ⟨e | t, r⟩
  · rw [run_error run] at given
    cases given
  · rw [run_ok run] at given
    cases given
    obtain ⟨members, rfl, names⟩ :=
      Catalog.exists_members_of_typeOf inside origins several free run
    refine ⟨members, rfl, ?_, names⟩
    obtain ⟨named, same, found⟩ := provides.found
    cases named with
    | object o => cases same
    | union u =>
      cases same
      exact found

/-- After every sequence of calls, each registered union has the members of some alternatives, none
of them twice, or those of a kind, in the order and under the names of its definitions; a member for
a definition has the definition's discriminator unless its name is also that of another told
definition, of an object inside one or of a record. -/
theorem union_members (catalog : Catalog) (strict : Bool) (calls : List Call) :
    let s := (new catalog strict).afterCalls calls
    (∀ union, .union union ∈ s.types →
      ((union.members.map ObjectType.serial).Nodup ∧
        (s.registry.Unreplaced → (union.members.map ObjectType.name).Nodup)) ∨
      ∃ kind, union.name = kind.typeName ∧ 2 ≤ (catalog.definitions kind).length ∧
        union.members.map ObjectType.name = (catalog.definitions kind).map Definition.name) ∧
    (∀ kind type, 2 ≤ (catalog.definitions kind).length → s.lookup kind.typeName = none →
      (s.documentType kind).1 = .ok type →
      ∃ members, type = .union ⟨kind.typeName, none, members⟩ ∧
        (s.documentType kind).2.lookup kind.typeName =
          some (.union ⟨kind.typeName, none, members⟩) ∧
        members.map ObjectType.name = (catalog.definitions kind).map Definition.name) ∧
    ∀ union kind, .union union ∈ s.types →
      union.members.map ObjectType.name = (catalog.definitions kind).map Definition.name →
      ∀ (i : Nat) (d : Definition) (m : ObjectType), (catalog.definitions kind)[i]? = some d →
        union.members[i]? = some m →
        m.name = d.name ∧
          (m.discriminator = d.discriminator ∨
            (∃ d', Told catalog calls d' ∧ d' ≠ d ∧ d'.name = d.name ∧
              m.discriminator = d'.discriminator) ∨
            IsInnerName (Told catalog calls) d.name ∧ m.discriminator = none) := by
  intro s
  have origins : s.registry.Originates catalog (Told catalog calls) :=
    originates_afterCalls catalog strict calls
  refine ⟨fun union mem => ?_, fun kind type several free given => ?_,
    fun union kind mem names i d m d_at m_at => ?_⟩
  · have orderly : s.registry.Orderly := orderly_afterCalls catalog strict calls
    have origin : UnionOrigin catalog (Told catalog calls) union := origins.types _ mem
    cases origin with
    | alternatives name description nonempty distinct objects =>
      exact .inl ⟨distinct, fun unreplaced =>
        orderly.nodup_member_names unreplaced mem distinct⟩
    | variants kind several names objects => exact .inr ⟨kind, rfl, several, names⟩
  · have kept : s.catalog = catalog := (afterCalls_keeps _ calls).1
    rw [← kept] at several origins ⊢
    exact exists_members_of_documentType (fun d mem => .inl (kept ▸ mem)) origins several free given
  · have same : m.name = d.name := by simpa [d_at, m_at] using congrArg (·[i]?) names
    have origin : UnionOrigin catalog (Told catalog calls) union := origins.types _ mem
    exact ⟨same, (origin.objects m (List.mem_of_getElem? m_at)).discriminator_of_name same⟩

/-- A command that is chosen by a key. -/
def commandWith (name discriminator : String) : Definition where
  kind := .command
  name
  description := none
  schema := .object [(discriminator, .scalar .string)]
  docs := [(discriminator, .text "What is run")]
  skipFields := []
  discriminator := some discriminator

/-- An app whose port is a number or a name. -/
def portApp : Definition where
  kind := .app
  name := "App"
  description := none
  schema := .object
    [("port", .union [.object [("number", .scalar .integer)], .object [("name", .scalar .string)]])]
  docs := [("port", .nested none [("number", .text "Its number"), ("name", .text "Its name")])]
  skipFields := []
  discriminator := none

/-- The commands of a catalog and its app. -/
def commandCatalog : Catalog :=
  ⟨[commandWith "Command" "command", commandWith "Alias" "aliases", portApp]⟩

theorem commandCatalog_members :
    let s := new commandCatalog false
    (∃ union, (s.synthesize portApp).2.lookup "AppPort" = some (.union union) ∧
      (union.members.map ObjectType.name).Nodup) ∧
    ∃ members, (s.documentType .command).1 =
        .ok (.union ⟨"CommandConfiguration", none, members⟩) ∧
      members.map ObjectType.name = ["Command", "Alias"] ∧
      ∃ m, members[1]? = some m ∧ m.name = "Alias" ∧ m.discriminator = some "aliases" := by
  intro s
  have known : ∀ d, Told commandCatalog [.documentType .command] d →
      d = commandWith "Command" "command" ∨ d = commandWith "Alias" "aliases" ∨ d = portApp := by
    rintro d (mem | mem)
    · simpa [commandCatalog, Catalog.all] using mem
    · cases List.mem_singleton.1 mem
  have single : ∀ d, Told commandCatalog [.documentType .command] d → d.name = "Alias" →
      d = commandWith "Alias" "aliases" := by
    intro d told name
    rcases known d told with rfl | rfl | rfl
    · exact absurd name (by decide)
    · rfl
    · exact absurd name (by decide)
  have no_inner : ¬ IsInnerName (Told commandCatalog [.documentType .command]) "Alias" := by
    rintro (⟨d, told, place, inside, name⟩ | ⟨value, name⟩)
    · have mem := List.mem_map_of_mem (f := ObjectPlace.name d.name) inside
      rw [name] at mem
      rcases known d told with rfl | rfl | rfl <;> exact absurd mem (by decide)
    · have letters := congrArg String.toList name
      rw [entryName, String.toList_append] at letters
      cases letters
  have registered : ∃ union, (s.synthesize portApp).2.lookup "AppPort" = some (.union union) ∧
      union.name = "AppPort" := ⟨_, rfl, rfl⟩
  obtain ⟨union, found, name⟩ := registered
  refine ⟨⟨union, found, ?_⟩, ?_⟩
  · have unreplaced : (s.synthesize portApp).2.registry.Unreplaced := rfl
    rcases (union_members commandCatalog false [.synthesize portApp]).1 union
      (Registry.mem_of_get? found) with ⟨_, distinct⟩ | ⟨kind, same, _⟩
    · exact distinct unreplaced
    · rw [name] at same
      cases kind <;> exact absurd same (by decide)
  · have given : ∃ type, (s.documentType .command).1 = .ok type := by
      rw [documentType, Catalog.typeOf_eq]
      exact ⟨_, rfl⟩
    obtain ⟨type, given⟩ := given
    obtain ⟨members, rfl, found, names⟩ := (union_members commandCatalog false []).2.1 .command type
      (by decide) rfl given
    obtain ⟨m, m_at⟩ : ∃ m, members[1]? = some m := by
      have length : members.length = 2 := (List.length_map ..).symm.trans (congrArg _ names)
      exact ⟨members[1], List.getElem?_eq_getElem _⟩
    have carried := (union_members commandCatalog false [.documentType .command]).2.2 _ .command
      (Registry.mem_of_get? found) names 1 (commandWith "Alias" "aliases") m rfl m_at
    refine ⟨members, given, names, m, m_at, carried.1, ?_⟩
    rcases carried.2 with own | ⟨d, told, other, name, -⟩ | ⟨inner, -⟩
    · exact own
    · exact absurd (single d told name) other
    · exact absurd inner no_inner

/-- Two commands of one name. -/
def twinCatalog : Catalog := ⟨[commandWith "Command" "command", commandWith "Command" "aliases"]⟩

/-- The union of two definitions of one name has one member twice, and none with the discriminator
of the second definition. -/
theorem twinCommands_share_member :
    let s := (new twinCatalog false).afterCalls [.documentType .command]
    ∃ union, s.lookup "CommandConfiguration" = some (.union union) ∧
      union.members.map ObjectType.name = ["Command", "Command"] ∧
      ¬ (union.members.map ObjectType.name).Nodup ∧
      union.members.map ObjectType.discriminator = [some "command", some "command"] ∧
      (twinCatalog.definitions .command).map Definition.discriminator =
        [some "command", some "aliases"] := by
  intro s
  have found : ∃ union, s.lookup "CommandConfiguration" = some (.union union) ∧
      union.members.map ObjectType.name = ["Command", "Command"] ∧
      union.members.map ObjectType.discriminator = [some "command", some "command"] := by
    show ∃ union, ((new twinCatalog false).documentType .command).2.lookup _ = _ ∧ _
    rw [documentType, Catalog.typeOf_eq]
    exact ⟨_, rfl, rfl, rfl⟩
  obtain ⟨union, found, names, discriminators⟩ := found
  refine ⟨union, found, names, ?_, discriminators, rfl⟩
  rw [names]
  decide

end Synthesizer

end ApiSchema
