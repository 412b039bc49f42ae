import ApiSchema.Api.GraphQL
import ApiSchema.Proofs.Closure

/-!
# Names in a schema's text

The text of some types has one block for each, and a block names other types only in the types of
its fields and among its members.  Where the types form a closed table, every object or union that
is named is defined by exactly one block, of its own sort and before the block that names it; this
holds of what a synthesizer has generated exactly as long as no registration has replaced a type
(`table_sound_iff`).
-/

namespace ApiSchema

namespace GraphQL

/-- A name in some pairs of square brackets. -/
def bracketed : Nat → String → String
  | 0, name => name
  | depth + 1, name => "[" ++ bracketed depth name ++ "]"

/-- What is written for a type that names an object or a union is that name in brackets. -/
theorem typeText_of_named : ∀ (type : ApiType) {ref : NamedType}, type.named? = some ref →
    ∃ depth, ∀ required,
      typeText type required = bracketed depth ref.name ++ if required then "!" else ""
  | .scalar _, _, named => by cases named
  | .object object, _, named => by
    cases named
    refine ⟨0, fun required => ?_⟩
    cases required
    · simp [typeText, bracketed, NamedType.name]
    · rfl
  | .union union, _, named => by
    cases named
    refine ⟨0, fun required => ?_⟩
    cases required
    · simp [typeText, bracketed, NamedType.name]
    · rfl
  | .list element, ref, named => by
    obtain ⟨depth, eq⟩ := typeText_of_named element named
    refine ⟨depth + 1, fun required => ?_⟩
    have inner : typeText element false = bracketed depth ref.name := by simpa using eq false
    cases required
    · simp [typeText, bracketed, inner]
    · simp [typeText, bracketed, inner]

/-- The words that open the block of a type, after its description. -/
def opening : NamedType → String
  | .object object => "type " ++ object.name
  | .union union => "union " ++ union.name

/-- The block of a type opens with its description, keyword and name. -/
theorem namedText_opens (type : NamedType) :
    ∃ own rest, namedText type = description "" own ++ opening type ++ rest := by
  cases type with
  | object object =>
    refine ⟨object.description,
      " \x7b\n" ++ String.join (object.fields.map fieldText) ++ "\x7d", ?_⟩
    simp only [namedText, objectText, opening, String.append_assoc]
  | union union =>
    refine ⟨union.description, " = " ++ Text.join " | " (union.members.map ObjectType.name), ?_⟩
    simp only [namedText, unionText, opening, String.append_assoc]

/-- What the text of some types says about the names in it: the text joins one block for each type,
and for each place in the block of a type where the name of an object or a union is written, exactly
one of the blocks defines the name; it stands earlier and is of the right sort. -/
structure DefinesNames (types : List NamedType) : Prop where
  blocks : render types =
    if types.isEmpty then "" else
      Text.join "\n\n" (scalarBlocks types ++ types.map namedText) ++ "\n"
  uses : ∀ (i : Nat) (type : NamedType), types[i]? = some type →
    ∀ part ∈ type.parts, ∀ ref, part.named? = some ref →
      (∃ depth, ∀ required,
        typeText part required = bracketed depth ref.name ++ if required then "!" else "") ∧
      ∃ j < i,
        (∃ own rest, (types.map namedText)[j]? = some (description "" own ++ opening ref ++ rest)) ∧
        ∀ (k : Nat) (other : NamedType), types[k]? = some other → other.name = ref.name → k = j

theorem definesNames_of_closed {types : List NamedType} (distinct : (typeNames types).Nodup)
    (earlier : ReferencesEarlier types) : DefinesNames types := by
  refine ⟨?_, fun i type at_i part mem ref named => ⟨typeText_of_named part named, ?_⟩⟩
  · cases types with
    | nil => rfl
    | cons first rest => simp [render]
  · obtain ⟨j, j_lt, at_j⟩ := earlier i type at_i ref (mem_references.2 ⟨part, mem, named⟩)
    refine ⟨j, j_lt, ?_, fun k other at_k same => ?_⟩
    · obtain ⟨own, rest, opens⟩ := namedText_opens ref
      refine ⟨own, rest, ?_⟩
      rw [List.getElem?_map, at_j, Option.map_some, opens]
    · have same_name : (typeNames types)[k]? = (typeNames types)[j]? := by
        simp only [typeNames, List.getElem?_map, at_k, at_j, Option.map_some, same]
      obtain ⟨k_lt, _⟩ := List.getElem?_eq_some_iff.1 at_k
      exact (List.getElem?_inj (by rwa [length_typeNames]) distinct).1 same_name

end GraphQL

/-- The table has each type under its own name and its references before it, no registration has
replaced a type, and so its text defines the names in it. -/
structure Registry.Sound (r : Registry) : Prop where
  named : ∀ type ∈ r.types, r.get? type.name = some type
  earlier : ReferencesEarlier r.types
  inPlace : r.InPlace
  unreplaced : r.Unreplaced
  defines : GraphQL.DefinesNames r.types

theorem Registry.Orderly.sound {r : Registry} (orderly : r.Orderly) (unreplaced : r.Unreplaced) :
    r.Sound := by
  have tidy := orderly.tidy unreplaced
  refine ⟨fun type mem => ?_, tidy.earlier, tidy.inPlace, unreplaced, ?_⟩
  · exact Registry.get?_of_mem orderly.distinct mem
  · exact GraphQL.definesNames_of_closed orderly.distinct tidy.earlier

namespace Synthesizer

/-- After any calls, the table of types is sound exactly as long as there are as many types as
registrations, that is, as long as no name was registered between its look-up and its own
registration. -/
theorem table_sound_iff (catalog : Catalog) (strict : Bool) (calls : List Call) :
    let s := (new catalog strict).afterCalls calls
    s.registry.Sound ↔ s.registry.types.length = s.registry.nextSerial := by
  intro s
  have orderly : s.registry.Orderly := orderly_afterCalls catalog strict calls
  constructor
  · intro sound
    exact sound.unreplaced
  · intro unreplaced
    exact orderly.sound unreplaced

/-- A service whose name is the path of a field of `loggingApp`, to which it refers. -/
def appLoggingService : Definition where
  kind := .service
  name := "AppLogging"
  description := none
  schema := .object [("app", .reference .app)]
  docs := [("app", .text "The app")]
  skipFields := []
  discriminator := none

/-- An app with a union at `AppLogging`. -/
def loggingApp : Definition where
  kind := .app
  name := "App"
  description := none
  schema := .object
    [("logging", .union [.object [("file", .scalar .string)], .object [("host", .scalar .string)]])]
  docs := [("logging", .nested none [("file", .text "Log file"), ("host", .text "Log host")])]
  skipFields := []
  discriminator := none

/-- The service's object replaces the union to which the app refers, and the call succeeds. -/
theorem appLogging_replaced :
    let s := new ⟨[appLoggingService, loggingApp]⟩ false
    s.synthesizeCatalog.result.isOk = true ∧
      ¬ReferencesEarlier s.synthesizeCatalog.after.types ∧
      ¬s.synthesizeCatalog.after.registry.Sound := by
  intro s
  have objects : s.synthesizeCatalog.after.types.all (·.toType.object?.isSome) = true := by
    decide +kernel
  have union : (s.synthesizeCatalog.after.types.any fun type =>
      type.references.any fun ref => !ref.toType.object?.isSome) = true := by
    decide +kernel
  have unclosed : ¬ReferencesEarlier s.synthesizeCatalog.after.types := by
    intro earlier
    obtain ⟨type, mem, refers⟩ := List.any_eq_true.1 union
    obtain ⟨ref, mem_ref, not_object⟩ := List.any_eq_true.1 refers
    have object := List.all_eq_true.1 objects ref (earlier.mem mem mem_ref)
    simp [object] at not_object
  exact ⟨by decide +kernel, unclosed, fun sound => unclosed sound.earlier⟩

end Synthesizer

end ApiSchema
