import ApiSchema.CommandLine.Run
import ApiSchema.Proofs.AcceptedCatalogs
import ApiSchema.Proofs.FieldNames
import ApiSchema.Proofs.RoundTrip

/-!
# Values of unions

A mapping at a union is projected to the member that it belongs to, behind the member's name.  No
field of a generated object is named like that tag, since field names have no underscore, so the
fields follow the tag as they are (`union_values_tagged`).  The document of a kind is rendered the
same way, though it is read through another instance.
-/

namespace ApiSchema

/-! ## Tags -/

theorem Keyed.insertAll_eq {α : Type} (pairs : List (String × α)) {entries : Keyed α}
    (distinct : (Keyed.keys entries ++ Keyed.keys pairs).Nodup) :
    Keyed.insertAll pairs entries = entries ++ pairs := by
  induction pairs generalizing entries with
  | nil => exact (List.append_nil _).symm
  | cons pair rest ih =>
    obtain ⟨key, value⟩ := pair
    have fresh : Keyed.get? key entries = none := Keyed.get?_eq_none_iff.2 fun mem =>
      (List.nodup_append.1 distinct).2.2 _ mem _ (List.mem_cons_self ..) rfl
    calc Keyed.insertAll ((key, value) :: rest) entries
      _ = Keyed.insertAll rest (entries ++ [(key, value)]) := by
        rw [← Keyed.insert_of_get?_eq_none fresh]
        rfl
      _ = (entries ++ [(key, value)]) ++ rest := ih (by simpa [Keyed.keys] using distinct)
      _ = entries ++ (key, value) :: rest := List.append_assoc ..

/-- Members with keys of their own, none of which is the tag's, follow the tag. -/
theorem tagged_eq (name : String) {members : List (String × Json)}
    (distinct : (typenameKey :: Keyed.keys members).Nodup) :
    tagged name members = (typenameKey, .string name) :: members :=
  Keyed.insertAll_eq members distinct

namespace ObjectType

variable {object : ObjectType}

theorem NamedByKeys.nodup_tag (named : object.NamedByKeys) :
    (typenameKey :: object.fields.map Field.name).Nodup := by
  refine List.nodup_cons.2 ⟨fun mem => ?_, named.distinct⟩
  obtain ⟨field, inside, name⟩ := List.mem_map.1 mem
  have clear := named.no_underscore field inside
  rw [name] at clear
  exact clear (by decide)

theorem NamedByKeys.keys_projectWith (named : object.NamedByKeys) (get : String → Option Json) :
    Keyed.keys (object.projectWith get) = object.fields.map Field.name := by
  rw [projectWith_eq get named.distinct, Keyed.keys, List.map_map]
  rfl

theorem NamedByKeys.tagged_projectWith (named : object.NamedByKeys)
    (get : String → Option Json) :
    tagged object.name (object.projectWith get) =
      (typenameKey, .string object.name) :: object.projectWith get := by
  refine tagged_eq _ ?_
  rw [named.keys_projectWith]
  exact named.nodup_tag

end ObjectType

/-! ## Projections -/

/-- The first type that passes a test is the one that is projected to. -/
theorem projectFirst_eq (test : ObjectType → Bool) (members : List (String × Json))
    (objects : List ObjectType) :
    projectFirst test members objects = match objects.find? test with
      | some object => .object (tagged object.name (object.projectWith (Keyed.get? · members)))
      | none => .null := by
  induction objects with
  | nil => rw [projectFirst, List.find?_nil]
  | cons object rest ih =>
    rw [projectFirst, List.find?_cons]
    cases test object with
    | true => rfl
    | false => exact ih

/-- A mapping at a union is projected to the member that it belongs to. -/
theorem ApiType.project_union (union : UnionType) (members : List (String × Json)) :
    (ApiType.union union).project (.object members) = match union.select? members with
      | some member => .object (tagged member.name (member.project (.ofMembers members)))
      | none => .null := by
  rcases union with ⟨name, description, objects⟩
  rw [ApiType.project, UnionType.projectMembers, projectFirst_eq]
  rfl

theorem UnionType.mem_of_select? {union : UnionType} {members : List (String × Json)}
    {member : ObjectType} (selected : union.select? members = some member) :
    member ∈ union.members :=
  List.mem_of_find?_eq_some selected

/-- The value names the member, and then has the member's fields in order, each with the value that
the mapping has for it. -/
structure IsTaggedAs (member : ObjectType) (members : List (String × Json)) (value : Json) :
    Prop where
  value_eq : value =
    .object ((typenameKey, .string member.name) :: member.project (.ofMembers members))
  fields_eq : Keyed.keys (member.project (.ofMembers members)) = member.fields.map Field.name
  distinct : (typenameKey :: member.fields.map Field.name).Nodup

/-- A mapping at a union of objects whose fields are named by their keys has the tag and the fields
of the member that it belongs to, and is `null` if it belongs to none. -/
theorem UnionType.project_cases {union : UnionType}
    (named : ∀ member ∈ union.members, member.NamedByKeys) (members : List (String × Json)) :
    (∃ member ∈ union.members, union.select? members = some member ∧
      IsTaggedAs member members ((ApiType.union union).project (.object members))) ∨
    (union.select? members = none ∧ (ApiType.union union).project (.object members) = .null) := by
  rw [ApiType.project_union]
  rcases selected : union.select? members with _ | member
  · exact .inr ⟨rfl, rfl⟩
  · have mem : member ∈ union.members := UnionType.mem_of_select? selected
    have own := named member mem
    exact .inl ⟨member, mem, rfl, congrArg Json.object (own.tagged_projectWith _),
      own.keys_projectWith _, own.nodup_tag⟩

/-! ## Rendered documents -/

namespace CommandLine

open Files (OsText)

theorem renderMembers_union (document : Document) (union : UnionType) :
    renderMembers document (.union union) =
      match (ApiType.union union).project (.object document.members) with
      | .object members => .ok members
      | _ => .error (.failure 2 s!"Error: document matches no variant of {union.name}") := by
  rw [renderMembers, ApiType.project_union]
  cases union.select? document.members with
  | none => rfl
  | some member => rfl

/-- Rendering a document of a kind whose type is a union prints the document's mapping as it is
projected at the union, and fails if it is projected to `null`. -/
theorem run_render_union {disk : Disk} {catalogPath documentPath : OsText} {kindName : String}
    {pretty : Bool} {kind : DocumentKind} {loaded : Catalog} {document : Document}
    {union : UnionType}
    (known : DocumentKind.ofName? kindName = some kind)
    (catalog_read : catalogAt disk catalogPath = .ok loaded)
    (document_read : documentAt disk documentPath kind = .ok document)
    (type : ((Synthesizer.new loaded false).documentType kind).1 = .ok (.union union)) :
    (Command.render catalogPath documentPath kindName pretty).run disk =
      match (ApiType.union union).project (.object document.members) with
      | .object members => .success (jsonLine pretty (.object members))
      | _ => .failure 2 s!"Error: document matches no variant of {union.name}" := by
  have named : kindNamed kindName = .ok kind := by rw [kindNamed, known]
  simp only [Command.run, renderDocument, named, catalog_read, document_read, type,
    Except.mapError, bind, Except.bind, renderMembers_union]
  cases (ApiType.union union).project (.object document.members) <;> rfl

end CommandLine

namespace Synthesizer

open CommandLine JsonSchema CatalogSchema
open Files (OsText)

theorem mem_types_of_documentType {s : Synthesizer} {kind : DocumentKind} {union : UnionType}
    (given : (s.documentType kind).1 = .ok (.union union)) :
    NamedType.union union ∈ (s.documentType kind).2.types := by
  obtain ⟨named, same, found⟩ := (provides_of_documentType given).found
  cases named with
  | object object => cases same
  | union other =>
    cases same
    exact Registry.mem_of_get? found

/-- The members of a registered union have fields that are named by their keys. -/
theorem namedByKeys_of_mem {catalog : Catalog} {strict : Bool} {calls : List Call}
    {union : UnionType}
    (mem : NamedType.union union ∈ ((new catalog strict).afterCalls calls).types) :
    ∀ member ∈ union.members, member.NamedByKeys :=
  have named : (NamedType.union union).NamedByKeys :=
    ((originates_afterCalls catalog strict calls).types _ mem).namedByKeys
  named.2

/-- After every sequence of calls, a mapping at a registered union is projected to the tag and the
fields of the member that it belongs to, or to `null` if it belongs to none.  For every catalog that
is loaded, the type of a kind that is a union is registered, and rendering a document of that kind
prints what its mapping is projected to there; it fails with code 2 just when that is `null`. -/
theorem union_values_tagged (catalog : Catalog) (strict : Bool) (calls : List Call) :
    (∀ union, NamedType.union union ∈ ((new catalog strict).afterCalls calls).types →
      ∀ members, let nested := (ApiType.union union).project (.object members)
        (∃ member ∈ union.members, union.select? members = some member ∧
          IsTaggedAs member members nested) ∨
        (union.select? members = none ∧ nested = .null)) ∧
    ∀ (disk : Disk) (catalogPath documentPath : OsText) (kindName : String) (pretty : Bool)
      (kind : DocumentKind) (loaded : Catalog) (document : Document) (union : UnionType),
      DocumentKind.ofName? kindName = some kind → catalogAt disk catalogPath = .ok loaded →
      documentAt disk documentPath kind = .ok document →
      ((new loaded false).documentType kind).1 = .ok (.union union) →
        let nested := (ApiType.union union).project (.object document.members)
        let outcome := (Command.render catalogPath documentPath kindName pretty).run disk
        NamedType.union union ∈ ((new loaded false).afterCalls [.documentType kind]).types ∧
        (nested ≠ .null → outcome = .success (jsonLine pretty nested)) ∧
        (nested = .null →
          outcome = .failure 2 s!"Error: document matches no variant of {union.name}") ∧
        (outcome.code = 2 ↔ nested = .null) := by
  refine ⟨fun union mem members => UnionType.project_cases (namedByKeys_of_mem mem) members, ?_⟩
  intro disk catalogPath documentPath kindName pretty kind loaded document union known catalog_read
    document_read given nested outcome
  have registered : NamedType.union union ∈
      ((new loaded false).afterCalls [.documentType kind]).types :=
    mem_types_of_documentType given
  have printed : outcome = _ := run_render_union known catalog_read document_read given
  refine ⟨registered, ?_⟩
  rcases UnionType.project_cases (namedByKeys_of_mem registered) document.members with
    ⟨member, -, -, tagged⟩ | ⟨-, null⟩
  · have whole : nested = _ := tagged.value_eq
    rw [tagged.value_eq] at printed
    rw [whole, printed]
    exact ⟨fun _ => rfl, nofun, nofun, nofun⟩
  · have whole : nested = .null := null
    rw [null] at printed
    rw [whole, printed]
    exact ⟨fun other => (other rfl).elim, fun _ => rfl, fun _ => rfl, fun _ => rfl⟩

def textApp (name key : String) : Definition where
  kind := .app
  name
  description := none
  schema := .object [(key, .scalar .string)]
  docs := [(key, .text "A text")]
  skipFields := []
  discriminator := none

/-- The entry of the app in a catalog file. -/
def textAppEntry (name key : String) : Json :=
  .object
    [("kind", .string "app"), ("name", .string name),
     ("schema", .object [("type", .string "object"),
       ("fields", .object [(key, .object [("type", .string "string")])])]),
     ("docs", .object [(key, .string "A text")])]

/-- The catalog of two such apps. -/
def textApps : Catalog := ⟨[textApp "A" "run", textApp "B" "is_on"]⟩

/-- The text of its file. -/
def textAppsFile : String :=
  let entry (name key : String) :=
    "\x7b\"kind\":\"app\",\"name\":\"" ++ name ++
      "\",\"schema\":\x7b\"type\":\"object\",\"fields\":\x7b\"" ++ key ++
      "\":\x7b\"type\":\"string\"\x7d\x7d\x7d,\"docs\":\x7b\"" ++ key ++ "\":\"A text\"\x7d\x7d"
  "\x7b\"documents\":[" ++ entry "A" "run" ++ "," ++ entry "B" "is_on" ++ "]\x7d"

set_option maxRecDepth 8000 in
theorem read_textAppsFile : Json.read textAppsFile = .ok (.object
    [("documents", .array [textAppEntry "A" "run", textAppEntry "B" "is_on"])]) := by
  with_unfolding_all rfl

theorem fulfils_textAppEntry {name : String}
    (named : ∀ path, Fulfils targets path (.string name) nameSchema) (key : String)
    (path : List PathStep) :
    Fulfils targets path (textAppEntry name key) (referring "document") := by
  have leaf : ∀ path, Fulfils targets path (.object [("type", .string "string")])
      (referring "node") :=
    fun path => fulfils_node_iff.2 ⟨_, "string", rfl, by decide, rfl, by simp [nodeContents]⟩
  exact fulfils_app named (fulfils_oneField leaf key) (.inr rfl) rfl (fulfils_oneText key _) path

theorem loadCatalog_textAppsFile : loadCatalog "c.json" (.ok textAppsFile) = .ok textApps := by
  have valid : validateCatalog (.object
      [("documents", .array [textAppEntry "A" "run", textAppEntry "B" "is_on"])]) = .ok () := by
    rw [validateCatalog_eq_ok_iff, catalogViolations_eq_nil_iff]
    refine ⟨_, rfl, ⟨_, rfl⟩, List.forall_mem_singleton.2 ⟨rfl, _, rfl, ?_⟩⟩
    rintro (_ | _ | index) item found
    · cases found
      exact fulfils_textAppEntry (fulfils_name_letter (by decide)) _ _
    · cases found
      exact fulfils_textAppEntry (fulfils_name_letter (by decide)) _ _
    · cases found
  rw [loadCatalog_of_read read_textAppsFile, Catalog.ofJson_of_ok
    (catalogDocuments_of_accepted (validateCatalog_eq_ok_iff.1 valid) rfl)]
  rfl

/-- The texts of the catalog's file, of a document of the second app and of an empty document. -/
def textAppsText (path : OsText) : String :=
  if path = "c.json" then textAppsFile
  else if path = "b.json" then "\x7b\"is_on\":\"yes\"\x7d" else "\x7b\x7d"

/-- The files with these texts. -/
def textAppsDisk : Disk := fun path => .ok (.file (textAppsText path).toUTF8)

theorem text_textAppsDisk (path : OsText) : textAppsDisk.text path = .ok (textAppsText path) :=
  Files.FileNode.text_toUTF8 _

/-- The document with the second app's key is tagged with that app's name; the empty one has the
key of neither. -/
theorem textAppsDisk_rendered :
    let render (document : OsText) :=
      (Command.render "c.json" document "app" false).run textAppsDisk
    (∃ union, NamedType.union union ∈
        ((new textApps false).afterCalls [.documentType .app]).types ∧
      ∃ member ∈ union.members, member.name = "B" ∧
        IsTaggedAs member [("is_on", .string "yes")]
          ((ApiType.union union).project (.object [("is_on", .string "yes")]))) ∧
    render "b.json" = .success "\x7b\"__typename\":\"B\",\"isOn\":\"yes\"\x7d\n" ∧
    render "e.json" = .failure 2 "Error: document matches no variant of AppConfiguration" ∧
    (render "e.json").code = 2 := by
  intro render
  obtain ⟨tagged, rendered⟩ := union_values_tagged textApps false [.documentType .app]
  have catalog_read : catalogAt textAppsDisk "c.json" = .ok textApps := by
    rw [catalogAt, text_textAppsDisk, textAppsText, if_pos rfl, loadCatalog_textAppsFile]
    rfl
  have member_read : documentAt textAppsDisk "b.json" .app =
      .ok ⟨.app, [("is_on", .string "yes")]⟩ := by
    rw [documentAt, text_textAppsDisk, textAppsText, if_neg (by decide), if_pos rfl]
    with_unfolding_all rfl
  have empty_read : documentAt textAppsDisk "e.json" .app = .ok ⟨.app, []⟩ := by
    rw [documentAt, text_textAppsDisk, textAppsText, if_neg (by decide), if_neg (by decide)]
    with_unfolding_all rfl
  have request : ∃ union, ((new textApps false).documentType .app).1 = .ok (.union union) ∧
      union.name = "AppConfiguration" ∧
      (union.select? [("is_on", .string "yes")]).map ObjectType.name = some "B" ∧
      (ApiType.union union).project (.object [("is_on", .string "yes")]) =
        .object [("__typename", .string "B"), ("isOn", .string "yes")] ∧
      (ApiType.union union).project (.object []) = .null := by
    rw [documentType, Catalog.typeOf_eq]
    exact ⟨_, rfl, rfl, rfl, rfl, rfl⟩
  obtain ⟨union, given, name, chosen, member_value, empty_value⟩ := request
  have known : DocumentKind.ofName? "app" = some .app := by decide
  obtain ⟨registered, printed, -, -⟩ := rendered textAppsDisk "c.json" "b.json" "app" false .app
    _ _ union known catalog_read member_read given
  obtain ⟨-, -, refused, code⟩ := rendered textAppsDisk "c.json" "e.json" "app" false .app
    _ _ union known catalog_read empty_read given
  refine ⟨⟨union, registered, ?_⟩, ?_, ?_, code.2 empty_value⟩
  · rcases tagged union registered [("is_on", .string "yes")] with
      ⟨member, mem, selected, whole⟩ | ⟨unmatched, -⟩
    · rw [selected] at chosen
      exact ⟨member, mem, Option.some.inj chosen, whole⟩
    · rw [unmatched] at chosen
      cases chosen
  · refine (printed fun null => ?_).trans ?_
    · rw [member_value] at null
      cases null
    · rw [member_value]
      rfl
  · refine (refused empty_value).trans ?_
    rw [name]
    rfl

end Synthesizer

end ApiSchema
