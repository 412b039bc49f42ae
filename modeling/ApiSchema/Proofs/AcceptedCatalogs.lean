import ApiSchema.Proofs.AcceptedNodes

/-!
# Accepted catalogs can be loaded

What the schema of catalog files accepts can be read, with one exception: the schema knows no key
for an entry's own description and allows an object there.  A tree with such an entry is refused
later, by its reader (`accepted_loads`).  After the documents are read only docstrings can be wrong.
-/

namespace ApiSchema

open JsonSchema CatalogSchema Documentation
open Json (ShapeError)

/-! ## Documentation trees -/

/-- The JSON form of an entry has an object where the entry's own description stands, or an entry
inside it has. -/
inductive HasNestedText : Json → Prop
  | own {members inner : List (String × Json)}
      (found : Keyed.get? ownTextKey members = some (.object inner)) :
      HasNestedText (.object members)
  | inside {members : List (String × Json)} {key : String} {value : Json}
      (mem : (key, value) ∈ members) (nested : HasNestedText value) :
      HasNestedText (.object members)

/-- The schema accepts the value as an entry of a tree. -/
def AcceptedEntry (value : Json) : Prop :=
  (∃ text, value = .string text) ∨ ∃ path, Fulfils targets path value (referring "docs")

theorem acceptedEntry_of_mem {path : List PathStep} {members : List (String × Json)}
    (fulfils : Fulfils targets path (.object members) (referring "docs")) {key : String}
    {value : Json} (mem : (key, value) ∈ members) : AcceptedEntry value := by
  obtain ⟨members', same, each⟩ := fulfils_docs_iff.1 fulfils
  cases same
  exact (each _ mem).imp_right fun fulfils => ⟨_, fulfils⟩

theorem fieldsOfMembers_eq_mapM (members : List (String × Json)) :
    fieldsOfMembers members =
      members.mapM fun member => (entryOfJson member.2).map fun entry => (member.1, entry) := by
  induction members with
  | nil => rfl
  | cons member rest ih =>
    rw [fieldsOfMembers, ih, List.mapM_cons]
    rcases entryOfJson member.2 with e | entry <;> rfl

/-- The fields of members can be read just when all their values can. -/
theorem exists_fieldsOfMembers_iff {members : List (String × Json)} :
    (∃ fields, fieldsOfMembers members = .ok fields) ↔
      ∀ member ∈ members, ∃ entry, entryOfJson member.2 = .ok entry := by
  rw [fieldsOfMembers_eq_mapM, exists_mapM_eq_ok_iff]
  refine forall₂_congr fun member _ => ?_
  rcases entryOfJson member.2 with e | entry
  · exact ⟨nofun, nofun⟩
  · exact ⟨fun _ => ⟨entry, rfl⟩, fun _ => ⟨_, rfl⟩⟩

theorem get?_fieldsOfMembers {members : List (String × Json)} {fields : Tree}
    (read : fieldsOfMembers members = .ok fields) (key : String) :
    (Keyed.get? key members).map entryOfJson = (Keyed.get? key fields).map .ok := by
  induction members generalizing fields with
  | nil =>
    cases read
    rfl
  | cons member rest ih =>
    rw [fieldsOfMembers] at read
    rcases first : entryOfJson member.2 with e | entry
    · rw [first] at read
      cases read
    · rcases later : fieldsOfMembers rest with e | others
      · rw [first, later] at read
        cases read
      · rw [first, later] at read
        cases read
        rw [Keyed.get?, Keyed.get?]
        by_cases same : member.1 = key
        · rw [if_pos same, if_pos same, Option.map_some, Option.map_some, first]
        · rw [if_neg same, if_neg same]
          exact ih later

theorem nested_of_entryOfJson {members : List (String × Json)} {entry : Entry}
    (read : entryOfJson (.object members) = .ok entry) :
    ∃ fields own entries, fieldsOfMembers members = .ok fields ∧ nestedOf fields = .ok entry ∧
      entry = .nested own entries := by
  rw [entryOfJson] at read
  rcases inner : fieldsOfMembers members with e | fields
  · rw [inner] at read
    cases read
  · rw [inner] at read
    dsimp only at read
    have made := read
    rw [nestedOf] at made
    rcases found : Keyed.get? ownTextKey fields with _ | own | ⟨own, entries⟩
    · rw [found] at made
      cases made
      exact ⟨fields, none, fields, rfl, read, rfl⟩
    · rw [found] at made
      cases made
      exact ⟨fields, some own, _, rfl, read, rfl⟩
    · rw [found] at made
      cases made

/-- An accepted entry can be read just when no own description in it is an object. -/
theorem exists_entryOfJson_iff {value : Json} (accepted : AcceptedEntry value) :
    (∃ entry, entryOfJson value = .ok entry) ↔ ¬ HasNestedText value := by
  induction size : sizeOf value using Nat.strongRecOn generalizing value with
  | ind size ih =>
    subst size
    rcases accepted with ⟨text, rfl⟩ | ⟨path, fulfils⟩
    · exact ⟨fun _ => nofun, fun _ => ⟨.text text, rfl⟩⟩
    obtain ⟨members, rfl, -⟩ := fulfils_docs_iff.1 fulfils
    have inner : ∀ member ∈ members,
        (∃ entry, entryOfJson member.2 = .ok entry) ↔ ¬ HasNestedText member.2 := by
      intro member mem
      exact ih _ (Json.sizeOf_lt_of_mem_members mem) (acceptedEntry_of_mem fulfils mem) rfl
    constructor
    · rintro ⟨entry, read⟩ nested
      obtain ⟨fields, own, entries, readFields, made, -⟩ := nested_of_entryOfJson read
      have readable := exists_fieldsOfMembers_iff.1 ⟨fields, readFields⟩
      cases nested with
      | @inside _ key value mem nested => exact (inner _ mem).1 (readable _ mem) nested
      | own found =>
        have own_read := get?_fieldsOfMembers readFields ownTextKey
        rw [found, Option.map_some] at own_read
        obtain ⟨ownEntry, foundEntry, same⟩ := Option.map_eq_some_iff.1 own_read.symm
        obtain ⟨-, own, entries, -, -, rfl⟩ := nested_of_entryOfJson same.symm
        rw [nestedOf, foundEntry] at made
        cases made
    · intro clear
      have readable : ∀ member ∈ members, ∃ entry, entryOfJson member.2 = .ok entry :=
        fun member mem => (inner member mem).2 fun nested => clear (.inside mem nested)
      obtain ⟨fields, readFields⟩ := exists_fieldsOfMembers_iff.2 readable
      rw [entryOfJson, readFields]
      dsimp only
      rw [nestedOf]
      rcases own : Keyed.get? ownTextKey fields with _ | text | ⟨own', entries⟩
      · exact ⟨_, rfl⟩
      · exact ⟨_, rfl⟩
      · -- The own description was read from an object, which there is none of.
        have own_read := get?_fieldsOfMembers readFields ownTextKey
        rw [own, Option.map_some] at own_read
        obtain ⟨value, found, same⟩ := Option.map_eq_some_iff.1 own_read
        rcases acceptedEntry_of_mem fulfils (Keyed.mem_of_get? found) with
          ⟨text, rfl⟩ | ⟨path', docs⟩
        · cases same
        · obtain ⟨inner, rfl, -⟩ := fulfils_docs_iff.1 docs
          exact (clear (.own found)).elim

/-- A tree can be read just when no own description in its entries is an object. -/
theorem exists_treeOfJson_iff {members : List (String × Json)}
    (accepted : ∀ member ∈ members, AcceptedEntry member.2) :
    (∃ tree, treeOfJson (.object members) = .ok tree) ↔
      ∀ member ∈ members, ¬ HasNestedText member.2 := by
  rw [treeOfJson, exists_fieldsOfMembers_iff]
  exact forall₂_congr fun member mem => exists_entryOfJson_iff (accepted member mem)

/-! ## Documents -/

/-- A member that the schema accepts in a document. -/
inductive AcceptedMember : String → Json → Prop
  | kind (kind : DocumentKind) : AcceptedMember "kind" (.string kind.name)
  | text {key : String} (mem : key ∈ ["name", "description", "docstring", "discriminator"])
      (content : String) : AcceptedMember key (.string content)
  | schema {value : Json} {node : SchemaNode} (read : nodeOfJson value = .ok node) :
      AcceptedMember "schema" value
  | docs {members : List (String × Json)}
      (entries : ∀ member ∈ members, AcceptedEntry member.2) :
      AcceptedMember "docs" (.object members)
  | skipFields (names : List String) :
      AcceptedMember "skipFields" (.array (names.map .string))

theorem exists_eq_map_string {items : List Json}
    (texts : ∀ item ∈ items, ∃ text, item = .string text) :
    ∃ names : List String, items = names.map .string := by
  induction items with
  | nil => exact ⟨[], rfl⟩
  | cons item rest ih =>
    obtain ⟨⟨text, rfl⟩, later⟩ := List.forall_mem_cons.1 texts
    obtain ⟨names, rfl⟩ := ih later
    exact ⟨text :: names, rfl⟩

theorem acceptedMember_of_fulfils {key : String} {value : Json} {schema : Schema}
    {path : List PathStep} (known : Keyed.get? key documentMembers = some schema)
    (fulfils : Fulfils targets path value schema) : AcceptedMember key value := by
  have mem := Keyed.mem_of_get? known
  simp only [documentMembers, List.mem_cons, List.not_mem_nil, or_false, Prod.mk.injEq] at mem
  rcases mem with ⟨rfl, rfl⟩ | ⟨rfl, rfl⟩ | ⟨rfl, rfl⟩ | ⟨rfl, rfl⟩ | ⟨rfl, rfl⟩ | ⟨rfl, rfl⟩ |
    ⟨rfl, rfl⟩ | ⟨rfl, rfl⟩
  · obtain ⟨kind, rfl⟩ := fulfils_kind_iff.1 fulfils
    exact .kind kind
  · obtain ⟨name, rfl, -⟩ := fulfils_name_iff.1 fulfils
    exact .text (by decide) name
  · obtain ⟨text, rfl⟩ := fulfils_text_iff.1 fulfils
    exact .text (by decide) text
  · obtain ⟨node, read⟩ := nodeOfJson_of_fulfils fulfils
    exact .schema read
  · obtain ⟨text, rfl⟩ := fulfils_text_iff.1 fulfils
    exact .text (by decide) text
  · obtain ⟨members, rfl, -⟩ := fulfils_docs_iff.1 fulfils
    exact .docs fun member mem => acceptedEntry_of_mem fulfils mem
  · obtain ⟨items, rfl, each⟩ := judge_arraySchema_iff.1 ((fulfils_iff_judge ..).1 fulfils)
    obtain ⟨names, rfl⟩ := exists_eq_map_string fun item mem => by
      obtain ⟨index, found⟩ := List.mem_iff_getElem?.1 mem
      exact fulfils_text_iff.1 (each index item found)
    exact .skipFields names
  · obtain ⟨text, rfl⟩ := fulfils_text_iff.1 fulfils
    exact .text (by decide) text

/-- Has the member under a key been read?  Only members that a document needs are asked for. -/
def PartialDocument.has (p : PartialDocument) : String → Bool
  | "kind" => p.kind.isSome
  | "name" => p.name.isSome
  | "schema" => p.schema.isSome
  | "docstring" => p.docstring.isSome
  | "docs" => p.docs.isSome
  | _ => true

theorem PartialDocument.has_mono (p : PartialDocument) {q : PartialDocument}
    (kind : p.kind.isSome → q.kind.isSome) (name : p.name.isSome → q.name.isSome)
    (schema : p.schema.isSome → q.schema.isSome)
    (docstring : p.docstring.isSome → q.docstring.isSome)
    (docs : p.docs.isSome → q.docs.isSome) (key : String) (has : p.has key) : q.has key := by
  unfold PartialDocument.has at has ⊢
  split
  · exact kind has
  · exact name has
  · exact schema has
  · exact docstring has
  · exact docs has
  · rfl

theorem stringArray_texts (names : List String) :
    stringArray (.array (names.map .string)) = .ok names := by
  rw [stringArray]
  induction names with
  | nil => rfl
  | cons name rest ih =>
    rw [List.map_cons, List.mapM_cons, ih]
    rfl

/-! What reading an accepted member does. -/

section ReadMember

variable {done : PartialDocument}

theorem readMember_kind (kind : DocumentKind) :
    readMember done ("kind", .string kind.name) = .ok { done with kind := some kind } := by
  cases kind <;> rfl

theorem readMember_schema {value : Json} {node : SchemaNode} (read : nodeOfJson value = .ok node) :
    readMember done ("schema", value) = .ok { done with schema := some node } := by
  change (nodeOfJson value >>= fun node => pure { done with schema := some node }) = _
  rw [read]
  rfl

theorem readMember_docs (members : List (String × Json)) :
    readMember done ("docs", .object members) =
      (treeOfJson (.object members)).map fun tree => { done with docs := some tree } := by
  change (treeOfJson (.object members) >>= fun tree => pure { done with docs := some tree }) = _
  rcases treeOfJson (.object members) with e | tree <;> rfl

theorem readMember_skipFields (names : List String) :
    readMember done ("skipFields", .array (names.map .string)) =
      .ok { done with skipFields := names } := by
  change (stringArray _ >>= fun names => pure { done with skipFields := names }) = _
  rw [stringArray_texts]
  rfl

theorem readMember_text {key : String}
    (mem : key ∈ ["name", "description", "docstring", "discriminator"]) (content : String) :
    ∃ read, readMember done (key, .string content) = .ok read := by
  simp only [List.mem_cons, List.not_mem_nil, or_false] at mem
  rcases mem with rfl | rfl | rfl | rfl <;> exact ⟨_, rfl⟩

end ReadMember

/-- An accepted member can be read, unless it is a tree with an own description that is an
object. -/
theorem AcceptedMember.exists_readMember_iff {key : String} {value : Json}
    (accepted : AcceptedMember key value) (done : PartialDocument) :
    (∃ read, readMember done (key, value) = .ok read) ↔
      ¬ (key = "docs" ∧
        ∃ tree, value = .object tree ∧ ∃ member ∈ tree, HasNestedText member.2) := by
  cases accepted with
  | kind kind =>
    exact iff_of_true ⟨_, readMember_kind kind⟩ fun docs => absurd docs.1 (by decide)
  | schema read =>
    exact iff_of_true ⟨_, readMember_schema read⟩ fun docs => absurd docs.1 (by decide)
  | skipFields names =>
    exact iff_of_true ⟨_, readMember_skipFields names⟩ fun docs => absurd docs.1 (by decide)
  | text mem content =>
    refine iff_of_true (readMember_text mem content) ?_
    rintro ⟨rfl, -⟩
    exact absurd mem (by decide)
  | @docs members entries =>
    have readable : (∃ read, readMember done ("docs", .object members) = .ok read) ↔
        ∃ tree, treeOfJson (.object members) = .ok tree := by
      rw [readMember_docs]
      rcases treeOfJson (.object members) with e | tree
      · exact ⟨nofun, nofun⟩
      · exact ⟨fun _ => ⟨tree, rfl⟩, fun _ => ⟨_, rfl⟩⟩
    rw [readable, exists_treeOfJson_iff entries]
    constructor
    · rintro clear ⟨-, tree, ⟨⟩, member, mem, nested⟩
      exact clear member mem nested
    · intro clear member mem nested
      exact clear ⟨rfl, members, rfl, member, mem, nested⟩

/-- An accepted member that has been read is there, and so is whatever was there before. -/
theorem AcceptedMember.has_of_readMember {key : String} {value : Json}
    (accepted : AcceptedMember key value) {done read : PartialDocument}
    (success : readMember done (key, value) = .ok read) :
    read.has key ∧ ∀ other, done.has other → read.has other := by
  cases accepted with
  | kind k =>
    cases (readMember_kind k).symm.trans success
    exact ⟨rfl, done.has_mono (fun _ => rfl) id id id id⟩
  | schema node =>
    cases (readMember_schema node).symm.trans success
    exact ⟨rfl, done.has_mono id id (fun _ => rfl) id id⟩
  | @docs members entries =>
    rw [readMember_docs] at success
    rcases tree_read : treeOfJson (.object members) with e | tree
    · rw [tree_read] at success
      cases success
    · rw [tree_read] at success
      cases success
      exact ⟨rfl, done.has_mono id id id id fun _ => rfl⟩
  | skipFields names =>
    cases (readMember_skipFields names).symm.trans success
    exact ⟨rfl, done.has_mono id id id id id⟩
  | text mem content =>
    simp only [List.mem_cons, List.not_mem_nil, or_false] at mem
    rcases mem with rfl | rfl | rfl | rfl
    · cases success
      exact ⟨rfl, done.has_mono id (fun _ => rfl) id id id⟩
    · cases success
      exact ⟨rfl, done.has_mono id id id id id⟩
    · cases success
      exact ⟨rfl, done.has_mono id id id (fun _ => rfl) id⟩
    · cases success
      exact ⟨rfl, done.has_mono id id id id id⟩

theorem has_of_foldlM {members : List (String × Json)}
    (accepted : ∀ member ∈ members, AcceptedMember member.1 member.2) {done read : PartialDocument}
    (success : members.foldlM readMember done = .ok read) :
    (∀ key ∈ Keyed.keys members, read.has key) ∧ ∀ key, done.has key → read.has key := by
  induction members generalizing done with
  | nil =>
    cases success
    exact ⟨fun key mem => (List.not_mem_nil mem).elim, fun key has => has⟩
  | cons member rest ih =>
    obtain ⟨first, later⟩ := List.forall_mem_cons.1 accepted
    rw [List.foldlM_cons] at success
    rcases step : readMember done member with e | next
    · rw [step] at success
      cases success
    · rw [step] at success
      obtain ⟨has_key, kept⟩ := first.has_of_readMember step
      obtain ⟨has_rest, kept_rest⟩ := ih later success
      refine ⟨fun key mem => ?_, fun key has => kept_rest key (kept key has)⟩
      rcases List.mem_cons.1 mem with rfl | mem
      · exact kept_rest _ has_key
      · exact has_rest key mem

/-- A document of a file has a tree with an own description that is an object. -/
def DocumentHasNestedText (document : Json) : Prop :=
  ∃ members tree, document = .object members ∧ ("docs", .object tree) ∈ members ∧
    ∃ member ∈ tree, HasNestedText member.2

/-- A document that the schema accepts: it has the members that it must have, all its members are
accepted, and it has documentation. -/
def AcceptedDocument (document : Json) : Prop :=
  ∃ members, document = .object members ∧
    (∀ key ∈ ["kind", "name", "schema"], key ∈ Keyed.keys members) ∧
    (∀ member ∈ members, AcceptedMember member.1 member.2) ∧
    ("docstring" ∈ Keyed.keys members ∨ "docs" ∈ Keyed.keys members)

theorem acceptedDocument_of_fulfils {document : Json} {path : List PathStep}
    (fulfils : Fulfils targets path document (referring "document")) :
    AcceptedDocument document := by
  obtain ⟨members, rfl, required, known, documented⟩ := fulfils_document_iff.1 fulfils
  refine ⟨members, rfl, fun key mem => ?_, fun member mem => ?_, ?_⟩
  · rw [← Keyed.isSome_get?_iff, Option.isSome_iff_exists]
    exact required key mem
  · obtain ⟨schema, found, fulfils⟩ := known member mem
    exact acceptedMember_of_fulfils found fulfils
  · rw [← Keyed.isSome_get?_iff, ← Keyed.isSome_get?_iff]
    rcases docstring : Keyed.get? "docstring" members with _ | text
    · rcases docs : Keyed.get? "docs" members with _ | tree
      · rw [docstring, docs] at documented
        cases documented.2 rfl
      · exact .inr rfl
    · exact .inl rfl

/-- The document that accepted members are read to, with its kind, name and schema. -/
theorem documentOfJson_eq {members : List (String × Json)} {read : PartialDocument}
    (success : members.foldlM readMember {} = .ok read)
    (has : ∀ key ∈ ["kind", "name", "schema"], read.has key) :
    ∃ document, documentOfJson (.object members) = .ok document ∧
      document.docstring = read.docstring ∧ document.docs = read.docs := by
  obtain ⟨kind, kind_eq⟩ := Option.isSome_iff_exists.1 (has "kind" (by decide))
  obtain ⟨name, name_eq⟩ := Option.isSome_iff_exists.1 (has "name" (by decide))
  obtain ⟨schema, schema_eq⟩ := Option.isSome_iff_exists.1 (has "schema" (by decide))
  refine ⟨⟨kind, name, read.description, schema, read.docstring, read.docs, read.skipFields,
    read.discriminator⟩, ?_, rfl, rfl⟩
  rw [documentOfJson, success]
  dsimp only [bind, Except.bind]
  rw [kind_eq, name_eq, schema_eq]
  rfl

/-- An accepted document can be read just when no own description in its tree is an object. -/
theorem exists_documentOfJson_iff {document : Json} (accepted : AcceptedDocument document) :
    (∃ read, documentOfJson document = .ok read) ↔ ¬ DocumentHasNestedText document := by
  obtain ⟨members, rfl, required, each, -⟩ := accepted
  have step : ∀ member ∈ members, ∀ done, (∃ read, readMember done member = .ok read) ↔
      ¬ (member.1 = "docs" ∧ ∃ tree, member.2 = .object tree ∧
        ∃ entry ∈ tree, HasNestedText entry.2) :=
    fun member mem done => (each member mem).exists_readMember_iff done
  have members_read : (∃ read, members.foldlM readMember {} = .ok read) ↔
      ¬ DocumentHasNestedText (.object members) := by
    rw [exists_foldlM_eq_ok_iff step]
    constructor
    · rintro clear ⟨members', tree, ⟨⟩, mem, nested⟩
      exact clear _ mem ⟨rfl, tree, rfl, nested⟩
    · rintro clear ⟨key, value⟩ mem ⟨rfl, tree, rfl, nested⟩
      exact clear ⟨members, tree, rfl, mem, nested⟩
  rw [← members_read]
  constructor
  · rintro ⟨document, success⟩
    rcases read : members.foldlM readMember {} with e | done
    · rw [documentOfJson, read] at success
      cases success
    · exact ⟨done, rfl⟩
  · rintro ⟨read, success⟩
    have has := (has_of_foldlM each success).1
    obtain ⟨document, document_eq, -, -⟩ :=
      documentOfJson_eq success fun key mem => has key (required key mem)
    exact ⟨document, document_eq⟩

theorem documented_of_accepted {document : Json} (accepted : AcceptedDocument document)
    {read : CatalogDocument} (success : documentOfJson document = .ok read) :
    read.docstring = none → read.docs ≠ none := by
  obtain ⟨members, rfl, required, each, documented⟩ := accepted
  rcases folded : members.foldlM readMember {} with e | done
  · rw [documentOfJson, folded] at success
    cases success
  · have has := (has_of_foldlM each folded).1
    obtain ⟨read', same, docstring, docs⟩ :=
      documentOfJson_eq folded fun key mem => has key (required key mem)
    cases same.symm.trans success
    rw [docstring, docs]
    intro no_docstring no_docs
    rcases documented with mem | mem
    · have found : done.docstring.isSome := has "docstring" mem
      rw [no_docstring] at found
      cases found
    · have found : done.docs.isSome := has "docs" mem
      rw [no_docs] at found
      cases found

/-! ## Catalogs -/

theorem validateCatalog_eq_ok_iff {value : Json} :
    validateCatalog value = .ok () ↔ catalogViolations value = [] := by
  unfold validateCatalog
  rcases catalogViolations value with _ | ⟨first, rest⟩
  · exact ⟨fun _ => rfl, fun _ => rfl⟩
  · exact ⟨nofun, nofun⟩

theorem acceptedDocuments {value : Json} (accepted : catalogViolations value = []) :
    ∃ items, value.get? "documents" = some (.array items) ∧
      ∀ document ∈ items, AcceptedDocument document := by
  obtain ⟨members, rfl, ⟨documents, found⟩, each⟩ := catalogViolations_eq_nil_iff.1 accepted
  obtain ⟨-, items, same, fulfils⟩ := each _ (Keyed.mem_of_get? found)
  cases same
  refine ⟨items, found, fun document mem => ?_⟩
  obtain ⟨index, found'⟩ := List.mem_iff_getElem?.1 mem
  exact acceptedDocument_of_fulfils (fulfils index document found')

theorem catalogDocuments_of_accepted {value : Json} (accepted : catalogViolations value = [])
    {items : List Json} (found : value.get? "documents" = some (.array items)) :
    catalogDocuments value = (items.mapM documentOfJson).mapError .misshapen := by
  rw [catalogDocuments, accepted]
  dsimp only
  rw [documentsOfJson, found]

theorem documented_of_catalogDocuments {value : Json} {documents : List CatalogDocument}
    (read : catalogDocuments value = .ok documents) :
    ∀ document ∈ documents, document.docstring = none → document.docs ≠ none := by
  intro document mem
  have accepted : catalogViolations value = [] := by
    refine Classical.byContradiction fun violated => ?_
    rw [catalogDocuments_eq_error_iff.2 (.inl ⟨violated, rfl⟩)] at read
    cases read
  obtain ⟨items, found, each⟩ := acceptedDocuments accepted
  rw [catalogDocuments_of_accepted accepted found] at read
  rcases items_read : items.mapM documentOfJson with e | documents'
  · rw [items_read] at read
    cases read
  · rw [items_read] at read
    cases read
    obtain ⟨item, item_mem, success⟩ := exists_of_mem_mapM items_read mem
    exact documented_of_accepted (each item item_mem) success

/-- The JSON form of a catalog has, in an entry of a tree, an object under the key of the entry's
own description. -/
def CatalogHasNestedText (value : Json) : Prop :=
  ∃ items, value.get? "documents" = some (.array items) ∧
    ∃ document ∈ items, DocumentHasNestedText document

/-- The documents of an accepted catalog can be read just when no own description of an entry is an
object. -/
theorem exists_catalogDocuments_iff {value : Json} (accepted : catalogViolations value = []) :
    (∃ documents, catalogDocuments value = .ok documents) ↔ ¬ CatalogHasNestedText value := by
  obtain ⟨items, found, each⟩ := acceptedDocuments accepted
  have read : (∃ documents, catalogDocuments value = .ok documents) ↔
      ∀ document ∈ items, ∃ read, documentOfJson document = .ok read := by
    rw [catalogDocuments_of_accepted accepted found, ← exists_mapM_eq_ok_iff]
    rcases items.mapM documentOfJson with e | documents
    · exact ⟨nofun, nofun⟩
    · exact ⟨fun _ => ⟨documents, rfl⟩, fun _ => ⟨documents, rfl⟩⟩
  rw [read]
  constructor
  · rintro all ⟨items', found', document, mem, nested⟩
    cases found.symm.trans found'
    exact (exists_documentOfJson_iff (each document mem)).1 (all document mem) nested
  · intro clear document mem
    refine (exists_documentOfJson_iff (each document mem)).2 fun nested => ?_
    exact clear ⟨items, found, document, mem, nested⟩

/-- A document that has documentation gives a definition just when its docstring, if it has one, can
be read. -/
theorem CatalogDocument.exists_toDefinition_iff {document : CatalogDocument}
    (documented : document.docstring = none → document.docs ≠ none) :
    (∃ definition, document.toDefinition = .ok definition) ↔
      ∀ docstring, document.docstring = some docstring →
        ∃ tree, ofDocstring docstring = .ok tree := by
  rcases outcome : document.toDefinition with e | definition
  · refine iff_of_false nofun fun all => ?_
    rcases toDefinition_eq_error_iff.1 outcome with ⟨docstring, fault, found, failed, -⟩ |
      ⟨no_docstring, no_docs, -⟩
    · obtain ⟨tree, read⟩ := all docstring found
      rw [failed] at read
      cases read
    · exact documented no_docstring no_docs
  · refine iff_of_true ⟨definition, rfl⟩ fun docstring found => ?_
    rcases read : ofDocstring docstring with fault | tree
    · have failed := toDefinition_eq_error_iff.2 (.inl ⟨docstring, fault, found, read, rfl⟩)
      rw [failed] at outcome
      cases outcome
    · exact ⟨tree, rfl⟩

/-- A catalog whose documents can be read has the error of its first document with a docstring that
cannot. -/
theorem ofJson_eq_error_iff_badDocstring {value : Json} {documents : List CatalogDocument}
    (read : catalogDocuments value = .ok documents) (e : LoadError) :
    Catalog.ofJson value = .error e ↔
      ∃ front document back docstring fault, documents = front ++ document :: back ∧
        (∀ d ∈ front, ∀ text, d.docstring = some text → ∃ tree, ofDocstring text = .ok tree) ∧
        document.docstring = some docstring ∧ ofDocstring docstring = .error fault ∧
        e = .badDocstring document.name fault := by
  have documented := documented_of_catalogDocuments read
  rw [Catalog.ofJson_eq_error_iff read]
  constructor
  · rintro ⟨front, document, back, rfl, defined, undefined⟩
    have front_documented : ∀ d ∈ front, d.docstring = none → d.docs ≠ none :=
      fun d mem => documented d (List.mem_append_left _ mem)
    rcases CatalogDocument.toDefinition_eq_error_iff.1 undefined with
      ⟨docstring, fault, found, failed, rfl⟩ | ⟨no_docstring, no_docs, -⟩
    · refine ⟨front, document, back, docstring, fault, rfl, fun d mem => ?_, found, failed, rfl⟩
      exact (CatalogDocument.exists_toDefinition_iff (front_documented d mem)).1 (defined d mem)
    · exact (documented document (by simp) no_docstring no_docs).elim
  · rintro ⟨front, document, back, docstring, fault, rfl, readable, found, failed, rfl⟩
    refine ⟨front, document, back, rfl, fun d mem => ?_, ?_⟩
    · refine (CatalogDocument.exists_toDefinition_iff ?_).2 (readable d mem)
      exact documented d (List.mem_append_left _ mem)
    · exact CatalogDocument.toDefinition_eq_error_iff.2
        (.inl ⟨docstring, fault, found, failed, rfl⟩)

/-- What the schema accepts can be loaded, but for trees in which an object stands in the place of
an entry's own description.  Such a catalog is refused for its shape; any other one can be wrong in
its docstrings only, and has the error of its first document with a wrong one.  No catalog is
refused for a document without documentation. -/
theorem accepted_loads (value : Json) :
    (validateCatalog value = .ok () →
      ((∃ documents, catalogDocuments value = .ok documents) ↔ ¬ CatalogHasNestedText value) ∧
      (∀ e, catalogDocuments value = .error e → ∃ shape, e = .misshapen shape) ∧
      ∀ documents, catalogDocuments value = .ok documents → ∀ e, Catalog.ofJson value = .error e ↔
        ∃ front document back docstring fault, documents = front ++ document :: back ∧
          (∀ d ∈ front, ∀ text, d.docstring = some text → ∃ tree, ofDocstring text = .ok tree) ∧
          document.docstring = some docstring ∧ ofDocstring docstring = .error fault ∧
          e = .badDocstring document.name fault) ∧
    ∀ name, Catalog.ofJson value ≠ .error (.noDocumentation name) := by
  refine ⟨fun valid => ?_, fun name failed => ?_⟩
  · have accepted := validateCatalog_eq_ok_iff.1 valid
    refine ⟨exists_catalogDocuments_iff accepted, fun e failed => ?_,
      fun documents read => ofJson_eq_error_iff_badDocstring read⟩
    rcases catalogDocuments_eq_error_iff.1 failed with ⟨violated, -⟩ | ⟨-, shape, -, rfl⟩
    · exact (violated accepted).elim
    · exact ⟨shape, rfl⟩
  · rcases read : catalogDocuments value with e | documents
    · rw [Catalog.ofJson_of_error read] at failed
      cases failed
      rcases catalogDocuments_eq_error_iff.1 read with ⟨-, ⟨⟩⟩ | ⟨-, shape, -, ⟨⟩⟩
    · obtain ⟨front, document, back, docstring, fault, -, -, -, -, ⟨⟩⟩ :=
        (ofJson_eq_error_iff_badDocstring read _).1 failed

/-- A pattern of a character and any number of others is found in a text of one such character. -/
theorem found_singleton {first others : Text.CharSet} {c : Char} (held : first.holds c)
    {text : String} (single : text.toList = [c]) :
    (Pattern.sequence [.anchor .textStart, .set first, .times (.set others) 0 none true,
      .anchor .textEnd]).found text := by
  have start : ((placesFrom [] 0 [c]).filter Anchor.textStart.holds).filterMap (·.pass first) =
      [⟨[c], [], 1, []⟩] := by
    change [Place.mk [] [c] 0 []].filterMap (·.pass first) = _
    rw [List.filterMap_cons, Place.pass]
    dsimp only
    rw [if_pos held]
    rfl
  have spread_end : ∀ next : Place → List Place, next ⟨[c], [], 1, []⟩ = [] →
      spread next true none [⟨[c], [], 1, []⟩] = [⟨[c], [], 1, []⟩] := by
    intro next ends
    simp [spread, Spread.from, ends, Spread.add, distinctPlaces, distinctPlaces.go]
  rw [Pattern.found, single, Pattern.ends]
  simp only [sequenceEnds, Pattern.ends, start, moved, Option.map_none]
  rw [spread_end _ rfl]
  rfl

/-- The file of a catalog of one app with the given shape and documentation. -/
def appFile (node : Json) (documentation : String × Json) : Json :=
  .object [("documents", .array [.object
    [("kind", .string "app"), ("name", .string "A"), ("schema", node), documentation]])]

/-- A node that allows any value. -/
def anyNode : Json := .object [("type", .string "any")]

theorem fulfils_anyNode (path : List PathStep) : Fulfils targets path anyNode (referring "node") :=
  fulfils_node_iff.2 ⟨_, "any", rfl, by decide, rfl, by simp [nodeContents]⟩

/-- Documentation that puts an object in the place of an entry's own description. -/
def nestedText : String × Json :=
  ("docs", .object [("port", .object [("<<text>>", .object [("a", .string "A port")])])])

/-- The schema accepts an object with one field if it accepts what the field can be. -/
theorem fulfils_oneField {node : Json} (leaf : ∀ path, Fulfils targets path node (referring "node"))
    (key : String) (path : List PathStep) :
    Fulfils targets path (.object [("type", .string "object"), ("fields", .object [(key, node)])])
      (referring "node") := by
  have fields : ∀ path, Fulfils targets path (.object [(key, node)])
      (mapSchema (referring "node")) :=
    fun path => (fulfils_iff_judge ..).2 (judge_mapSchema_iff.2
      ⟨_, rfl, List.forall_mem_singleton.2 (leaf _)⟩)
  refine fulfils_node_iff.2 ⟨_, "object", rfl, by decide, rfl, ?_⟩
  simp [nodeContents, Keyed.get?, fields]

theorem fulfils_oneText (key text : String) (path : List PathStep) :
    Fulfils targets path (.object [(key, .string text)]) (referring "docs") :=
  fulfils_docs_iff.2 ⟨_, rfl, List.forall_mem_singleton.2 (.inl ⟨_, rfl⟩)⟩

theorem fulfils_name_letter {c : Char} (letter : c ∈ ['A', 'B']) (path : List PathStep) :
    Fulfils targets path (.string (String.ofList [c])) nameSchema := by
  have reading : ∃ first others, Pattern.ofText? namePattern = some (.sequence
      [.anchor .textStart, .set first, .times (.set others) 0 none true, .anchor .textEnd]) ∧
        first.holds 'A' = true ∧ first.holds 'B' = true :=
    ⟨_, _, rfl, by decide, by decide⟩
  obtain ⟨first, others, reading, held_a, held_b⟩ := reading
  have held : ∀ c ∈ ['A', 'B'], first.holds c = true :=
    List.forall_mem_cons.2 ⟨held_a, List.forall_mem_singleton.2 held_b⟩
  refine fulfils_name_iff.2 ⟨_, rfl, ?_⟩
  rw [reading, Option.any_some]
  exact found_singleton (held c letter) String.toList_ofList

/-- The schema accepts an app if it accepts its name, its shape and, as a docstring or a tree, its
documentation. -/
theorem fulfils_app {name : String} (named : ∀ path, Fulfils targets path (.string name) nameSchema)
    {node : Json} (shape : ∀ path, Fulfils targets path node (referring "node"))
    {documentation : String × Json} {schema : Schema}
    (key : documentation.1 = "docstring" ∨ documentation.1 = "docs")
    (known : Keyed.get? documentation.1 documentMembers = some schema)
    (fulfils : ∀ path, Fulfils targets path documentation.2 schema) (path : List PathStep) :
    Fulfils targets path (.object
      [("kind", .string "app"), ("name", .string name), ("schema", node), documentation])
      (referring "document") := by
  refine fulfils_document_iff.2 ⟨_, rfl, by simp [Keyed.get?], ?_, ?_⟩
  · refine List.forall_mem_cons.2 ⟨⟨_, rfl, fulfils_kind_iff.2 ⟨.app, rfl⟩⟩, ?_⟩
    refine List.forall_mem_cons.2 ⟨⟨_, rfl, named _⟩, ?_⟩
    refine List.forall_mem_cons.2 ⟨⟨_, rfl, shape _⟩, ?_⟩
    exact List.forall_mem_singleton.2 ⟨schema, known, fulfils _⟩
  · rcases documentation with ⟨_, tree⟩
    rcases key with rfl | rfl <;> simp [Keyed.get?]

/-- The schema accepts the app's file if it accepts the shape and the documentation. -/
theorem appFile_valid {node : Json} (shape : ∀ path, Fulfils targets path node (referring "node"))
    {documentation : String × Json} {schema : Schema}
    (key : documentation.1 = "docstring" ∨ documentation.1 = "docs")
    (known : Keyed.get? documentation.1 documentMembers = some schema)
    (fulfils : ∀ path, Fulfils targets path documentation.2 schema) :
    validateCatalog (appFile node documentation) = .ok () := by
  rw [validateCatalog_eq_ok_iff, catalogViolations_eq_nil_iff]
  refine ⟨_, rfl, ⟨_, rfl⟩, List.forall_mem_singleton.2 ⟨rfl, _, rfl, ?_⟩⟩
  rintro (_ | index) item found
  · cases found
    exact fulfils_app (fulfils_name_letter (by decide)) shape key known fulfils _
  · cases found

theorem appFile_loads :
    let nested := appFile anyNode nestedText
    let undefined := appFile anyNode ("docstring", .string "")
    (validateCatalog nested = .ok () ∧ CatalogHasNestedText nested ∧
      ∀ documents, catalogDocuments nested ≠ .ok documents) ∧
    (validateCatalog undefined = .ok () ∧ ¬ CatalogHasNestedText undefined ∧
      Catalog.ofJson undefined = .error (.badDocstring "A" .noDefinitions)) := by
  intro nested undefined
  have nested_valid : validateCatalog nested = .ok () := by
    refine appFile_valid fulfils_anyNode (.inr rfl) rfl fun path => ?_
    refine fulfils_docs_iff.2 ⟨_, rfl, List.forall_mem_singleton.2 (.inr ?_)⟩
    exact fulfils_docs_iff.2 ⟨_, rfl, List.forall_mem_singleton.2 (.inr (fulfils_oneText _ _ _))⟩
  have nested_text : CatalogHasNestedText nested := by
    refine ⟨_, rfl, _, List.mem_singleton_self _, _, _, rfl,
      .tail _ (.tail _ (.tail _ (.head _))), ?_⟩
    exact ⟨_, List.mem_singleton_self _, .own rfl⟩
  have undefined_valid : validateCatalog undefined = .ok () :=
    appFile_valid fulfils_anyNode (.inl rfl) rfl fun path => fulfils_text_iff.2 ⟨_, rfl⟩
  have undefined_read : catalogDocuments undefined = .ok
      [⟨.app, "A", none, .scalar .any, some "", none, [], none⟩] := by
    rw [catalogDocuments_of_accepted (validateCatalog_eq_ok_iff.1 undefined_valid) rfl]
    rfl
  obtain ⟨nested_iff, -, -⟩ := (accepted_loads nested).1 nested_valid
  obtain ⟨undefined_iff, -, failure⟩ := (accepted_loads undefined).1 undefined_valid
  refine ⟨⟨nested_valid, nested_text, fun documents read => ?_⟩, undefined_valid,
    undefined_iff.1 ⟨_, undefined_read⟩, ?_⟩
  · exact nested_iff.1 ⟨documents, read⟩ nested_text
  · exact (failure _ undefined_read _).2
      ⟨[], _, [], "", .noDefinitions, rfl, fun d mem => (List.not_mem_nil mem).elim, rfl, rfl, rfl⟩

end ApiSchema
