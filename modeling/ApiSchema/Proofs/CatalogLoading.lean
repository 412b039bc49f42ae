import ApiSchema.Document.CatalogFile

/-!
# Loading in steps

A catalog is loaded by reading the file, checking its structure, and reading one docstring after the
other; the first step that fails gives the error.  What is read from a list gives an error just when
an item does and all items before it can be read (`mapM_eq_error_iff`), so a catalog whose structure
is right has the error of its first document without documentation (`ofJson_eq_error_iff`).
-/

namespace ApiSchema

open Documentation
open Files (FileFault OsText)

/-! ## Steps that can fail -/

section Reading

variable {α β γ ε : Type} {f : α → Except ε β}

theorem exists_mapM_eq_ok_iff {as : List α} :
    (∃ bs, as.mapM f = .ok bs) ↔ ∀ a ∈ as, ∃ b, f a = .ok b := by
  induction as with
  | nil => exact ⟨fun _ a mem => (List.not_mem_nil mem).elim, fun _ => ⟨[], rfl⟩⟩
  | cons a rest ih =>
    rw [List.mapM_cons, List.forall_mem_cons, ← ih]
    rcases f a with e | b
    · exact ⟨nofun, nofun⟩
    · rcases rest.mapM f with e | bs
      · exact ⟨nofun, nofun⟩
      · exact ⟨fun _ => ⟨⟨b, rfl⟩, bs, rfl⟩, fun _ => ⟨b :: bs, rfl⟩⟩

/-- The first item that cannot be read gives the error. -/
theorem mapM_eq_error_iff {as : List α} {e : ε} :
    as.mapM f = .error e ↔ ∃ front a back, as = front ++ a :: back ∧
      (∀ b ∈ front, ∃ c, f b = .ok c) ∧ f a = .error e := by
  constructor
  · intro failed
    induction as with
    | nil => cases failed
    | cons a rest ih =>
      rw [List.mapM_cons] at failed
      rcases first : f a with e' | b
      · rw [first] at failed
        cases failed
        exact ⟨[], a, rest, rfl, nofun, first⟩
      · rw [first] at failed
        rcases later : rest.mapM f with e' | bs
        · rw [later] at failed
          cases failed
          obtain ⟨front, a', back, rfl, read, failed⟩ := ih later
          exact ⟨a :: front, a', back, rfl, List.forall_mem_cons.2 ⟨⟨b, first⟩, read⟩, failed⟩
        · rw [later] at failed
          cases failed
  · rintro ⟨front, a, back, rfl, read, failed⟩
    induction front with
    | nil =>
      rw [List.nil_append, List.mapM_cons, failed]
      rfl
    | cons b front ih =>
      obtain ⟨⟨c, first⟩, read⟩ := List.forall_mem_cons.1 read
      rw [List.cons_append, List.mapM_cons, first]
      rw [ih read]
      rfl

theorem exists_of_mem_mapM {as : List α} {bs : List β} (read : as.mapM f = .ok bs) {b : β}
    (mem : b ∈ bs) : ∃ a ∈ as, f a = .ok b := by
  induction as generalizing bs with
  | nil =>
    cases read
    cases mem
  | cons a rest ih =>
    rw [List.mapM_cons] at read
    rcases first : f a with e | c
    · rw [first] at read
      cases read
    · rcases later : rest.mapM f with e | cs
      · rw [first, later] at read
        cases read
      · rw [first, later] at read
        cases read
        rcases List.mem_cons.1 mem with rfl | mem
        · exact ⟨a, List.mem_cons_self, first⟩
        · obtain ⟨a', mem', read'⟩ := ih later mem
          exact ⟨a', List.mem_cons_of_mem _ mem', read'⟩

/-- A fold goes through if every step can be made, whatever has been read before. -/
theorem exists_foldlM_eq_ok_iff {f : β → α → Except ε β} {P : α → Prop} {as : List α}
    (step : ∀ a ∈ as, ∀ b, (∃ c, f b a = .ok c) ↔ P a) (b : β) :
    (∃ c, as.foldlM f b = .ok c) ↔ ∀ a ∈ as, P a := by
  induction as generalizing b with
  | nil => exact ⟨fun _ => nofun, fun _ => ⟨b, rfl⟩⟩
  | cons a rest ih =>
    obtain ⟨first, later⟩ := List.forall_mem_cons.1 step
    rw [List.foldlM_cons, List.forall_mem_cons, ← first b]
    rcases f b a with e | c
    · exact ⟨nofun, nofun⟩
    · exact (ih later c).trans (and_iff_right ⟨c, rfl⟩).symm

end Reading

/-! ## Documents -/

namespace CatalogDocument

variable {document : CatalogDocument}

/-- A document gives no definition for one of two reasons: its docstring cannot be read, or it has
no documentation at all. -/
theorem toDefinition_eq_error_iff {e : LoadError} :
    document.toDefinition = .error e ↔
      (∃ docstring fault, document.docstring = some docstring ∧
        ofDocstring docstring = .error fault ∧ e = .badDocstring document.name fault) ∨
      document.docstring = none ∧ document.docs = none ∧ e = .noDocumentation document.name := by
  unfold toDefinition tree
  constructor
  · intro failed
    rcases found : document.docstring with _ | docstring
    · rcases given : document.docs with _ | docs
      · rw [found, given] at failed
        cases failed
        exact .inr ⟨rfl, rfl, rfl⟩
      · rw [found, given] at failed
        cases failed
    · rw [found] at failed
      dsimp only at failed
      rcases read : ofDocstring docstring with fault | docs
      · rw [read] at failed
        cases failed
        exact .inl ⟨docstring, fault, rfl, read, rfl⟩
      · rw [read] at failed
        cases failed
  · rintro (⟨docstring, fault, found, failed, rfl⟩ | ⟨no_docstring, no_docs, rfl⟩)
    · rw [found]
      dsimp only
      rw [failed]
      rfl
    · rw [no_docstring, no_docs]
      rfl

end CatalogDocument

/-! ## Files -/

/-- The text of a file gives no JSON value because of the file or of the text. -/
theorem loadJson_error {path : OsText} {content : Except FileFault String} {e : LoadError}
    (failed : loadJson path content = .error e) :
    (∃ fault, e = .unreadable path fault) ∨ e = .fileNotFound path ∨
      ∃ report, e = .malformed report := by
  unfold loadJson at failed
  split at failed
  next text =>
    unfold readJson at failed
    rcases read : Json.read text with report | value
    · rw [read] at failed
      cases failed
      exact .inr (.inr ⟨report, rfl⟩)
    · rw [read] at failed
      cases failed
  next =>
    cases failed
    exact .inr (.inl rfl)
  next =>
    cases failed
    exact .inr (.inl rfl)
  next fault _ _ =>
    cases failed
    exact .inl ⟨fault, rfl⟩

/-- Documents are refused for violations of the schema, or else for their shape. -/
theorem catalogDocuments_eq_error_iff {value : Json} {e : LoadError} :
    catalogDocuments value = .error e ↔
      catalogViolations value ≠ [] ∧ e = .invalidCatalog (catalogViolations value) ∨
      catalogViolations value = [] ∧ ∃ shape, documentsOfJson value = .error shape ∧
        e = .misshapen shape := by
  unfold catalogDocuments
  rcases catalogViolations value with _ | ⟨first, rest⟩
  · rcases documentsOfJson value with shape | documents
    · exact ⟨fun failed => .inr ⟨rfl, shape, rfl, (Except.error.inj failed).symm⟩, by
        rintro (⟨absurd, -⟩ | ⟨-, _, ⟨⟩, rfl⟩)
        · exact (absurd rfl).elim
        · rfl⟩
    · refine ⟨nofun, ?_⟩
      rintro (⟨absurd, -⟩ | ⟨-, _, ⟨⟩, -⟩)
      exact (absurd rfl).elim
  · refine ⟨fun failed => .inl ⟨List.cons_ne_nil _ _, (Except.error.inj failed).symm⟩, ?_⟩
    rintro (⟨-, rfl⟩ | ⟨⟨⟩, -⟩)
    rfl

namespace Catalog

variable {value : Json}

theorem ofJson_of_error {e : LoadError} (refused : catalogDocuments value = .error e) :
    ofJson value = .error e := by
  unfold ofJson
  rw [refused]
  rfl

theorem ofJson_of_ok {documents : List CatalogDocument}
    (read : catalogDocuments value = .ok documents) :
    ofJson value = (documents.mapM CatalogDocument.toDefinition).map Catalog.mk := by
  unfold ofJson
  rw [read]
  rfl

/-- With its documents read, a catalog has the error of the first that gives no definition. -/
theorem ofJson_eq_error_iff {documents : List CatalogDocument}
    (read : catalogDocuments value = .ok documents) {e : LoadError} :
    ofJson value = .error e ↔ ∃ front document back, documents = front ++ document :: back ∧
      (∀ d ∈ front, ∃ definition, d.toDefinition = .ok definition) ∧
      document.toDefinition = .error e := by
  rw [ofJson_of_ok read, ← mapM_eq_error_iff]
  rcases documents.mapM CatalogDocument.toDefinition with e' | definitions
  · exact ⟨fun failed => congrArg _ (Except.error.inj failed),
      fun failed => congrArg _ (Except.error.inj failed)⟩
  · exact ⟨nofun, nofun⟩

end Catalog

/-- The catalog in a file with a text is the one in the value that the text spells. -/
theorem loadCatalog_of_read {text : String} {value : Json} (read : Json.read text = .ok value)
    (path : OsText) : loadCatalog path (.ok text) = Catalog.ofJson value := by
  unfold loadCatalog loadJson readJson
  dsimp only
  rw [read]
  rfl

end ApiSchema
