import ApiSchema.Lint.Check
import ApiSchema.Proofs.AcceptedCatalogs
import ApiSchema.Proofs.Run

/-!
# Linting and generating agree

A file has no errors just when its catalog can be loaded and all its types can be generated; its
warnings are then the advisories of that synthesis.  Else its first errors are the failure that
loading or generating ends with, whatever is found after them (`lintFile_agrees`).

1. The linter goes through the steps of loading and goes on after a document without a definition.
   If loading fails its error is shown first (`shown_of_failed`), and if not the linter has the
   loaded catalog (`findings_of_loaded`).
2. From there both request the same kinds of the same catalog.  The first request that fails gives
   the first finding, and if none fails the two have made the same requests
   (`conversionFindings_of_error`, `conversionFindings_of_ok`).
-/

namespace ApiSchema

open Files (FileFault OsText)
open Lint JsonSchema CatalogSchema

/-! ## What is shown -/

/-- What a report shows of a finding: how bad it is, its code, its place and its wording. -/
abbrev Lint.Line := String × String × String × String

def Lint.Finding.line (f : Finding) : Line :=
  (f.severity.name, f.code.text, f.path, f.message)

/-- The code that advisories of a kind are shown with. -/
def AdvisoryKind.warningCode : AdvisoryKind → String
  | .undocumented => "W001"
  | .scalarUnion => "W002"
  | .untyped => "W003"

/-- The line of an advisory: a warning about its place. -/
def Advisory.line (a : Advisory) : Line :=
  ("warning", a.kind.warningCode, a.path, a.message)

/-- What is shown of a file whose catalog cannot be loaded: of a file that cannot be read its error
alone, of a wrong structure all that is wrong with it, and of wrong documentation the error before
anything else. -/
def LoadError.Opens (e : LoadError) (lines : List Line) : Prop :=
  match e with
  | .fileNotFound _ | .unreadable _ _ | .malformed _ =>
    lines = [("error", "E001", "/", "syntax error: " ++ e.message)]
  | .invalidCatalog violations =>
    violations ≠ [] ∧ lines = violations.map fun v =>
      ("error", "E002", if v.pointer = "" then "/" else v.pointer, v.message)
  | .misshapen _ => lines = [("error", "E002", "/", e.message)]
  | .badDocstring _ _ | .noDocumentation _ =>
    ∃ place rest, lines = ("error", "E003", place, e.message) :: rest

theorem LoadError.Opens.exists_error {e : LoadError} {lines : List Line} (opens : e.Opens lines) :
    ∃ line ∈ lines, line.1 = "error" := by
  cases e with
  | fileNotFound _ | unreadable _ _ | malformed _ | misshapen _ =>
    cases opens
    exact ⟨_, List.mem_singleton_self _, rfl⟩
  | invalidCatalog violations =>
    obtain ⟨nonempty, rfl⟩ := opens
    obtain ⟨first, rest, rfl⟩ := List.exists_cons_of_ne_nil nonempty
    exact ⟨_, List.mem_cons_self, rfl⟩
  | badDocstring _ _ | noDocumentation _ =>
    obtain ⟨place, rest, rfl⟩ := opens
    exact ⟨_, List.mem_cons_self, rfl⟩

namespace Lint

theorem severity_eq_error_iff (f : Finding) : f.severity = .error ↔ f.line.1 = "error" := by
  unfold Finding.line
  rcases f.severity with _ | _
  · exact ⟨fun _ => rfl, fun _ => rfl⟩
  · exact ⟨nofun, fun named => absurd named (by decide : ("warning" : String) ≠ "error")⟩

theorem line_violationFinding (v : JsonSchema.Violation) :
    (violationFinding v).line =
      ("error", "E002", if v.pointer = "" then "/" else v.pointer, v.message) := by
  unfold violationFinding Finding.line
  simp only [String.isEmpty_iff]
  rfl

theorem line_advisoryFinding (a : Advisory) : (advisoryFinding a).line = a.line := by
  obtain ⟨path, kind, message⟩ := a
  cases kind <;> rfl

/-! ## Loading -/

/-- The documents before the first without a definition give definitions and no findings. -/
theorem definitionsFrom_append {front : List CatalogDocument}
    (read : ∀ d ∈ front, ∃ definition, d.toDefinition = .ok definition)
    (index : Nat) (back : List CatalogDocument) :
    (definitionsFrom index (front ++ back)).2 =
      (definitionsFrom (index + front.length) back).2 := by
  induction front generalizing index with
  | nil => rfl
  | cons d front ih =>
    obtain ⟨⟨definition, first⟩, read⟩ := List.forall_mem_cons.1 read
    rw [List.cons_append, definitionsFrom, first]
    refine (ih read (index + 1)).trans ?_
    rw [List.length_cons, Nat.add_assoc, Nat.add_comm 1]

theorem definitionsFrom_of_ok {documents : List CatalogDocument} {definitions : List Definition}
    (read : documents.mapM CatalogDocument.toDefinition = .ok definitions) (index : Nat) :
    definitionsFrom index documents = (definitions, []) := by
  induction documents generalizing definitions index with
  | nil =>
    cases read
    rfl
  | cons document rest ih =>
    rw [List.mapM_cons] at read
    rcases first : document.toDefinition with e | d
    · rw [first] at read
      cases read
    · rw [first] at read
      rcases later : rest.mapM CatalogDocument.toDefinition with e | ds
      · rw [later] at read
        cases read
      · rw [later] at read
        cases read
        rw [definitionsFrom, ih later, first]

/-- If the catalog can be loaded, its synthesis gives the findings. -/
theorem findings_of_loaded {path : OsText} {content : Except FileFault String} {catalog : Catalog}
    (loaded : loadCatalog path content = .ok catalog) :
    findings path content = synthesisFindings catalog := by
  unfold loadCatalog at loaded
  unfold findings
  rcases json : loadJson path content with e | value
  · rw [json] at loaded
    cases loaded
  · rw [json] at loaded
    change Catalog.ofJson value = _ at loaded
    rcases read : catalogDocuments value with e | documents
    · rw [Catalog.ofJson_of_error read] at loaded
      cases loaded
    · rw [Catalog.ofJson_of_ok read] at loaded
      rcases defined : documents.mapM CatalogDocument.toDefinition with e | definitions
      · rw [defined] at loaded
        cases loaded
      · rw [defined] at loaded
        cases loaded
        dsimp only
        rw [read]
        dsimp only
        rw [definitionsFrom_of_ok defined, List.nil_append]

/-- If the catalog cannot be loaded, the error is shown before anything else. -/
theorem shown_of_failed {path : OsText} {content : Except FileFault String} {e : LoadError}
    (failed : loadCatalog path content = .error e) :
    e.Opens ((findings path content).map Finding.line) := by
  unfold loadCatalog at failed
  unfold findings
  rcases json : loadJson path content with e' | value
  · rw [json] at failed
    cases failed
    rcases loadJson_error json with ⟨fault, rfl⟩ | rfl | ⟨report, rfl⟩ <;> rfl
  · rw [json] at failed
    change Catalog.ofJson value = _ at failed
    dsimp only
    rcases read : catalogDocuments value with e' | documents
    · rw [Catalog.ofJson_of_error read] at failed
      cases failed
      dsimp only
      rcases catalogDocuments_eq_error_iff.1 read with ⟨nonempty, rfl⟩ | ⟨-, shape, -, rfl⟩
      · refine ⟨nonempty, ?_⟩
        rw [structureFindings, List.map_map]
        exact List.map_congr_left fun v _ => line_violationFinding v
      · rfl
    · obtain ⟨front, document, back, rfl, defined, undefined⟩ :=
        (Catalog.ofJson_eq_error_iff read).1 failed
      -- The documents in front give no findings, so this document's finding is the first.
      have first : ∃ place rest, ((definitionsFrom 0 (front ++ document :: back)).2 ++
          synthesisFindings ⟨(definitionsFrom 0 (front ++ document :: back)).1⟩).map Finding.line =
            ("error", "E003", place, e.message) :: rest := by
        rw [definitionsFrom_append defined, definitionsFrom, undefined]
        exact ⟨_, _, rfl⟩
      rcases CatalogDocument.toDefinition_eq_error_iff.1 undefined with
        ⟨docstring, fault, -, -, rfl⟩ | ⟨-, -, rfl⟩
      · exact first
      · exact first

/-! ## Synthesis -/

/-- If no request fails, the linter finds nothing and has made the same requests. -/
theorem conversionFindings_of_ok {kinds : List DocumentKind} {s : Synthesizer} {total current : Nat}
    {done types : List ApiType}
    (generated : (s.synthesizeKinds total current done kinds).result = .ok types) :
    conversionFindings s kinds = ([], (s.synthesizeKinds total current done kinds).after) := by
  induction kinds generalizing s current done with
  | nil => rfl
  | cons kind rest ih =>
    rw [Synthesizer.synthesizeKinds] at generated ⊢
    rw [conversionFindings]
    rcases request : s.documentType kind with ⟨e | type, after⟩
    · rw [request] at generated
      cases generated
    · rw [request] at generated
      exact ih generated

/-- The first request that fails gives the first finding. -/
theorem conversionFindings_of_error {kinds : List DocumentKind} {s : Synthesizer}
    {total current : Nat} {done : List ApiType} {e : SynthesisError}
    (failed : (s.synthesizeKinds total current done kinds).result = .error e) :
    ∃ rest, (conversionFindings s kinds).1 = ⟨.conversion, e.path, e.message⟩ :: rest := by
  induction kinds generalizing s current done with
  | nil => cases failed
  | cons kind rest ih =>
    rw [Synthesizer.synthesizeKinds] at failed
    rw [conversionFindings]
    rcases request : s.documentType kind with ⟨e' | type, after⟩
    · rw [request] at failed
      cases failed
      exact ⟨_, rfl⟩
    · rw [request] at failed
      exact ih failed

/-- If all types can be generated, the advisories of the synthesis are shown. -/
theorem synthesisFindings_of_ok {catalog : Catalog} {types : List ApiType}
    (generated : (Synthesizer.new catalog false).synthesizeCatalog.result = .ok types) :
    (synthesisFindings catalog).map Finding.line =
      (Synthesizer.new catalog false).synthesizeCatalog.after.advisories.map Advisory.line := by
  have requests := conversionFindings_of_ok generated
  change conversionFindings (.new catalog false) catalog.kinds = _ at requests
  rw [synthesisFindings, requests]
  dsimp only
  rw [List.nil_append, List.map_map]
  exact List.map_congr_left fun a _ => line_advisoryFinding a

theorem synthesisFindings_of_error {catalog : Catalog} {e : SynthesisError}
    (failed : (Synthesizer.new catalog false).synthesizeCatalog.result = .error e) :
    ∃ rest, (synthesisFindings catalog).map Finding.line =
      ("error", "E004", e.path, e.message) :: rest := by
  obtain ⟨rest, requests⟩ := conversionFindings_of_error failed
  change (conversionFindings (.new catalog false) catalog.kinds).1 = _ at requests
  rw [synthesisFindings]
  dsimp only
  rw [requests]
  exact ⟨_, rfl⟩

/-- The linter and the generator agree on every file: there are no errors just when the catalog can
be loaded and its types can all be generated, and the warnings are then the advisories of that
synthesis.  If the catalog cannot be loaded, its error is shown first; if a type cannot be
generated, that error is. -/
theorem lintFile_agrees (base path : OsText) (content : Except FileFault String) :
    let findings := (lintFile base path content).findings
    let generated (catalog : Catalog) := (Synthesizer.new catalog false).synthesizeCatalog
    ((∀ f ∈ findings, f.severity ≠ .error) ↔ ∃ catalog types,
      loadCatalog path content = .ok catalog ∧ (generated catalog).result = .ok types) ∧
    (∀ catalog types, loadCatalog path content = .ok catalog →
      (generated catalog).result = .ok types →
        findings.map Finding.line = (generated catalog).after.advisories.map Advisory.line) ∧
    (∀ e, loadCatalog path content = .error e → e.Opens (findings.map Finding.line)) ∧
    (∀ catalog e, loadCatalog path content = .ok catalog →
      (generated catalog).result = .error e →
        ∃ rest, findings.map Finding.line = ("error", "E004", e.path, e.message) :: rest) := by
  intro findings generated
  have loaded_ok : ∀ catalog types, loadCatalog path content = .ok catalog →
      (generated catalog).result = .ok types →
        findings.map Finding.line = (generated catalog).after.advisories.map Advisory.line := by
    intro catalog types loaded result
    rw [← synthesisFindings_of_ok result, ← findings_of_loaded loaded]
    rfl
  have loaded_error : ∀ catalog e, loadCatalog path content = .ok catalog →
      (generated catalog).result = .error e →
        ∃ rest, findings.map Finding.line = ("error", "E004", e.path, e.message) :: rest := by
    intro catalog e loaded result
    obtain ⟨rest, shown⟩ := synthesisFindings_of_error result
    rw [← findings_of_loaded loaded] at shown
    exact ⟨rest, shown⟩
  have error_of_line : (∃ line ∈ findings.map Finding.line, line.1 = "error") →
      ∃ f ∈ findings, f.severity = .error := by
    rintro ⟨line, mem, bad⟩
    obtain ⟨f, found, rfl⟩ := List.mem_map.1 mem
    exact ⟨f, found, (severity_eq_error_iff f).2 bad⟩
  refine ⟨⟨fun clean => ?_, ?_⟩, loaded_ok, fun e failed => shown_of_failed failed, loaded_error⟩
  · rcases loaded : loadCatalog path content with e | catalog
    · obtain ⟨f, mem, bad⟩ := error_of_line (shown_of_failed loaded).exists_error
      exact (clean f mem bad).elim
    · rcases result : (generated catalog).result with e | types
      · obtain ⟨rest, shown⟩ := loaded_error catalog e loaded result
        obtain ⟨f, mem, bad⟩ := error_of_line (shown ▸ ⟨_, List.mem_cons_self, rfl⟩)
        exact (clean f mem bad).elim
      · exact ⟨catalog, types, rfl, result⟩
  · rintro ⟨catalog, types, loaded, result⟩ f mem bad
    have line_mem := List.mem_map_of_mem (f := Finding.line) mem
    rw [loaded_ok catalog types loaded result] at line_mem
    obtain ⟨a, -, line⟩ := List.mem_map.1 line_mem
    have warned := (severity_eq_error_iff f).1 bad
    rw [← line] at warned
    exact absurd warned (by decide : ("warning" : String) ≠ "error")

/-- The text of the file of an app with one field, whose values can be anything. -/
def portFile : String :=
  "\x7b\"documents\":[\x7b\"kind\":\"app\",\"name\":\"A\",\"schema\":\x7b\"type\":\"object\"," ++
    "\"fields\":\x7b\"port\":\x7b\"type\":\"any\"\x7d\x7d\x7d," ++
    "\"docs\":\x7b\"port\":\"A port\"\x7d\x7d]\x7d"

def portFileCatalog : Catalog :=
  ⟨[⟨.app, "A", none, .object [("port", .scalar .any)], [("port", .text "A port")], [], none⟩]⟩

/-- The app's shape in the file. -/
def portNode : Json := .object [("type", .string "object"), ("fields", .object [("port", anyNode)])]

set_option maxRecDepth 4000 in
theorem read_portFile :
    Json.read portFile = .ok (appFile portNode ("docs", .object [("port", .string "A port")])) := by
  with_unfolding_all rfl

theorem loadCatalog_portFile : loadCatalog "c.json" (.ok portFile) = .ok portFileCatalog := by
  have valid : validateCatalog (appFile portNode ("docs", .object [("port", .string "A port")])) =
      .ok () :=
    appFile_valid (fulfils_oneField fulfils_anyNode _) (.inr rfl) rfl (fulfils_oneText _ _)
  rw [loadCatalog_of_read read_portFile, Catalog.ofJson_of_ok
    (catalogDocuments_of_accepted (validateCatalog_eq_ok_iff.1 valid) rfl)]
  rfl

theorem portFile_agrees :
    let findings content := (lintFile "." "c.json" content).findings
    (∀ f ∈ findings (.ok portFile), f.severity ≠ .error) ∧
    (findings (.ok portFile)).map Finding.line =
      [("warning", "W003", "APort", "APort was any. This field will be available as JSON only.")] ∧
    (findings (.error .notFound)).map Finding.line =
      [("error", "E001", "/", "syntax error: file not found: c.json")] := by
  intro findings
  obtain ⟨silent, warnings, -, -⟩ := lintFile_agrees "." "c.json" (.ok portFile)
  obtain ⟨-, -, errors, -⟩ := lintFile_agrees "." "c.json" (.error .notFound)
  have request : ∃ type after, (Synthesizer.new portFileCatalog false).documentType .app =
      (.ok type, after) ∧ after.advisories.map Advisory.line =
        [("warning", "W003", "APort",
          "APort was any. This field will be available as JSON only.")] := by
    rw [Synthesizer.documentType, Catalog.typeOf_eq]
    exact ⟨_, _, rfl, rfl⟩
  obtain ⟨type, after, request, advisories⟩ := request
  have generated : (Synthesizer.new portFileCatalog false).synthesizeCatalog.result =
      .ok [type] ∧ (Synthesizer.new portFileCatalog false).synthesizeCatalog.after = after := by
    change (Synthesizer.synthesizeKinds _ 1 0 [] [.app]).result = _ ∧
      (Synthesizer.synthesizeKinds _ 1 0 [] [.app]).after = _
    rw [Synthesizer.synthesizeKinds, request]
    exact ⟨rfl, rfl⟩
  refine ⟨silent.2 ⟨_, _, loadCatalog_portFile, generated.1⟩, ?_, errors _ rfl⟩
  refine (warnings _ _ loadCatalog_portFile generated.1).trans ?_
  dsimp only
  rw [generated.2, advisories]

end Lint

end ApiSchema
