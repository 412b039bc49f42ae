import ApiSchema.Document.CatalogFile
import ApiSchema.Lint.Diagnostic
import ApiSchema.Synthesis.Synthesizer

/-!
# Checking a catalog file

Finds what keeps a file from being loaded and its types from being generated, and the advisories of
their synthesis.  All docstrings and all kinds are checked, also after one that fails.
-/

namespace ApiSchema.Lint

open Files (FileFault OsText)
open JsonSchema (Violation)

/-- The finding about a violation of the structure; the whole file is shown as a slash. -/
def violationFinding (v : Violation) : Finding :=
  ⟨.shape, if v.pointer.isEmpty then "/" else v.pointer, v.message⟩

/-- The findings about documents that could not be read. -/
def structureFindings : LoadError → List Finding
  | .invalidCatalog violations => violations.map violationFinding
  | e => [⟨.shape, "/", e.message⟩]

def documentationFinding (index : Nat) (document : CatalogDocument) (e : LoadError) : Finding :=
  ⟨.documentation, s!"/documents/{index}/{document.docsKey}", e.message⟩

/-- The definitions of the documents from an index on, with the findings about those that have
none. -/
def definitionsFrom (index : Nat) : List CatalogDocument → List Definition × List Finding
  | [] => ([], [])
  | document :: rest =>
    let (definitions, findings) := definitionsFrom (index + 1) rest
    match document.toDefinition with
    | .ok d => (d :: definitions, findings)
    | .error e => (definitions, documentationFinding index document e :: findings)

/-- Generates the types of some kinds in turn, also after one that fails. -/
def conversionFindings (s : Synthesizer) : List DocumentKind → List Finding × Synthesizer
  | [] => ([], s)
  | kind :: rest =>
    match s.documentType kind with
    | (.ok _, after) => conversionFindings after rest
    | (.error e, after) =>
      let (findings, final) := conversionFindings after rest
      (⟨.conversion, e.path, e.message⟩ :: findings, final)

def advisoryCode : AdvisoryKind → Code
  | .undocumented => .undocumented
  | .scalarUnion => .scalarUnion
  | .untyped => .untyped

def advisoryFinding (a : Advisory) : Finding := ⟨advisoryCode a.kind, a.path, a.message⟩

/-- The findings about the synthesis of a catalog. -/
def synthesisFindings (catalog : Catalog) : List Finding :=
  let (errors, final) := conversionFindings (.new catalog false) catalog.kinds
  errors ++ final.advisories.map advisoryFinding

/-- The findings about a file, from the outcome of reading its text. -/
def findings (path : OsText) (content : Except FileFault String) : List Finding :=
  match loadJson path content with
  | .error e => [⟨.unreadable, "/", s!"syntax error: {e.message}"⟩]
  | .ok value =>
    match catalogDocuments value with
    | .error e => structureFindings e
    | .ok documents =>
      let (definitions, errors) := definitionsFrom 0 documents
      errors ++ synthesisFindings ⟨definitions⟩

/-- The report about a file, shown relative to a base. -/
def lintFile (base path : OsText) (content : Except FileFault String) : FileReport :=
  ⟨path, Files.relativeTo base path, findings path content⟩

end ApiSchema.Lint
