import ApiSchema.Document.Catalog
import ApiSchema.Document.CatalogSchema
import ApiSchema.Documentation.Docstring
import ApiSchema.Documentation.TreeJson
import ApiSchema.Files.Tree
import ApiSchema.Json.Reader

/-!
# Catalog files

A catalog file lists documents.  Loading checks its structure, reads all documents and then their
docstrings; the first of these steps that fails gives the error.
-/

namespace ApiSchema

open Documentation Json JsonSchema
open Files (FileFault OsText)

/-- Why a file could not be loaded. -/
inductive LoadError where
  | fileNotFound (path : OsText)
  | unreadable (path : OsText) (fault : FileFault)
  | malformed (report : Malformed)
  | misshapen (error : ShapeError)
  | invalidCatalog (violations : List Violation)
  | badDocstring (name : String) (error : DocError)
  | noDocumentation (name : String)

namespace LoadError

def message : LoadError → String
  | .fileNotFound path => s!"file not found: {path.shown}"
  | .unreadable path fault => s!"cannot read {path.shown}: {fault.message}"
  | .malformed report => s!"invalid JSON: {report.message}"
  | .misshapen error => s!"invalid JSON: {error.message}"
  | .invalidCatalog violations =>
    "invalid catalog: " ++ Text.join "; " (violations.map Violation.display)
  | .badDocstring name error => s!"invalid docstring for {name}: {error.message}"
  | .noDocumentation name => s!"document {name} has neither a docstring nor docs"

def exitCode : LoadError → Nat
  | .fileNotFound _ => 3
  | .unreadable _ _ => 3
  | _ => 2

end LoadError

/-- A document of a catalog file, before its docstring is read. -/
structure CatalogDocument where
  kind : DocumentKind
  name : String
  description : Option String
  schema : SchemaNode
  docstring : Option String
  docs : Option Tree
  skipFields : List String
  discriminator : Option String

/-- A document with no member read yet. -/
structure PartialDocument where
  kind : Option DocumentKind := none
  name : Option String := none
  description : Option String := none
  schema : Option SchemaNode := none
  docstring : Option String := none
  docs : Option Tree := none
  skipFields : List String := []
  discriminator : Option String := none

/-- The text that a value is, `none` for `null`. -/
def optionalString : Json → Except ShapeError (Option String)
  | .null => .ok none
  | value => (asString value).map some

def stringArray : Json → Except ShapeError (List String)
  | .array items => items.mapM asString
  | value => refuse value "a sequence"

def documentKeys : List String :=
  ["kind", "name", "description", "schema", "docstring", "docs", "skipFields", "discriminator"]

def readMember (done : PartialDocument) (member : String × Json) :
    Except ShapeError PartialDocument := do
  let (key, value) := member
  match key with
  | "kind" => return { done with kind := some (← kindOfJson value) }
  | "name" => return { done with name := some (← asString value) }
  | "description" => return { done with description := ← optionalString value }
  | "schema" => return { done with schema := some (← nodeOfJson value) }
  | "docstring" => return { done with docstring := ← optionalString value }
  | "docs" =>
    match value with
    | .null => return done
    | value => return { done with docs := some (← treeOfJson value) }
  | "skipFields" => return { done with skipFields := ← stringArray value }
  | "discriminator" => return { done with discriminator := ← optionalString value }
  | other => .error (.unknownVariant other documentKeys)

def documentOfJson : Json → Except ShapeError CatalogDocument
  | .object members => do
    let read ← members.foldlM readMember {}
    let some kind := read.kind | .error (.missingField "kind")
    let some name := read.name | .error (.missingField "name")
    let some schema := read.schema | .error (.missingField "schema")
    return {
      kind, name, schema
      description := read.description
      docstring := read.docstring
      docs := read.docs
      skipFields := read.skipFields
      discriminator := read.discriminator }
  | value => refuse value "a document"

/-- Reads the documents of a catalog file whose structure is right. -/
def documentsOfJson (value : Json) : Except ShapeError (List CatalogDocument) :=
  match value.get? "documents" with
  | some (.array items) => items.mapM documentOfJson
  | some other => refuse other "a sequence"
  | none => .error (.missingField "documents")

/-- Checks the structure of a catalog file and reads its documents. -/
def catalogDocuments (value : Json) : Except LoadError (List CatalogDocument) :=
  match catalogViolations value with
  | [] => (documentsOfJson value).mapError .misshapen
  | violations => .error (.invalidCatalog violations)

namespace CatalogDocument

def docsKey (document : CatalogDocument) : String :=
  if document.docstring.isSome then "docstring" else "docs"

def tree (document : CatalogDocument) : Except LoadError Tree :=
  match document.docstring, document.docs with
  | some docstring, _ => (ofDocstring docstring).mapError (.badDocstring document.name)
  | none, some docs => .ok docs
  | none, none => .error (.noDocumentation document.name)

def toDefinition (document : CatalogDocument) : Except LoadError Definition :=
  document.tree.map fun docs =>
    { kind := document.kind
      name := document.name
      description := document.description
      schema := document.schema
      docs := docs
      skipFields := document.skipFields
      discriminator := document.discriminator }

end CatalogDocument

/-- The catalog that the JSON value of a file describes. -/
def Catalog.ofJson (value : Json) : Except LoadError Catalog := do
  let documents ← catalogDocuments value
  return ⟨← documents.mapM CatalogDocument.toDefinition⟩

def readJson (content : String) : Except LoadError Json :=
  (Json.read content).mapError .malformed

/-- The catalog that the text of a file describes. -/
def Catalog.ofText (content : String) : Except LoadError Catalog := do
  Catalog.ofJson (← readJson content)

/-- The JSON value in a file, from the outcome of reading the file's text. -/
def loadJson (path : OsText) (content : Except FileFault String) : Except LoadError Json :=
  match content with
  | .ok text => readJson text
  | .error .notFound => .error (.fileNotFound path)
  | .error .notDirectory => .error (.fileNotFound path)
  | .error fault => .error (.unreadable path fault)

/-- The catalog in a file, from the outcome of reading the file's text. -/
def loadCatalog (path : OsText) (content : Except FileFault String) : Except LoadError Catalog := do
  Catalog.ofJson (← loadJson path content)

end ApiSchema
