import ApiSchema.Document.SchemaNode
import ApiSchema.Documentation.Tree

/-!
# Catalogs

A definition has everything that is needed to generate the API type of one document.  A catalog
holds definitions by kind; several definitions of a kind are variants of it.
-/

namespace ApiSchema

/-- What is known about one document. -/
structure Definition where
  kind : DocumentKind
  name : String
  description : Option String
  schema : SchemaNode
  docs : Documentation.Tree
  /-- Keys of fields that are never generated. -/
  skipFields : List String
  /-- The key whose presence chooses this variant of its kind. -/
  discriminator : Option String

/-- Definitions in the order in which they were put in. -/
structure Catalog where
  all : List Definition

namespace Catalog

/-- The catalog without definitions. -/
def empty : Catalog := ⟨[]⟩

/-- Puts a definition at the end of its kind. -/
def insert (catalog : Catalog) (definition : Definition) : Catalog :=
  ⟨catalog.all ++ [definition]⟩

/-- The kinds that have definitions, in the order of their first ones. -/
def kinds (catalog : Catalog) : List DocumentKind :=
  (catalog.all.map Definition.kind).foldl (fun done kind =>
    if done.contains kind then done else done ++ [kind]) []

/-- The definitions of a kind, in order. -/
def definitions (catalog : Catalog) (kind : DocumentKind) : List Definition :=
  catalog.all.filter (·.kind == kind)

/-- The number of definitions. -/
def size (catalog : Catalog) : Nat := catalog.all.length

/-- Is there no definition? -/
def isEmpty (catalog : Catalog) : Bool := catalog.all.isEmpty

end Catalog

end ApiSchema
