import ApiSchema.Synthesis.Documents
import ApiSchema.Synthesis.OperationStep

/-!
# Synthesizers

A synthesizer generates the types of a catalog and keeps what it has generated.  A request that
fails leaves nothing behind.
-/

namespace ApiSchema

/-- A catalog with its options and the types generated so far. -/
structure Synthesizer where
  catalog : Catalog
  strict : Bool
  registry : Registry

namespace Synthesizer

/-- The synthesizer that has generated nothing. -/
def new (catalog : Catalog) (strict : Bool) : Synthesizer := ⟨catalog, strict, .empty⟩

/-- Runs a computation on the registry; if it fails, the registry is rolled back. -/
def run {α : Type} (s : Synthesizer) (request : Synthesis α) :
    Except SynthesisError α × Synthesizer :=
  match request.run s.registry with
  | (.ok value, registry) => (.ok value, { s with registry })
  | (.error e, registry) =>
    (.error e, { s with registry := registry.rollback s.registry.checkpoint })

def synthesize (s : Synthesizer) (d : Definition) :
    Except SynthesisError ObjectType × Synthesizer :=
  s.run (s.catalog.objectOf s.strict d)

def documentType (s : Synthesizer) (kind : DocumentKind) :
    Except SynthesisError ApiType × Synthesizer :=
  s.run (s.catalog.typeOf s.strict [] kind.typeName kind)

/-- A run over several kinds: what it gives, the steps it reports, and the synthesizer after it. -/
structure CatalogRun where
  result : Except SynthesisError (List ApiType)
  steps : List OperationStep
  after : Synthesizer

/-- Generates the types of some kinds in turn, of which `total` are to be generated and `current`
are done.  The first failure ends the run. -/
def synthesizeKinds (s : Synthesizer) (total current : Nat) (done : List ApiType) :
    List DocumentKind → CatalogRun
  | [] =>
    { result := .ok done
      steps := [.finished total total s!"Generated {s.registry.types.length} types"]
      after := s }
  | kind :: rest =>
    let step := OperationStep.progress total current s!"Generating {kind.name} types..."
    match s.documentType kind with
    | (.ok type, after) =>
      let run := after.synthesizeKinds total (current + 1) (done ++ [type]) rest
      { run with steps := step :: run.steps }
    | (.error e, after) =>
      { result := .error e, steps := [step, .failed total current e.message], after }

/-- Generates the types of all kinds of the catalog. -/
def synthesizeCatalog (s : Synthesizer) : CatalogRun :=
  s.synthesizeKinds s.catalog.kinds.length 0 [] s.catalog.kinds

/-- The generated type under a name. -/
def lookup (s : Synthesizer) (name : String) : Option NamedType := s.registry.get? name

/-- All generated types, in the order of registration. -/
def types (s : Synthesizer) : List NamedType := s.registry.types

def advisories (s : Synthesizer) : List Advisory := s.registry.advisories

end Synthesizer

end ApiSchema
