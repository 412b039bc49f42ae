import ApiSchema.Synthesis.Conversion

/-!
# Types of documents

The type of a kind is its definition's object, or the union of its variants' objects.  Documents
refer to one another; the names of those that are being generated are kept, and a document that
refers back to one of them is an error.  Each document on the way takes a definition's name out of
those that can still follow, so the recursion ends.
-/

namespace ApiSchema

namespace Definition

/-- The object of a definition while the documents `busy` are being generated.  References are
resolved only if the definition is not one of these. -/
def objectWith (d : Definition) (strict : Bool) (busy : List String)
    (resolve : d.name ∉ busy → String → DocumentKind → Synthesis ApiType) :
    Synthesis ObjectType := do
  match ← Synthesis.objectNamed? d.name with
  | some object => return object
  | none =>
    if h : d.name ∈ busy then
      Synthesis.fail d.name (.cycle (busy ++ [d.name]))
    else
      match d.schema with
      | .object fields =>
        let c : Conversion := ⟨strict, resolve h⟩
        let fields ← c.convertFields d.name d.docs d.skipFields [] fields
        Conversion.registerFields d.name d.description d.discriminator fields
      | _ => Synthesis.fail d.name .documentNotObject

end Definition

namespace Catalog

/-- The definitions whose documents are not being generated. -/
def waiting (catalog : Catalog) (busy : List String) : List Definition :=
  catalog.all.filter fun d => d.name ∉ busy

theorem length_waiting_lt {catalog : Catalog} {busy : List String} {d : Definition}
    (mem : d ∈ catalog.all) (new : d.name ∉ busy) :
    (catalog.waiting (busy ++ [d.name])).length < (catalog.waiting busy).length := by
  have drop : catalog.waiting (busy ++ [d.name]) =
      (catalog.waiting busy).filter fun e => e.name ≠ d.name := by
    simp [waiting, List.filter_filter, and_comm]
  rw [drop]
  apply List.length_filter_lt_length_iff_exists.2
  exact ⟨d, by simpa [waiting] using ⟨mem, new⟩, by simp⟩

/-- The type of a kind of documents, asked for at a path, while the documents `busy` are being
generated. -/
def typeOf (catalog : Catalog) (strict : Bool) (busy : List String) (path : String)
    (kind : DocumentKind) : Synthesis ApiType := do
  let objectOf (d : { d // d ∈ catalog.definitions kind }) : Synthesis ObjectType :=
    d.val.objectWith strict busy fun _ => catalog.typeOf strict (busy ++ [d.val.name])
  match (catalog.definitions kind).attach with
  | [] => Synthesis.fail path (.noDefinition kind)
  | [single] => return .object (← objectOf single)
  | variants =>
    match ← Synthesis.unionNamed? kind.typeName with
    | some union => return .union union
    | none =>
      let members ← variants.mapM objectOf
      return .union (← Synthesis.registerUnion ⟨kind.typeName, none, members⟩)
termination_by (catalog.waiting busy).length
decreasing_by
  exact length_waiting_lt (List.mem_filter.1 d.property).1 ‹_›

/-- The object of a definition, which may be one that the catalog does not have. -/
def objectOf (catalog : Catalog) (strict : Bool) (d : Definition) : Synthesis ObjectType :=
  d.objectWith strict [] fun _ => catalog.typeOf strict [d.name]

end Catalog

end ApiSchema
