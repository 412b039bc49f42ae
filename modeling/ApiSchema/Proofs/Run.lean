import ApiSchema.Proofs.Registry

/-!
# Runs of single steps

What the steps of a synthesis give from a registry, and which registry they leave.  The type of a
kind is spelled out by the number of its definitions in `Catalog.typeOf_eq`, so that later modules
need not open the recursion over documents.
-/

namespace ApiSchema

namespace Synthesis

variable {α β : Type}

theorem run_bind (m : Synthesis α) (f : α → Synthesis β) (r : Registry) :
    (m >>= f).run r =
      match m.run r with
      | (.ok a, r') => (f a).run r'
      | (.error e, r') => (.error e, r') := by
  simp only [bind, ExceptT.bind, ExceptT.run, ExceptT.mk, StateT.bind]
  rcases m r with ⟨_ | _, r'⟩ <;> rfl

theorem run_bind_ok {m : Synthesis α} {f : α → Synthesis β} {r r' : Registry} {b : β}
    (run : (m >>= f).run r = (.ok b, r')) :
    ∃ a r₁, m.run r = (.ok a, r₁) ∧ (f a).run r₁ = (.ok b, r') := by
  rw [run_bind] at run
  rcases first : m.run r with ⟨_ | a, r₁⟩
  · rw [first] at run
    cases run
  · rw [first] at run
    exact ⟨a, r₁, rfl, run⟩

theorem run_get_bind (f : Registry → Synthesis α) (r : Registry) :
    (get >>= f).run r = (f r).run r := rfl

theorem run_objectNamed? (name : String) (r : Registry) :
    (objectNamed? name).run r =
      match r.get? name with
      | none => (.ok none, r)
      | some (.object object) => (.ok (some object), r)
      | some (.union _) => (.error ⟨name, .nameOfUnion⟩, r) := by
  rw [objectNamed?, run_get_bind]
  rcases r.get? name with _ | _ | _ <;> rfl

theorem run_unionNamed? (name : String) (r : Registry) :
    (unionNamed? name).run r =
      match r.get? name with
      | none => (.ok none, r)
      | some (.union union) => (.ok (some union), r)
      | some (.object _) => (.error ⟨name, .nameOfObject⟩, r) := by
  rw [unionNamed?, run_get_bind]
  rcases r.get? name with _ | _ | _ <;> rfl

theorem run_entryRecordFor (value : ApiType) (r : Registry) :
    (entryRecordFor value).run r =
      match Keyed.get? value.fragment r.entries with
      | some record => (.ok record, r)
      | none =>
        if r.has (entryName value) then (.error ⟨entryName value, .entryNameTaken⟩, r)
        else
          (.ok (entryRecord r.nextSerial value),
            (r.register (.object (entryRecord r.nextSerial value))).keepRecord value.fragment
              (entryRecord r.nextSerial value)) := by
  rw [entryRecordFor, run_get_bind]
  rcases Keyed.get? value.fragment r.entries with _ | record
  · simp only [run_get_bind]
    by_cases taken : r.has (entryName value)
    · simp only [if_pos taken]
      rfl
    · simp only [if_neg taken]
      rfl
  · rfl

end Synthesis

namespace Catalog

/-- The object of a definition while the documents `busy` are being generated. -/
def objectIn (catalog : Catalog) (strict : Bool) (busy : List String) (d : Definition) :
    Synthesis ObjectType :=
  d.objectWith strict busy fun _ => catalog.typeOf strict (busy ++ [d.name])

/-- The type of the documents that some definitions describe. -/
def typeOfAll (catalog : Catalog) (strict : Bool) (busy : List String) (path : String)
    (kind : DocumentKind) : List Definition → Synthesis ApiType
  | [] => Synthesis.fail path (.noDefinition kind)
  | [single] => return .object (← catalog.objectIn strict busy single)
  | variants => do
    match ← Synthesis.unionNamed? kind.typeName with
    | some union => return .union union
    | none =>
      let members ← variants.mapM (catalog.objectIn strict busy)
      return .union (← Synthesis.registerUnion ⟨kind.typeName, none, members⟩)

theorem typeOf_eq (catalog : Catalog) (strict : Bool) (busy : List String) (path : String)
    (kind : DocumentKind) :
    catalog.typeOf strict busy path kind =
      catalog.typeOfAll strict busy path kind (catalog.definitions kind) := by
  have values := List.attach_map_subtype_val (catalog.definitions kind)
  rw [typeOf]
  generalize (catalog.definitions kind).attach = waiting at values ⊢
  conv => rhs; rw [← values]
  rcases waiting with _ | ⟨first, _ | ⟨second, rest⟩⟩
  · rfl
  · rfl
  · simp only [List.map_cons, typeOfAll, objectIn, List.mapM_cons, List.mapM_map]
    rfl

end Catalog

end ApiSchema
