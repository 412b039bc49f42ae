import Mathlib.Tactic.SplitIfs
import ApiSchema.Proofs.Run

/-!
# References between documents

The kinds of documents that a definition refers to: those of the reference nodes and document names
that stand, at any depth, where the walk of the definition comes by.  A conversion raises no cycle
of its own, so an error on a cycle comes from one of these references (`convertFields_fails`).
-/

namespace ApiSchema

open Documentation (Entry Tree valueTerm)

/-! ## What a node refers to -/

mutual

/-- The kinds that a node with its documentation refers to. -/
def SchemaNode.references (docs : Option Entry) : SchemaNode → List DocumentKind
  | .scalar _ => []
  | .optional inner => inner.references docs
  | .union nodes => referencesOfNodes docs nodes
  | .object fields =>
    match docs with
    | some (.nested _ tree) => referencesOfFields tree [] fields
    | _ => []
  | .list element => element.references docs
  | .map value =>
    match docs with
    | some (.nested _ tree) =>
      match Keyed.get? valueTerm tree with
      | some entry => value.references (some entry)
      | none => []
    | docs => value.references docs
  | .reference kind => [kind]
  | .validated constraint => constraint.references docs

def Constraint.references (docs : Option Entry) : Constraint → List DocumentKind
  | .documentName target => [target]
  | .alternatives nodes => referencesOfNodes docs nodes
  | .custom _ => []

/-- The kinds that some alternatives refer to. -/
def referencesOfNodes (docs : Option Entry) : List SchemaNode → List DocumentKind
  | [] => []
  | node :: rest => node.references docs ++ referencesOfNodes docs rest

/-- The kinds that the fields of an object refer to.  A hidden field and one without documentation
refer to nothing. -/
def referencesOfFields (tree : Tree) (skip : List String) :
    List (String × SchemaNode) → List DocumentKind
  | [] => []
  | (key, node) :: rest =>
    if isHiddenKey skip key then referencesOfFields tree skip rest
    else
      match Keyed.get? key tree with
      | some docs => node.references (some docs) ++ referencesOfFields tree skip rest
      | none => referencesOfFields tree skip rest

end

def Definition.references (d : Definition) : List DocumentKind :=
  match d.schema with
  | .object fields => referencesOfFields d.docs d.skipFields fields
  | _ => []

/-! ## Errors of a computation -/

namespace Synthesis

variable {α β : Type} {P Q : SynthesisError → Prop}

/-- From whatever registry, the computation fails with such errors only. -/
def FailsOnly (m : Synthesis α) (P : SynthesisError → Prop) : Prop :=
  ∀ r e r', m.run r = (.error e, r') → P e

theorem failsOnly_pure (a : α) : FailsOnly (pure a : Synthesis α) P := by
  intro r e r' run
  cases run

theorem failsOnly_fail {path : String} {fault : SynthesisFault} (here : P ⟨path, fault⟩) :
    FailsOnly (fail path fault : Synthesis α) P := by
  intro r e r' run
  cases run
  exact here

theorem FailsOnly.bind {m : Synthesis α} {f : α → Synthesis β} (first : FailsOnly m P)
    (next : ∀ a, FailsOnly (f a) P) : FailsOnly (m >>= f) P := by
  intro r e r' run
  rw [run_bind] at run
  rcases first_run : m.run r with ⟨e' | a, r₁⟩
  · rw [first_run] at run
    cases run
    exact first r e r' first_run
  · rw [first_run] at run
    exact next a r₁ e r' run

theorem FailsOnly.mono {m : Synthesis α} (fails : FailsOnly m P) (weaker : ∀ e, P e → Q e) :
    FailsOnly m Q :=
  fun r e r' run => weaker e (fails r e r' run)

theorem failsOnly_mapM {f : α → Synthesis β} {items : List α}
    (each : ∀ item ∈ items, FailsOnly (f item) P) : FailsOnly (items.mapM f) P := by
  induction items with
  | nil => exact failsOnly_pure _
  | cons item rest ih =>
    obtain ⟨here, later⟩ := List.forall_mem_cons.1 each
    rw [List.mapM_cons]
    exact here.bind fun b => (ih later).bind fun bs => failsOnly_pure _

end Synthesis

/-- Is the fault something else than a cycle? -/
def SynthesisFault.IsNoCycle (fault : SynthesisFault) : Prop := ∀ names, fault ≠ .cycle names

section Conversion

open Synthesis Conversion

variable {P : SynthesisError → Prop}

/-- Every error that is not on a cycle is allowed. -/
def AllowsOthers (P : SynthesisError → Prop) : Prop :=
  ∀ path fault, SynthesisFault.IsNoCycle fault → P ⟨path, fault⟩

theorem AllowsOthers.fails {α : Type} (others : AllowsOthers P) (path : String)
    {fault : SynthesisFault} (other : fault.IsNoCycle) :
    FailsOnly (fail path fault : Synthesis α) P :=
  failsOnly_fail (others path fault other)

theorem failsOnly_advise (path : String) (kind : AdvisoryKind) (message : String) :
    FailsOnly (advise path kind message) P := by
  intro r e r' run
  cases run

theorem failsOnly_registerUnion (union : UnionType) : FailsOnly (registerUnion union) P := by
  intro r e r' run
  cases run

theorem AllowsOthers.objectNamed? (others : AllowsOthers P) (name : String) :
    FailsOnly (Synthesis.objectNamed? name) P := by
  intro r e r' run
  rw [run_objectNamed?] at run
  split at run <;> cases run
  exact others _ _ nofun

theorem AllowsOthers.unionNamed? (others : AllowsOthers P) (name : String) :
    FailsOnly (Synthesis.unionNamed? name) P := by
  intro r e r' run
  rw [run_unionNamed?] at run
  split at run <;> cases run
  exact others _ _ nofun

theorem AllowsOthers.entryRecordFor (others : AllowsOthers P) (value : ApiType) :
    FailsOnly (Synthesis.entryRecordFor value) P := by
  intro r e r' run
  rw [run_entryRecordFor] at run
  split at run
  · cases run
  · split_ifs at run <;> cases run
    refine others _ _ fun names same => ?_
    cases same

theorem convertScalar_fails (path : String) (kind : ScalarKind) :
    FailsOnly (convertScalar path kind) P := by
  cases kind with
  | any => exact (failsOnly_advise _ _ _).bind fun _ => failsOnly_pure _
  | string | integer | float | boolean => exact failsOnly_pure _

theorem unionMembers_fails (others : AllowsOthers P) (path : String) (types : List ApiType)
    (done : List ObjectType) : FailsOnly (unionMembers path done types) P := by
  induction types generalizing done with
  | nil => exact failsOnly_pure _
  | cons type rest ih =>
    cases type with
    | object object => exact ih _
    | union union => exact ih _
    | list _ | scalar _ => exact others.fails path nofun

theorem unionOf_fails (others : AllowsOthers P) (c : Conversion) (path : String)
    (description : Option String) (types : List ApiType) :
    FailsOnly (c.unionOf path description types) P := by
  unfold unionOf
  dsimp only
  split
  · refine (unionMembers_fails others path types []).bind fun members => ?_
    exact (failsOnly_registerUnion _).bind fun union => failsOnly_pure _
  · unfold scalarUnion
    split_ifs
    · exact failsOnly_pure _
    · exact others.fails path nofun
    · exact (failsOnly_advise _ _ _).bind fun _ => failsOnly_pure _
    · exact others.fails path nofun

theorem unionAt_fails (others : AllowsOthers P) (c : Conversion) (path : String)
    (docs : Option Entry) (nodes : List SchemaNode) {alternatives : Synthesis (List ApiType)}
    (fails : FailsOnly alternatives P) : FailsOnly (c.unionAt path docs nodes alternatives) P := by
  refine (others.unionNamed? path).bind fun found => ?_
  cases found with
  | some union => exact failsOnly_pure _
  | none =>
    dsimp only
    split_ifs
    · exact others.fails path nofun
    · exact fails.bind fun types => unionOf_fails others c path _ types

theorem registerFields_fails (others : AllowsOthers P) (name : String)
    (description discriminator : Option String) (fields : List Field) :
    FailsOnly (registerFields name description discriminator fields) P := by
  unfold registerFields
  split_ifs
  · exact others.fails name nofun
  · intro r e r' run
    cases run

mutual

/-- The conversion of a node fails as one of its references does, or not on a cycle. -/
theorem convert_fails {c : Conversion} (others : AllowsOthers P) :
    ∀ (node : SchemaNode) (path : String) (docs : Option Entry),
      (∀ kind ∈ node.references docs, ∀ path, FailsOnly (c.resolve path kind) P) →
      FailsOnly (convert c path docs node) P
  | .scalar kind, path, docs, _ => by
    rw [convert]
    exact convertScalar_fails path kind
  | .optional inner, path, docs, resolves => by
    rw [SchemaNode.references] at resolves
    rw [convert]
    exact convert_fails others inner path docs resolves
  | .union nodes, path, docs, resolves => by
    rw [SchemaNode.references] at resolves
    rw [convert]
    exact unionAt_fails others c path docs nodes
      (convertAlternatives_fails others nodes path docs 0 resolves)
  | .object fields, path, docs, resolves => by
    rcases docs with _ | _ | ⟨own, tree⟩
    · simp only [convert]
      exact others.fails path nofun
    · simp only [convert]
      exact others.fails path nofun
    · simp only [SchemaNode.references] at resolves
      simp only [convert]
      refine (others.objectNamed? path).bind fun found => ?_
      cases found with
      | some object => exact failsOnly_pure _
      | none =>
        refine (convertFields_fails others fields path tree [] [] resolves).bind fun fields => ?_
        exact (registerFields_fails others path own none fields).bind fun _ => failsOnly_pure _
  | .list element, path, docs, resolves => by
    rw [SchemaNode.references] at resolves
    rw [convert]
    exact (convert_fails others element path docs resolves).bind fun _ => failsOnly_pure _
  | .map value, path, docs, resolves => by
    have entries : ∀ docs', FailsOnly (convert c path docs' value) P →
        FailsOnly (do
          let type ← convert c path docs' value
          return ApiType.list (.object (← entryRecordFor type))) P := by
      intro docs' fails
      exact fails.bind fun type => (others.entryRecordFor type).bind fun _ => failsOnly_pure _
    rw [convert]
    rcases docs with _ | text | ⟨own, tree⟩
    · rw [SchemaNode.references] at resolves
      · exact entries none (convert_fails others value path none resolves)
      · exact nofun
    · rw [SchemaNode.references] at resolves
      · exact entries _ (convert_fails others value path _ resolves)
      · exact nofun
    · rw [SchemaNode.references] at resolves
      rw [valueDocs]
      rcases found : Keyed.get? valueTerm tree with _ | entry
      · have refused : FailsOnly (fail path .noValueTerm : Synthesis ApiType) P :=
          others.fails path nofun
        exact refused
      · rw [found] at resolves
        exact entries _ (convert_fails others value path _ resolves)
  | .reference kind, path, docs, resolves => by
    rw [SchemaNode.references] at resolves
    rw [convert]
    exact resolves kind (List.mem_singleton_self kind) path
  | .validated constraint, path, docs, resolves => by
    rw [SchemaNode.references] at resolves
    rw [convert]
    exact convertConstraint_fails others constraint path docs resolves

theorem convertConstraint_fails {c : Conversion} (others : AllowsOthers P) :
    ∀ (constraint : Constraint) (path : String) (docs : Option Entry),
      (∀ kind ∈ constraint.references docs, ∀ path, FailsOnly (c.resolve path kind) P) →
      FailsOnly (convertConstraint c path docs constraint) P
  | .documentName target, path, docs, resolves => by
    rw [Constraint.references] at resolves
    rw [convertConstraint]
    exact resolves target (List.mem_singleton_self target) path
  | .alternatives nodes, path, docs, resolves => by
    rw [Constraint.references] at resolves
    rw [convertConstraint]
    exact unionAt_fails others c path docs nodes
      (convertAlternatives_fails others nodes path docs 0 resolves)
  | .custom name, path, docs, _ => by
    rw [convertConstraint]
    exact others.fails path nofun

theorem convertAlternatives_fails {c : Conversion} (others : AllowsOthers P) :
    ∀ (nodes : List SchemaNode) (path : String) (docs : Option Entry) (index : Nat),
      (∀ kind ∈ referencesOfNodes docs nodes, ∀ path, FailsOnly (c.resolve path kind) P) →
      FailsOnly (convertAlternatives c path docs index nodes) P
  | [], path, docs, index, _ => by
    rw [convertAlternatives]
    exact failsOnly_pure _
  | node :: rest, path, docs, index, resolves => by
    rw [referencesOfNodes, List.forall_mem_append] at resolves
    rw [convertAlternatives]
    refine (convert_fails others node _ docs resolves.1).bind fun type => ?_
    refine (convertAlternatives_fails others rest path docs _ resolves.2).bind fun types => ?_
    exact failsOnly_pure _

/-- The conversion of fields fails as one of their references does, or not on a cycle. -/
theorem convertFields_fails {c : Conversion} (others : AllowsOthers P) :
    ∀ (fields : List (String × SchemaNode)) (parent : String) (tree : Tree) (skip : List String)
      (done : List Field),
      (∀ kind ∈ referencesOfFields tree skip fields, ∀ path,
        FailsOnly (c.resolve path kind) P) →
      FailsOnly (convertFields c parent tree skip done fields) P
  | [], parent, tree, skip, done, _ => by
    rw [convertFields]
    exact failsOnly_pure _
  | (key, node) :: rest, parent, tree, skip, done, resolves => by
    rw [referencesOfFields] at resolves
    rw [convertFields]
    split_ifs at resolves ⊢
    · exact convertFields_fails others rest parent tree skip done resolves
    · dsimp only
      rcases documented : Keyed.get? key tree with _ | docs
      · rw [documented] at resolves
        refine (failsOnly_advise _ _ _).bind fun _ => ?_
        exact convertFields_fails others rest parent tree skip done resolves
      · rw [documented] at resolves
        dsimp only at resolves ⊢
        rw [List.forall_mem_append] at resolves
        split
        · exact others.fails _ nofun
        · refine (convert_fails others node _ _ resolves.1).bind fun type => ?_
          exact convertFields_fails others rest parent tree skip _ resolves.2

end

end Conversion

end ApiSchema
