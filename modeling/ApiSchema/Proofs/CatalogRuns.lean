import Mathlib.Data.List.Nodup
import Mathlib.Data.List.Perm.Subperm
import ApiSchema.Proofs.Permanence

/-!
# Runs over catalogs

The requests for the kinds of a catalog are served in turn up to the first one that fails
(`serves_or_fails`), and the steps of a run say how far it came.  A request that fails leaves the
work of those before it, and a run that succeeds can be made again with the same steps
(`synthesizeCatalog_reports`).
-/

namespace ApiSchema

namespace Synthesizer

/-! ## Requests in turn -/

/-- Requests for some kinds succeed in turn: the types that they give, and the synthesizer after
them. -/
inductive Serves : Synthesizer → List DocumentKind → List ApiType → Synthesizer → Prop where
  | nil (s : Synthesizer) : Serves s [] [] s
  | cons {s next after : Synthesizer} {kind : DocumentKind} {type : ApiType}
      {kinds : List DocumentKind} {types : List ApiType}
      (request : s.documentType kind = (.ok type, next)) (served : Serves next kinds types after) :
      Serves s (kind :: kinds) (type :: types) after

section

variable {s after : Synthesizer} {kinds : List DocumentKind} {types : List ApiType}

theorem Serves.after_eq (served : Serves s kinds types after) :
    after = s.afterCalls (kinds.map .documentType) := by
  induction served with
  | nil s => rfl
  | @cons s next after kind type kinds types request _ ih =>
    have call : s.afterCall (.documentType kind) = next := congrArg Prod.snd request
    rw [ih, List.map_cons, afterCalls, afterCalls, List.foldl_cons, call]

theorem recorded_of_request {next : Synthesizer} {kind : DocumentKind} {type : ApiType}
    (recorded : s.registry.Recorded) (request : s.documentType kind = (.ok type, next)) :
    next.registry.Recorded := by
  have grown := (documentType_grows recorded kind).2
  rwa [request] at grown

/-- Requests that succeeded are served again, with the same types, and change nothing. -/
theorem Serves.again (recorded : s.registry.Recorded) (served : Serves s kinds types after) :
    Serves after kinds types after := by
  induction served with
  | nil s => exact .nil s
  | @cons s next after kind type kinds types request served ih =>
    have recorded' := recorded_of_request recorded request
    have given : (s.documentType kind).1 = .ok type := congrArg Prod.fst request
    have provides := provides_of_documentType given
    rw [← (run_keeps s _).1, ← documentType, request] at provides
    have later := documentType_later recorded' provides (kinds.map .documentType)
    rw [← served.after_eq] at later
    exact .cons later (ih recorded')

/-- Either all requests succeed, or there is a first one that fails, and it changes nothing. -/
theorem serves_or_fails (recorded : s.registry.Recorded) (kinds : List DocumentKind) :
    (∃ types after, Serves s kinds types after) ∨
      ∃ before kind rest types after e, kinds = before ++ kind :: rest ∧
        Serves s before types after ∧ after.documentType kind = (.error e, after) := by
  induction kinds generalizing s with
  | nil => exact .inl ⟨[], s, .nil s⟩
  | cons kind kinds ih =>
    rcases run_cases recorded (Law.typeOf_leads [] _ kind _ recorded) with
      ⟨type, r, -, -, request⟩ | ⟨e, r, -, failed⟩
    · rcases ih (recorded_of_request recorded request) with
        ⟨types, after, served⟩ | ⟨before, last, rest, types, after, e, rfl, served, failed⟩
      · exact .inl ⟨type :: types, after, .cons request served⟩
      · exact .inr ⟨kind :: before, last, rest, type :: types, after, e, rfl,
          .cons request served, failed⟩
    · exact .inr ⟨[], kind, kinds, [], s, e, rfl, .nil s, failed⟩

end

/-! ## Reported steps -/

/-- The steps that announce the requests for some kinds, after `current` others of `total`. -/
def announced (total current : Nat) (kinds : List DocumentKind) : List OperationStep :=
  kinds.mapIdx fun i kind =>
    .progress total (current + i) s!"Generating {kind.name} types..."

theorem announced_cons (total current : Nat) (kind : DocumentKind) (kinds : List DocumentKind) :
    announced total current (kind :: kinds) =
      .progress total current s!"Generating {kind.name} types..." ::
        announced total (current + 1) kinds := by
  simp only [announced, List.mapIdx_cons, Nat.add_zero, Nat.add_assoc, Nat.add_comm 1]

theorem isEnd_of_mem_announced {total current : Nat} {kinds : List DocumentKind}
    {step : OperationStep} (mem : step ∈ announced total current kinds) : step.isEnd = false := by
  obtain ⟨i, bound, rfl⟩ := List.mem_mapIdx.1 mem
  rfl

section

variable {s after : Synthesizer} {kinds : List DocumentKind} {types : List ApiType}

theorem Serves.synthesizeKinds_eq (served : Serves s kinds types after) (total current : Nat)
    (done : List ApiType) :
    s.synthesizeKinds total current done kinds =
      { result := .ok (done ++ types)
        steps := announced total current kinds ++
          [.finished total total s!"Generated {after.types.length} types"]
        after := after } := by
  induction served generalizing current done with
  | nil s =>
    rw [List.append_nil]
    rfl
  | cons request served ih =>
    rw [synthesizeKinds, request, announced_cons]
    dsimp only
    rw [ih, List.append_assoc]
    rfl

/-- A run whose first failing request comes after some that succeed. -/
theorem Serves.synthesizeKinds_append (served : Serves s kinds types after) {kind : DocumentKind}
    {e : SynthesisError} (failed : after.documentType kind = (.error e, after))
    (total current : Nat) (done : List ApiType) (rest : List DocumentKind) :
    s.synthesizeKinds total current done (kinds ++ kind :: rest) =
      { result := .error e
        steps := announced total current (kinds ++ [kind]) ++
          [.failed total (current + kinds.length) e.message]
        after := after } := by
  induction served generalizing current done with
  | nil s =>
    rw [List.nil_append, synthesizeKinds, failed]
    rfl
  | cons request served ih =>
    rw [List.cons_append, synthesizeKinds, request, List.cons_append, announced_cons]
    dsimp only
    rw [ih failed, List.length_cons, Nat.add_assoc, Nat.add_comm 1]
    rfl

end

/-! ## Whole runs -/

theorem synthesizeCatalog_eq {s : Synthesizer} {catalog : Catalog} (same : s.catalog = catalog) :
    s.synthesizeCatalog = s.synthesizeKinds catalog.kinds.length 0 [] catalog.kinds := by
  rw [← same]
  rfl

/-- The run over a catalog, after any calls, announces each kind and reports how it ends.  Either
all requests succeed, the result has their types in order, and the same run can be made again; or
the first one that fails is reported, its error is the result, and what is left is the work of the
requests before it.  The only step that ends the run is the last one. -/
theorem synthesizeCatalog_reports (catalog : Catalog) (strict : Bool) (calls : List Call) :
    let s := (new catalog strict).afterCalls calls
    let run := s.synthesizeCatalog
    let n := catalog.kinds.length
    ((∃ types, Serves s catalog.kinds types run.after ∧
        run.after = s.afterCalls (catalog.kinds.map .documentType) ∧ run.result = .ok types ∧
        run.steps = announced n 0 catalog.kinds ++
          [.finished n n s!"Generated {run.after.types.length} types"] ∧
        run.after.synthesizeCatalog = run) ∨
      ∃ before kind rest types e, catalog.kinds = before ++ kind :: rest ∧
        Serves s before types run.after ∧ run.after = s.afterCalls (before.map .documentType) ∧
        run.after.documentType kind = (.error e, run.after) ∧ run.result = .error e ∧
        run.steps = announced n 0 (before ++ [kind]) ++ [.failed n before.length e.message]) ∧
    ∃ steps last, run.steps = steps ++ [last] ∧ last.isEnd = true ∧
      ∀ step ∈ steps, step.isEnd = false := by
  intro s run n
  have recorded : s.registry.Recorded := recorded_afterCalls catalog strict calls
  have of_s : s.catalog = catalog := (afterCalls_keeps _ calls).1
  have run_eq : run = s.synthesizeKinds n 0 [] catalog.kinds := synthesizeCatalog_eq of_s
  rcases serves_or_fails recorded catalog.kinds with
    ⟨types, after, served⟩ | ⟨before, kind, rest, types, after, e, split, served, failed⟩
  · have of_after : after.catalog = catalog := by
      rw [served.after_eq, (afterCalls_keeps s _).1, of_s]
    rw [served.synthesizeKinds_eq, List.nil_append] at run_eq
    have again : after.synthesizeCatalog = run := by
      rw [synthesizeCatalog_eq of_after, (served.again recorded).synthesizeKinds_eq,
        List.nil_append, run_eq]
    rw [run_eq] at again ⊢
    exact ⟨.inl ⟨types, served, served.after_eq, rfl, rfl, again⟩, _, _, rfl, rfl,
      fun step => isEnd_of_mem_announced⟩
  · rw [split, served.synthesizeKinds_append failed, Nat.zero_add] at run_eq
    rw [run_eq]
    exact ⟨.inr ⟨before, kind, rest, types, e, split, served, served.after_eq, failed, rfl, rfl⟩,
      _, _, rfl, rfl, fun step => isEnd_of_mem_announced⟩

/-- The service with an image is generated before the app that has no type, and alone it can be
generated again. -/
theorem brokenApp_reported :
    let s := new ⟨[imageService, brokenApp]⟩ false
    let service := new ⟨[imageService]⟩ false
    let e : SynthesisError := ⟨"AppCheck", .unsupportedConstraint "Regex"⟩
    s.synthesizeCatalog =
      { result := .error e
        steps := [.progress 2 0 "Generating service types...",
          .progress 2 1 "Generating app types...", .failed 2 1 e.message]
        after := (s.synthesize imageService).2 } ∧
      service.synthesizeCatalog.steps = [.progress 1 0 "Generating service types...",
        .finished 1 1 "Generated 1 types"] ∧
      service.synthesizeCatalog.after.synthesizeCatalog = service.synthesizeCatalog := by
  intro s service e
  let object : ObjectType :=
    ⟨0, "Service", none, [⟨"image", "image", .scalar .string, true, some "Docker image"⟩], none⟩
  have first : s.documentType .service = (.ok (.object object), (s.synthesize imageService).2) := by
    rw [documentType, Catalog.typeOf_eq]
    rfl
  have second : (s.synthesize imageService).2.documentType .app =
      (.error e, (s.synthesize imageService).2) := by
    rw [documentType, Catalog.typeOf_eq]
    rfl
  have alone : service.documentType .service =
      (.ok (.object object), (service.synthesize imageService).2) := by
    rw [documentType, Catalog.typeOf_eq]
    rfl
  have broken := (Serves.cons first (.nil _)).synthesizeKinds_append second 2 0 [] []
  have whole := (Serves.cons alone (.nil _)).synthesizeKinds_eq 1 0 []
  rw [show (service.synthesize imageService).2.types.length = 1 from rfl] at whole
  rcases (synthesizeCatalog_reports ⟨[imageService]⟩ false []).1 with
    ⟨types, -, -, -, -, again⟩ | ⟨before, kind, rest, types, e', -, -, -, -, failed, -⟩
  · exact ⟨broken, congrArg CatalogRun.steps whole, again⟩
  · cases (congrArg CatalogRun.result whole).symm.trans failed

end Synthesizer

/-! ## Counts -/

namespace Catalog

theorem nodup_kinds (catalog : Catalog) : catalog.kinds.Nodup := by
  have each : ∀ (more done : List DocumentKind), done.Nodup →
      (more.foldl (fun done kind => if done.contains kind then done else done ++ [kind])
        done).Nodup := by
    intro more
    induction more with
    | nil => exact fun done nodup => nodup
    | cons kind rest ih =>
      intro done nodup
      rw [List.foldl_cons]
      refine ih _ ?_
      split_ifs with known
      · exact nodup
      · rw [List.contains_iff_mem] at known
        exact List.nodup_append.2 ⟨nodup, List.nodup_singleton kind, fun a mem b last same =>
          known (List.mem_singleton.1 last ▸ same ▸ mem)⟩
  exact each _ [] List.nodup_nil

theorem length_kinds_le (catalog : Catalog) : catalog.kinds.length ≤ 5 := by
  have among : catalog.kinds ⊆ DocumentKind.all := by
    intro kind _
    cases kind <;> decide
  exact (List.subperm_of_subset catalog.nodup_kinds among).length_le

end Catalog

namespace Synthesizer

theorem counts_of_mem_steps (s : Synthesizer) {total current : Nat} {kinds : List DocumentKind}
    (whole : current + kinds.length = total) (done : List ApiType) :
    ∀ step ∈ (s.synthesizeKinds total current done kinds).steps,
      step.steps = total ∧ step.current ≤ total := by
  induction kinds generalizing s current done with
  | nil =>
    rintro step (_ | ⟨_, ⟨⟩⟩)
    exact ⟨rfl, Nat.le_refl total⟩
  | cons kind rest ih =>
    rw [List.length_cons] at whole
    rw [synthesizeKinds]
    rcases s.documentType kind with ⟨_ | type, after⟩
    · rintro step (_ | ⟨_, _ | ⟨_, ⟨⟩⟩⟩)
      · exact ⟨rfl, by simp only [OperationStep.progress]; omega⟩
      · exact ⟨rfl, by simp only [OperationStep.failed]; omega⟩
    · rintro step (_ | ⟨_, mem⟩)
      · exact ⟨rfl, by simp only [OperationStep.progress]; omega⟩
      · exact ih after (by omega) _ step mem

/-- The counts in the steps of a run over a catalog fit into a step. -/
theorem counts_fit (s : Synthesizer) : ∀ step ∈ s.synthesizeCatalog.steps,
    (step.steps : Int) < OperationStep.countLimit ∧
      (step.current : Int) < OperationStep.countLimit := by
  intro step mem
  obtain ⟨steps, current⟩ := s.counts_of_mem_steps (Nat.zero_add _) [] step mem
  have few := s.catalog.length_kinds_le
  have limit : OperationStep.countLimit = 4294967296 := rfl
  omega

end Synthesizer

end ApiSchema
