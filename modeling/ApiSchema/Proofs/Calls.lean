import ApiSchema.Synthesis.Synthesizer

/-!
# Calls of a synthesizer

The calls that change a synthesizer, and what holds after any sequence of them.  A call for the
whole catalog is a sequence of calls for single kinds, so `afterCalls_induction` asks for two kinds
of calls only.
-/

namespace ApiSchema

/-- A call of a synthesizer. -/
inductive Call where
  | synthesize (d : Definition)
  | documentType (kind : DocumentKind)
  | synthesizeCatalog

namespace Synthesizer

/-- The synthesizer after a call, whether it succeeds or not. -/
def afterCall (s : Synthesizer) : Call → Synthesizer
  | .synthesize d => (s.synthesize d).2
  | .documentType kind => (s.documentType kind).2
  | .synthesizeCatalog => s.synthesizeCatalog.after

def afterCalls (s : Synthesizer) (calls : List Call) : Synthesizer := calls.foldl afterCall s

variable {P : Synthesizer → Prop}

theorem synthesizeKinds_after (documentType : ∀ s kind, P s → P (s.documentType kind).2)
    (kinds : List DocumentKind) {s : Synthesizer} (start : P s) (total current : Nat)
    (done : List ApiType) : P (s.synthesizeKinds total current done kinds).after := by
  induction kinds generalizing s current done with
  | nil => exact start
  | cons kind rest ih =>
    have next := documentType s kind start
    rw [synthesizeKinds]
    rcases call : s.documentType kind with ⟨_ | type, after⟩
    · rw [call] at next
      exact next
    · rw [call] at next
      exact ih next _ _

/-- What each call for a definition or a kind keeps holds after every sequence of calls. -/
theorem afterCalls_induction (synthesize : ∀ s d, P s → P (s.synthesize d).2)
    (documentType : ∀ s kind, P s → P (s.documentType kind).2) {s : Synthesizer} (start : P s)
    (calls : List Call) : P (s.afterCalls calls) := by
  induction calls generalizing s with
  | nil => exact start
  | cons call rest ih =>
    refine ih ?_
    cases call with
    | synthesize d => exact synthesize s d start
    | documentType kind => exact documentType s kind start
    | synthesizeCatalog => exact synthesizeKinds_after documentType _ start _ _ _

/-! ## One call -/

theorem run_ok {α : Type} {s : Synthesizer} {request : Synthesis α} {value : α} {r : Registry}
    (run : request.run s.registry = (.ok value, r)) :
    s.run request = (.ok value, { s with registry := r }) := by
  rw [Synthesizer.run, run]

theorem run_error {α : Type} {s : Synthesizer} {request : Synthesis α} {e : SynthesisError}
    {r : Registry} (run : request.run s.registry = (.error e, r)) :
    s.run request = (.error e, { s with registry := r.rollback s.registry.checkpoint }) := by
  rw [Synthesizer.run, run]

theorem run_keeps {α : Type} (s : Synthesizer) (request : Synthesis α) :
    (s.run request).2.catalog = s.catalog ∧ (s.run request).2.strict = s.strict := by
  rcases run : request.run s.registry with ⟨_ | _, r⟩
  · rw [run_error run]
    exact ⟨rfl, rfl⟩
  · rw [run_ok run]
    exact ⟨rfl, rfl⟩

theorem afterCalls_keeps (s : Synthesizer) (calls : List Call) :
    (s.afterCalls calls).catalog = s.catalog ∧ (s.afterCalls calls).strict = s.strict := by
  refine afterCalls_induction (P := fun t => t.catalog = s.catalog ∧ t.strict = s.strict)
    (fun t d same => ?_) (fun t kind same => ?_) ⟨rfl, rfl⟩ calls
  · exact ⟨(run_keeps t _).1.trans same.1, (run_keeps t _).2.trans same.2⟩
  · exact ⟨(run_keeps t _).1.trans same.1, (run_keeps t _).2.trans same.2⟩

end Synthesizer

end ApiSchema
