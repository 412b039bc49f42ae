import Mathlib.Data.List.Chain
import Mathlib.Data.List.Nodup
import ApiSchema.Proofs.References
import ApiSchema.Proofs.Calls

/-!
# Cycles of documents

A walk ends, since the documents in progress have different names, and where it reports a cycle
there is one (`walks_end_and_cycles_are_real`): the reported names are those of definitions of which
each refers to the next, from one that was asked for up to one whose name was there before.  So a
catalog in which no name leads back to itself never gives such an error.
-/

namespace ApiSchema

open Synthesis

/-! ## Paths of definitions -/

namespace Catalog

variable {catalog : Catalog} {strict : Bool}

/-- A definition refers to those of the kinds that it refers to. -/
def RefersTo (catalog : Catalog) (d e : Definition) : Prop :=
  ∃ kind ∈ d.references, e ∈ catalog.definitions kind

/-- Each definition refers to the next, and the last one has the name of exactly one before it. -/
structure ClosesCycle (catalog : Catalog) (path : List Definition) : Prop where
  linked : path.IsChain catalog.RefersTo
  closes : ∃ front last, path = front ++ [last] ∧ (front.map Definition.name).Nodup ∧
    (front.map Definition.name).count last.name = 1

/-- A name leads to another one by a definition that was asked for or is in the catalog. -/
def NameRefersTo (catalog : Catalog) (asked : List Definition) (a b : String) : Prop :=
  ∃ d e, (d ∈ asked ∨ d ∈ catalog.all) ∧ d.name = a ∧ e.name = b ∧ catalog.RefersTo d e

/-- No name that the definitions asked for lead to leads back to itself. -/
def AcyclicFrom (catalog : Catalog) (asked : List Definition) : Prop :=
  ∀ first ∈ asked, ∀ name,
    Relation.ReflTransGen (catalog.NameRefersTo asked) first.name name →
      ¬ Relation.TransGen (catalog.NameRefersTo asked) name name

theorem RefersTo.mem_all {d e : Definition} (refers : catalog.RefersTo d e) : e ∈ catalog.all := by
  obtain ⟨kind, -, mem⟩ := refers
  exact (List.mem_filter.1 mem).1

theorem isChain_concat (front : List Definition) {d e : Definition}
    (linked : (front ++ [d]).IsChain catalog.RefersTo) (refers : catalog.RefersTo d e) :
    (front ++ [d] ++ [e]).IsChain catalog.RefersTo :=
  linked.append (.singleton e) (by simpa using refers)

theorem isChain_names {asked path : List Definition} (linked : path.IsChain catalog.RefersTo)
    (start : ∀ d ∈ path.head?, d ∈ asked ∨ d ∈ catalog.all) :
    (path.map Definition.name).IsChain (catalog.NameRefersTo asked) := by
  induction path with
  | nil => exact .nil
  | cons d rest ih =>
    obtain ⟨refers, linked⟩ := List.isChain_cons.1 linked
    refine (ih linked fun e next => .inr (refers e next).mem_all).cons fun b next => ?_
    rw [List.head?_map] at next
    obtain ⟨e, found, rfl⟩ := Option.map_eq_some_iff.1 next
    exact ⟨d, e, start d rfl, rfl, rfl, refers e found⟩

theorem nodup_concat {names : List String} {name : String} (distinct : names.Nodup)
    (new : name ∉ names) : (names ++ [name]).Nodup := by
  rw [← List.concat_eq_append]
  exact distinct.concat new

/-- A chain that ends where it was before leads from its start to a loop. -/
theorem loop_of_isChain {r : String → String → Prop} {names : List String} {first last : String}
    (chain : (names ++ [last]).IsChain r) (start : names.head? = some first) (mem : last ∈ names) :
    Relation.ReflTransGen r first last ∧ Relation.TransGen r last last := by
  obtain ⟨before, between, rfl⟩ := List.append_of_mem mem
  constructor
  · have leads : (before ++ [last]).IsChain r := by
      refine chain.prefix ⟨between ++ [last], ?_⟩
      simp
    have path := List.relationReflTransGen_of_exists_isChain _ leads (by simp)
    have head : (before ++ [last]).head (by simp) = first := by
      apply Option.some.inj
      rw [← List.head?_eq_some_head, ← start]
      cases before <;> rfl
    rwa [head, List.getLast_append_singleton] at path
  · have loop : (last :: (between ++ [last])).IsChain r := by
      refine chain.suffix ⟨before, ?_⟩
      simp
    obtain ⟨step, later⟩ := List.isChain_cons.1 loop
    have filled : between ++ [last] ≠ [] := by simp
    have path := List.relationReflTransGen_of_exists_isChain _ later filled
    rw [List.getLast_append_singleton] at path
    exact .head' (step _ (List.head?_eq_some_head filled)) path

/-- A path that closes a cycle leads to a name that leads back to itself. -/
theorem ClosesCycle.not_acyclic {asked path : List Definition} (cycle : catalog.ClosesCycle path)
    {first : Definition} (mem : first ∈ asked) (start : path.head? = some first) :
    ¬ catalog.AcyclicFrom asked := by
  obtain ⟨front, last, rfl, -, once⟩ := cycle.closes
  have there : last.name ∈ front.map Definition.name := List.count_pos_iff.1 (by omega)
  have head : (front.map Definition.name).head? = some first.name := by
    cases front with
    | nil => cases there
    | cons d rest =>
      cases start
      rfl
  have chain : ((front ++ [last]).map Definition.name).IsChain (catalog.NameRefersTo asked) :=
    isChain_names cycle.linked (by simp [start, mem])
  rw [List.map_append] at chain
  obtain ⟨leads, loop⟩ := loop_of_isChain chain head there
  exact fun acyclic => acyclic first mem last.name leads loop

/-! ## Errors on a cycle -/

/-- An error on a cycle is about the names of definitions that close one and start with those of
`front`; it is reported at the last of them. -/
def BlamesCycle (catalog : Catalog) (front : List Definition) (e : SynthesisError) : Prop :=
  ∀ names, e.fault = .cycle names → ∃ path, front <+: path ∧ catalog.ClosesCycle path ∧
    names = path.map Definition.name ∧ names.getLast? = some e.path

/-- An error on a cycle goes on from `front` with a definition of the kind. -/
def BlamesCycleOf (catalog : Catalog) (front : List Definition) (kind : DocumentKind)
    (e : SynthesisError) : Prop :=
  e.fault.IsNoCycle ∨ ∃ d ∈ catalog.definitions kind, catalog.BlamesCycle (front ++ [d]) e

theorem allowsOthers_blamesCycle (front : List Definition) :
    AllowsOthers (catalog.BlamesCycle front) :=
  fun _ _ other names cycle => absurd cycle (other names)

theorem BlamesCycleOf.before {front : List Definition} {kind : DocumentKind} {e : SynthesisError}
    (blames : catalog.BlamesCycleOf front kind e) : catalog.BlamesCycle front e := by
  intro names cycle
  rcases blames with other | ⟨d, -, blames⟩
  · exact absurd cycle (other names)
  · obtain ⟨path, starts, rest⟩ := blames names cycle
    exact ⟨path, (List.prefix_append front [d]).trans starts, rest⟩

/-- A definition blames the cycle that it closes, or fails as the kinds that it refers to. -/
theorem objectIn_blames (front : List Definition) {d : Definition}
    (linked : (front ++ [d]).IsChain catalog.RefersTo)
    (distinct : (front.map Definition.name).Nodup)
    (references : d.name ∉ front.map Definition.name → ∀ kind ∈ d.references, ∀ path,
      FailsOnly (catalog.typeOf strict (front.map Definition.name ++ [d.name]) path kind)
        (catalog.BlamesCycle (front ++ [d]))) :
    FailsOnly (catalog.objectIn strict (front.map Definition.name) d)
      (catalog.BlamesCycle (front ++ [d])) := by
  have others : AllowsOthers (catalog.BlamesCycle (front ++ [d])) := allowsOthers_blamesCycle _
  unfold objectIn Definition.objectWith
  refine (others.objectNamed? d.name).bind fun found => ?_
  cases found with
  | some object => exact failsOnly_pure _
  | none =>
    dsimp only
    split_ifs with busy
    · refine failsOnly_fail ?_
      rintro names ⟨⟩
      refine ⟨front ++ [d], List.prefix_rfl, ⟨linked, front, d, rfl, distinct, ?_⟩, ?_, ?_⟩
      · exact List.count_eq_one_of_mem distinct busy
      · simp
      · simp
    · split
      · rename_i fields shape
        have known : d.references = referencesOfFields d.docs d.skipFields fields := by
          rw [Definition.references, shape]
        rw [known] at references
        refine (convertFields_fails others fields _ _ _ [] (references busy)).bind fun fields => ?_
        exact registerFields_fails others _ _ _ fields
      · exact others.fails d.name nofun

/-- A walk of a kind that fails on a cycle blames one that goes on from the definitions in
progress. -/
theorem typeOf_blames (front : List Definition) (distinct : (front.map Definition.name).Nodup)
    {kind : DocumentKind}
    (linked : ∀ d ∈ catalog.definitions kind, (front ++ [d]).IsChain catalog.RefersTo)
    (path : String) :
    FailsOnly (catalog.typeOf strict (front.map Definition.name) path kind)
      (catalog.BlamesCycleOf front kind) := by
  induction count : (catalog.waiting (front.map Definition.name)).length using Nat.strongRecOn
    generalizing front kind path with
  | ind count ih =>
    subst count
    have others : AllowsOthers (catalog.BlamesCycleOf front kind) := fun _ _ other => .inl other
    have each : ∀ d ∈ catalog.definitions kind,
        FailsOnly (catalog.objectIn strict (front.map Definition.name) d)
          (catalog.BlamesCycleOf front kind) := by
      intro d mem
      refine (objectIn_blames front (linked d mem) distinct fun new kind' refers path => ?_).mono
        fun e blames => .inr ⟨d, mem, blames⟩
      have names : (front ++ [d]).map Definition.name = front.map Definition.name ++ [d.name] := by
        simp
      have fewer := length_waiting_lt (List.mem_filter.1 mem).1 new
      have distinct' : ((front ++ [d]).map Definition.name).Nodup := by
        rw [names]
        exact nodup_concat distinct new
      rw [← names] at fewer ⊢
      refine (ih _ fewer _ distinct' (fun e mem' => ?_) path rfl).mono fun e blames => blames.before
      exact isChain_concat front (linked d mem) ⟨kind', refers, mem'⟩
    rw [typeOf_eq]
    generalize catalog.definitions kind = definitions at each ⊢
    rcases definitions with _ | ⟨first, _ | ⟨second, rest⟩⟩
    · exact others.fails path nofun
    · exact (each first (List.mem_singleton_self first)).bind fun object => failsOnly_pure _
    · refine (others.unionNamed? kind.typeName).bind fun found => ?_
      cases found with
      | some union => exact failsOnly_pure _
      | none =>
        refine (failsOnly_mapM each).bind fun members => ?_
        exact (failsOnly_registerUnion _).bind fun union => failsOnly_pure _

/-! ## The documents in progress -/

theorem objectIn_nil (d : Definition) : catalog.objectIn strict [] d = catalog.objectOf strict d :=
  rfl

/-- The object of a definition while the documents `busy` are being generated.  Whenever a document
is begun, `watch` is told the names of those in progress. -/
def objectWatched (strict : Bool) (watch : List String → Synthesis Unit) (busy : List String)
    (resolve : String → DocumentKind → Synthesis ApiType) (d : Definition) :
    Synthesis ObjectType := do
  match ← Synthesis.objectNamed? d.name with
  | some object => return object
  | none =>
    if d.name ∈ busy then Synthesis.fail d.name (.cycle (busy ++ [d.name]))
    else
      match d.schema with
      | .object fields =>
        watch (busy ++ [d.name])
        let c : Conversion := ⟨strict, resolve⟩
        let fields ← c.convertFields d.name d.docs d.skipFields [] fields
        Conversion.registerFields d.name d.description d.discriminator fields
      | _ => Synthesis.fail d.name .documentNotObject

/-- The type of the documents that some definitions describe, from the object of each. -/
def typeBy (objectOf : Definition → Synthesis ObjectType) (path : String) (kind : DocumentKind) :
    List Definition → Synthesis ApiType
  | [] => Synthesis.fail path (.noDefinition kind)
  | [single] => return .object (← objectOf single)
  | variants => do
    match ← Synthesis.unionNamed? kind.typeName with
    | some union => return .union union
    | none =>
      let members ← variants.mapM objectOf
      return .union (← Synthesis.registerUnion ⟨kind.typeName, none, members⟩)

/-- The walk of a kind that goes no deeper than `depth` documents, and does `beyond` where it would
have to. -/
def typeWatched (catalog : Catalog) (strict : Bool) (watch : List String → Synthesis Unit)
    (beyond : Synthesis ApiType) :
    Nat → List String → String → DocumentKind → Synthesis ApiType
  | 0, _, _, _ => beyond
  | depth + 1, busy, path, kind =>
    typeBy (fun d => objectWatched strict watch busy
      (catalog.typeWatched strict watch beyond depth (busy ++ [d.name])) d) path kind
      (catalog.definitions kind)

theorem typeBy_congr {f g : Definition → Synthesis ObjectType} {definitions : List Definition}
    (same : ∀ d ∈ definitions, f d = g d) (path : String) (kind : DocumentKind) :
    typeBy f path kind definitions = typeBy g path kind definitions := by
  rcases definitions with _ | ⟨first, _ | ⟨second, rest⟩⟩
  · rfl
  · rw [typeBy, typeBy, same first (List.mem_singleton_self first)]
  · have members : (first :: second :: rest).mapM f = (first :: second :: rest).mapM g := by
      generalize first :: second :: rest = variants at same ⊢
      induction variants with
      | nil => rfl
      | cons d rest ih =>
        obtain ⟨here, later⟩ := List.forall_mem_cons.1 same
        rw [List.mapM_cons, List.mapM_cons, here, ih later]
    simp only [typeBy, members]

variable {watch : List String → Synthesis Unit} {beyond : Synthesis ApiType} {busy : List String}

/-- A document that is begun adds a new name to those in progress, so a watch that is quiet as long
as they differ stays quiet. -/
theorem objectWatched_eq (quiet : ∀ names : List String, names.Nodup → watch names = pure ())
    (distinct : busy.Nodup) (d : Definition)
    {resolve : String → DocumentKind → Synthesis ApiType}
    (resolves : (busy ++ [d.name]).Nodup → resolve = catalog.typeOf strict (busy ++ [d.name])) :
    objectWatched strict watch busy resolve d = catalog.objectIn strict busy d := by
  unfold objectWatched objectIn Definition.objectWith
  refine bind_congr fun found => ?_
  cases found with
  | some object => rfl
  | none =>
    dsimp only
    by_cases old : d.name ∈ busy
    · rw [if_pos old, dif_pos old]
    · have fresh : (busy ++ [d.name]).Nodup := nodup_concat distinct old
      rw [if_neg old, dif_neg old, resolves fresh, quiet _ fresh]
      rfl

/-- As many documents as wait can be begun on the way down, and no more. -/
theorem typeWatched_eq (quiet : ∀ names : List String, names.Nodup → watch names = pure ())
    (distinct : busy.Nodup) {depth : Nat} (deep : (catalog.waiting busy).length < depth) :
    catalog.typeWatched strict watch beyond depth busy = catalog.typeOf strict busy := by
  induction depth generalizing busy with
  | zero => omega
  | succ depth ih =>
    funext path kind
    have each : ∀ d ∈ catalog.definitions kind, objectWatched strict watch busy
        (catalog.typeWatched strict watch beyond depth (busy ++ [d.name])) d =
          catalog.objectIn strict busy d := by
      intro d mem
      refine objectWatched_eq quiet distinct d fun fresh => ih fresh ?_
      have new : d.name ∉ busy := by
        intro old
        exact (List.nodup_append.1 fresh).2.2 _ old _ (List.mem_singleton_self _) rfl
      have fewer := length_waiting_lt (List.mem_filter.1 mem).1 new
      omega
    rw [typeWatched, typeBy_congr each, typeOf_eq]
    rcases catalog.definitions kind with _ | ⟨first, _ | ⟨second, rest⟩⟩ <;> rfl

end Catalog

/-! ## Requests -/

namespace Synthesizer

open Catalog

/-- A request for one of the definitions fails: one for a kind asks for all definitions of it. -/
inductive FailsAsking (s : Synthesizer) : List Definition → SynthesisError → Prop
  | documentType {kind : DocumentKind} {e : SynthesisError}
      (failed : (s.documentType kind).1 = .error e) : FailsAsking s (s.catalog.definitions kind) e
  | synthesize {d : Definition} {e : SynthesisError} (failed : (s.synthesize d).1 = .error e) :
      FailsAsking s [d] e

theorem exists_run_eq_error {α : Type} {s : Synthesizer} {request : Synthesis α}
    {e : SynthesisError} (failed : (s.run request).1 = .error e) :
    ∃ r, request.run s.registry = (.error e, r) := by
  rcases run : request.run s.registry with ⟨e' | value, r⟩
  · rw [run_error run] at failed
    cases failed
    exact ⟨r, rfl⟩
  · rw [run_ok run] at failed
    cases failed

/-- A request that fails on a cycle blames one that starts with a definition asked for. -/
theorem FailsAsking.blames {s : Synthesizer} {asked : List Definition} {e : SynthesisError}
    (fails : s.FailsAsking asked e) :
    e.fault.IsNoCycle ∨ ∃ first ∈ asked, s.catalog.BlamesCycle [first] e := by
  cases fails with
  | @documentType kind _ failed =>
    obtain ⟨r, run⟩ := exists_run_eq_error failed
    exact typeOf_blames [] List.nodup_nil (fun d _ => .singleton d) kind.typeName _ _ _ run
  | @synthesize d _ failed =>
    obtain ⟨r, run⟩ := exists_run_eq_error failed
    refine .inr ⟨d, List.mem_singleton_self d, ?_⟩
    refine objectIn_blames [] (.singleton d) List.nodup_nil (fun _ kind refers path => ?_) _ _ _ run
    refine (typeOf_blames [d] (List.nodup_singleton _) (fun e mem => ?_) path).mono
      fun e blames => blames.before
    exact isChain_concat [] (.singleton d) ⟨kind, refers, mem⟩

/-- Walks end, and the cycles that they report are real.

Whatever is done when a document is begun while two of those in progress share a name, and whatever
is done deeper than there are definitions, no walk of a request comes to it.  An error on a cycle
lists the names of definitions that close one, from one asked for on; so there is none where no name
leads back to itself. -/
theorem walks_end_and_cycles_are_real (s : Synthesizer) :
    (∀ (watch : List String → Synthesis Unit) (beyond : Synthesis ApiType),
      (∀ names : List String, names.Nodup → watch names = pure ()) →
      (∀ kind : DocumentKind,
        s.catalog.typeWatched s.strict watch beyond (s.catalog.size + 1) [] kind.typeName kind =
          s.catalog.typeOf s.strict [] kind.typeName kind) ∧
      ∀ d, objectWatched s.strict watch []
          (s.catalog.typeWatched s.strict watch beyond (s.catalog.size + 1) [d.name]) d =
        s.catalog.objectOf s.strict d) ∧
    (∀ asked e names, s.FailsAsking asked e → e.fault = .cycle names →
      e.message = "schema conversion: " ++ e.path ++ ": " ++
        ("cyclic document reference: " ++ Text.join " -> " names) ∧
      names.getLast? = some e.path ∧
      ∃ path first, first ∈ asked ∧ path.head? = some first ∧ s.catalog.ClosesCycle path ∧
        names = path.map Definition.name) ∧
    ∀ asked e names, s.catalog.AcyclicFrom asked → s.FailsAsking asked e →
      e.fault ≠ .cycle names := by
  have real : ∀ asked e names, s.FailsAsking asked e → e.fault = .cycle names →
      names.getLast? = some e.path ∧
      ∃ path first, first ∈ asked ∧ path.head? = some first ∧ s.catalog.ClosesCycle path ∧
        names = path.map Definition.name := by
    intro asked e names fails cycle
    rcases fails.blames with other | ⟨first, mem, blames⟩
    · exact absurd cycle (other names)
    · obtain ⟨path, ⟨rest, rfl⟩, closes, named, ends⟩ := blames names cycle
      exact ⟨ends, _, first, mem, rfl, closes, named⟩
  refine ⟨fun watch beyond quiet => ⟨fun kind => ?_, fun d => ?_⟩, fun asked e names fails cycle =>
    ⟨?_, real asked e names fails cycle⟩, fun asked e names acyclic fails cycle => ?_⟩
  · have deep : (s.catalog.waiting []).length < s.catalog.size + 1 :=
      Nat.lt_succ_of_le (List.length_filter_le _ _)
    rw [typeWatched_eq quiet List.nodup_nil deep]
  · rw [← objectIn_nil]
    refine objectWatched_eq quiet List.nodup_nil d fun distinct => ?_
    exact typeWatched_eq quiet distinct (Nat.lt_succ_of_le (List.length_filter_le _ _))
  · rcases e with ⟨place, fault⟩
    cases cycle
    rfl
  · obtain ⟨-, path, first, mem, start, closes, -⟩ := real asked e names fails cycle
    exact closes.not_acyclic mem start acyclic

/-- An app with the service that it runs. -/
def runningApp : Definition where
  kind := .app
  name := "App"
  description := none
  schema := .object [("service", .optional (.reference .service))]
  docs := [("service", .text "The service")]
  skipFields := []
  discriminator := none

/-- A service with the apps that it serves, if they are documented. -/
def servingService (docs : Documentation.Tree) : Definition where
  kind := .service
  name := "Service"
  description := none
  schema := .object
    [("apps", .map (.list (.validated (.documentName .app)))), ("port", .scalar .any)]
  docs := docs
  skipFields := []
  discriminator := none

/-- An app and its service; they refer to each other if the service's apps are documented. -/
def runningCatalog (docs : Documentation.Tree) : Catalog := ⟨[runningApp, servingService docs]⟩

theorem runningApp_cycle :
    let documented : Documentation.Tree :=
      [("apps", .nested none [(Documentation.valueTerm, .text "An app")])]
    let loop := mk (runningCatalog documented) false .empty
    let chain := mk (runningCatalog [("port", .text "A port")]) false .empty
    (loop.FailsAsking [runningApp] ⟨"App", .cycle ["App", "Service", "App"]⟩ ∧
      ∃ path, loop.catalog.ClosesCycle path ∧
        ["App", "Service", "App"] = path.map Definition.name) ∧
    chain.catalog.AcyclicFrom [runningApp] ∧ ∃ type, (chain.documentType .app).1 = .ok type := by
  intro documented loop chain
  obtain ⟨ends, real, -⟩ := walks_end_and_cycles_are_real loop
  obtain ⟨ends', -, -⟩ := walks_end_and_cycles_are_real chain
  have walked := (ends (fun _ => pure ()) (Synthesis.fail "" .noFields) fun _ _ => rfl).1 .app
  have walked' := (ends' (fun _ => pure ()) (Synthesis.fail "" .noFields) fun _ _ => rfl).1 .app
  have failed : (loop.documentType .app).1 = .error ⟨"App", .cycle ["App", "Service", "App"]⟩ := by
    rw [documentType, ← walked]
    rfl
  have fails : loop.FailsAsking [runningApp] ⟨"App", .cycle ["App", "Service", "App"]⟩ :=
    FailsAsking.documentType failed
  have edge : ∀ a b, chain.catalog.NameRefersTo [runningApp] a b → a = "App" ∧ b = "Service" := by
    rintro a b ⟨d, e, known, rfl, rfl, kind, refers, mem⟩
    have either : d = runningApp ∨ d = servingService [("port", .text "A port")] := by
      simpa [chain, runningCatalog] using known
    rcases either with rfl | rfl
    · cases List.mem_singleton.1 (show kind ∈ [DocumentKind.service] from refers)
      cases List.mem_singleton.1 (show e ∈ [servingService [("port", .text "A port")]] from mem)
      exact ⟨rfl, rfl⟩
    · cases (show kind ∈ ([] : List DocumentKind) from refers)
  have acyclic : chain.catalog.AcyclicFrom [runningApp] := by
    intro first _ name _ loop
    obtain ⟨next, out, -⟩ := Relation.TransGen.head'_iff.1 loop
    obtain ⟨before, -, back⟩ := Relation.TransGen.tail'_iff.1 loop
    exact absurd ((edge _ _ out).1.symm.trans (edge _ _ back).2) (by decide)
  refine ⟨⟨fails, ?_⟩, acyclic, ?_⟩
  · obtain ⟨-, -, path, -, -, -, closes, named⟩ := real _ _ _ fails rfl
    exact ⟨path, closes, named⟩
  · rw [documentType, ← walked']
    exact ⟨_, rfl⟩

end Synthesizer

end ApiSchema
