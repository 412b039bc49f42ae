import Mathlib.Data.List.Forall2
import ApiSchema.Proofs.Mirrors

/-!
# Generated fields

A key of an object is hidden, undocumented or visible (`keyClass`).  A hidden key leaves no trace,
an undocumented one leaves an advisory, and a visible one becomes a field of its own node
(`Generates`).  A walk of an object's keys that succeeds gives the fields of the visible keys in
order, and adds the advisories on the undocumented keys in order, with those of the nested nodes in
between; it never succeeds where two visible keys have one API name (`fields_exact`).
-/

namespace ApiSchema

open Documentation (Entry Tree)
open Synthesis

/-! ## Classes of keys -/

/-- What becomes of a key of an object. -/
inductive KeyClass where
  | hidden
  | undocumented
  | visible
  deriving DecidableEq

/-- The class of a key.  A hidden key may have documentation. -/
def keyClass (skip : List String) (tree : Tree) (key : String) : KeyClass :=
  if isHiddenKey skip key then .hidden
  else if Keyed.has key tree then .visible
  else .undocumented

/-- The advisory on a key without documentation. -/
def undocumentedKey (parent key : String) : Advisory :=
  ⟨parent ++ KeyName.capitalized (KeyName.toCamel key), .undocumented,
    s!"skipped {key}, it was not documented"⟩

/-- The advisories that the walk of a key adds, where `nested` are those of a visible key's node. -/
def keyAdvisories (parent : String) (skip : List String) (tree : Tree)
    (nested : String → List Advisory) (key : String) : List Advisory :=
  match keyClass skip tree key with
  | .hidden => []
  | .undocumented => [undocumentedKey parent key]
  | .visible => nested key

/-- The field is the one of a visible key: named after it, read from it, described by its own
documentation, and of the type that its node is converted to, which adds some advisories. -/
structure Generates (c : Conversion) (parent : String) (tree : Tree) (key : String)
    (node : SchemaNode) (field : Field) (added : List Advisory) : Prop where
  name : field.name = KeyName.toCamel key
  source : field.source = key
  required : field.required = true ↔ ∀ inner, node ≠ .optional inner
  converted : ∃ docs before after, Keyed.get? key tree = some docs ∧
    field.description = docs.description ∧
    (c.convert (fieldPath parent key) (some docs) node).run before = (.ok field.type, after) ∧
    after.advisories = before.advisories ++ added

section

variable {skip : List String} {tree : Tree} {key : String}

theorem keyClass_eq_hidden_iff :
    keyClass skip tree key = .hidden ↔
      (KeyName.toCamel key).toList.head? = some systemMark ∨ key ∈ skip := by
  unfold keyClass isHiddenKey
  split_ifs with hidden documented
  · simpa using hidden
  · simpa using hidden
  · simpa using hidden

theorem keyClass_eq_visible_iff :
    keyClass skip tree key = .visible ↔
      keyClass skip tree key ≠ .hidden ∧ ∃ docs, Keyed.get? key tree = some docs := by
  rw [← Option.isSome_iff_exists]
  unfold keyClass
  split_ifs with hidden documented
  · simp
  · simpa [Keyed.has] using documented
  · simpa [Keyed.has] using documented

theorem keyClass_eq_undocumented_iff :
    keyClass skip tree key = .undocumented ↔
      keyClass skip tree key ≠ .hidden ∧ Keyed.get? key tree = none := by
  unfold keyClass
  split_ifs with hidden documented
  · simp
  · simpa [Keyed.has, Option.isSome_iff_ne_none] using documented
  · simpa [Keyed.has] using documented

theorem keyClass_of_hidden (hidden : isHiddenKey skip key = true) :
    keyClass skip tree key = .hidden := if_pos hidden

theorem keyClass_of_undocumented (shown : ¬ isHiddenKey skip key = true)
    (missing : Keyed.get? key tree = none) : keyClass skip tree key = .undocumented := by
  rw [keyClass, if_neg shown, if_neg (by simp [Keyed.has, missing])]

theorem keyClass_of_visible (shown : ¬ isHiddenKey skip key = true) {docs : Entry}
    (documented : Keyed.get? key tree = some docs) : keyClass skip tree key = .visible := by
  rw [keyClass, if_neg shown, if_pos (by simp [Keyed.has, documented])]

theorem keyClass_eq_visible_iff_shown :
    keyClass skip tree key = .visible ↔
      (!isHiddenKey skip key && Keyed.has key tree) = true := by
  unfold keyClass
  split_ifs with hidden documented <;> simp_all

theorem visibleFields_eq_filter (nodes : List (String × SchemaNode)) :
    visibleFields skip tree nodes =
      nodes.filter fun entry => keyClass skip tree entry.1 = .visible := by
  refine List.filter_congr fun entry _ => ?_
  rw [Bool.eq_iff_iff, decide_eq_true_iff, keyClass_eq_visible_iff_shown]

theorem visibleKeys_eq_filter (nodes : List (String × SchemaNode)) :
    visibleKeys skip tree nodes =
      (nodes.map Prod.fst).filter fun key => keyClass skip tree key = .visible := by
  rw [visibleKeys, visibleFields_eq_filter, List.filter_map]
  rfl

end

theorem SchemaNode.isOptional_iff {node : SchemaNode} :
    (!node.isOptional) = true ↔ ∀ inner, node ≠ .optional inner := by
  cases node <;> simp [isOptional]

/-! ## Advisories -/

/-- A walk only adds advisories, from whatever registry. -/
def advisoriesGrow : Law where
  Inv := fun _ => True
  Step := fun before after => before.advisories <+: after.advisories
  Good := fun _ _ => True
  refl := fun _ => List.prefix_refl _
  trans := fun first second => first.trans second
  mono := fun _ _ => trivial
  scalar := fun _ _ => trivial
  list := fun _ => trivial
  member := fun _ _ _ => trivial
  found := fun _ _ => trivial
  recordFound := fun _ _ => trivial
  advise := fun _ _ => ⟨trivial, List.prefix_append _ _⟩
  register := fun _ grown _ _ _ => ⟨trivial, grown, trivial⟩
  keepRecord := fun _ _ _ _ _ => ⟨trivial, List.prefix_refl _, trivial⟩

namespace Conversion

variable {catalog : Catalog} {strict : Bool} {busy : List String} {parent : String} {tree : Tree}
  {skip : List String} {r r' : Registry}

theorem exists_advisories_convert {path : String} {docs : Option Entry} {node : SchemaNode}
    {type : ApiType}
    (run : (convert ⟨strict, catalog.typeOf strict busy⟩ path docs node).run r =
      (.ok type, r')) : ∃ added, r'.advisories = r.advisories ++ added := by
  have lead := Law.convert_leads (L := advisoriesGrow)
    (c := ⟨strict, catalog.typeOf strict busy⟩) (Law.typeOf_leads busy) node path docs r trivial
  unfold Law.Leads at lead
  rw [run] at lead
  obtain ⟨added, grown⟩ := lead.2.1
  exact ⟨added, grown.symm⟩

/-! ## The walk of the keys -/

theorem convertFields_filter (c : Conversion) (nodes : List (String × SchemaNode))
    (done : List Field) :
    convertFields c parent tree skip done nodes =
      convertFields c parent tree skip done
        (nodes.filter fun entry => keyClass skip tree entry.1 ≠ .hidden) := by
  induction nodes generalizing done with
  | nil => rfl
  | cons entry rest ih =>
    obtain ⟨key, node⟩ := entry
    by_cases hidden : isHiddenKey skip key = true
    · rw [List.filter_cons_of_neg (by simp [keyClass_of_hidden hidden]), convertFields,
        if_pos hidden]
      exact ih done
    · have kept : keyClass skip tree key ≠ .hidden := by
        rw [keyClass, if_neg hidden]
        split_ifs <;> decide
      rw [List.filter_cons_of_pos (by simpa using kept), convertFields, convertFields,
        if_neg hidden, if_neg hidden]
      dsimp only
      split
      · rw [ih done]
      · split
        · rfl
        · exact bind_congr fun type => ih _

/-- The advisories of other keys do not depend on those of a key that is not visible among them. -/
theorem flatMap_keyAdvisories_update {nodes : List (String × SchemaNode)} {key : String}
    (absent : ∀ other ∈ visibleKeys skip tree nodes, other ≠ key)
    (nested : String → List Advisory) (added : List Advisory) :
    (nodes.map Prod.fst).flatMap
        (keyAdvisories parent skip tree (Function.update nested key added)) =
      (nodes.map Prod.fst).flatMap (keyAdvisories parent skip tree nested) := by
  refine List.flatMap_congr fun other mem => ?_
  unfold keyAdvisories
  rcases eq : keyClass skip tree other with _ | _ | _
  · rfl
  · rfl
  · have shown : other ∈ visibleKeys skip tree nodes := by
      rw [visibleKeys_eq_filter]
      exact List.mem_filter.2 ⟨mem, by simpa using eq⟩
    exact Function.update_of_ne (absent other shown) ..

/-- A walk that succeeds adds to the done fields one for each visible key, whose names are new and
differ, and the advisories of the keys in order. -/
theorem convertFields_generates (nodes : List (String × SchemaNode)) {done fields : List Field}
    (run : (convertFields ⟨strict, catalog.typeOf strict busy⟩ parent tree skip done nodes).run r =
      (.ok fields, r')) :
    ∃ made nested, fields = done ++ made ∧
      List.Forall₂ (fun entry field => Generates ⟨strict, catalog.typeOf strict busy⟩ parent tree
        entry.1 entry.2 field (nested entry.1)) (visibleFields skip tree nodes) made ∧
      r'.advisories = r.advisories ++
        (nodes.map Prod.fst).flatMap (keyAdvisories parent skip tree nested) ∧
      ((visibleKeys skip tree nodes).map KeyName.toCamel).Nodup ∧
      ∀ key ∈ visibleKeys skip tree nodes, KeyName.toCamel key ∉ done.map Field.name := by
  induction nodes generalizing done r with
  | nil =>
    rw [convertFields] at run
    cases run
    exact ⟨[], fun _ => [], (List.append_nil _).symm, .nil, (List.append_nil _).symm,
      List.nodup_nil, fun key mem => absurd mem List.not_mem_nil⟩
  | cons entry rest ih =>
    obtain ⟨key, node⟩ := entry
    rw [convertFields] at run
    split_ifs at run with hidden
    · obtain ⟨made, nested, split, fields, advised, distinct⟩ := ih run
      rw [visibleFields_of_hidden hidden, visibleKeys_of_hidden hidden]
      refine ⟨made, nested, split, fields, ?_, distinct⟩
      rw [advised, List.map_cons, List.flatMap_cons, keyAdvisories, keyClass_of_hidden hidden]
      rfl
    · rcases documented : Keyed.get? key tree with _ | docs
      · simp only [documented] at run
        obtain ⟨_, r₁, adviseRun, run⟩ := run_bind_ok run
        cases adviseRun
        obtain ⟨made, nested, split, fields, advised, distinct⟩ := ih run
        rw [visibleFields_of_undocumented documented, visibleKeys_of_undocumented documented]
        refine ⟨made, nested, split, fields, ?_, distinct⟩
        rw [advised, List.map_cons, List.flatMap_cons, keyAdvisories,
          keyClass_of_undocumented hidden documented, ← List.append_assoc]
        rfl
      · simp only [documented] at run
        split at run
        · cases run
        · rename_i new
          obtain ⟨type, r₁, converted, run⟩ := run_bind_ok run
          obtain ⟨added, grown⟩ := exists_advisories_convert converted
          obtain ⟨made, nested, split, fields, advised, distinct, fresh⟩ := ih run
          rw [visibleFields_of_visible hidden documented, visibleKeys_of_visible hidden documented]
          -- no later visible key is this one, so `nested` is free to give this one's advisories
          have later : ∀ other ∈ visibleKeys skip tree rest, other ≠ key := by
            rintro other mem rfl
            exact fresh other mem (by simp)
          refine ⟨⟨KeyName.toCamel key, key, type, !node.isOptional, docs.description⟩ :: made,
            Function.update nested key added, ?_, .cons ?_ ?_, ?_, ?_, ?_⟩
          · rw [split, List.append_assoc]
            rfl
          · rw [Function.update_self]
            exact ⟨rfl, rfl, SchemaNode.isOptional_iff, docs, r, r₁, documented, rfl, converted,
              grown⟩
          · refine List.forall₂_iff_zip.2 ⟨fields.length_eq, fun {entry field} mem => ?_⟩
            have shown := List.mem_map_of_mem (f := Prod.fst) (List.of_mem_zip mem).1
            rw [Function.update_of_ne (later _ shown)]
            exact (List.forall₂_iff_zip.1 fields).2 mem
          · rw [advised, grown, List.map_cons, List.flatMap_cons, List.append_assoc,
              flatMap_keyAdvisories_update later, keyAdvisories,
              keyClass_of_visible hidden documented]
            dsimp only
            rw [Function.update_self]
          · refine List.nodup_cons.2 ⟨fun mem => ?_, distinct⟩
            obtain ⟨other, shown, same⟩ := List.mem_map.1 mem
            exact fresh other shown (by simp [same])
          · refine List.forall_mem_cons.2 ⟨fun mem => ?_, fun other shown mem => ?_⟩
            · obtain ⟨field, known, same⟩ := List.mem_map.1 mem
              exact List.find?_eq_none.1 new field known (by simp [same])
            · exact fresh other shown (by
                rw [List.map_append]
                exact List.mem_append_left _ mem)

/-- Each key is of one class.  The walk of an object's keys is the one of the keys that are not
hidden; where it succeeds, it gives a field for each visible key and an advisory for each
undocumented one, in order, and where two visible keys have one API name, it does not succeed. -/
theorem fields_exact (catalog : Catalog) (strict : Bool) (busy : List String) (parent : String)
    (tree : Tree) (skip : List String) (nodes : List (String × SchemaNode)) :
    let c : Conversion := ⟨strict, catalog.typeOf strict busy⟩
    let walk := convertFields c parent tree skip []
    (∀ key,
      (keyClass skip tree key = .hidden ↔
        (KeyName.toCamel key).toList.head? = some systemMark ∨ key ∈ skip) ∧
      (keyClass skip tree key = .undocumented ↔
        keyClass skip tree key ≠ .hidden ∧ Keyed.get? key tree = none) ∧
      (keyClass skip tree key = .visible ↔
        keyClass skip tree key ≠ .hidden ∧ ∃ docs, Keyed.get? key tree = some docs)) ∧
    walk nodes = walk (nodes.filter fun entry => keyClass skip tree entry.1 ≠ .hidden) ∧
    (∀ r r' fields, (walk nodes).run r = (.ok fields, r') →
      ∃ nested : String → List Advisory,
        List.Forall₂ (fun entry field => Generates c parent tree entry.1 entry.2 field
          (nested entry.1))
          (nodes.filter fun entry => keyClass skip tree entry.1 = .visible) fields ∧
        r'.advisories = r.advisories ++
          (nodes.map Prod.fst).flatMap (keyAdvisories parent skip tree nested)) ∧
    (¬ (((nodes.map Prod.fst).filter fun key => keyClass skip tree key = .visible).map
        KeyName.toCamel).Nodup →
      ∀ r r' fields, (walk nodes).run r ≠ (.ok fields, r')) := by
  intro c walk
  refine ⟨fun key => ⟨keyClass_eq_hidden_iff, keyClass_eq_undocumented_iff,
    keyClass_eq_visible_iff⟩, convertFields_filter c nodes [], fun r r' fields run => ?_,
    fun clash r r' fields run => clash ?_⟩
  · obtain ⟨made, nested, rfl, generated, advised, -⟩ := convertFields_generates nodes run
    rw [visibleFields_eq_filter] at generated
    exact ⟨nested, generated, advised⟩
  · obtain ⟨made, nested, -, -, -, distinct, -⟩ := convertFields_generates nodes run
    rwa [visibleKeys_eq_filter] at distinct

/-- The keys of an app: two hidden ones, one of them with documentation, two that are visible, and
one without documentation between these. -/
def mixedKeys : List (String × SchemaNode) :=
  [("$id", .scalar .string), ("secret", .scalar .string), ("api_key", .scalar .string),
   ("old_name", .scalar .string), ("extra", .optional (.scalar .any))]

/-- The documentation of the app's keys. -/
def mixedDocs : Tree :=
  [("secret", .text "Not shown"), ("extra", .text "Anything"), ("api_key", .text "The key")]

theorem mixedKeys_exact :
    let c : Conversion := ⟨false, Catalog.empty.typeOf false []⟩
    let fields : List Field :=
      [⟨"apiKey", "api_key", .scalar .string, true, some "The key"⟩,
       ⟨"extra", "extra", .scalar .json, false, some "Anything"⟩]
    (∃ r', (convertFields c "App" mixedDocs ["secret"] [] mixedKeys).run .empty =
      (.ok fields, r') ∧
      r'.advisories.map Advisory.path = ["AppOldName", "AppExtra"] ∧
      ∃ nested : String → List Advisory,
        List.Forall₂ (fun entry field => Generates c "App" mixedDocs entry.1 entry.2 field
          (nested entry.1))
          [("api_key", .scalar .string), ("extra", .optional (.scalar .any))] fields ∧
        r'.advisories =
          nested "api_key" ++ undocumentedKey "App" "old_name" :: nested "extra") ∧
    ∀ r r' fields, (convertFields c "App" [("api_key", .text "A key"), ("apiKey", .text "It")] []
      [] [("api_key", .scalar .string), ("apiKey", .scalar .string)]).run r ≠ (.ok fields, r') := by
  intro c fields
  have exact := fields_exact Catalog.empty false [] "App" mixedDocs ["secret"] mixedKeys
  refine ⟨⟨_, rfl, rfl, ?_⟩, ?_⟩
  · obtain ⟨nested, generated, advised⟩ := exact.2.2.1 .empty _ fields rfl
    have order :
        (mixedKeys.map Prod.fst).flatMap (keyAdvisories "App" ["secret"] mixedDocs nested) =
          nested "api_key" ++ (undocumentedKey "App" "old_name" :: (nested "extra" ++ [])) := rfl
    rw [order, List.append_nil] at advised
    exact ⟨nested, generated, advised⟩
  · exact (fields_exact Catalog.empty false [] "App" _ [] _).2.2.2 (by decide)

end Conversion

end ApiSchema
