import ApiSchema.Proofs.ObjectPlaces
import ApiSchema.Proofs.TextLines

/-!
# Names of nested objects

The pieces of a nested object's name are run together without a separator, so two objects of one
definition can share a name, and then the second one gets the type of the first
(`pairApp_shares_name`).  Where every key is one word, a name can be cut back into its pieces, for
each piece has its only capital in front; so the names are distinct.  Where no name of the walk is
claimed by two constructs every field has the type of its own node (`distinct_names_of_words`).
-/

namespace ApiSchema

open Documentation (Entry Tree)
open KeyName Text

/-! ## Pieces -/

/-- Does a text start with a capital and have no other one? -/
def isPiece : List Char → Bool
  | [] => false
  | c :: rest => isUpperLetter c && rest.all (!isUpperLetter ·)

theorem takeWhile_pieces {texts : List (List Char)} (all : ∀ text ∈ texts, isPiece text = true) :
    texts.flatten.takeWhile (!isUpperLetter ·) = [] ∧
      texts.flatten.dropWhile (!isUpperLetter ·) = texts.flatten := by
  rcases texts with _ | ⟨_ | ⟨c, rest⟩, more⟩
  · exact ⟨rfl, rfl⟩
  · cases all [] (List.mem_cons_self ..)
  · have first := all (c :: rest) (List.mem_cons_self ..)
    simp only [isPiece, Bool.and_eq_true] at first
    simp [first.1]

theorem eq_of_flatten_eq : ∀ {texts others : List (List Char)},
    (∀ text ∈ texts, isPiece text = true) → (∀ text ∈ others, isPiece text = true) →
    texts.flatten = others.flatten → texts = others
  | [], [], _, _, _ => rfl
  | [] :: _, _, all, _, _ => by cases all [] (List.mem_cons_self ..)
  | _, [] :: _, _, all, _ => by cases all [] (List.mem_cons_self ..)
  | [], (_ :: _) :: _, _, _, same => by simp at same
  | (_ :: _) :: _, [], _, _, same => by simp at same
  | (c :: rest) :: more, (d :: rest') :: more', all, all', same => by
    obtain ⟨first, later⟩ := List.forall_mem_cons.1 all
    obtain ⟨first', later'⟩ := List.forall_mem_cons.1 all'
    simp only [isPiece, Bool.and_eq_true, List.all_eq_true] at first first'
    simp only [List.flatten_cons, List.cons_append, List.cons.injEq] at same
    obtain ⟨rfl, same⟩ := same
    have rest_eq := congrArg (List.takeWhile (!isUpperLetter ·)) same
    have more_eq := congrArg (List.dropWhile (!isUpperLetter ·)) same
    rw [List.takeWhile_append_of_pos first.2, List.takeWhile_append_of_pos first'.2,
      (takeWhile_pieces later).1, (takeWhile_pieces later').1, List.append_nil,
      List.append_nil] at rest_eq
    rw [List.dropWhile_append_of_pos first.2, List.dropWhile_append_of_pos first'.2,
      (takeWhile_pieces later).2, (takeWhile_pieces later').2] at more_eq
    rw [rest_eq, eq_of_flatten_eq later later' more_eq]

theorem toList_spelled (root : String) (texts : List String) :
    (spelled root texts).toList = root.toList ++ (texts.map String.toList).flatten := by
  induction texts generalizing root with
  | nil => simp [spelled]
  | cons text rest ih =>
    rw [spelled, List.foldl_cons, ← spelled, ih, String.toList_append, List.map_cons,
      List.flatten_cons, List.append_assoc]

theorem eq_of_spelled_eq {root : String} {texts others : List String}
    (all : ∀ text ∈ texts, isPiece text.toList = true)
    (all' : ∀ text ∈ others, isPiece text.toList = true)
    (same : spelled root texts = spelled root others) : texts = others := by
  have flat := congrArg String.toList same
  rw [toList_spelled, toList_spelled] at flat
  have chars := eq_of_flatten_eq (by simpa using all) (by simpa using all')
    (List.append_cancel_left flat)
  exact List.map_injective_iff.2 (fun a b h => String.toList_injective h) chars

/-! ## Words -/

/-- Is the key one word: a small letter followed by characters other than capitals and
underscores? -/
def KeyName.isWord (key : String) : Bool :=
  match key.toList with
  | [] => false
  | c :: rest => isLowerLetter c && rest.all fun x => x != '_' && !isUpperLetter x

/-- The capital of a small letter. -/
def capitalLetter (c : Char) : Char := Char.ofNat (c.toNat - 32)

theorem code_lowerLetter {c : Char} (small : isLowerLetter c = true) :
    97 ≤ c.toNat ∧ c.toNat ≤ 122 := by
  simp only [isLowerLetter, Bool.and_eq_true, decide_eq_true_eq] at small
  exact small

theorem capitalOf_lowerLetter {c : Char} (small : isLowerLetter c = true) :
    capitalOf c = [capitalLetter c] ∧ isUpperLetter (capitalLetter c) = true := by
  have letters : ∀ n ∈ List.range' 97 26, capitalOf (Char.ofNat n) = [Char.ofNat (n - 32)] ∧
      isUpperLetter (Char.ofNat (n - 32)) = true := by
    decide
  have codes := code_lowerLetter small
  have here := letters c.toNat (by rw [List.mem_range'_1]; omega)
  rwa [Char.ofNat_toNat] at here

theorem capitalLetter_inj {c d : Char} (small : isLowerLetter c = true)
    (small' : isLowerLetter d = true) (same : capitalLetter c = capitalLetter d) : c = d := by
  have letters : ∀ n ∈ List.range' 97 26, (Char.ofNat (n - 32)).toNat = n - 32 := by decide
  have codes := code_lowerLetter small
  have codes' := code_lowerLetter small'
  have numbers := congrArg Char.toNat same
  rw [capitalLetter, capitalLetter, letters c.toNat (by rw [List.mem_range'_1]; omega),
    letters d.toNat (by rw [List.mem_range'_1]; omega)] at numbers
  rw [← Char.ofNat_toNat c, ← Char.ofNat_toNat d]
  exact congrArg Char.ofNat (by omega)

theorem toList_keyPiece {key : String} (word : isWord key = true) :
    ∃ c rest, key.toList = c :: rest ∧ isLowerLetter c = true ∧
      (∀ x ∈ rest, isUpperLetter x = false) ∧ (keyPiece key).toList = capitalLetter c :: rest := by
  unfold isWord at word
  split at word
  · cases word
  · rename_i c rest chars
    simp only [Bool.and_eq_true, List.all_eq_true, bne_iff_ne, Bool.not_eq_true'] at word
    have whole : '_' ∉ key.toList := by
      rw [chars, List.mem_cons, not_or]
      refine ⟨fun eq => ?_, fun mem => (word.2 '_' mem).1 rfl⟩
      rw [← eq] at word
      exact absurd word.1 (by decide)
    have camel : toCamel key = key := by
      rw [toCamel, pieces_of_not_mem whole, camelOfWords]
      simp
    refine ⟨c, rest, chars, word.1, fun x mem => (word.2 x mem).2, ?_⟩
    rw [keyPiece, camel, capitalized, chars]
    simp [(capitalOf_lowerLetter word.1).1]

theorem isPiece_keyPiece {key : String} (word : isWord key = true) :
    isPiece (keyPiece key).toList = true := by
  obtain ⟨c, rest, -, small, plain, chars⟩ := toList_keyPiece word
  rw [chars, isPiece, (capitalOf_lowerLetter small).2, Bool.true_and, List.all_eq_true]
  exact fun x mem => by rw [plain x mem]; rfl

theorem keyPiece_inj {key other : String} (word : isWord key = true) (word' : isWord other = true)
    (same : keyPiece key = keyPiece other) : key = other := by
  obtain ⟨c, rest, chars, small, -, spelt⟩ := toList_keyPiece word
  obtain ⟨d, rest', chars', small', -, spelt'⟩ := toList_keyPiece word'
  rw [same, spelt', List.cons.injEq] at spelt
  obtain ⟨first, rfl⟩ := spelt
  apply String.toList_injective
  rw [chars, chars', capitalLetter_inj small small' first.symm]

theorem isPiece_alternativePiece (index : Nat) :
    isPiece (alternativePiece index).toList = true := by
  have digits : (toString (index + 1)).toList.all (!isUpperLetter ·) = true := by
    refine List.all_eq_true.2 fun x mem => ?_
    have digit := Nat.isDigit_of_mem_toDigits (by decide) (by decide)
      (by simpa using mem : x ∈ Nat.toDigits 10 (index + 1))
    simp only [Char.isDigit, Bool.and_eq_true, decide_eq_true_eq, UInt32.le_iff_toNat_le] at digit
    rw [Bool.not_eq_true', Bool.eq_false_iff]
    intro upper
    simp only [isUpperLetter, Bool.and_eq_true, decide_eq_true_eq] at upper
    have low : 65 ≤ x.val.toNat := upper.1
    have high : x.val.toNat ≤ 57 := digit.2
    omega
  rw [alternativePiece, String.toList_append]
  show (isUpperLetter 'A' && ("lternative".toList ++ (toString (index + 1)).toList).all
    (!isUpperLetter ·)) = true
  rw [List.all_append, digits]
  rfl

theorem alternativePiece_inj {index other : Nat}
    (same : alternativePiece index = alternativePiece other) : index = other := by
  have chars := congrArg String.toList same
  rw [alternativePiece, alternativePiece, String.toList_append, String.toList_append] at chars
  have digits : Nat.toDigits 10 (index + 1) = Nat.toDigits 10 (other + 1) := by
    simpa using List.append_cancel_left chars
  have numbers := congrArg (Nat.ofDigitChars 10 · 0) digits
  simp only [Nat.ofDigitChars_toDigits, Nat.reduceLT, Nat.le_refl] at numbers
  exact Nat.succ.inj numbers

/-! ## Distinct names -/

/-- The places have different pieces, which go on from the given ones. -/
structure Separate (pieces : List String) (places : List ObjectPlace) : Prop where
  distinct : (places.map ObjectPlace.pieces).Nodup
  below : ∀ place ∈ places, ∃ later, place.pieces = pieces ++ later ∧
    ∀ text ∈ later, isPiece text.toList = true

/-- The places have different pieces, which go on from the given ones with one of some heads. -/
structure SeparateUnder (pieces : List String) (heads : String → Prop)
    (places : List ObjectPlace) : Prop where
  distinct : (places.map ObjectPlace.pieces).Nodup
  below : ∀ place ∈ places, ∃ head later, heads head ∧ place.pieces = pieces ++ head :: later ∧
    ∀ text ∈ head :: later, isPiece text.toList = true

theorem separateUnder_nil (pieces : List String) (heads : String → Prop) :
    SeparateUnder pieces heads [] := ⟨List.nodup_nil, by simp⟩

theorem SeparateUnder.separate {pieces : List String} {heads : String → Prop}
    {places : List ObjectPlace} (under : SeparateUnder pieces heads places) :
    Separate pieces places := by
  refine ⟨under.distinct, fun place mem => ?_⟩
  obtain ⟨head, later, -, same, all⟩ := under.below place mem
  exact ⟨head :: later, same, all⟩

theorem SeparateUnder.cons {pieces : List String} {heads : String → Prop}
    {places : List ObjectPlace} (under : SeparateUnder pieces heads places)
    (own : Option String) (tree : Tree) (nodes : List (String × SchemaNode)) :
    Separate pieces (⟨pieces, own, tree, nodes⟩ :: places) := by
  have fresh : pieces ∉ places.map ObjectPlace.pieces := by
    intro mem
    obtain ⟨other, inside, same⟩ := List.mem_map.1 mem
    obtain ⟨head, later, -, longer, -⟩ := under.below other inside
    rw [same] at longer
    simp at longer
  refine ⟨List.nodup_cons.2 ⟨fresh, under.distinct⟩, List.forall_mem_cons.2 ⟨?_, ?_⟩⟩
  · exact ⟨[], (List.append_nil _).symm, by simp⟩
  · exact under.separate.below

theorem Separate.append {pieces : List String} {head : String} {heads : String → Prop}
    {here there : List ObjectPlace} (first : Separate (pieces ++ [head]) here)
    (piece : isPiece head.toList = true) (rest : SeparateUnder pieces heads there)
    (new : ¬ heads head) :
    SeparateUnder pieces (fun text => text = head ∨ heads text) (here ++ there) := by
  have below : ∀ place ∈ here, ∃ later, place.pieces = pieces ++ head :: later ∧
      ∀ text ∈ head :: later, isPiece text.toList = true := by
    intro place mem
    obtain ⟨later, same, all⟩ := first.below place mem
    exact ⟨later, by simpa using same, List.forall_mem_cons.2 ⟨piece, all⟩⟩
  refine ⟨?_, fun place mem => ?_⟩
  · rw [List.map_append, List.nodup_append]
    refine ⟨first.distinct, rest.distinct, ?_⟩
    rintro _ mem _ mem' rfl
    obtain ⟨place, inside, same⟩ := List.mem_map.1 mem
    obtain ⟨other, inside', same'⟩ := List.mem_map.1 mem'
    obtain ⟨later, eq, -⟩ := below place inside
    obtain ⟨head', later', among, eq', -⟩ := rest.below other inside'
    rw [← same', eq'] at same
    rw [eq] at same
    have heads_eq := List.append_cancel_left same
    rw [List.cons.injEq] at heads_eq
    rw [heads_eq.1] at new
    exact new among
  · rcases List.mem_append.1 mem with mem | mem
    · obtain ⟨later, same, all⟩ := below place mem
      exact ⟨head, later, .inl rfl, same, all⟩
    · obtain ⟨other, later, among, same, all⟩ := rest.below place mem
      exact ⟨other, later, .inr among, same, all⟩

theorem SeparateUnder.mono {pieces : List String} {heads heads' : String → Prop}
    {places : List ObjectPlace} (under : SeparateUnder pieces heads places)
    (more : ∀ head, heads head → heads' head) : SeparateUnder pieces heads' places := by
  refine ⟨under.distinct, fun place mem => ?_⟩
  obtain ⟨head, later, among, same, all⟩ := under.below place mem
  exact ⟨head, later, more head among, same, all⟩

/-! ## Distinct keys -/

/-- No key is visible twice at the place. -/
def ObjectPlace.HasDistinctKeys (place : ObjectPlace) : Prop :=
  (visibleKeys [] place.tree place.nodes).Nodup

mutual

/-- At the places of a node that a type mirrors the visible keys are distinct, as the fields are. -/
theorem placesOf_distinctKeys : ∀ (node : SchemaNode) {path : String} {pieces : List String}
    {docs : Option Entry} {type : ApiType}, Mirrors path docs node type →
    ∀ place ∈ placesOf pieces docs node, place.HasDistinctKeys
  | .scalar kind, path, pieces, docs, type, mirrors => by
    rw [placesOf]
    exact List.forall_mem_nil _
  | .optional inner, path, pieces, docs, type, mirrors => by
    rw [Mirrors] at mirrors
    rw [placesOf]
    exact placesOf_distinctKeys inner mirrors
  | .union nodes, path, pieces, docs, type, mirrors => by
    rw [Mirrors] at mirrors
    rw [placesOf]
    exact placesOfAlternatives_distinctKeys nodes mirrors
  | .object nodes, path, pieces, docs, type, mirrors => by
    rw [Mirrors] at mirrors
    obtain ⟨own, tree, object, rfl, rfl, -, distinct, fields⟩ := mirrors
    rw [placesOf]
    exact List.forall_mem_cons.2
      ⟨fields.nodup_visibleKeys distinct, placesOfFields_distinctKeys nodes fields⟩
  | .list element, path, pieces, docs, type, mirrors => by
    rw [Mirrors] at mirrors
    obtain ⟨inner, -, mirrors⟩ := mirrors
    rw [placesOf]
    exact placesOf_distinctKeys element mirrors
  | .map value, path, pieces, docs, type, mirrors => by
    rw [Mirrors] at mirrors
    obtain ⟨serial, inner, -, mirrors⟩ := mirrors
    rw [placesOf]
    exact placesOf_distinctKeys value mirrors
  | .reference kind, path, pieces, docs, type, mirrors => by
    rw [placesOf]
    exact List.forall_mem_nil _
  | .validated constraint, path, pieces, docs, type, mirrors => by
    rw [Mirrors] at mirrors
    rw [placesOf]
    exact placesOfConstraint_distinctKeys constraint mirrors

theorem placesOfConstraint_distinctKeys : ∀ (constraint : Constraint) {path : String}
    {pieces : List String} {docs : Option Entry} {type : ApiType},
    MirrorsConstraint path docs type constraint →
    ∀ place ∈ placesOfConstraint pieces docs constraint, place.HasDistinctKeys
  | .documentName target, path, pieces, docs, type, mirrors => by
    rw [placesOfConstraint]
    exact List.forall_mem_nil _
  | .alternatives nodes, path, pieces, docs, type, mirrors => by
    rw [MirrorsConstraint] at mirrors
    rw [placesOfConstraint]
    exact placesOfAlternatives_distinctKeys nodes mirrors
  | .custom name, path, pieces, docs, type, mirrors => by
    rw [placesOfConstraint]
    exact List.forall_mem_nil _

theorem placesOfAlternatives_distinctKeys : ∀ (nodes : List SchemaNode) {path : String}
    {pieces : List String} {docs : Option Entry} {index : Nat} {type : ApiType},
    MirrorsAlternatives path docs index type nodes →
    ∀ place ∈ placesOfAlternatives pieces docs index nodes, place.HasDistinctKeys
  | [], path, pieces, docs, index, type, mirrors => by
    rw [placesOfAlternatives]
    exact List.forall_mem_nil _
  | node :: rest, path, pieces, docs, index, type, mirrors => by
    rw [MirrorsAlternatives] at mirrors
    obtain ⟨⟨part, -, mirrors⟩, mirrorsRest⟩ := mirrors
    rw [placesOfAlternatives]
    exact List.forall_mem_append.2
      ⟨placesOf_distinctKeys node mirrors, placesOfAlternatives_distinctKeys rest mirrorsRest⟩

theorem placesOfFields_distinctKeys : ∀ (nodes : List (String × SchemaNode)) {parent : String}
    {pieces : List String} {tree : Tree} {skip : List String} {fields : List Field},
    MirrorsFields parent tree skip fields nodes →
    ∀ place ∈ placesOfFields pieces tree skip nodes, place.HasDistinctKeys
  | [], parent, pieces, tree, skip, fields, mirrors => by
    rw [placesOfFields]
    exact List.forall_mem_nil _
  | (key, node) :: rest, parent, pieces, tree, skip, fields, mirrors => by
    rw [MirrorsFields] at mirrors
    rw [placesOfFields]
    split_ifs at mirrors ⊢
    · exact placesOfFields_distinctKeys rest mirrors
    · rcases documented : Keyed.get? key tree with _ | docs
      · rw [documented] at mirrors
        exact placesOfFields_distinctKeys rest mirrors
      · rw [documented] at mirrors
        obtain ⟨field, later, rfl, -, -, mirrors, mirrorsLater⟩ := mirrors
        exact List.forall_mem_append.2
          ⟨placesOf_distinctKeys node mirrors, placesOfFields_distinctKeys rest mirrorsLater⟩

end

/-! ## Keys of one word -/

/-- Every key that is visible at the place is one word. -/
def ObjectPlace.HasWords (place : ObjectPlace) : Prop :=
  ∀ key ∈ visibleKeys [] place.tree place.nodes, isWord key = true

/-- The visible keys are distinct words. -/
def HasDistinctWords (skip : List String) (tree : Tree) (nodes : List (String × SchemaNode)) :
    Prop :=
  (visibleKeys skip tree nodes).Nodup ∧ ∀ key ∈ visibleKeys skip tree nodes, isWord key = true

mutual

/-- Where visible keys are distinct words, the places of a node are separate. -/
theorem placesOf_separate : ∀ (node : SchemaNode) {pieces : List String} {docs : Option Entry},
    (∀ place ∈ placesOf pieces docs node, HasDistinctWords [] place.tree place.nodes) →
    Separate pieces (placesOf pieces docs node)
  | .scalar kind, pieces, docs, words => by
    rw [placesOf]
    exact (separateUnder_nil pieces fun _ => False).separate
  | .optional inner, pieces, docs, words => by
    rw [placesOf] at words ⊢
    exact placesOf_separate inner words
  | .union nodes, pieces, docs, words => by
    rw [placesOf] at words ⊢
    exact (placesOfAlternatives_separate nodes words).separate
  | .object nodes, pieces, docs, words => by
    rcases docs with _ | _ | ⟨own, tree⟩
    · exact (separateUnder_nil pieces fun _ => False).separate
    · exact (separateUnder_nil pieces fun _ => False).separate
    · rw [placesOf] at words ⊢
      obtain ⟨here, there⟩ := List.forall_mem_cons.1 words
      exact (placesOfFields_separate nodes here there).cons own tree nodes
  | .list element, pieces, docs, words => by
    rw [placesOf] at words ⊢
    exact placesOf_separate element words
  | .map value, pieces, docs, words => by
    rw [placesOf] at words ⊢
    exact placesOf_separate value words
  | .reference kind, pieces, docs, words => by
    rw [placesOf]
    exact (separateUnder_nil pieces fun _ => False).separate
  | .validated constraint, pieces, docs, words => by
    rw [placesOf] at words ⊢
    exact placesOfConstraint_separate constraint words

theorem placesOfConstraint_separate : ∀ (constraint : Constraint) {pieces : List String}
    {docs : Option Entry},
    (∀ place ∈ placesOfConstraint pieces docs constraint,
      HasDistinctWords [] place.tree place.nodes) →
    Separate pieces (placesOfConstraint pieces docs constraint)
  | .documentName target, pieces, docs, words => by
    rw [placesOfConstraint]
    exact (separateUnder_nil pieces fun _ => False).separate
  | .alternatives nodes, pieces, docs, words => by
    rw [placesOfConstraint] at words ⊢
    exact (placesOfAlternatives_separate nodes words).separate
  | .custom name, pieces, docs, words => by
    rw [placesOfConstraint]
    exact (separateUnder_nil pieces fun _ => False).separate

theorem placesOfAlternatives_separate : ∀ (nodes : List SchemaNode) {pieces : List String}
    {docs : Option Entry} {index : Nat},
    (∀ place ∈ placesOfAlternatives pieces docs index nodes,
      HasDistinctWords [] place.tree place.nodes) →
    SeparateUnder pieces (fun head => ∃ i, index ≤ i ∧ head = alternativePiece i)
      (placesOfAlternatives pieces docs index nodes)
  | [], pieces, docs, index, words => by
    rw [placesOfAlternatives]
    exact separateUnder_nil pieces _
  | node :: rest, pieces, docs, index, words => by
    rw [placesOfAlternatives] at words ⊢
    obtain ⟨here, there⟩ := List.forall_mem_append.1 words
    have whole := (placesOf_separate node here).append (isPiece_alternativePiece index)
      (placesOfAlternatives_separate rest there) (by
        rintro ⟨i, later, same⟩
        have := alternativePiece_inj same
        omega)
    refine whole.mono ?_
    rintro head (rfl | ⟨i, later, rfl⟩)
    · exact ⟨index, Nat.le_refl _, rfl⟩
    · exact ⟨i, by omega, rfl⟩

theorem placesOfFields_separate : ∀ (nodes : List (String × SchemaNode)) {pieces : List String}
    {tree : Tree} {skip : List String}, HasDistinctWords skip tree nodes →
    (∀ place ∈ placesOfFields pieces tree skip nodes,
      HasDistinctWords [] place.tree place.nodes) →
    SeparateUnder pieces (fun head => ∃ key ∈ visibleKeys skip tree nodes, head = keyPiece key)
      (placesOfFields pieces tree skip nodes)
  | [], pieces, tree, skip, here, words => by
    rw [placesOfFields]
    exact separateUnder_nil pieces _
  | (key, node) :: rest, pieces, tree, skip, here, words => by
    rw [placesOfFields] at words ⊢
    unfold HasDistinctWords at here
    split_ifs at words ⊢ with hidden
    · rw [visibleKeys_of_hidden hidden] at here ⊢
      exact placesOfFields_separate rest here words
    · rcases documented : Keyed.get? key tree with _ | docs
      · rw [documented] at words
        rw [visibleKeys_of_undocumented documented] at here ⊢
        exact placesOfFields_separate rest here words
      · rw [documented] at words
        rw [visibleKeys_of_visible hidden documented] at here ⊢
        dsimp only at words ⊢
        obtain ⟨keys, wordKeys⟩ := here
        obtain ⟨wordsHere, wordsThere⟩ := List.forall_mem_append.1 words
        obtain ⟨word, wordKeys⟩ := List.forall_mem_cons.1 wordKeys
        obtain ⟨fresh, keys⟩ := List.nodup_cons.1 keys
        have whole := (placesOf_separate node wordsHere).append (isPiece_keyPiece word)
          (placesOfFields_separate rest ⟨keys, wordKeys⟩ wordsThere) (by
            rintro ⟨other, mem, same⟩
            rw [keyPiece_inj word (wordKeys other mem) same] at fresh
            exact fresh mem)
        refine whole.mono ?_
        rintro head (rfl | ⟨other, mem, rfl⟩)
        · exact ⟨key, List.mem_cons_self .., rfl⟩
        · exact ⟨other, List.mem_cons_of_mem _ mem, rfl⟩

end

/-! ## Definitions -/

/-- Every key that the walk of a definition's own schema sees is one word. -/
def Definition.HasWords (d : Definition) : Prop :=
  (∀ nodes, d.schema = .object nodes →
    ∀ key ∈ visibleKeys d.skipFields d.docs nodes, isWord key = true) ∧
    ∀ place ∈ d.places, place.HasWords

/-- The walk of a definition's own schema sees no key twice in one object. -/
def Definition.HasDistinctKeys (d : Definition) : Prop :=
  (∀ nodes, d.schema = .object nodes → (visibleKeys d.skipFields d.docs nodes).Nodup) ∧
    ∀ place ∈ d.places, place.HasDistinctKeys

theorem Definition.Mirrored.hasDistinctKeys {d : Definition} {object : ObjectType}
    (mirrored : d.Mirrored object) : d.HasDistinctKeys := by
  obtain ⟨nodes, schema, -, distinct, fields⟩ := mirrored
  rw [HasDistinctKeys, Definition.places_of_schema schema, schema]
  refine ⟨?_, placesOfFields_distinctKeys nodes fields⟩
  rintro _ ⟨⟩
  exact fields.nodup_visibleKeys distinct

/-- The names of the nested objects of a definition are distinct if its keys are distinct words. -/
theorem Definition.HasDistinctKeys.nodup_names {d : Definition} (distinct : d.HasDistinctKeys)
    (words : d.HasWords) : (d.places.map (·.name d.name)).Nodup := by
  have separate : Separate [] d.places := by
    obtain ⟨keysHere, keysThere⟩ := distinct
    obtain ⟨wordsHere, wordsThere⟩ := words
    unfold Definition.places at keysThere wordsThere ⊢
    split at keysThere
    · rename_i nodes schema
      rw [schema] at wordsThere
      exact (placesOfFields_separate nodes ⟨keysHere nodes schema, wordsHere nodes schema⟩
        fun place mem => ⟨keysThere place mem, wordsThere place mem⟩).separate
    · exact (separateUnder_nil [] fun _ => False).separate
  have names : d.places.map (·.name d.name) =
      (d.places.map ObjectPlace.pieces).map (spelled d.name) := by
    rw [List.map_map]
    rfl
  rw [names]
  refine List.Nodup.map_on (fun texts mem others mem' same => ?_) separate.distinct
  obtain ⟨place, inside, rfl⟩ := List.mem_map.1 mem
  obtain ⟨other, inside', rfl⟩ := List.mem_map.1 mem'
  obtain ⟨later, pieces, all⟩ := separate.below place inside
  obtain ⟨later', pieces', all'⟩ := separate.below other inside'
  rw [List.nil_append] at pieces pieces'
  rw [pieces, pieces'] at same ⊢
  exact eq_of_spelled_eq all all' same

namespace Synthesizer

/-- Where no name of a definition's walk is claimed by two constructs, every field of its object has
the type of its own node, and each nested object is named by the pieces that lead to it, from keys
that are distinct in each object.  These names are distinct, claimed twice or not, if every key is
one word. -/
theorem distinct_names_of_words (catalog : Catalog) (strict : Bool) (d : Definition)
    (object : ObjectType) (given : ((new catalog strict).synthesize d).1 = .ok object) :
    (Unambiguous (claimsOf catalog strict d) →
      d.Mirrored object ∧ (d.places.map (·.claim d.name)).Sublist (claimsOf catalog strict d) ∧
      d.HasDistinctKeys) ∧
    (d.HasDistinctKeys → d.HasWords → (d.places.map (·.name d.name)).Nodup) := by
  refine ⟨fun clear => ?_, fun distinct => distinct.nodup_names⟩
  have mirrored := synthesize_mirrors given clear
  exact ⟨mirrored, claims_of_places (plain_of_synthesize given clear), mirrored.hasDistinctKeys⟩

/-- An app with settings under keys of one word each. -/
def wordsApp : Definition where
  kind := .app
  name := "App"
  description := none
  schema := .object
    [("logging", .object
      [("stdout", .optional (.scalar .boolean)),
       ("files", .list (.object [("path", .scalar .string)]))]),
     ("driver", .union [.object [("host", .scalar .string)], .object [("image", .scalar .string)]]),
     ("services", .map (.object [("port", .scalar .integer)]))]
  docs :=
    [("logging", .nested none
      [("stdout", .text "To the standard output"),
       ("files", .nested none [("path", .text "Path of the file")])]),
     ("driver", .nested none [("host", .text "A host"), ("image", .text "An image")]),
     ("services", .nested none
      [(Documentation.valueTerm, .nested none [("port", .text "A port")])])]
  skipFields := []
  discriminator := none

theorem hasWords_wordsApp : wordsApp.HasWords := by
  refine ⟨fun nodes schema => ?_, ?_⟩
  · cases schema
    decide
  · show ∀ place ∈ wordsApp.places, ∀ key ∈ visibleKeys [] place.tree place.nodes,
      isWord key = true
    decide

theorem wordsApp_names :
    let names := wordsApp.places.map (·.name wordsApp.name)
    ∃ object, ((new ⟨[wordsApp]⟩ false).synthesize wordsApp).1 = .ok object ∧
      wordsApp.Mirrored object ∧
      names = ["AppLogging", "AppLoggingFiles", "AppDriverAlternative1", "AppDriverAlternative2",
        "AppServices"] ∧ names.Nodup := by
  have clear : Unambiguous (claimsOf ⟨[wordsApp]⟩ false wordsApp) :=
    unambiguous_of_nodup (by decide)
  obtain ⟨mirrors, names⟩ := distinct_names_of_words ⟨[wordsApp]⟩ false wordsApp _ rfl
  obtain ⟨mirrored, -, distinct⟩ := mirrors clear
  exact ⟨_, rfl, mirrored, rfl, names distinct hasWords_wordsApp⟩

/-- An app in which the key `b` below `a` and the key `a_b` spell the same name. -/
def pairApp : Definition where
  kind := .app
  name := "App"
  description := none
  schema := .object
    [("a", .object [("b", .object [("x", .scalar .string)])]),
     ("a_b", .object [("y", .scalar .string)])]
  docs :=
    [("a", .nested none [("b", .nested none [("x", .text "An x")])]),
     ("a_b", .nested none [("y", .text "A y")])]
  skipFields := []
  discriminator := none

/-- Two nested objects share a name, and the field for the second one has the keys of the first. -/
theorem pairApp_shares_name :
    let places := pairApp.places
    ∃ object, ((new ⟨[pairApp]⟩ false).synthesize pairApp).1 = .ok object ∧
      places.map (fun place => (place.name pairApp.name, visibleKeys [] place.tree place.nodes)) =
        [("AppA", ["b"]), ("AppAB", ["x"]), ("AppAB", ["y"])] ∧
      ¬ (places.map (·.name pairApp.name)).Nodup ∧
      object.fields.map (fun field =>
        (field.source, field.type.objects.map fun o => (o.name, o.fields.map Field.source))) =
        [("a", [("AppA", ["b"])]), ("a_b", [("AppAB", ["x"])])] :=
  ⟨_, rfl, rfl, by decide, rfl⟩

end Synthesizer

end ApiSchema
