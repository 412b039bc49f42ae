import Mathlib.Data.List.Chain
import ApiSchema.Proofs.ObjectNames

/-!
# Keys that are read back from their API names

The two passes that put boundaries into an API name miss and repeat none: together they put one
before each capital that follows a small letter or a digit, or is followed by a small letter
(`markCapitals_markWords`).  So a boundary is lost between a word of one letter and a next word that
is one letter, too, or goes on with a digit; the first word has no capital, and loses none.
`toSnake_toCamel_iff` says that the keys without such words are those that are read back.
-/

namespace ApiSchema

open Text

namespace KeyName

/-! ## Boundaries -/

/-- Is the character a small letter or a digit? -/
def isWordChar (c : Char) : Bool := isLowerLetter c || isDigit c

/-- Puts a boundary before each capital that follows a small letter or a digit, or has a small
letter after it. -/
def marked : List Char → List Char
  | c :: u :: rest =>
    if isUpperLetter u && (isWordChar c || rest.head?.any isLowerLetter) then
      c :: '_' :: marked (u :: rest)
    else c :: marked (u :: rest)
  | short => short

theorem marked_cons_cons (c u : Char) (rest : List Char) :
    marked (c :: u :: rest) =
      if isUpperLetter u && (isWordChar c || rest.head?.any isLowerLetter) then
        c :: '_' :: marked (u :: rest)
      else c :: marked (u :: rest) := by
  rw [marked]

theorem isUpperLetter_iff {c : Char} : isUpperLetter c = true ↔ 65 ≤ c.toNat ∧ c.toNat ≤ 90 := by
  simp only [isUpperLetter, Bool.and_eq_true, decide_eq_true_eq]
  exact Iff.rfl

theorem isLowerLetter_iff {c : Char} : isLowerLetter c = true ↔ 97 ≤ c.toNat ∧ c.toNat ≤ 122 := by
  simp only [isLowerLetter, Bool.and_eq_true, decide_eq_true_eq]
  exact Iff.rfl

theorem isDigit_iff {c : Char} : isDigit c = true ↔ 48 ≤ c.toNat ∧ c.toNat ≤ 57 := by
  simp only [isDigit, Bool.and_eq_true, decide_eq_true_eq]
  exact Iff.rfl

theorem isWordChar_iff {c : Char} :
    isWordChar c = true ↔ isLowerLetter c = true ∨ isDigit c = true := Bool.or_eq_true_iff

theorem not_upper_of_wordChar {c : Char} (plain : isWordChar c = true) :
    isUpperLetter c = false := by
  rw [isWordChar_iff, isLowerLetter_iff, isDigit_iff] at plain
  rw [Bool.eq_false_iff, ne_eq, isUpperLetter_iff]
  omega

theorem not_wordChar_of_upper {c : Char} (capital : isUpperLetter c = true) :
    isWordChar c = false :=
  Bool.eq_false_iff.2 fun plain => by simp [not_upper_of_wordChar plain] at capital

theorem exists_markWords_cons (inRun : Bool) (c : Char) (rest : List Char) :
    ∃ more, markWords inRun (c :: rest) = c :: more := by
  rcases rest with _ | ⟨u, _ | ⟨l, rest⟩⟩
  · exact ⟨[], rfl⟩
  · exact ⟨[u], rfl⟩
  · rw [markWords]
    split_ifs
    · exact ⟨_, rfl⟩
    · exact ⟨_, rfl⟩
    · exact ⟨_, rfl⟩

/-- A boundary that the first pass puts is left alone by the second. -/
theorem markCapitals_boundary (c u : Char) {l : Char} (small : isLowerLetter l = true)
    (more : List Char) :
    markCapitals (c :: '_' :: u :: l :: more) = c :: '_' :: u :: markCapitals (l :: more) := by
  have flat : isUpperLetter l = false := not_upper_of_wordChar (isWordChar_iff.2 (.inl small))
  rw [markCapitals, markCapitals, markCapitals]
  simp [flat, show isUpperLetter '_' = false from rfl, show isLowerLetter '_' = false from rfl,
    show isDigit '_' = false from rfl]

/-- The two passes together put exactly the boundaries of `marked`: what the first one misses
within a run stands after a small letter, where the second one finds it. -/
theorem markCapitals_markWords (inRun : Bool) (text : List Char) (clear : '\n' ∉ text) :
    markCapitals (markWords inRun text) = marked text := by
  fun_induction markWords inRun text with
  | case1 inRun c u l rest running ih =>
    obtain ⟨more, eq⟩ := exists_markWords_cons true u (l :: rest)
    have small : isLowerLetter c = true := (Bool.and_eq_true_iff.1 running).2
    have later := ih fun mem => clear (List.mem_cons_of_mem _ mem)
    rw [eq] at later ⊢
    rw [markCapitals, later, marked_cons_cons c u]
    simp [isWordChar, small]
  | case2 inRun c u l rest _ starts ih =>
    obtain ⟨more, eq⟩ := exists_markWords_cons true l rest
    simp only [Bool.and_eq_true, decide_eq_true_eq] at starts
    obtain ⟨⟨_, capital⟩, small⟩ := starts
    have flat : isUpperLetter l = false := not_upper_of_wordChar (isWordChar_iff.2 (.inl small))
    have later := ih fun mem =>
      clear (List.mem_cons_of_mem _ (List.mem_cons_of_mem _ mem))
    rw [eq] at later ⊢
    rw [markCapitals_boundary c u small, later, marked_cons_cons, marked_cons_cons]
    simp [capital, small, flat]
  | case3 inRun c u l rest _ flat ih =>
    obtain ⟨more, eq⟩ := exists_markWords_cons false u (l :: rest)
    have later := ih fun mem => clear (List.mem_cons_of_mem _ mem)
    have newline : c ≠ '\n' := fun same => clear (same ▸ List.mem_cons_self ..)
    rw [eq] at later ⊢
    rw [markCapitals, later, marked_cons_cons c u]
    by_cases capital : isUpperLetter u
    · have tall : isLowerLetter l = false := by simpa [newline, capital] using flat
      simp [isWordChar, capital, tall]
    · simp [capital]
  | case4 inRun text short =>
    rcases text with _ | ⟨c, _ | ⟨u, _ | ⟨l, rest⟩⟩⟩
    · rfl
    · rfl
    · simp [markCapitals, marked, isWordChar, and_comm]
    · exact (short c u l rest rfl).elim

theorem toSnake_eq {name : String} (clear : '\n' ∉ name.toList) :
    toSnake name = String.ofList (toSmall (marked name.toList)) := by
  rw [toSnake, markCapitals_markWords false name.toList clear]

theorem mem_marked {c : Char} : ∀ {text : List Char}, c ∈ marked text → c = '_' ∨ c ∈ text
  | [], mem => .inr mem
  | [_], mem => .inr mem
  | x :: u :: rest, mem => by
    have later : c ∈ marked (u :: rest) → c = '_' ∨ c ∈ x :: u :: rest :=
      fun mem => (mem_marked mem).imp_right (List.mem_cons_of_mem _)
    rw [marked] at mem
    split_ifs at mem
    · rcases List.mem_cons.1 mem with rfl | mem
      · exact .inr (List.mem_cons_self ..)
      · exact (List.mem_cons.1 mem).elim .inl later
    · rcases List.mem_cons.1 mem with rfl | mem
      · exact .inr (List.mem_cons_self ..)
      · exact later mem

theorem marked_cons_of_not_upper (x : Char) {c : Char} (flat : isUpperLetter c = false)
    (rest : List Char) : marked (x :: c :: rest) = x :: marked (c :: rest) := by
  rw [marked, flat]
  rfl

theorem marked_flat (x : Char) {tail : List Char} (flat : ∀ c ∈ tail, isUpperLetter c = false) :
    marked (x :: tail) = x :: tail := by
  induction tail generalizing x with
  | nil => rfl
  | cons c rest ih =>
    obtain ⟨here, later⟩ := List.forall_mem_cons.1 flat
    rw [marked_cons_of_not_upper x here, ih c later]

/-- The first boundary stands before the first inner capital, if anywhere. -/
theorem marked_append (x : Char) {tail : List Char} (plain : ∀ c ∈ tail, isWordChar c = true)
    {u : Char} (capital : isUpperLetter u = true) (rest : List Char) :
    marked (x :: tail ++ u :: rest) =
      x :: tail ++
        if (isWordChar x || !tail.isEmpty) || rest.head?.any isLowerLetter then
          '_' :: marked (u :: rest)
        else marked (u :: rest) := by
  induction tail generalizing x with
  | nil =>
    rw [List.cons_append, List.nil_append, marked, capital]
    simp only [Bool.true_and, List.isEmpty_nil, Bool.not_true, Bool.or_false]
    split_ifs <;> rfl
  | cons c tail ih =>
    obtain ⟨here, later⟩ := List.forall_mem_cons.1 plain
    have next := ih c later
    rw [List.cons_append] at next ⊢
    rw [List.cons_append, marked_cons_of_not_upper x (not_upper_of_wordChar here), next]
    simp [here]

/-! ## Words -/

/-- Can the word be the first one of a key?  It is made of small letters and digits. -/
def isFirstWord (word : List Char) : Bool := !word.isEmpty && word.all isWordChar

/-- Can the word follow another one?  It starts with a small letter. -/
def isLaterWord : List Char → Bool
  | [] => false
  | c :: rest => isLowerLetter c && rest.all isWordChar

theorem isFirstWord_iff {word : List Char} :
    isFirstWord word = true ↔ word ≠ [] ∧ ∀ c ∈ word, isWordChar c = true := by
  simp [isFirstWord]

theorem isLaterWord_iff {word : List Char} :
    isLaterWord word = true ↔ ∃ c rest, word = c :: rest ∧ isLowerLetter c = true ∧
      ∀ x ∈ rest, isWordChar x = true := by
  rcases word with _ | ⟨c, rest⟩
  · simp [isLaterWord]
  · simp [isLaterWord]

/-- The characters of small letters, digits and capital letters, small. -/
theorem smallOf_wordChar {c : Char} (plain : isWordChar c = true) : smallOf c = [c] := by
  have letters : ∀ n ∈ List.range' 97 26, smallOf (Char.ofNat n) = [Char.ofNat n] := by decide
  have digits : ∀ n ∈ List.range' 48 10, smallOf (Char.ofNat n) = [Char.ofNat n] := by decide
  rw [← Char.ofNat_toNat c]
  rw [isWordChar_iff, isLowerLetter_iff, isDigit_iff] at plain
  rcases plain with codes | codes
  · exact letters c.toNat (by rw [List.mem_range'_1]; omega)
  · exact digits c.toNat (by rw [List.mem_range'_1]; omega)

theorem smallOf_capitalLetter {c : Char} (small : isLowerLetter c = true) :
    smallOf (capitalLetter c) = [c] := by
  have letters : ∀ n ∈ List.range' 97 26, smallOf (Char.ofNat (n - 32)) = [Char.ofNat n] := by
    decide
  have codes := code_lowerLetter small
  have here := letters c.toNat (by rw [List.mem_range'_1]; omega)
  rwa [Char.ofNat_toNat] at here

theorem smallAfter_eq_flatMap (before : List Char) {text : List Char}
    (ascii : ∀ c ∈ text, c.toNat < 128) : smallAfter before text = text.flatMap smallOf := by
  induction text generalizing before with
  | nil => rfl
  | cons c rest ih =>
    obtain ⟨here, later⟩ := List.forall_mem_cons.1 ascii
    rw [smallAfter, if_neg (by omega), ih _ later, List.flatMap_cons]

theorem flatMap_smallOf_wordChars {text : List Char} (plain : ∀ c ∈ text, isWordChar c = true) :
    text.flatMap smallOf = text := by
  induction text with
  | nil => rfl
  | cons c rest ih =>
    obtain ⟨here, later⟩ := List.forall_mem_cons.1 plain
    rw [List.flatMap_cons, smallOf_wordChar here, ih later]
    rfl

theorem wordChar_lt {c : Char} (plain : isWordChar c = true) : c.toNat < 128 := by
  rw [isWordChar_iff, isLowerLetter_iff, isDigit_iff] at plain
  omega

theorem capitalWord_cons {c : Char} {rest : List Char} (small : isLowerLetter c = true)
    (plain : ∀ x ∈ rest, isWordChar x = true) :
    capitalWord (c :: rest) = capitalLetter c :: rest := by
  have ascii : ∀ x ∈ rest, x.toNat < 128 := fun x mem => wordChar_lt (plain x mem)
  rw [capitalWord, (capitalOf_lowerLetter small).1, toSmall, smallAfter_eq_flatMap [] ascii,
    flatMap_smallOf_wordChars plain]
  rfl

/-- The words of a key after they have been run together and parted again.  `apart` says that the
text before the words does not end in a capital. -/
def respelled (apart : Bool) : List (List Char) → List Char
  | [] => []
  | word :: rest =>
    (if apart || word.tail.head?.any isLowerLetter then '_' :: word else word) ++
      respelled (!word.tail.isEmpty) rest

/-- After a capital, only the rest of its word can start with a small letter. -/
theorem startsSmall_append {rest : List Char} {others : List (List Char)}
    (words : ∀ word ∈ others, isLaterWord word = true) :
    (rest ++ (others.map capitalWord).flatten).head?.any isLowerLetter =
      rest.head?.any isLowerLetter := by
  rcases rest with _ | ⟨c, rest⟩
  · rcases others with _ | ⟨word, others⟩
    · rfl
    · obtain ⟨d, tail, rfl, small, plain⟩ :=
        isLaterWord_iff.1 (words word (List.mem_cons_self ..))
      have tall : isLowerLetter (capitalLetter d) = false := by
        have tall := not_wordChar_of_upper (capitalOf_lowerLetter small).2
        exact (Bool.or_eq_false_iff.1 tall).1
      rw [List.map_cons, capitalWord_cons small plain]
      exact tall
  · rfl

theorem small_marked (x : Char) {tail : List Char} (plain : ∀ c ∈ tail, isWordChar c = true)
    {others : List (List Char)} (words : ∀ word ∈ others, isLaterWord word = true) :
    (marked (x :: tail ++ (others.map capitalWord).flatten)).flatMap smallOf =
      smallOf x ++ tail ++ respelled (isWordChar x || !tail.isEmpty) others := by
  induction others generalizing x tail with
  | nil =>
    rw [List.map_nil, List.flatten_nil, List.append_nil,
      marked_flat x fun c mem => not_upper_of_wordChar (plain c mem), List.flatMap_cons,
      flatMap_smallOf_wordChars plain, respelled, List.append_nil]
  | cons word rest ih =>
    obtain ⟨here, later⟩ := List.forall_mem_cons.1 words
    obtain ⟨c, more, rfl, small, rest_plain⟩ := isLaterWord_iff.1 here
    have capital := (capitalOf_lowerLetter small).2
    have next := ih (capitalLetter c) rest_plain later
    rw [not_wordChar_of_upper capital, smallOf_capitalLetter small, Bool.false_or,
      List.cons_append] at next
    rw [List.map_cons, List.flatten_cons, capitalWord_cons small rest_plain,
      @List.cons_append _ (capitalLetter c), marked_append x plain capital,
      startsSmall_append later, respelled, List.tail_cons]
    split_ifs
    · simp [flatMap_smallOf_wordChars plain, next, show smallOf '_' = ['_'] from rfl]
    · simp [flatMap_smallOf_wordChars plain, next]

theorem letters_of_mem_camelOfWords {first : List Char} {others : List (List Char)}
    (start : ∀ c ∈ first, isWordChar c = true)
    (words : ∀ word ∈ others, isLaterWord word = true) {c : Char}
    (mem : c ∈ camelOfWords (first :: others)) : isWordChar c = true ∨ isUpperLetter c = true := by
  rw [camelOfWords, List.mem_append] at mem
  rcases mem with mem | mem
  · exact .inl (start c mem)
  · obtain ⟨text, inside, mem⟩ := List.mem_flatten.1 mem
    obtain ⟨word, word_mem, rfl⟩ := List.mem_map.1 inside
    obtain ⟨d, rest, rfl, small, plain⟩ := isLaterWord_iff.1 (words word word_mem)
    rw [capitalWord_cons small plain] at mem
    rcases List.mem_cons.1 mem with rfl | mem
    · exact .inr (capitalOf_lowerLetter small).2
    · exact .inl (plain c mem)

theorem toSmall_marked_camelOfWords {first : List Char} {others : List (List Char)}
    (start : isFirstWord first = true) (words : ∀ word ∈ others, isLaterWord word = true) :
    toSmall (marked (camelOfWords (first :: others))) = first ++ respelled true others := by
  obtain ⟨filled, plain⟩ := isFirstWord_iff.1 start
  rcases first with _ | ⟨x, tail⟩
  · exact absurd rfl filled
  · obtain ⟨here, later⟩ := List.forall_mem_cons.1 plain
    have ascii : ∀ c ∈ marked (camelOfWords ((x :: tail) :: others)), c.toNat < 128 := by
      intro c mem
      rcases mem_marked mem with rfl | mem
      · decide
      · rcases letters_of_mem_camelOfWords plain words mem with letter | capital
        · exact wordChar_lt letter
        · rw [isUpperLetter_iff] at capital
          omega
    rw [toSmall, smallAfter_eq_flatMap [] ascii, camelOfWords, small_marked x later words,
      smallOf_wordChar here, here]
    rfl

/-! ## Keys -/

/-- The words are still apart in an API name: the first one is longer than its capital, or the
second one has a small letter after its own. -/
def StayApart (before word : List Char) : Prop :=
  before.tail ≠ [] ∨ word.tail.head?.any isLowerLetter = true

/-- Words are spelled as before just when each two of them stay apart. -/
theorem respelled_eq_iff {apart : Bool} {others : List (List Char)}
    (words : ∀ word ∈ others, isLaterWord word = true) :
    respelled apart others = (others.map ('_' :: ·)).flatten ↔
      (∀ word ∈ others.head?, apart = true ∨ word.tail.head?.any isLowerLetter = true) ∧
        others.IsChain StayApart := by
  induction others generalizing apart with
  | nil => simp [respelled]
  | cons word rest ih =>
    obtain ⟨here, later⟩ := List.forall_mem_cons.1 words
    have next : respelled (!word.tail.isEmpty) rest = (rest.map ('_' :: ·)).flatten ↔
        (word :: rest).IsChain StayApart := by
      rw [ih later, List.isChain_cons]
      simp [StayApart]
    rw [respelled, List.map_cons, List.flatten_cons, List.head?_cons]
    by_cases parted : (apart || word.tail.head?.any isLowerLetter) = true
    · rw [if_pos parted, List.append_cancel_left_eq, next]
      simpa using fun _ => Bool.or_eq_true_iff.1 parted
    · obtain ⟨c, tail, rfl, small, -⟩ := isLaterWord_iff.1 here
      have other : c ≠ '_' := by
        rintro rfl
        cases small
      rw [if_neg parted]
      simp only [Bool.or_eq_true] at parted
      refine iff_of_false (fun same => other (List.cons.inj same).1) fun all => parted ?_
      exact all.1 _ rfl

/-- A word of one letter runs together with a next word that is one letter, too, or has a digit
after its first letter. -/
def RunTogether (before word : String) : Prop :=
  before.length = 1 ∧ (word.length = 1 ∨ ∃ c, word.toList[1]? = some c ∧ isDigit c = true)

theorem not_stayApart_iff {before word : String} (earlier : isLaterWord before.toList = true)
    (later : isLaterWord word.toList = true) :
    ¬ StayApart before.toList word.toList ↔ RunTogether before word := by
  obtain ⟨b, more, before_eq, -, -⟩ := isLaterWord_iff.1 earlier
  obtain ⟨c, rest, word_eq, -, plain⟩ := isLaterWord_iff.1 later
  rw [RunTogether, StayApart, ← String.length_toList, ← String.length_toList, before_eq, word_eq]
  rcases rest with _ | ⟨d, rest⟩
  · simp
  · have kind := isWordChar_iff.1 (plain d (List.mem_cons_self ..))
    have exclusive : isLowerLetter d = false ↔ isDigit d = true := by
      rw [Bool.eq_false_iff, ne_eq]
      rw [isLowerLetter_iff, isDigit_iff] at kind ⊢
      omega
    simp [exclusive]

/-- All later words stay apart just when no two neighbours of them run together; counted from one in
the whole key, the later words are those from the second on. -/
theorem isChain_stayApart_iff (first : String) {others : List String}
    (words : ∀ word ∈ others, isLaterWord word.toList = true) :
    (others.map String.toList).IsChain StayApart ↔
      ¬ ∃ (i : Nat) (before word : String), 3 ≤ i ∧ (first :: others)[i - 2]? = some before ∧
        (first :: others)[i - 1]? = some word ∧ RunTogether before word := by
  rw [List.isChain_map, List.isChain_iff_getElem]
  constructor
  · rintro apart ⟨i, before, word, late, before_at, word_at, together⟩
    obtain ⟨j, rfl⟩ := Nat.exists_eq_add_of_le' late
    have before_at : others[j]? = some before := before_at
    have word_at : others[j + 1]? = some word := word_at
    obtain ⟨inside, rfl⟩ := List.getElem?_eq_some_iff.1 word_at
    obtain ⟨_, rfl⟩ := List.getElem?_eq_some_iff.1 before_at
    exact (not_stayApart_iff (words _ (List.getElem_mem _)) (words _ (List.getElem_mem _))).2
      together (apart j inside)
  · intro clear j inside
    by_contra together
    refine clear ⟨j + 3, others[j], others[j + 1], Nat.le_add_left 3 j, ?_, ?_, ?_⟩
    · exact List.getElem?_eq_getElem (Nat.lt_of_succ_lt inside)
    · exact List.getElem?_eq_getElem inside
    · exact (not_stayApart_iff (words _ (List.getElem_mem _)) (words _ (List.getElem_mem _))).1
        together

theorem joinPieces_cons_eq_flatten (first : List Char) (others : List (List Char)) :
    joinPieces ['_'] (first :: others) = first ++ (others.map ('_' :: ·)).flatten := by
  induction others generalizing first with
  | nil => simp [joinPieces_singleton]
  | cons word rest ih =>
    rw [joinPieces_cons '_' first (List.cons_ne_nil _ _), ih word]
    rfl

theorem underscore_not_mem_words {first : String} {others : List String}
    (start : isFirstWord first.toList = true)
    (words : ∀ word ∈ others, isLaterWord word.toList = true) :
    ∀ word ∈ (first :: others).map String.toList, '_' ∉ word := by
  have plain : ∀ word : List Char, (∀ c ∈ word, isWordChar c = true) → '_' ∉ word :=
    fun word plain mem => absurd (plain '_' mem) (by decide)
  rw [List.map_cons, List.forall_mem_cons, List.forall_mem_map]
  refine ⟨plain _ (isFirstWord_iff.1 start).2, fun word mem => plain _ ?_⟩
  obtain ⟨c, rest, eq, small, rest_plain⟩ := isLaterWord_iff.1 (words word mem)
  rw [eq]
  exact List.forall_mem_cons.2 ⟨isWordChar_iff.2 (.inl small), rest_plain⟩

/-- A key of words is read back from its API name just when from its third word on no word runs
together with the one before it. -/
theorem toSnake_toCamel_iff {first : String} {others : List String}
    (start : isFirstWord first.toList = true)
    (words : ∀ word ∈ others, isLaterWord word.toList = true) :
    toSnake (toCamel (join "_" (first :: others))) = join "_" (first :: others) ↔
      ¬ ∃ (i : Nat) (before word : String), 3 ≤ i ∧ (first :: others)[i - 2]? = some before ∧
        (first :: others)[i - 1]? = some word ∧ RunTogether before word := by
  have later : ∀ word ∈ others.map String.toList, isLaterWord word = true :=
    List.forall_mem_map.2 words
  have letters : ∀ c ∈ first.toList, isWordChar c = true := (isFirstWord_iff.1 start).2
  have camel : (toCamel (join "_" (first :: others))).toList =
      camelOfWords (first.toList :: others.map String.toList) := by
    rw [toCamel, join, String.toList_ofList, String.toList_ofList]
    exact congrArg camelOfWords
      (pieces_joinPieces (List.cons_ne_nil _ _) (underscore_not_mem_words start words))
  have clear : '\n' ∉ (toCamel (join "_" (first :: others))).toList := by
    rw [camel]
    intro mem
    rcases letters_of_mem_camelOfWords letters later mem with plain | capital
    · exact absurd plain (by decide)
    · exact absurd capital (by decide)
  rw [toSnake_eq clear, camel, toSmall_marked_camelOfWords start later, join, String.ofList_inj]
  show _ = joinPieces ['_'] (first.toList :: others.map String.toList) ↔ _
  rw [joinPieces_cons_eq_flatten, List.append_cancel_left_eq, respelled_eq_iff later,
    isChain_stayApart_iff first words]
  exact and_iff_right fun _ _ => .inl rfl

/-- A short word is read back before a word with a second small letter, and not before one with a
digit there. -/
theorem shortWords_read_back :
    isFirstWord "2v".toList = true ∧ (∀ word ∈ ["a", "bc", "d2"], isLaterWord word.toList = true) ∧
      toSnake (toCamel "2v_a_bc_d2") = "2v_a_bc_d2" ∧
      (∀ word ∈ ["a", "b2"], isLaterWord word.toList = true) ∧
      toSnake (toCamel "2v_a_b2") ≠ "2v_a_b2" := by
  have start : isFirstWord "2v".toList = true := by decide
  have words : ∀ word ∈ ["a", "bc", "d2"], isLaterWord word.toList = true := by decide
  have words' : ∀ word ∈ ["a", "b2"], isLaterWord word.toList = true := by decide
  refine ⟨start, words, (toSnake_toCamel_iff start words).2 ?_, words', fun same => ?_⟩
  · rintro ⟨i, before, word, late, before_at, word_at, single, ends⟩
    obtain ⟨j, rfl⟩ := Nat.exists_eq_add_of_le' late
    rcases j with _ | _ | j
    · cases word_at
      rcases ends with short | ⟨c, second, digit⟩
      · cases short
      · cases second
        cases digit
    · cases before_at
      cases single
    · cases word_at
  · exact (toSnake_toCamel_iff start words').1 same
      ⟨3, "a", "b2", Nat.le_refl 3, rfl, rfl, rfl, .inr ⟨'2', rfl, rfl⟩⟩

end KeyName

end ApiSchema
