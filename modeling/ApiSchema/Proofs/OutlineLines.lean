import Mathlib.Data.List.Chain
import ApiSchema.Proofs.DocstringLayout

/-!
# Lines of outlines

Every block of an outline takes rows that lie between those of the blocks before and after it
(`Covers`).  So the lines of the blocks are those of the rows, in the same order, apart from the
rows that bullets take, and no block inside another one is empty.  Reading ends after at most two
steps for each row, however deep the text is (`blocksOf_accounts_for_rows`).
-/

namespace ApiSchema.Documentation

/-! ## Lines and levels -/

/-- The texts of the rows that are not blank. -/
def rowTexts (rows : List (Option Row)) : List (List Char) :=
  rows.filterMap (Option.map Row.text)

mutual

/-- The lines of a block: a paragraph's own, each term before the lines of its body, and those of
the blocks in a quote.  Bullets keep none. -/
def Block.flattened : Block → List (List Char)
  | .paragraph lines => lines
  | .bullets => []
  | .definitions items => flattenedItems items
  | .quote inner => flattened inner

def flattened : List Block → List (List Char)
  | [] => []
  | block :: rest => block.flattened ++ flattened rest

def flattenedItems : List (List Char × List Block) → List (List Char)
  | [] => []
  | (term, body) :: rest => term :: (flattened body ++ flattenedItems rest)

end

mutual

/-- The bodies of items and the contents of quotes inside a block, at any depth. -/
def Block.innerLevels : Block → List (List Block)
  | .paragraph _ => []
  | .bullets => []
  | .definitions items => itemLevels items
  | .quote inner => inner :: innerLevels inner

/-- The bodies of items and the contents of quotes inside some blocks, at any depth. -/
def innerLevels : List Block → List (List Block)
  | [] => []
  | block :: rest => block.innerLevels ++ innerLevels rest

/-- The bodies of some items, and what is inside them. -/
def itemLevels : List (List Char × List Block) → List (List Block)
  | [] => []
  | (_, body) :: rest => body :: (innerLevels body ++ itemLevels rest)

end

/-- Some blocks, and the bodies and contents inside them. -/
def levels (blocks : List Block) : List (List Block) := blocks :: innerLevels blocks

/-- Is the block a list of terms? -/
def Block.isDefinitions : Block → Bool
  | .definitions _ => true
  | _ => false

/-- Not both blocks are lists of terms. -/
def Apart (a b : Block) : Prop := ¬ (a.isDefinitions = true ∧ b.isDefinitions = true)

/-- Every paragraph has a line, no two lists of terms are neighbours, and there are bullets only if
`bulleted` holds. -/
structure SoundLevel (bulleted : Prop) (level : List Block) : Prop where
  filled : ∀ lines, .paragraph lines ∈ level → lines ≠ []
  apart : level.IsChain Apart
  marked : .bullets ∈ level → bulleted

/-! ## What blocks take -/

/-- The blocks take all of the rows, from the first to the last. -/
inductive Covers : List (Option Row) → List Block → Prop where
  | nil : Covers [] []
  | blank {rest : List (Option Row)} {blocks : List Block} (later : Covers rest blocks) :
      Covers (none :: rest) blocks
  | quote {row : Row} {region after : List (Option Row)} {inner blocks : List Block}
      (inside : Covers (some row :: region) inner) (later : Covers after blocks) :
      Covers (some row :: region ++ after) (.quote inner :: blocks)
  | bullets {row : Row} (marked : isBullet row.text = true) (items : List (Option Row))
      {after : List (Option Row)} {blocks : List Block} (later : Covers after blocks) :
      Covers (some row :: items ++ after) (.bullets :: blocks)
  | item (row : Row) {first : Row} {region after : List (Option Row)} {body blocks : List Block}
      (inside : Covers (some first :: region) body) (later : Covers after blocks) :
      Covers (some row :: (some first :: region ++ after)) (consItem row.text body blocks)
  | paragraph (row : Row) (more : List Row) {after : List (Option Row)} {blocks : List Block}
      (later : Covers after blocks) :
      Covers ((row :: more).map some ++ after) (.paragraph ((row :: more).map Row.text) :: blocks)

section

variable {base : Nat} {rows : List (Option Row)} {blocks : List Block}

theorem leastIndent_eq_none (none_least : leastIndent rows = none) : ∀ row ∈ rows, row = none := by
  induction rows with
  | nil => simp
  | cons first rest ih =>
    cases first with
    | none => exact List.forall_mem_cons.2 ⟨rfl, ih none_least⟩
    | some row =>
      rw [leastIndent] at none_least
      rcases least : leastIndent rest with _ | n <;> rw [least] at none_least <;> cases none_least

theorem covers_of_blank (all : ∀ row ∈ rows, row = none) : Covers rows [] := by
  induction rows with
  | nil => exact .nil
  | cons first rest ih =>
    obtain ⟨rfl, later⟩ := List.forall_mem_cons.1 all
    exact .blank (ih later)

theorem covers_blocksOf_of_least
    (each : ∀ least, leastIndent rows = some least → Covers rows (blocksAt least rows)) :
    Covers rows (blocksOf rows) := by
  rw [blocksOf]
  rcases least : leastIndent rows with _ | n
  · exact covers_of_blank (leastIndent_eq_none least)
  · exact each n least

theorem map_some_paragraphRows (base : Nat) (rows : List (Option Row)) :
    (paragraphRows base rows).map some ++ rows.drop (paragraphRows base rows).length = rows := by
  induction rows with
  | nil => rfl
  | cons first rest ih =>
    cases first with
    | none => rfl
    | some row =>
      rw [paragraphRows]
      split_ifs
      · rw [List.map_cons, List.length_cons, List.drop_succ_cons, List.cons_append, ih]
      · rfl

theorem takeWhile_of_startsDeeper (starts : startsDeeper base rows = true) :
    ∃ first region, rows.takeWhile (inRegion base) = some first :: region := by
  rcases rows with _ | ⟨_ | first, rest⟩
  · cases starts
  · cases starts
  · exact ⟨first, _, List.takeWhile_cons_of_pos starts⟩

theorem covers_blocksAt (base : Nat) (rows : List (Option Row)) :
    Covers rows (blocksAt base rows) := by
  -- on the recursion of the reader, whose regions are cut off so that they join to the rest
  induction base, rows using blocksAt.induct with
  | case1 base =>
    rw [blocksAt]
    exact .nil
  | case2 base rest ih =>
    rw [blocksAt_blank]
    exact .blank ih
  | case3 base row rest region after deeper inner_ih =>
    rename_i after_ih
    have covers := (covers_blocksOf_of_least inner_ih).quote after_ih
    rw [List.cons_append, List.takeWhile_append_dropWhile] at covers
    rwa [blocksAt_cons, if_pos deeper]
  | case4 base row rest shallow bullet after_ih =>
    have covers := Covers.bullets bullet (rest.takeWhile (continuesBullets base)) after_ih
    rw [List.cons_append, List.takeWhile_append_dropWhile] at covers
    rwa [blocksAt_cons, if_neg shallow, if_pos bullet]
  | case5 base row rest region after shallow unmarked starts body_ih =>
    rename_i after_ih
    have body := covers_blocksOf_of_least fun least _ => body_ih least
    obtain ⟨first, more, split⟩ := takeWhile_of_startsDeeper starts
    rw [show region = some first :: more from split] at body
    have covers := body.item row after_ih
    rw [← split, List.takeWhile_append_dropWhile] at covers
    rwa [blocksAt_cons, if_neg shallow, if_neg unmarked, if_pos starts]
  | case6 base row rest shallow unmarked flat more =>
    rename_i after_ih
    have covers := Covers.paragraph row more after_ih
    rw [List.map_cons, List.cons_append, map_some_paragraphRows] at covers
    rwa [blocksAt_cons, if_neg shallow, if_neg unmarked, if_neg flat]

theorem covers_blocksOf (rows : List (Option Row)) : Covers rows (blocksOf rows) :=
  covers_blocksOf_of_least fun least _ => covers_blocksAt least rows

/-! ## Lines in order -/

theorem rowTexts_append (front back : List (Option Row)) :
    rowTexts (front ++ back) = rowTexts front ++ rowTexts back :=
  List.filterMap_append

theorem rowTexts_cons (row : Row) (rest : List (Option Row)) :
    rowTexts (some row :: rest) = row.text :: rowTexts rest := rfl

theorem rowTexts_map_some (rows : List Row) : rowTexts (rows.map some) = rows.map Row.text := by
  rw [rowTexts, List.filterMap_map]
  exact congrFun List.filterMap_eq_map rows

theorem flattened_consItem (term : List Char) (body blocks : List Block) :
    flattened (consItem term body blocks) = term :: (flattened body ++ flattened blocks) := by
  unfold consItem
  split
  · simp only [flattened, Block.flattened, flattenedItems, List.cons_append, List.append_assoc]
  · simp only [flattened, Block.flattened, flattenedItems, List.cons_append, List.append_nil]

/-- The lines of blocks are lines of their rows, in the same order. -/
theorem Covers.sublist (covers : Covers rows blocks) :
    (flattened blocks).Sublist (rowTexts rows) := by
  induction covers with
  | nil => exact .slnil
  | blank _ ih => exact ih
  | quote _ _ inside_ih later_ih =>
    rw [flattened, Block.flattened, rowTexts_append]
    exact inside_ih.append later_ih
  | bullets _ items _ later_ih =>
    rw [flattened, Block.flattened, List.nil_append, rowTexts_append]
    exact later_ih.trans (List.sublist_append_right _ _)
  | item row _ _ inside_ih later_ih =>
    rw [flattened_consItem, rowTexts_cons, rowTexts_append]
    exact (inside_ih.append later_ih).cons_cons row.text
  | paragraph row more _ later_ih =>
    rw [flattened, Block.flattened, rowTexts_append, rowTexts_map_some]
    exact (List.Sublist.refl _).append later_ih

/-- Where no row is a bullet, the lines of blocks are those of their rows. -/
theorem Covers.flattened_eq (covers : Covers rows blocks)
    (plain : ∀ row, some row ∈ rows → isBullet row.text = false) :
    flattened blocks = rowTexts rows := by
  induction covers with
  | nil => rfl
  | blank _ ih => exact ih fun row mem => plain row (List.mem_cons_of_mem _ mem)
  | quote _ _ inside_ih later_ih =>
    rw [flattened, Block.flattened, rowTexts_append,
      inside_ih fun row mem => plain row (List.mem_append_left _ mem),
      later_ih fun row mem => plain row (List.mem_append_right _ mem)]
  | @bullets row marked _ _ _ _ _ =>
    rw [plain row (List.mem_cons_self ..)] at marked
    cases marked
  | item row _ _ inside_ih later_ih =>
    rw [flattened_consItem, rowTexts_cons, rowTexts_append,
      inside_ih fun row mem => plain row (List.mem_cons_of_mem _ (List.mem_append_left _ mem)),
      later_ih fun row mem => plain row (List.mem_cons_of_mem _ (List.mem_append_right _ mem))]
  | paragraph row more _ later_ih =>
    rw [flattened, Block.flattened, rowTexts_append, rowTexts_map_some,
      later_ih fun row mem => plain row (List.mem_append_right _ mem)]

/-! ## Levels -/

theorem consItem_ne_nil (term : List Char) (body blocks : List Block) :
    consItem term body blocks ≠ [] := by
  unfold consItem
  split <;> exact List.cons_ne_nil _ _

theorem Covers.ne_nil {row : Row} {rest : List (Option Row)}
    (covers : Covers (some row :: rest) blocks) : blocks ≠ [] := by
  generalize whole : some row :: rest = rows at covers
  cases covers with
  | nil => cases whole
  | blank _ => cases whole
  | item _ _ _ => exact consItem_ne_nil _ _ _
  | quote _ _ => exact List.cons_ne_nil _ _
  | bullets _ _ _ => exact List.cons_ne_nil _ _
  | paragraph _ _ _ => exact List.cons_ne_nil _ _

theorem innerLevels_consItem (term : List Char) (body blocks : List Block) :
    innerLevels (consItem term body blocks) = body :: (innerLevels body ++ innerLevels blocks) := by
  unfold consItem
  split
  · simp only [innerLevels, Block.innerLevels, itemLevels, List.cons_append, List.append_assoc]
  · simp only [innerLevels, Block.innerLevels, itemLevels, List.cons_append, List.append_nil]

theorem mem_consItem {term : List Char} {body : List Block} {block : Block}
    (mem : block ∈ consItem term body blocks) : block.isDefinitions = true ∨ block ∈ blocks := by
  unfold consItem at mem
  split at mem
  · rcases List.mem_cons.1 mem with rfl | mem
    · exact .inl rfl
    · exact .inr (List.mem_cons_of_mem _ mem)
  · rcases List.mem_cons.1 mem with rfl | mem
    · exact .inl rfl
    · exact .inr mem

variable {bulleted : Prop}

theorem soundLevel_nil : SoundLevel bulleted [] := ⟨by simp, .nil, by simp⟩

theorem SoundLevel.cons (sound : SoundLevel bulleted blocks) {block : Block}
    (other : block.isDefinitions = false) (filled : ∀ lines, block = .paragraph lines → lines ≠ [])
    (marked : block = .bullets → bulleted) : SoundLevel bulleted (block :: blocks) := by
  refine ⟨fun lines mem => ?_, sound.apart.cons fun next _ both => ?_, fun mem => ?_⟩
  · rcases List.mem_cons.1 mem with same | mem
    · exact filled lines same.symm
    · exact sound.filled lines mem
  · rw [other] at both
    cases both.1
  · rcases List.mem_cons.1 mem with same | mem
    · exact marked same.symm
    · exact sound.marked mem

/-- An item may come first, since it joins a list of terms that comes next. -/
theorem SoundLevel.consItem (sound : SoundLevel bulleted blocks) (term : List Char)
    (body : List Block) : SoundLevel bulleted (consItem term body blocks) := by
  refine ⟨fun lines mem => ?_, ?_, fun mem => ?_⟩
  · exact sound.filled lines ((mem_consItem mem).resolve_left (by simp [Block.isDefinitions]))
  · have apart := sound.apart
    unfold Documentation.consItem
    split
    · obtain ⟨first, later⟩ := List.isChain_cons.1 apart
      exact later.cons first
    · rename_i alone
      refine apart.cons fun next head both => ?_
      obtain ⟨rest, rfl⟩ := List.head?_eq_some_iff.1 head
      cases next with
      | definitions items => exact alone items rest rfl
      | _ => cases both.2
  · exact sound.marked ((mem_consItem mem).resolve_left (by simp [Block.isDefinitions]))

theorem Covers.sound (covers : Covers rows blocks) (bulleted : Prop)
    (marked : ∀ row, some row ∈ rows → isBullet row.text = true → bulleted) :
    (∀ level ∈ innerLevels blocks, level ≠ []) ∧
      ∀ level ∈ levels blocks, SoundLevel bulleted level := by
  unfold levels
  induction covers with
  | nil => simpa [innerLevels] using soundLevel_nil
  | blank _ ih => exact ih fun row mem => marked row (List.mem_cons_of_mem _ mem)
  | quote inside _ inside_ih later_ih =>
    obtain ⟨inside_filled, inside_sound⟩ :=
      inside_ih fun row mem => marked row (List.mem_append_left _ mem)
    obtain ⟨later_filled, later_sound⟩ :=
      later_ih fun row mem => marked row (List.mem_append_right _ mem)
    simp only [innerLevels, Block.innerLevels, List.forall_mem_cons,
      List.forall_mem_append] at inside_sound later_sound ⊢
    exact ⟨⟨⟨inside.ne_nil, inside_filled⟩, later_filled⟩,
      later_sound.1.cons rfl (by simp) (by simp), inside_sound, later_sound.2⟩
  | @bullets row bullet _ _ _ _ later_ih =>
    obtain ⟨filled, sound⟩ := later_ih fun row mem => marked row (List.mem_append_right _ mem)
    have here := marked row (List.mem_cons_self ..) bullet
    simp only [innerLevels, Block.innerLevels, List.forall_mem_cons, List.nil_append] at sound ⊢
    exact ⟨filled, sound.1.cons rfl (by simp) fun _ => here, sound.2⟩
  | item row inside _ inside_ih later_ih =>
    obtain ⟨inside_filled, inside_sound⟩ := inside_ih fun row mem =>
      marked row (List.mem_cons_of_mem _ (List.mem_append_left _ mem))
    obtain ⟨later_filled, later_sound⟩ := later_ih fun row mem =>
      marked row (List.mem_cons_of_mem _ (List.mem_append_right _ mem))
    rw [innerLevels_consItem]
    simp only [List.forall_mem_cons, List.forall_mem_append] at inside_sound later_sound ⊢
    exact ⟨⟨inside.ne_nil, inside_filled, later_filled⟩,
      later_sound.1.consItem _ _, inside_sound.1, inside_sound.2, later_sound.2⟩
  | paragraph row more _ later_ih =>
    obtain ⟨filled, sound⟩ := later_ih fun row mem => marked row (List.mem_append_right _ mem)
    simp only [innerLevels, Block.innerLevels, List.forall_mem_cons, List.nil_append] at sound ⊢
    exact ⟨filled, sound.1.cons rfl (by simp) (by simp), sound.2⟩

end

/-! ## Steps of the reader -/

/-- The blocks of rows, by a reader that is told the least indentation. -/
def outlineBy (read : Nat → List (Option Row) → Option (List Block)) (rows : List (Option Row)) :
    Option (List Block) :=
  match leastIndent rows with
  | some least => read least rows
  | none => some []

/-- The blocks of rows, if at most so many steps lead to each of them: one for every block or blank
line before it, at its own level and at those around it. -/
def blocksWithin : Nat → Nat → List (Option Row) → Option (List Block)
  | _, _, [] => some []
  | 0, _, _ :: _ => none
  | steps + 1, base, none :: rest => blocksWithin steps base rest
  | steps + 1, base, some row :: rest =>
    let region := rest.takeWhile (inRegion base)
    let after := rest.dropWhile (inRegion base)
    if base < row.indent then do
      let inner ← outlineBy (blocksWithin steps) (some row :: region)
      return .quote inner :: (← blocksWithin steps base after)
    else if isBullet row.text then do
      return .bullets :: (← blocksWithin steps base (rest.dropWhile (continuesBullets base)))
    else if startsDeeper base rest then do
      let body ← outlineBy (blocksWithin steps) region
      return consItem row.text body (← blocksWithin steps base after)
    else do
      let more := paragraphRows base rest
      return .paragraph (row.text :: more.map Row.text) ::
        (← blocksWithin steps base (rest.drop more.length))

/-- As many steps as are enough for some rows: two for each, and one less where a row is no deeper
than `base`, so that a region is shorter than the rows around it. -/
def stepsFor (base : Nat) (rows : List (Option Row)) : Nat :=
  if rows.all (inRegion base) then 2 * rows.length else 2 * rows.length - 1

section

variable {base steps : Nat} {rows : List (Option Row)}

theorem stepsFor_le (base : Nat) (rows : List (Option Row)) :
    stepsFor base rows ≤ 2 * rows.length := by
  unfold stepsFor
  split_ifs <;> omega

theorem all_inRegion_least {least : Nat} (found : leastIndent rows = some least) :
    rows.all (inRegion least) = false := by
  by_contra deeper
  have deeper : ∀ row ∈ rows, inRegion least row = true := by simpa using deeper
  exact Nat.lt_irrefl least (lt_leastIndent deeper found)

theorem outlineBy_eq (enough : 2 * rows.length ≤ steps + 1)
    (reads : ∀ least, stepsFor least rows ≤ steps →
      blocksWithin steps least rows = some (blocksAt least rows)) :
    outlineBy (blocksWithin steps) rows = some (blocksOf rows) := by
  unfold outlineBy blocksOf
  rcases least : leastIndent rows with _ | n
  · rfl
  · refine reads n ?_
    rw [stepsFor, all_inRegion_least least]
    simp only [Bool.false_eq_true, if_false]
    omega

theorem le_of_stepsFor_cons {row : Option Row} {rest : List (Option Row)}
    (enough : stepsFor base (row :: rest) ≤ steps + 1) : 2 * rest.length ≤ steps := by
  unfold stepsFor at enough
  rw [List.length_cons] at enough
  split_ifs at enough <;> omega

/-- After the first of some rows, a step less is enough. -/
theorem stepsFor_rest {row : Option Row} {rest : List (Option Row)}
    (enough : stepsFor base (row :: rest) ≤ steps + 1) (shorter : rows.length ≤ rest.length) :
    stepsFor base rows ≤ steps := by
  have le := stepsFor_le base rows
  have rest_le := le_of_stepsFor_cons enough
  omega

theorem length_takeWhile_lt {α : Type} {p : α → Bool} {xs : List α} (fails : xs.all p = false) :
    (xs.takeWhile p).length < xs.length := by
  refine Nat.lt_of_le_of_ne (length_takeWhile_le p xs) fun same => ?_
  have whole := (List.takeWhile_sublist p).eq_of_length same
  rw [List.all_eq_true.2 (List.takeWhile_eq_self_iff.1 whole)] at fails
  cases fails

/-- What is below a row and in its region is shorter than the rows, or all rows are deeper. -/
theorem length_region_le {row : Row} {rest : List (Option Row)} (deeper : base < row.indent)
    (enough : stepsFor base (some row :: rest) ≤ steps + 1) :
    2 * (some row :: rest.takeWhile (inRegion base)).length ≤ steps + 1 := by
  have here : inRegion base (some row) = true := decide_eq_true deeper
  have region := length_takeWhile_le (inRegion base) rest
  rw [stepsFor, List.all_cons, here, Bool.true_and, List.length_cons] at enough
  rw [List.length_cons]
  rcases all : rest.all (inRegion base)
  · have shorter := length_takeWhile_lt all
    simp only [all, Bool.false_eq_true, if_false] at enough
    omega
  · simp only [all, if_true] at enough
    omega

/-- Two steps for each row are enough. -/
theorem blocksWithin_eq (enough : stepsFor base rows ≤ steps) :
    blocksWithin steps base rows = some (blocksAt base rows) := by
  induction steps generalizing base rows with
  | zero =>
    have empty : rows = [] := by
      unfold stepsFor at enough
      rcases rows with _ | ⟨row, rest⟩
      · rfl
      · rw [List.length_cons] at enough
        split_ifs at enough <;> omega
    rw [empty, blocksWithin, blocksAt]
  | succ steps ih =>
    rcases rows with _ | ⟨_ | row, rest⟩
    · rw [blocksWithin, blocksAt]
    · rw [blocksWithin, blocksAt_blank, ih (stepsFor_rest enough (Nat.le_refl _))]
    · have after := ih (stepsFor_rest enough (length_dropWhile_le (inRegion base) rest))
      rw [blocksWithin, blocksAt_cons]
      split_ifs with deeper bullet starts
      · have inner := outlineBy_eq (length_region_le deeper enough) fun _ enough => ih enough
        rw [inner, after]
        rfl
      · have later := ih (stepsFor_rest enough (length_dropWhile_le (continuesBullets base) rest))
        rw [later]
        rfl
      · have shorter : 2 * (rest.takeWhile (inRegion base)).length ≤ steps + 1 := by
          have region := length_takeWhile_le (inRegion base) rest
          have rest_le := le_of_stepsFor_cons enough
          omega
        have body := outlineBy_eq shorter fun _ enough => ih enough
        rw [body, after]
        rfl
      · have beyond : (rest.drop (paragraphRows base rest).length).length ≤ rest.length := by simp
        have later := ih (stepsFor_rest enough beyond)
        dsimp only
        rw [later]
        rfl

end

/-! ## Outlines -/

/-- Reading ends and accounts for every row.

Two steps for each row are enough.  The lines of the blocks are those of the rows in their order,
without those that bullets take; all of them, and no bullets at any level, if no row is a bullet.
The bodies of items and the contents of quotes are not empty, paragraphs have lines, and no two
lists of terms are neighbours. -/
theorem blocksOf_accounts_for_rows (rows : List (Option Row)) :
    (∀ steps, 2 * rows.length ≤ steps →
      outlineBy (blocksWithin steps) rows = some (blocksOf rows)) ∧
    (flattened (blocksOf rows)).Sublist (rowTexts rows) ∧
    ((∀ row, some row ∈ rows → isBullet row.text = false) →
      flattened (blocksOf rows) = rowTexts rows ∧
        ∀ level ∈ levels (blocksOf rows), .bullets ∉ level) ∧
    (∀ level ∈ innerLevels (blocksOf rows), level ≠ []) ∧
    ∀ level ∈ levels (blocksOf rows),
      (∀ lines, .paragraph lines ∈ level → lines ≠ []) ∧ level.IsChain Apart := by
  have covers := covers_blocksOf rows
  obtain ⟨filled, sound⟩ := covers.sound True fun _ _ _ => trivial
  refine ⟨fun steps enough => ?_, covers.sublist, fun plain => ⟨covers.flattened_eq plain, ?_⟩,
    filled, fun level mem => ⟨(sound level mem).filled, (sound level mem).apart⟩⟩
  · exact outlineBy_eq (by omega) fun least enough => blocksWithin_eq enough
  · obtain ⟨-, unmarked⟩ := covers.sound False fun row mem bullet => by
      rw [plain row mem] at bullet
      cases bullet
    exact fun level mem => (unmarked level mem).marked

/-- The rows of a summary and of two terms below it, the second with a quote and a last line. -/
def deepRows (last : String) : List (Option Row) :=
  [some ⟨0, "Summary".toList⟩, none, some ⟨4, "a:".toList⟩, some ⟨8, "Text".toList⟩,
   some ⟨4, "b:".toList⟩, some ⟨12, "Quote".toList⟩, some ⟨8, last.toList⟩]

theorem deepRows_accounted :
    let outline (last : Block) : List Block :=
      [.paragraph ["Summary".toList], .quote [.definitions
        [("a:".toList, [.paragraph ["Text".toList]]),
         ("b:".toList, [.quote [.paragraph ["Quote".toList]], last])]]]
    blocksOf (deepRows "End") = outline (.paragraph ["End".toList]) ∧
      flattened (blocksOf (deepRows "End")) = rowTexts (deepRows "End") ∧
      blocksOf (deepRows "- End") = outline .bullets ∧
      (flattened (blocksOf (deepRows "- End"))).Sublist (rowTexts (deepRows "- End")) := by
  intro outline
  obtain ⟨ends, -, whole, -⟩ := blocksOf_accounts_for_rows (deepRows "End")
  obtain ⟨ends', part, -⟩ := blocksOf_accounts_for_rows (deepRows "- End")
  have plain : ∀ row, some row ∈ deepRows "End" → isBullet row.text = false := by
    simp only [deepRows, List.mem_cons, Option.some.injEq, reduceCtorEq, List.not_mem_nil,
      or_false, false_or]
    rintro row (rfl | rfl | rfl | rfl | rfl | rfl) <;> rfl
  exact ⟨Option.some.inj ((ends 14 (by decide)).symm.trans rfl), (whole plain).1,
    Option.some.inj ((ends' 14 (by decide)).symm.trans rfl), part⟩

end ApiSchema.Documentation
