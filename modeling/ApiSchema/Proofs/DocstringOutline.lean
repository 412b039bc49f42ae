import ApiSchema.Documentation.Docstring
import ApiSchema.Proofs.TextLines

/-!
# Documentation trees as docstrings

A canonical tree is written as an outline: a line with the name of each field in brackets, and
deeper by four columns its text, a blank line, and the outline of its own fields.
-/

namespace ApiSchema.Documentation

open Text

/-! ## Canonical trees -/

/-- Can a term name the field? -/
def isFieldName (name : String) : Bool :=
  let chars := name.toList
  !chars.contains ' ' && !chars.contains '\t' && !chars.contains '\n' &&
    chars.head? != some '[' && chars.getLast? != some ':' && chars.getLast? != some ']'

/-- Is the text made of plain lines, of which the first is no bullet? -/
def isPlain (content : String) : Bool :=
  let lines := pieces '\n' content.toList
  lines.all isPlainLine && !lines.head?.any isBullet

theorem isPlain_iff {content : String} :
    isPlain content = true ↔ ∃ first more, pieces '\n' content.toList = first :: more ∧
      (∀ line ∈ first :: more, isPlainLine line = true) ∧ isBullet first = false := by
  rw [isPlain]
  rcases lines : pieces '\n' content.toList with _ | ⟨first, more⟩
  · exact absurd lines (pieces_ne_nil _ _)
  · simp [and_assoc]

mutual

/-- A plain text, or fields that are canonical, with a plain text beside them or not. -/
def Entry.Canonical : Entry → Prop
  | .text content => isPlain content = true
  | .nested own fields =>
    (∀ content, own = some content → isPlain content = true) ∧ fields ≠ [] ∧
      Keyed.Distinct fields ∧ FieldsCanonical fields

/-- Each name can be a term, and each entry is canonical. -/
def FieldsCanonical : List (String × Entry) → Prop
  | [] => True
  | (name, entry) :: rest => isFieldName name = true ∧ entry.Canonical ∧ FieldsCanonical rest

end

/-- The tree has fields, under distinct names, and all of them are canonical. -/
def Canonical (tree : Tree) : Prop := tree ≠ [] ∧ Keyed.Distinct tree ∧ FieldsCanonical tree

/-! ## Outlines -/

def termOf (name : String) : List Char := '[' :: (name.toList ++ [']', ':'])

def rowsAt (column : Nat) (lines : List (List Char)) : List (Option Row) :=
  lines.map fun line => some ⟨column, line⟩

def paragraphAt (column : Nat) (content : String) : List (Option Row) :=
  rowsAt column (pieces '\n' content.toList)

mutual

/-- The rows below the term of an entry, at a column. -/
def Entry.outline (column : Nat) : Entry → List (Option Row)
  | .text content => paragraphAt column content
  | .nested none fields => outline column fields
  | .nested (some own) fields => paragraphAt column own ++ none :: outline column fields

def outline (column : Nat) : List (String × Entry) → List (Option Row)
  | [] => []
  | (name, entry) :: rest =>
    some ⟨column, termOf name⟩ :: (entry.outline (column + 4) ++ outline column rest)

end

/-- The text of a tree's outline. -/
def written (column : Nat) (tree : Tree) : String :=
  String.ofList (joinPieces ['\n'] ((outline column tree).map Row.line))

/-! ## Terms -/

theorem isFieldName_iff {name : String} :
    isFieldName name = true ↔ ' ' ∉ name.toList ∧ '\t' ∉ name.toList ∧ '\n' ∉ name.toList ∧
      name.toList.head? ≠ some '[' ∧ name.toList.getLast? ≠ some ':' ∧
      name.toList.getLast? ≠ some ']' := by
  simp [isFieldName, and_assoc]

theorem isPlainLine_termOf {name : String} (named : isFieldName name = true) :
    isPlainLine (termOf name) = true := by
  obtain ⟨-, tab, newline, -⟩ := isFieldName_iff.1 named
  have last : (termOf name).getLast? = some ':' := by
    rw [show termOf name = ('[' :: name.toList ++ [']']) ++ [':'] by simp [termOf],
      List.getLast?_concat]
  simp only [isPlainLine, last, Bool.and_eq_true]
  refine ⟨⟨⟨?_, ?_⟩, rfl⟩, rfl⟩
  · simpa [termOf] using tab
  · simpa [termOf] using newline

theorem isBullet_termOf (name : String) : isBullet (termOf name) = false := by
  rw [termOf]
  rcases name.toList with _ | ⟨c, rest⟩ <;> rfl

theorem termName_termOf {name : String} (named : isFieldName name = true) :
    termName (termOf name) = name := by
  obtain ⟨space, -, -, bracket, colon, closing⟩ := isFieldName_iff.1 named
  have word : (termOf name).takeWhile (· != ' ') = ('[' :: name.toList ++ [']']) ++ [':'] := by
    rw [List.takeWhile_eq_self_iff.2]
    · simp [termOf]
    · intro c mem
      simp only [bne_iff_ne]
      rintro rfl
      simp [termOf, space] at mem
  have opened : List.rdropWhile (fun c => c == ':' || c == ']') ('[' :: name.toList) =
      '[' :: name.toList := by
    refine List.rdropWhile_eq_self_iff.2 fun filled => ?_
    have last := List.getLast?_eq_some_getLast filled
    rw [List.getLast?_cons, Option.some.injEq] at last
    rw [← last]
    rcases ends : name.toList.getLast? with _ | c
    · simp
    · rw [ends] at colon closing
      simp only [ne_eq, Option.some.injEq] at colon closing
      simp [colon, closing]
  have closed : name.toList.dropWhile (· == '[') = name.toList := by
    refine List.dropWhile_eq_self_iff.2 fun filled => ?_
    rw [List.head?_eq_getElem?, List.getElem?_eq_getElem filled] at bracket
    simpa using bracket
  rw [termName, word, dropEndWhile_eq_rdropWhile, List.rdropWhile_concat_pos _ _ _ rfl,
    List.rdropWhile_concat_pos _ _ _ rfl, opened, List.dropWhile_cons_of_pos rfl, closed,
    String.ofList_toList]

/-! ## Places of rows -/

/-- The rows start at a column, and none stands before it. -/
structure StandsAt (column : Nat) (rows : List (Option Row)) : Prop where
  starts : ∃ row rest, rows = some row :: rest ∧ row.indent = column
  within : ∀ row, some row ∈ rows → column ≤ row.indent

section

variable {base column : Nat} {rows : List (Option Row)}

theorem le_leastIndent (within : ∀ row, some row ∈ rows → column ≤ row.indent) {least : Nat}
    (found : leastIndent rows = some least) : column ≤ least := by
  cases column with
  | zero => exact Nat.zero_le least
  | succ base =>
    refine lt_leastIndent (fun row mem => ?_) found
    rcases row with _ | row
    · rfl
    · exact decide_eq_true (within row mem)

theorem StandsAt.least (stands : StandsAt column rows) : leastIndent rows = some column := by
  obtain ⟨⟨row, rest, rfl, rfl⟩, within⟩ := stands
  rw [leastIndent]
  rcases found : leastIndent rest with _ | least
  · rfl
  · have le := le_leastIndent (fun row mem => within row (List.mem_cons_of_mem _ mem)) found
    simp only [Nat.min_eq_left le]

theorem StandsAt.deep (stands : StandsAt column rows) (deeper : base < column) :
    ∀ row ∈ rows, inRegion base row = true := by
  intro row mem
  rcases row with _ | row
  · rfl
  · exact decide_eq_true (Nat.lt_of_lt_of_le deeper (stands.within row mem))

theorem StandsAt.append (stands : StandsAt column rows) {more : List (Option Row)}
    (within : ∀ row, some row ∈ more → column ≤ row.indent) : StandsAt column (rows ++ more) := by
  obtain ⟨⟨row, rest, rfl, at_column⟩, inside⟩ := stands
  refine ⟨⟨row, rest ++ more, rfl, at_column⟩, fun other mem => ?_⟩
  rcases List.mem_append.1 mem with mem | mem
  · exact inside other mem
  · exact within other mem

end

theorem standsAt_paragraphAt (column : Nat) (content : String) :
    StandsAt column (paragraphAt column content) := by
  refine ⟨?_, fun row mem => ?_⟩
  · rw [paragraphAt]
    rcases lines : pieces '\n' content.toList with _ | ⟨line, rest⟩
    · exact absurd lines (pieces_ne_nil _ _)
    · exact ⟨⟨column, line⟩, _, rfl, rfl⟩
  · obtain ⟨line, -, same⟩ := List.mem_map.1 mem
    cases same
    exact Nat.le_refl column

mutual

theorem Entry.standsAt_outline (column : Nat) : ∀ entry : Entry, entry.Canonical →
    StandsAt column (entry.outline column)
  | .text content, canonical => by
    rw [Entry.outline]
    exact standsAt_paragraphAt column content
  | .nested none fields, canonical => by
    rw [Entry.Canonical] at canonical
    rw [Entry.outline]
    exact standsAt_outline column fields canonical.2.1 canonical.2.2.2
  | .nested (some own) fields, canonical => by
    rw [Entry.Canonical] at canonical
    have stands := standsAt_outline column fields canonical.2.1 canonical.2.2.2
    rw [Entry.outline]
    refine (standsAt_paragraphAt column own).append fun row mem => stands.within row ?_
    simpa using mem

theorem standsAt_outline (column : Nat) : ∀ fields : List (String × Entry), fields ≠ [] →
    FieldsCanonical fields → StandsAt column (outline column fields)
  | [], filled, _ => absurd rfl filled
  | (name, entry) :: rest, _, canonical => by
    rw [FieldsCanonical] at canonical
    have body := Entry.standsAt_outline (column + 4) entry canonical.2.1
    rw [outline]
    refine ⟨⟨_, _, rfl, rfl⟩, fun row mem => ?_⟩
    rcases List.mem_cons.1 mem with same | mem
    · cases same
      exact Nat.le_refl column
    · rcases List.mem_append.1 mem with mem | mem
      · have := body.within row mem
        omega
      · by_cases last : rest = []
        · rw [last, outline] at mem
          cases mem
        · exact (standsAt_outline column rest last canonical.2.2).within row mem

end

/-! ## Blocks of outlines -/

mutual

/-- The blocks of the rows below an entry's term. -/
def Entry.blocks : Entry → List Block
  | .text content => [.paragraph (pieces '\n' content.toList)]
  | .nested none fields => [.definitions (itemsOf fields)]
  | .nested (some own) fields =>
    [.paragraph (pieces '\n' own.toList), .definitions (itemsOf fields)]

def itemsOf : List (String × Entry) → List (List Char × List Block)
  | [] => []
  | (name, entry) :: rest => (termOf name, entry.blocks) :: itemsOf rest

end

section

variable {base column : Nat} {rows after : List (Option Row)}

theorem blocksAt_blank : blocksAt base (none :: rows) = blocksAt base rows := by
  rw [blocksAt]

/-- Rows that are all deeper are the region before a row that is not. -/
theorem region_append (deep : ∀ row ∈ rows, inRegion base row = true)
    (stops : after.takeWhile (inRegion base) = []) :
    (rows ++ after).takeWhile (inRegion base) = rows ∧
      (rows ++ after).dropWhile (inRegion base) = after := by
  have parts := List.takeWhile_append_dropWhile (p := inRegion base) (l := after)
  rw [stops, List.nil_append] at parts
  exact ⟨by rw [List.takeWhile_append_of_pos deep, stops, List.append_nil],
    by rw [List.dropWhile_append_of_pos deep, parts]⟩

theorem blocksAt_term {text : List Char} (plain : isBullet text = false)
    (stands : StandsAt column rows) (deeper : base < column)
    (stops : after.takeWhile (inRegion base) = []) :
    blocksAt base (some ⟨base, text⟩ :: (rows ++ after)) =
      consItem text (blocksAt column rows) (blocksAt base after) := by
  obtain ⟨region, rest⟩ := region_append (stands.deep deeper) stops
  have starts : startsDeeper base (rows ++ after) = true := by
    obtain ⟨row, more, rfl, rfl⟩ := stands.starts
    exact decide_eq_true deeper
  rw [blocksAt]
  simp only [Nat.lt_irrefl, dite_false, plain, starts, region, rest, stands.least, if_true]
  rfl

theorem startsDeeper_rowsAt (stops : after.head?.join = none) (lines : List (List Char)) :
    startsDeeper base (rowsAt base lines ++ after) = false := by
  rcases lines with _ | ⟨line, rest⟩
  · rcases after with _ | ⟨_ | row, rest⟩
    · rfl
    · rfl
    · cases stops
  · exact decide_eq_false (Nat.lt_irrefl base)

theorem paragraphRows_rowsAt (stops : after.head?.join = none) (lines : List (List Char)) :
    paragraphRows base (rowsAt base lines ++ after) = lines.map fun line => ⟨base, line⟩ := by
  induction lines with
  | nil =>
    rcases after with _ | ⟨_ | row, rest⟩
    · rfl
    · rfl
    · cases stops
  | cons line rest ih =>
    have flat : startsDeeper base (rowsAt base rest ++ after) = false :=
      startsDeeper_rowsAt stops rest
    rw [rowsAt] at ih flat ⊢
    rw [List.map_cons, List.cons_append, paragraphRows, flat, ih]
    simp

/-- Rows at one column, up to the end or a blank line, are a paragraph. -/
theorem blocksAt_rowsAt {first : List Char} {more : List (List Char)}
    (plain : isBullet first = false) (stops : after.head?.join = none) :
    blocksAt base (rowsAt base (first :: more) ++ after) =
      .paragraph (first :: more) :: blocksAt base after := by
  have flat : startsDeeper base (rowsAt base more ++ after) = false :=
    startsDeeper_rowsAt stops more
  have rows : paragraphRows base (rowsAt base more ++ after) = more.map fun line => ⟨base, line⟩ :=
    paragraphRows_rowsAt stops more
  rw [rowsAt] at flat rows ⊢
  rw [List.map_cons, List.cons_append, blocksAt]
  simp only [Nat.lt_irrefl, dite_false, plain, flat, rows]
  simp [Function.comp_def]

theorem blocksAt_paragraphAt {content : String} (plain : isPlain content = true)
    (stops : after.head?.join = none) :
    blocksAt base (paragraphAt base content ++ after) =
      .paragraph (pieces '\n' content.toList) :: blocksAt base after := by
  obtain ⟨first, more, lines, -, unmarked⟩ := isPlain_iff.1 plain
  rw [paragraphAt, lines, blocksAt_rowsAt unmarked stops]

end

mutual

theorem Entry.blocksAt_outline (column : Nat) : ∀ entry : Entry, entry.Canonical →
    blocksAt column (entry.outline column) = entry.blocks
  | .text content, canonical => by
    rw [Entry.Canonical] at canonical
    have whole : paragraphAt column content = paragraphAt column content ++ [] :=
      (List.append_nil _).symm
    rw [Entry.outline, whole, blocksAt_paragraphAt canonical rfl, Entry.blocks, blocksAt]
  | .nested none fields, canonical => by
    rw [Entry.Canonical] at canonical
    rw [Entry.outline, Entry.blocks]
    exact blocksAt_outline column fields canonical.2.1 canonical.2.2.2
  | .nested (some own) fields, canonical => by
    rw [Entry.Canonical] at canonical
    rw [Entry.outline, Entry.blocks, blocksAt_paragraphAt (canonical.1 own rfl) rfl,
      blocksAt_blank, blocksAt_outline column fields canonical.2.1 canonical.2.2.2]

theorem blocksAt_outline (column : Nat) : ∀ fields : List (String × Entry), fields ≠ [] →
    FieldsCanonical fields →
    blocksAt column (outline column fields) = [.definitions (itemsOf fields)]
  | [], filled, _ => absurd rfl filled
  | (name, entry) :: rest, _, canonical => by
    rw [FieldsCanonical] at canonical
    obtain ⟨named, entry_canonical, rest_canonical⟩ := canonical
    have below := Entry.blocksAt_outline (column + 4) entry entry_canonical
    have stands := Entry.standsAt_outline (column + 4) entry entry_canonical
    rw [outline, blocksAt_term (isBullet_termOf name) stands (by omega), below, itemsOf]
    · by_cases last : rest = []
      · rw [last, outline, blocksAt]
        rfl
      · rw [blocksAt_outline column rest last rest_canonical]
        rfl
    · -- the next term stands at the same column, so the region ends before it
      rcases rest with _ | ⟨⟨other, next⟩, more⟩
      · rw [outline]
        rfl
      · rw [outline]
        simp [inRegion]

end

/-! ## Entries of items -/

mutual

theorem Entry.entryOf_blocks (name : String) : ∀ entry : Entry, entry.Canonical →
    ∃ fields, documentBody entry.blocks = .ok fields ∧
      entryOf name (firstParagraph entry.blocks) fields = .ok entry
  | .text content, canonical => by
    refine ⟨none, ?_, ?_⟩
    · rw [Entry.blocks, documentBody, documentBody]
      simp
    · rw [Entry.blocks, firstParagraph, paragraphText, joinPieces_pieces, String.ofList_toList]
      rfl
  | .nested none fields, canonical => by
    rw [Entry.Canonical] at canonical
    have items := documentItems_itemsOf [] fields canonical.2.2.1 canonical.2.2.2
    refine ⟨some fields, ?_, ?_⟩
    · rw [Entry.blocks, documentBody, items]
      rfl
    · rw [Entry.blocks]
      rfl
  | .nested (some own) fields, canonical => by
    rw [Entry.Canonical] at canonical
    have items := documentItems_itemsOf [] fields canonical.2.2.1 canonical.2.2.2
    refine ⟨some fields, ?_, ?_⟩
    · rw [Entry.blocks, documentBody, documentBody, items]
      · rfl
      · simp
    · rw [Entry.blocks, firstParagraph, paragraphText, joinPieces_pieces, String.ofList_toList]
      rfl

/-- The items of some fields document these fields, after the ones that are done. -/
theorem documentItems_itemsOf (done : Tree) : ∀ fields : List (String × Entry),
    Keyed.Distinct (done ++ fields) → FieldsCanonical fields →
    documentItems done (itemsOf fields) = .ok (done ++ fields)
  | [], distinct, canonical => by
    rw [itemsOf, documentItems, List.append_nil]
  | (name, entry) :: rest, distinct, canonical => by
    rw [FieldsCanonical] at canonical
    obtain ⟨named, entry_canonical, rest_canonical⟩ := canonical
    obtain ⟨fields, body, same⟩ := Entry.entryOf_blocks name entry entry_canonical
    have apart := distinct
    rw [Keyed.Distinct, Keyed.keys, List.map_append, List.nodup_append] at apart
    have fresh : Keyed.get? name done = none :=
      Keyed.get?_eq_none_iff.2 fun mem => apart.2.2 _ mem _ (List.mem_cons_self ..) rfl
    have later := documentItems_itemsOf (done ++ [(name, entry)]) rest
      (by rwa [List.append_assoc]) rest_canonical
    rw [itemsOf, documentItems, termName_termOf named, body]
    show (entryOf name (firstParagraph entry.blocks) fields >>= fun entry =>
      documentItems (Keyed.insert name entry done) (itemsOf rest)) = _
    rw [same]
    show documentItems (Keyed.insert name entry done) (itemsOf rest) = _
    rw [Keyed.insert_of_get?_eq_none fresh, later, List.append_assoc]
    rfl

end

/-! ## Reading back -/

theorem writable_paragraphAt (column : Nat) {content : String} (plain : isPlain content = true) :
    Writable (paragraphAt column content) := by
  obtain ⟨first, more, lines, each, -⟩ := isPlain_iff.1 plain
  rw [paragraphAt, lines]
  generalize first :: more = all at each
  induction all with
  | nil => exact Writable.nil
  | cons line rest ih =>
    obtain ⟨here, later⟩ := List.forall_mem_cons.1 each
    exact (ih later).cons here

mutual

theorem Entry.writable_outline (column : Nat) : ∀ entry : Entry, entry.Canonical →
    Writable (entry.outline column)
  | .text content, canonical => by
    rw [Entry.Canonical] at canonical
    rw [Entry.outline]
    exact writable_paragraphAt column canonical
  | .nested none fields, canonical => by
    rw [Entry.Canonical] at canonical
    rw [Entry.outline]
    exact writable_outline column fields canonical.2.2.2
  | .nested (some own) fields, canonical => by
    rw [Entry.Canonical] at canonical
    obtain ⟨plain, filled, -, fields_canonical⟩ := canonical
    have below := writable_outline column fields fields_canonical
    obtain ⟨⟨row, rest, starts, -⟩, -⟩ := standsAt_outline column fields filled fields_canonical
    rw [Entry.outline]
    exact (writable_paragraphAt column (plain own rfl)).append (below.blank (by simp [starts]))

theorem writable_outline (column : Nat) : ∀ fields : List (String × Entry),
    FieldsCanonical fields → Writable (outline column fields)
  | [], canonical => by
    rw [outline]
    exact Writable.nil
  | (name, entry) :: rest, canonical => by
    rw [FieldsCanonical] at canonical
    obtain ⟨named, entry_canonical, rest_canonical⟩ := canonical
    have below := Entry.writable_outline (column + 4) entry entry_canonical
    rw [outline]
    exact (below.append (writable_outline column rest rest_canonical)).cons
      (isPlainLine_termOf named)

end

theorem rowsOf_written (column : Nat) {tree : Tree} (canonical : FieldsCanonical tree) :
    rowsOf (written column tree).toList = outline column tree := by
  rw [written, String.toList_ofList, (writable_outline column tree canonical).rowsOf_eq]

theorem ofDocstring_written {tree : Tree} (canonical : Canonical tree) :
    ofDocstring (written 0 tree) = .ok tree := by
  obtain ⟨filled, distinct, fields⟩ := canonical
  have stands := standsAt_outline 0 tree filled fields
  have blocks : blocksOf (outline 0 tree) = [.definitions (itemsOf tree)] := by
    rw [blocksOf, stands.least]
    exact blocksAt_outline 0 tree filled fields
  rw [ofDocstring, rowsOf_written 0 fields, blocks]
  exact documentItems_itemsOf [] tree distinct fields

example : written 0 [("paths", .nested (some "own") [("key", .text "A path\nto a file")])] =
    "[paths]:\n    own\n\n    [key]:\n        A path\n        to a file" := by
  decide

/-! ## Summaries -/

/-- Is the text one line that is no bullet? -/
def isSummary (text : String) : Bool :=
  !text.toList.contains '\n' &&
    !(Row.ofLine (expandTabs text.toList)).any fun row => isBullet row.text

section

variable {base column : Nat} {rows after : List (Option Row)}

theorem blocksAt_quote (stands : StandsAt column rows) (deeper : base < column)
    (stops : after.takeWhile (inRegion base) = []) :
    blocksAt base (rows ++ after) = .quote (blocksAt column rows) :: blocksAt base after := by
  have all := stands.deep deeper
  have least := stands.least
  obtain ⟨⟨row, rest, rfl, rfl⟩, -⟩ := stands
  obtain ⟨region, beyond⟩ :=
    region_append (fun row mem => all row (List.mem_cons_of_mem _ mem)) stops
  rw [List.cons_append, blocksAt]
  simp only [deeper, dite_true, region, beyond]
  congr 2
  split
  · rename_i found
    rw [region, least] at found
    cases found
    rfl
  · rename_i none
    rw [region, least] at none
    cases none

theorem blocksAt_single {row : Row} (plain : isBullet row.text = false) :
    blocksAt row.indent (some row :: none :: rows) =
      .paragraph [row.text] :: blocksAt row.indent rows := by
  have paragraph : blocksAt row.indent (rowsAt row.indent [row.text] ++ none :: rows) =
      .paragraph [row.text] :: blocksAt row.indent (none :: rows) := blocksAt_rowsAt plain rfl
  rwa [blocksAt_blank] at paragraph

theorem StandsAt.takeWhile_eq_nil (stands : StandsAt column rows) :
    rows.takeWhile (inRegion column) = [] := by
  obtain ⟨⟨row, rest, rfl, rfl⟩, -⟩ := stands
  simp [inRegion]

/-- The first list of a text with a summary is the first list below the summary. -/
theorem firstDefinitions_summary {row : Option Row} {items : List (List Char × List Block)}
    (plain : ∀ r, row = some r → isBullet r.text = false) (stands : StandsAt column rows)
    (list : blocksAt column rows = [.definitions items]) :
    firstDefinitions (blocksOf (row :: none :: rows)) = some items := by
  have least := stands.least
  rcases row with _ | row
  · have least : leastIndent (none :: none :: rows) = some column := least
    rw [blocksOf, least]
    show firstDefinitions (blocksAt column (none :: none :: rows)) = _
    rw [blocksAt_blank, blocksAt_blank, list]
    rfl
  · have single : ∀ below, blocksAt row.indent (some row :: none :: below) =
        .paragraph [row.text] :: blocksAt row.indent below := fun below =>
      blocksAt_single (plain row rfl)
    have least : leastIndent (some row :: none :: rows) = some (min row.indent column) := by
      rw [leastIndent, leastIndent, least]
    rw [blocksOf, least]
    dsimp only
    -- below a summary that stands farther left, the list is inside a quote; a summary that stands
    -- farther right is inside one
    rcases Nat.lt_trichotomy row.indent column with before | same | beyond
    · have quote := blocksAt_quote stands before List.takeWhile_nil
      rw [List.append_nil] at quote
      rw [Nat.min_eq_left before.le, single, quote, list]
      simp [firstDefinitions, definitionsIn]
    · rw [← same, Nat.min_self, single, same, list]
      simp [firstDefinitions, definitionsIn]
    · have alone : StandsAt row.indent [some row, none] :=
        ⟨⟨row, [none], rfl, rfl⟩, by simp⟩
      have quote := blocksAt_quote alone beyond stands.takeWhile_eq_nil
      rw [single, blocksAt] at quote
      show firstDefinitions (blocksAt (min row.indent column) ([some row, none] ++ rows)) = _
      rw [Nat.min_eq_right beyond.le, quote, list]
      simp [firstDefinitions, definitionsIn]

end

theorem rowsOf_summary {summary : List Char} (clear : '\n' ∉ summary) (text : List Char) :
    rowsOf (summary ++ '\n' :: '\n' :: text) =
      Row.ofLine (expandTabs summary) :: none :: rowsOf text := by
  have blank : lines ('\n' :: text) = [] :: lines text := lines_append_cons List.not_mem_nil text
  rw [rowsOf, lines_append_cons clear, blank, List.map_cons, List.map_cons, Row.ofLine_dropReturn]
  rfl

/-- A canonical tree is read back from its outline below a summary. -/
theorem ofDocstring_summary {tree : Tree} (canonical : Canonical tree) {summary : String}
    (single : isSummary summary = true) :
    ofDocstring (summary ++ "\n\n" ++ written 4 tree) = .ok tree := by
  obtain ⟨filled, distinct, fields⟩ := canonical
  simp only [isSummary, Bool.and_eq_true, Bool.not_eq_true'] at single
  have stands := standsAt_outline 4 tree filled fields
  have rows : rowsOf (summary ++ "\n\n" ++ written 4 tree).toList =
      Row.ofLine (expandTabs summary.toList) :: none :: outline 4 tree := by
    rw [← rowsOf_written 4 fields, ← rowsOf_summary (by simpa using single.1)]
    simp
  rw [ofDocstring, rows, firstDefinitions_summary ?_ stands (blocksAt_outline 4 tree filled fields)]
  · exact documentItems_itemsOf [] tree distinct fields
  · intro row same
    simpa [same] using single.2

end ApiSchema.Documentation
