import Mathlib.Data.Set.Function
import Mathlib.Logic.Relation
import Mathlib.Order.Monotone.Basic
import ApiSchema.Proofs.DocstringOutline

/-!
# Layouts of docstrings

Blocks are told apart by comparing indentations and by blank lines between rows.  So rows with the
same texts, whose indentations compare in the same way and which have blank lines at the same
places, form the same blocks (`blocksAt_sameShape`), and a docstring documents the same fields when
its lines are indented otherwise in the same order, when its gaps grow or shrink, and when blanks
come after its lines (`ofDocstring_of_relaid`).
-/

namespace ApiSchema.Documentation

open Text

/-! ## Shapes -/

/-- The row with its indentation moved. -/
def Row.moved (f : Nat → Nat) (row : Row) : Row := ⟨f row.indent, row.text⟩

/-- Rows with the same texts, at indentations from `columns` that `f` moves, and with gaps of any
width at the same places. -/
inductive SameShape (columns : Set Nat) (f : Nat → Nat) :
    List (Option Row) → List (Option Row) → Prop where
  | blank {rows rows' : List (Option Row)} (all : ∀ row ∈ rows, row = none)
      (all' : ∀ row ∈ rows', row = none) : SameShape columns f rows rows'
  | row {row : Row} {rest rest' : List (Option Row)} (inside : row.indent ∈ columns)
      (same : SameShape columns f rest rest') :
      SameShape columns f (some row :: rest) (some (row.moved f) :: rest')
  | gap (n m : Nat) {rest rest' : List (Option Row)} (same : SameShape columns f rest rest') :
      SameShape columns f (List.replicate (n + 1) none ++ rest)
        (List.replicate (m + 1) none ++ rest')

section

variable {columns : Set Nat} {f : Nat → Nat} {rows rows' : List (Option Row)}

theorem leastIndent_replicate_append (n : Nat) (rows : List (Option Row)) :
    leastIndent (List.replicate n none ++ rows) = leastIndent rows := by
  induction n with
  | zero => rfl
  | succ n ih => rw [List.replicate_succ, List.cons_append, leastIndent, ih]

theorem leastIndent_blank (all : ∀ row ∈ rows, row = none) : leastIndent rows = none := by
  rw [List.eq_replicate_of_mem all, ← List.append_nil (List.replicate _ _),
    leastIndent_replicate_append]
  rfl

theorem startsDeeper_blank (base : Nat) (all : ∀ row ∈ rows, row = none) :
    startsDeeper base rows = false := by
  rcases rows with _ | ⟨row, rest⟩
  · rfl
  · rw [all row (List.mem_cons_self ..)]
    rfl

theorem paragraphRows_blank (base : Nat) (all : ∀ row ∈ rows, row = none) :
    paragraphRows base rows = [] := by
  rcases rows with _ | ⟨row, rest⟩
  · rfl
  · rw [all row (List.mem_cons_self ..)]
    rfl

theorem SameShape.least (mono : StrictMonoOn f columns)
    (same : SameShape columns f rows rows') :
    leastIndent rows' = (leastIndent rows).map f ∧ ∀ least ∈ leastIndent rows, least ∈ columns := by
  induction same with
  | blank all all' =>
    rw [leastIndent_blank all, leastIndent_blank all']
    exact ⟨rfl, by simp⟩
  | @row row rest rest' inside _ ih =>
    obtain ⟨moved, within⟩ := ih
    rw [leastIndent, leastIndent, moved]
    rcases least : leastIndent rest with _ | n
    · simpa [Row.moved] using inside
    · have n_mem : n ∈ columns := within n (by rw [least]; rfl)
      rcases Nat.le_total row.indent n with le | le
      · simpa [Row.moved, Nat.min_eq_left le,
          Nat.min_eq_left (mono.monotoneOn inside n_mem le)] using inside
      · simpa [Row.moved, Nat.min_eq_right le,
          Nat.min_eq_right (mono.monotoneOn n_mem inside le)] using n_mem
  | gap n m _ ih =>
    rwa [leastIndent_replicate_append, leastIndent_replicate_append]

/-- Rows of the shape of rows that start with a row start with the moved row. -/
theorem SameShape.of_row {row : Row} (same : SameShape columns f (some row :: rows) rows') :
    row.indent ∈ columns ∧ ∃ rest, rows' = some (row.moved f) :: rest ∧
      SameShape columns f rows rest := by
  generalize whole : some row :: rows = first at same
  cases same with
  | blank all _ => cases all (some row) (whole ▸ List.mem_cons_self ..)
  | row inside same =>
    cases whole
    exact ⟨inside, _, rfl, same⟩
  | gap n m _ =>
    rw [List.replicate_succ, List.cons_append] at whole
    cases whole

/-- The first blank line of a gap leaves a gap of any width, also none, in the other text. -/
theorem SameShape.of_none (same : SameShape columns f (none :: rows) rows') :
    ∃ m rest, rows' = List.replicate m none ++ rest ∧ SameShape columns f rows rest := by
  generalize whole : none :: rows = first at same
  cases same with
  | blank all all' =>
    subst whole
    refine ⟨rows'.length, [], ?_, .blank (fun row mem => all row (List.mem_cons_of_mem _ mem)) ?_⟩
    · rw [List.append_nil]
      exact List.eq_replicate_of_mem all'
    · simp
  | row _ _ => cases whole
  | gap n m same =>
    rw [List.replicate_succ, List.cons_append, List.cons.injEq] at whole
    obtain ⟨-, rfl⟩ := whole
    rcases n with _ | n
    · exact ⟨m + 1, _, rfl, same⟩
    · exact ⟨0, _, rfl, .gap n m same⟩

/-- A test on rows that takes a row and its moved row alike. -/
structure AlikeTests (columns : Set Nat) (f : Nat → Nat) (p p' : Option Row → Bool) : Prop where
  gap : p' none = p none
  row : ∀ row : Row, row.indent ∈ columns → p' (some (row.moved f)) = p (some row)

theorem AlikeTests.takeWhile {p p' : Option Row → Bool} (tests : AlikeTests columns f p p')
    (through : p none = true) (same : SameShape columns f rows rows') :
    SameShape columns f (rows.takeWhile p) (rows'.takeWhile p') := by
  induction same with
  | blank all all' =>
    exact .blank (fun row mem => all row ((List.takeWhile_sublist p).subset mem))
      fun row mem => all' row ((List.takeWhile_sublist p').subset mem)
  | @row row rest rest' inside _ ih =>
    rw [List.takeWhile_cons, List.takeWhile_cons, tests.row row inside]
    split_ifs
    · exact .row inside ih
    · exact .blank (by simp) (by simp)
  | gap n m _ ih =>
    rw [List.takeWhile_append_of_pos, List.takeWhile_append_of_pos]
    · exact .gap n m ih
    · intro row mem
      rw [List.eq_of_mem_replicate mem, tests.gap, through]
    · intro row mem
      rw [List.eq_of_mem_replicate mem, through]

theorem AlikeTests.dropWhile {p p' : Option Row → Bool} (tests : AlikeTests columns f p p')
    (same : SameShape columns f rows rows') :
    SameShape columns f (rows.dropWhile p) (rows'.dropWhile p') := by
  induction same with
  | blank all all' =>
    exact .blank (fun row mem => all row ((List.dropWhile_sublist p).subset mem))
      fun row mem => all' row ((List.dropWhile_sublist p').subset mem)
  | @row row rest rest' inside same ih =>
    rw [List.dropWhile_cons, List.dropWhile_cons, tests.row row inside]
    split_ifs
    · exact ih
    · exact .row inside same
  | gap n m same ih =>
    by_cases through : p none = true
    · rw [List.dropWhile_append_of_pos, List.dropWhile_append_of_pos]
      · exact ih
      · intro row mem
        rw [List.eq_of_mem_replicate mem, tests.gap, through]
      · intro row mem
        rw [List.eq_of_mem_replicate mem, through]
    · rw [List.replicate_succ, List.replicate_succ, List.cons_append, List.cons_append,
        List.dropWhile_cons_of_neg through, List.dropWhile_cons_of_neg (by rwa [tests.gap])]
      exact .gap n m same

variable {base : Nat}

theorem lt_moved_iff (mono : StrictMonoOn f columns) (level : base ∈ columns) {row : Row}
    (inside : row.indent ∈ columns) : f base < (row.moved f).indent ↔ base < row.indent :=
  mono.lt_iff_lt level inside

theorem alikeTests_inRegion (mono : StrictMonoOn f columns) (level : base ∈ columns) :
    AlikeTests columns f (inRegion base) (inRegion (f base)) :=
  ⟨rfl, fun _ inside => decide_eq_decide.2 (lt_moved_iff mono level inside)⟩

theorem alikeTests_continuesBullets (mono : StrictMonoOn f columns) (level : base ∈ columns) :
    AlikeTests columns f (continuesBullets base) (continuesBullets (f base)) := by
  refine ⟨rfl, fun row inside => ?_⟩
  have equal : (f row.indent == f base) = (row.indent == base) := by
    rw [Bool.eq_iff_iff, beq_iff_eq, beq_iff_eq, mono.injOn.eq_iff inside level]
  simp only [continuesBullets, Row.moved, bne, equal]

theorem SameShape.starts (mono : StrictMonoOn f columns) (level : base ∈ columns)
    (same : SameShape columns f rows rows') :
    startsDeeper (f base) rows' = startsDeeper base rows := by
  cases same with
  | blank all all' => rw [startsDeeper_blank base all, startsDeeper_blank (f base) all']
  | row inside _ => exact decide_eq_decide.2 (lt_moved_iff mono level inside)
  | gap n m _ => rfl

/-- The rest of a paragraph is moved with the rows, and so is what follows it. -/
theorem SameShape.paragraph (mono : StrictMonoOn f columns) (level : base ∈ columns)
    (same : SameShape columns f rows rows') :
    paragraphRows (f base) rows' = (paragraphRows base rows).map (Row.moved f) ∧
      SameShape columns f (rows.drop (paragraphRows base rows).length)
        (rows'.drop (paragraphRows base rows).length) := by
  induction same with
  | blank all all' =>
    rw [paragraphRows_blank base all, paragraphRows_blank (f base) all']
    exact ⟨rfl, .blank all all'⟩
  | @row row rest rest' inside same ih =>
    have equal : f row.indent = f base ↔ row.indent = base := mono.injOn.eq_iff inside level
    rw [paragraphRows, paragraphRows, same.starts mono level]
    simp only [Row.moved, equal]
    split_ifs
    · exact ⟨congrArg (row.moved f :: ·) ih.1, ih.2⟩
    · exact ⟨rfl, .row inside same⟩
  | gap n m same => exact ⟨rfl, .gap n m same⟩

end

/-! ## Blocks -/

/-- The blocks that start with a row: a quote, bullets, an item, or a paragraph. -/
theorem blocksAt_cons (base : Nat) (row : Row) (rest : List (Option Row)) :
    blocksAt base (some row :: rest) =
      if base < row.indent then
        .quote (blocksOf (some row :: rest.takeWhile (inRegion base))) ::
          blocksAt base (rest.dropWhile (inRegion base))
      else if isBullet row.text then
        .bullets :: blocksAt base (rest.dropWhile (continuesBullets base))
      else if startsDeeper base rest then
        consItem row.text (blocksOf (rest.takeWhile (inRegion base)))
          (blocksAt base (rest.dropWhile (inRegion base)))
      else
        .paragraph (row.text :: (paragraphRows base rest).map Row.text) ::
          blocksAt base (rest.drop (paragraphRows base rest).length) := by
  rw [blocksAt]
  split_ifs
  · unfold blocksOf
    split <;> rename_i least <;> rw [least]
  · rfl
  · rfl
  · rfl

theorem blocksAt_replicate_append (base n : Nat) (rows : List (Option Row)) :
    blocksAt base (List.replicate n none ++ rows) = blocksAt base rows := by
  induction n with
  | zero => rfl
  | succ n ih => rw [List.replicate_succ, List.cons_append, blocksAt, ih]

theorem blocksAt_of_blank (base : Nat) {rows : List (Option Row)}
    (all : ∀ row ∈ rows, row = none) : blocksAt base rows = [] := by
  rw [List.eq_replicate_of_mem all, ← List.append_nil (List.replicate _ _),
    blocksAt_replicate_append, blocksAt]

section

variable {columns : Set Nat} {f : Nat → Nat} {rows rows' : List (Option Row)}

theorem SameShape.blocksOf_eq (mono : StrictMonoOn f columns)
    (same : SameShape columns f rows rows')
    (each : ∀ least, leastIndent rows = some least → least ∈ columns →
      blocksAt (f least) rows' = blocksAt least rows) : blocksOf rows' = blocksOf rows := by
  obtain ⟨moved, within⟩ := same.least mono
  rw [blocksOf, blocksOf, moved]
  rcases least : leastIndent rows with _ | n
  · rfl
  · exact each n least (within n least)

/-- Rows of the same shape form the same blocks. -/
theorem blocksAt_sameShape (mono : StrictMonoOn f columns) {base : Nat} (level : base ∈ columns)
    (same : SameShape columns f rows rows') : blocksAt (f base) rows' = blocksAt base rows := by
  -- on the recursion of the reader: the parts that it cuts off have the same shape again
  induction base, rows using blocksAt.induct generalizing rows' with
  | case1 base =>
    cases same with
    | blank _ all' => rw [blocksAt_of_blank _ all', blocksAt]
  | case2 base rest ih =>
    obtain ⟨m, rest', rfl, below⟩ := same.of_none
    rw [blocksAt, blocksAt_replicate_append, ih level below]
  | case3 base row rest region after deeper inner_ih =>
    rename_i after_ih
    obtain ⟨inside, rest', rfl, below⟩ := same.of_row
    have regions : SameShape columns f (some row :: region) _ :=
      .row inside ((alikeTests_inRegion mono level).takeWhile rfl below)
    have inner := regions.blocksOf_eq mono fun least found within =>
      inner_ih least found within regions
    have beyond := after_ih level ((alikeTests_inRegion mono level).dropWhile below)
    have deeper' := (lt_moved_iff mono level inside).2 deeper
    rw [blocksAt_cons, blocksAt_cons, if_pos deeper, if_pos deeper', inner, beyond]
  | case4 base row rest shallow bullet after_ih =>
    obtain ⟨inside, rest', rfl, below⟩ := same.of_row
    have beyond := after_ih level ((alikeTests_continuesBullets mono level).dropWhile below)
    have shallow' := (lt_moved_iff mono level inside).not.2 shallow
    rw [blocksAt_cons, blocksAt_cons, if_neg shallow, if_neg shallow', if_pos bullet,
      Row.moved, if_pos bullet, beyond]
  | case5 base row rest region after shallow unmarked starts body_ih =>
    rename_i after_ih
    obtain ⟨inside, rest', rfl, below⟩ := same.of_row
    have regions := (alikeTests_inRegion mono level).takeWhile rfl below
    have body := regions.blocksOf_eq mono fun least _ within => body_ih least within regions
    have beyond := after_ih level ((alikeTests_inRegion mono level).dropWhile below)
    have shallow' := (lt_moved_iff mono level inside).not.2 shallow
    rw [blocksAt_cons, blocksAt_cons, if_neg shallow, if_neg shallow', if_neg unmarked,
      below.starts mono level, if_pos starts, if_pos starts, Row.moved, if_neg unmarked, body,
      beyond]
  | case6 base row rest shallow unmarked flat more =>
    rename_i after_ih
    obtain ⟨inside, rest', rfl, below⟩ := same.of_row
    obtain ⟨moved, later⟩ := below.paragraph mono level
    have beyond := after_ih level later
    have texts : (paragraphRows (f base) rest').map Row.text = more.map Row.text := by
      rw [moved, List.map_map]
      rfl
    have lengths : (paragraphRows (f base) rest').length = more.length := by
      rw [moved, List.length_map]
    have shallow' := (lt_moved_iff mono level inside).not.2 shallow
    rw [blocksAt_cons, blocksAt_cons, if_neg shallow, if_neg shallow', if_neg unmarked,
      below.starts mono level, if_neg flat, if_neg flat, Row.moved, if_neg unmarked, texts, lengths,
      beyond]

theorem SameShape.blocks (mono : StrictMonoOn f columns) (same : SameShape columns f rows rows') :
    blocksOf rows' = blocksOf rows :=
  same.blocksOf_eq mono fun _ _ level => blocksAt_sameShape mono level same

end

theorem blocksOf_replicate_append (n : Nat) (rows : List (Option Row)) :
    blocksOf (List.replicate n none ++ rows) = blocksOf rows := by
  rw [blocksOf, blocksOf, leastIndent_replicate_append]
  rcases leastIndent rows with _ | least
  · rfl
  · exact blocksAt_replicate_append least n rows

theorem sameShape_moved {columns : Set Nat} (f : Nat → Nat) : ∀ {rows : List (Option Row)},
    (∀ row, some row ∈ rows → row.indent ∈ columns) →
    SameShape columns f rows (rows.map (Option.map (Row.moved f)))
  | [], _ => .blank (by simp) (by simp)
  | none :: rest, inside =>
    .gap 0 0 (sameShape_moved f fun row mem => inside row (List.mem_cons_of_mem _ mem))
  | some row :: rest, inside =>
    .row (inside row (List.mem_cons_self ..))
      (sameShape_moved f fun row mem => inside row (List.mem_cons_of_mem _ mem))

theorem strictMonoOn_id : StrictMonoOn id (Set.univ : Set Nat) :=
  strictMono_id.strictMonoOn Set.univ

theorem SameShape.append_left {rows rows' : List (Option Row)}
    (same : SameShape Set.univ id rows rows') : ∀ before : List (Option Row),
    SameShape Set.univ id (before ++ rows) (before ++ rows')
  | [] => same
  | none :: rest => .gap 0 0 (same.append_left rest)
  | some first :: rest => .row (Set.mem_univ first.indent) (same.append_left rest)

theorem SameShape.refl (rows : List (Option Row)) : SameShape Set.univ id rows rows := by
  have blank : SameShape Set.univ id [] [] := .blank (by simp) (by simp)
  simpa using blank.append_left rows

/-! ## Lines of docstrings -/

/-- The lines of a docstring, with an empty one after a last newline. -/
def textLines (docstring : String) : List (List Char) := pieces '\n' docstring.toList

/-- The docstring with the lines. -/
def ofTextLines (lines : List (List Char)) : String := String.ofList (joinPieces ['\n'] lines)

/-- Is there nothing but white space in the line? -/
def isBlankLine (line : List Char) : Bool := line.all fun c => isBlank c && c != '\n'

/-- The indentation of a line: the bytes of its leading white space, with spaces for tabs. -/
def indentOf (line : List Char) : Nat := leadingBytes (expandTabs line)

/-- The indentations of the lines that are not blank. -/
def indentsOf (lines : List (List Char)) : Set Nat :=
  {n | ∃ line ∈ lines, isBlankLine line = false ∧ indentOf line = n}

/-- The line with its leading white space replaced by as many spaces as `f` says. -/
def reindented (f : Nat → Nat) (line : List Char) : List Char :=
  if isBlankLine line then line
  else List.replicate (f (indentOf line)) ' ' ++ trimStart line

/-- Changes of a docstring's lines that leave its layout as it is. -/
inductive Relaid : List (List Char) → List (List Char) → Prop where
  /-- All lines are indented otherwise, in the same order. -/
  | indents {lines : List (List Char)} (f : Nat → Nat) (mono : StrictMonoOn f (indentsOf lines)) :
      Relaid lines (lines.map (reindented f))
  /-- A gap grows or shrinks. -/
  | gap (before after : List (List Char)) {blank blank' : List (List Char)} (filled : blank ≠ [])
      (filled' : blank' ≠ []) (all : ∀ line ∈ blank, isBlankLine line = true)
      (all' : ∀ line ∈ blank', isBlankLine line = true) :
      Relaid (before ++ (blank ++ after)) (before ++ (blank' ++ after))
  /-- Blank lines come or go at the start. -/
  | front (after : List (List Char)) {blank blank' : List (List Char)}
      (all : ∀ line ∈ blank, isBlankLine line = true)
      (all' : ∀ line ∈ blank', isBlankLine line = true) :
      Relaid (blank ++ after) (blank' ++ after)
  /-- Blank lines come or go at the end. -/
  | back (before : List (List Char)) {blank blank' : List (List Char)}
      (all : ∀ line ∈ blank, isBlankLine line = true)
      (all' : ∀ line ∈ blank', isBlankLine line = true) :
      Relaid (before ++ blank) (before ++ blank')
  /-- Blanks come after a line. -/
  | trailing (before after : List (List Char)) (line : List Char) {tail : List Char}
      (blank : isBlankLine tail = true) :
      Relaid (before ++ line :: after) (before ++ (line ++ tail) :: after)

/-! ## Rows of lines -/

/-- The row of a line with tabs. -/
def lineRow (line : List Char) : Option Row := Row.ofLine (expandTabs line)

theorem expandTabs_append (line more : List Char) :
    expandTabs (line ++ more) = expandTabs line ++ expandTabs more :=
  List.flatMap_append

theorem isBlank_of_isBlankLine {line : List Char} (blank : isBlankLine line = true) :
    ∀ c ∈ line, isBlank c = true ∧ c ≠ '\n' := by
  simpa [isBlankLine] using blank

theorem isBlank_expandTabs {line : List Char} (blank : isBlankLine line = true) :
    ∀ c ∈ expandTabs line, isBlank c = true := by
  intro c mem
  rcases (mem_expandTabs mem).2 with rfl | inside
  · rfl
  · exact (isBlank_of_isBlankLine blank c inside).1

theorem Row.ofLine_append {tail : List Char} (blank : ∀ c ∈ tail, isBlank c = true)
    (line : List Char) : Row.ofLine (line ++ tail) = Row.ofLine line := by
  induction tail generalizing line with
  | nil => rw [List.append_nil]
  | cons c rest ih =>
    obtain ⟨here, later⟩ := List.forall_mem_cons.1 blank
    rw [List.append_cons, ih later, Row.ofLine_concat here]

theorem lineRow_append {tail : List Char} (blank : isBlankLine tail = true) (line : List Char) :
    lineRow (line ++ tail) = lineRow line := by
  rw [lineRow, expandTabs_append, Row.ofLine_append (isBlank_expandTabs blank), lineRow]

theorem lineRow_of_blank {line : List Char} (blank : isBlankLine line = true) :
    lineRow line = none :=
  lineRow_append blank []

theorem indent_of_lineRow {line : List Char} {row : Row} (found : lineRow line = some row) :
    row.indent = indentOf line := by
  rw [lineRow, Row.ofLine] at found
  split_ifs at found
  cases found
  rfl

theorem trimStart_expandTabs (line : List Char) :
    trimStart (expandTabs line) = expandTabs (trimStart line) := by
  induction line with
  | nil => rfl
  | cons c rest ih =>
    have cons : expandTabs (c :: rest) = expandTabs [c] ++ expandTabs rest :=
      expandTabs_append [c] rest
    by_cases blank : isBlank c = true
    · have spaces : ∀ d ∈ expandTabs [c], isBlank d = true := by
        intro d mem
        rcases (mem_expandTabs mem).2 with rfl | inside
        · rfl
        · rwa [List.mem_singleton.1 inside]
      rw [cons, trimStart, trimStart, List.dropWhile_append_of_pos spaces,
        List.dropWhile_cons_of_pos blank]
      exact ih
    · have tab : '\t' ∉ [c] := by
        intro mem
        rw [← List.mem_singleton.1 mem] at blank
        exact blank rfl
      rw [expandTabs_eq_self tab, List.singleton_append] at cons
      rw [cons, trimStart, trimStart, List.dropWhile_cons_of_neg blank,
        List.dropWhile_cons_of_neg blank, cons]

theorem lineRow_reindented (f : Nat → Nat) (line : List Char) :
    lineRow (reindented f line) = (lineRow line).map (Row.moved f) := by
  rw [reindented]
  split_ifs with blank
  · rw [lineRow_of_blank blank]
    rfl
  · have clear : '\t' ∉ List.replicate (f (indentOf line)) ' ' := by simp
    rw [lineRow, expandTabs_append, expandTabs_eq_self clear, ← trimStart_expandTabs,
      Row.ofLine_replicate_append, ← lineRow]
    rcases found : lineRow line with _ | row
    · rfl
    · rw [Option.map_some, Option.map_some, Row.moved, indent_of_lineRow found]

/-! ## Rows of texts -/

/-- The lines of a text have the rows of its pieces, but for a blank one at the end. -/
theorem sameShape_linesOfPieces : ∀ parts : List (List Char),
    SameShape Set.univ id (parts.map lineRow) ((linesOfPieces parts).map lineRow)
  | [] => .refl []
  | [last] => by
    rw [linesOfPieces]
    split_ifs with empty
    · rw [List.isEmpty_iff.1 empty]
      exact .blank (by simpa using lineRow_of_blank rfl) (by simp)
    · exact .refl _
  | line :: next :: rest => by
    have same := (sameShape_linesOfPieces (next :: rest)).append_left [lineRow line]
    have first : lineRow (dropReturn line) = lineRow line := Row.ofLine_dropReturn line
    rw [linesOfPieces]
    · simpa only [List.map_cons, first, List.singleton_append] using same
    · simp

theorem ofTextLines_textLines (docstring : String) :
    ofTextLines (textLines docstring) = docstring := by
  rw [ofTextLines, textLines, joinPieces_pieces, String.ofList_toList]

theorem blocksOf_ofTextLines {lines : List (List Char)} (clear : ∀ line ∈ lines, '\n' ∉ line) :
    blocksOf (rowsOf (ofTextLines lines).toList) = blocksOf (lines.map lineRow) := by
  rw [ofTextLines, String.toList_ofList, rowsOf, Text.lines]
  by_cases empty : lines = []
  · rw [empty]
    rfl
  · rw [pieces_joinPieces empty clear]
    exact (sameShape_linesOfPieces lines).blocks strictMonoOn_id

/-! ## Changes of the layout -/

theorem map_lineRow_blank {blank : List (List Char)}
    (all : ∀ line ∈ blank, isBlankLine line = true) :
    blank.map lineRow = List.replicate blank.length none := by
  refine List.eq_replicate_iff.2 ⟨List.length_map .., List.forall_mem_map.2 fun line mem => ?_⟩
  exact lineRow_of_blank (all line mem)

theorem Relaid.blocks {lines lines' : List (List Char)} (relaid : Relaid lines lines') :
    blocksOf (lines'.map lineRow) = blocksOf (lines.map lineRow) := by
  cases relaid with
  | indents f mono =>
    have moved : (lines.map (reindented f)).map lineRow =
        (lines.map lineRow).map (Option.map (Row.moved f)) := by
      rw [List.map_map, List.map_map]
      exact List.map_congr_left fun line _ => lineRow_reindented f line
    have inside : ∀ row, some row ∈ lines.map lineRow → row.indent ∈ indentsOf lines := by
      intro row mem
      obtain ⟨line, mem, found⟩ := List.mem_map.1 mem
      refine ⟨line, mem, ?_, (indent_of_lineRow found).symm⟩
      by_contra blank
      rw [lineRow_of_blank (by simpa using blank)] at found
      cases found
    rw [moved]
    exact (sameShape_moved f inside).blocks mono
  | gap before after filled filled' all all' =>
    obtain ⟨first, more, rfl⟩ := List.exists_cons_of_ne_nil filled
    obtain ⟨first', more', rfl⟩ := List.exists_cons_of_ne_nil filled'
    rw [List.map_append, List.map_append, List.map_append, List.map_append, map_lineRow_blank all,
      map_lineRow_blank all']
    exact ((SameShape.gap more.length more'.length (.refl _)).append_left _).blocks strictMonoOn_id
  | front after all all' =>
    rw [List.map_append, List.map_append, map_lineRow_blank all, map_lineRow_blank all',
      blocksOf_replicate_append, blocksOf_replicate_append]
  | back before all all' =>
    rw [List.map_append, List.map_append, map_lineRow_blank all, map_lineRow_blank all']
    refine SameShape.blocks strictMonoOn_id (SameShape.append_left (.blank ?_ ?_) _)
    · exact fun row => List.eq_of_mem_replicate
    · exact fun row => List.eq_of_mem_replicate
  | trailing before after line blank =>
    rw [List.map_append, List.map_append, List.map_cons, List.map_cons, lineRow_append blank]

theorem Relaid.clear {lines lines' : List (List Char)} (relaid : Relaid lines lines')
    (clear : ∀ line ∈ lines, '\n' ∉ line) : ∀ line ∈ lines', '\n' ∉ line := by
  have blank_clear : ∀ {line : List Char}, isBlankLine line = true → '\n' ∉ line :=
    fun blank mem => (isBlank_of_isBlankLine blank _ mem).2 rfl
  cases relaid with
  | indents f mono =>
    refine List.forall_mem_map.2 fun line mem newline => clear line mem ?_
    rw [reindented] at newline
    split_ifs at newline
    · exact newline
    · rcases List.mem_append.1 newline with newline | newline
      · cases List.eq_of_mem_replicate newline
      · exact (List.dropWhile_sublist _).subset newline
  | gap before after filled filled' all all' =>
    simp only [List.forall_mem_append] at clear ⊢
    exact ⟨clear.1, fun line mem => blank_clear (all' line mem), clear.2.2⟩
  | front after all all' =>
    simp only [List.forall_mem_append] at clear ⊢
    exact ⟨fun line mem => blank_clear (all' line mem), clear.2⟩
  | back before all all' =>
    simp only [List.forall_mem_append] at clear ⊢
    exact ⟨clear.1, fun line mem => blank_clear (all' line mem)⟩
  | trailing before after line blank =>
    simp only [List.forall_mem_append, List.forall_mem_cons] at clear ⊢
    refine ⟨clear.1, fun mem => ?_, clear.2.2⟩
    exact (List.mem_append.1 mem).elim clear.2.1 (blank_clear blank)

/-- Changes of the layout leave what a docstring documents, and what is wrong with it. -/
theorem ofDocstring_of_relaid {docstring : String} {lines : List (List Char)}
    (relaid : Relation.ReflTransGen Relaid (textLines docstring) lines) :
    ofDocstring (ofTextLines lines) = ofDocstring docstring := by
  have same : blocksOf (lines.map lineRow) = blocksOf ((textLines docstring).map lineRow) ∧
      ∀ line ∈ lines, '\n' ∉ line := by
    induction relaid with
    | refl => exact ⟨rfl, fun line => not_mem_of_mem_pieces⟩
    | tail _ step ih => exact ⟨step.blocks.trans ih.1, step.clear ih.2⟩
  have blocks : blocksOf (rowsOf docstring.toList) =
      blocksOf ((textLines docstring).map lineRow) := by
    conv_lhs => rw [← ofTextLines_textLines docstring]
    exact blocksOf_ofTextLines fun line => not_mem_of_mem_pieces
  rw [ofDocstring, ofDocstring, blocksOf_ofTextLines same.2, same.1, blocks]

/-- The outline of a field with a text and a field of its own. -/
def wideOutline : String := written 0 [("a", .nested (some "own") [("b", .text "Text")])]

/-- The outline with single spaces, more blank lines, and blanks after its first line. -/
def narrowOutline : String := "\n [a]:  \n  own\n\t\n\n  [b]:\n   Text\n"

theorem relaid_narrowOutline :
    Relation.ReflTransGen Relaid (textLines wideOutline) (textLines narrowOutline) := by
  have wide : textLines wideOutline =
      ["[a]:", "    own", "", "    [b]:", "        Text"].map String.toList := by
    decide
  have columns : ∀ n ∈ indentsOf (textLines wideOutline), n % 4 = 0 := by
    rintro _ ⟨line, mem, -, rfl⟩
    rw [wide] at mem
    revert line
    decide
  have mono : StrictMonoOn (fun n => n / 4 + 1) (indentsOf (textLines wideOutline)) := by
    intro n n_mem m m_mem less
    have n_column := columns n n_mem
    have m_column := columns m m_mem
    dsimp only
    omega
  have indented : (textLines wideOutline).map (reindented fun n => n / 4 + 1) =
      [" [a]:", "  own", "", "  [b]:", "   Text"].map String.toList := by
    decide
  have none_blank : ∀ line ∈ [], isBlankLine line = true := by simp
  have padded := Relaid.trailing [] (["  own", "", "  [b]:", "   Text"].map String.toList)
    " [a]:".toList (rfl : isBlankLine [' ', ' '] = true)
  have wider := Relaid.gap ([" [a]:  ", "  own"].map String.toList)
    (["  [b]:", "   Text"].map String.toList) (List.cons_ne_nil [] [])
    (List.cons_ne_nil ['\t'] [[]]) (by decide) (by decide)
  have opened := Relaid.front
    ([" [a]:  ", "  own", "\t", "", "  [b]:", "   Text"].map String.toList) none_blank
    (by decide : ∀ line ∈ [[]], isBlankLine line = true)
  have ended := Relaid.back
    (["", " [a]:  ", "  own", "\t", "", "  [b]:", "   Text"].map String.toList) none_blank
    (by decide : ∀ line ∈ [[]], isBlankLine line = true)
  have narrow : textLines narrowOutline =
      ["", " [a]:  ", "  own", "\t", "", "  [b]:", "   Text", ""].map String.toList := by
    decide
  rw [narrow]
  have first := Relaid.indents _ mono
  rw [indented] at first
  exact ((((Relation.ReflTransGen.single first).tail padded).tail wider).tail opened).tail ended

theorem narrowOutline_documents :
    Relation.ReflTransGen Relaid (textLines wideOutline) (textLines narrowOutline) ∧
      ofDocstring narrowOutline = ofDocstring wideOutline ∧
      ofDocstring wideOutline = .ok [("a", .nested (some "own") [("b", .text "Text")])] := by
  have same := ofDocstring_of_relaid relaid_narrowOutline
  rw [ofTextLines_textLines] at same
  have canonical : Canonical [("a", .nested (some "own") [("b", .text "Text")])] := by
    refine ⟨by decide, by decide, ?_⟩
    simp only [FieldsCanonical, Entry.Canonical, Option.some.injEq, forall_eq', and_true]
    decide
  exact ⟨relaid_narrowOutline, same, ofDocstring_written canonical⟩

end ApiSchema.Documentation
