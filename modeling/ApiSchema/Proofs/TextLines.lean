import Mathlib.Data.List.DropRight
import ApiSchema.Documentation.Outline

/-!
# Lines of texts

Pieces between separators and their joins undo each other, and so do the lines of a text and the
rows that they are: rows with plain lines are read back from what is written for them
(`Writable.rowsOf_eq`), and every row that is read has a plain line as its text
(`isPlainLine_of_mem_rowsOf`).
-/

namespace ApiSchema

namespace Text

/-! ## Pieces -/

theorem pieces_ne_nil (separator : Char) (text : List Char) : pieces separator text ≠ [] := by
  rcases text with _ | ⟨c, rest⟩
  · simp [pieces]
  · rw [pieces]
    split_ifs
    · simp
    · split <;> simp

theorem pieces_of_not_mem {separator : Char} {text : List Char} (clear : separator ∉ text) :
    pieces separator text = [text] := by
  induction text with
  | nil => rfl
  | cons c rest ih =>
    rw [List.mem_cons, not_or] at clear
    rw [pieces, if_neg (Ne.symm clear.1), ih clear.2]

theorem pieces_append_cons (separator : Char) (before after : List Char) :
    pieces separator (before ++ separator :: after) =
      pieces separator before ++ pieces separator after := by
  induction before with
  | nil => simp [pieces]
  | cons c rest ih =>
    rw [List.cons_append, pieces, pieces, ih]
    split_ifs
    · rfl
    · rcases first : pieces separator rest with _ | ⟨piece, others⟩
      · exact absurd first (pieces_ne_nil separator rest)
      · rfl

theorem not_mem_of_mem_pieces {separator : Char} {piece : List Char} :
    ∀ {text : List Char}, piece ∈ pieces separator text → separator ∉ piece
  | [], mem => by
    rw [pieces, List.mem_singleton] at mem
    simp [mem]
  | c :: rest, mem => by
    have later : ∀ other ∈ pieces separator rest, separator ∉ other :=
      fun other mem => not_mem_of_mem_pieces mem
    rw [pieces] at mem
    split_ifs at mem with cut
    · rcases List.mem_cons.1 mem with rfl | mem
      · exact List.not_mem_nil
      · exact later piece mem
    · rcases first : pieces separator rest with _ | ⟨head, others⟩
      · exact absurd first (pieces_ne_nil separator rest)
      · rw [first] at mem later
        obtain ⟨head_clear, others_clear⟩ := List.forall_mem_cons.1 later
        rcases List.mem_cons.1 mem with rfl | mem
        · exact fun mem => (List.mem_cons.1 mem).elim (Ne.symm cut) head_clear
        · exact others_clear piece mem

theorem joinPieces_cons (separator : Char) (part : List Char) {rest : List (List Char)}
    (more : rest ≠ []) :
    joinPieces [separator] (part :: rest) = part ++ separator :: joinPieces [separator] rest := by
  rcases rest with _ | ⟨next, others⟩
  · exact absurd rfl more
  · simp [joinPieces, List.intersperse]

theorem joinPieces_singleton (separator part : List Char) : joinPieces separator [part] = part := by
  simp [joinPieces]

theorem pieces_joinPieces {separator : Char} {parts : List (List Char)} (filled : parts ≠ [])
    (clear : ∀ part ∈ parts, separator ∉ part) :
    pieces separator (joinPieces [separator] parts) = parts := by
  induction parts with
  | nil => exact absurd rfl filled
  | cons part rest ih =>
    obtain ⟨here, later⟩ := List.forall_mem_cons.1 clear
    by_cases more : rest = []
    · rw [more, joinPieces_singleton, pieces_of_not_mem here]
    · rw [joinPieces_cons separator part more, pieces_append_cons, pieces_of_not_mem here,
        ih more later]
      rfl

theorem joinPieces_pieces (separator : Char) :
    ∀ text : List Char, joinPieces [separator] (pieces separator text) = text
  | [] => joinPieces_singleton _ []
  | c :: rest => by
    have ih := joinPieces_pieces separator rest
    rw [pieces]
    split_ifs with cut
    · rw [joinPieces_cons separator [] (pieces_ne_nil separator rest), ih, cut]
      rfl
    · rcases first : pieces separator rest with _ | ⟨piece, others⟩
      · exact absurd first (pieces_ne_nil separator rest)
      · rw [first] at ih
        by_cases more : others = []
        · rw [more, joinPieces_singleton] at ih ⊢
          rw [ih]
        · rw [joinPieces_cons separator _ more] at ih ⊢
          rw [List.cons_append, ih]

/-! ## Lines -/

theorem dropReturn_cases (line : List Char) :
    dropReturn line = line ∨ line = dropReturn line ++ ['\r'] := by
  unfold dropReturn
  split
  · rename_i kept reversed
    exact .inr (List.reverse_injective (by simp [reversed]))
  · exact .inl rfl

theorem dropReturn_eq_self {line : List Char} (whole : line.getLast? ≠ some '\r') :
    dropReturn line = line := by
  rcases dropReturn_cases line with kept | dropped
  · exact kept
  · rw [dropped, List.getLast?_concat] at whole
    exact absurd rfl whole

/-- Pieces that do not end in carriage returns are lines, if the last one is not empty. -/
theorem linesOfPieces_eq : ∀ {parts : List (List Char)},
    (∀ part ∈ parts, part.getLast? ≠ some '\r') → parts.getLast? ≠ some [] →
    linesOfPieces parts = parts
  | [], _, _ => rfl
  | [last], _, ends => by
    have filled : last ≠ [] := fun empty => ends (by rw [empty]; rfl)
    rw [linesOfPieces, if_neg (by simpa using filled)]
  | part :: next :: rest, whole, ends => by
    obtain ⟨here, later⟩ := List.forall_mem_cons.1 whole
    rw [List.getLast?_cons_cons] at ends
    rw [linesOfPieces, linesOfPieces_eq later ends, dropReturn_eq_self here]
    simp

theorem lines_append_cons {line : List Char} (clear : '\n' ∉ line) (rest : List Char) :
    lines (line ++ '\n' :: rest) = dropReturn line :: lines rest := by
  rw [lines, pieces_append_cons, pieces_of_not_mem clear, List.singleton_append, linesOfPieces]
  · rfl
  · exact fun empty => pieces_ne_nil _ _ empty

theorem subset_of_mem_linesOfPieces : ∀ {parts : List (List Char)} {line : List Char},
    line ∈ linesOfPieces parts → ∃ part ∈ parts, line ⊆ part
  | [], line, mem => by cases mem
  | [last], line, mem => by
    rw [linesOfPieces] at mem
    split_ifs at mem
    · cases mem
    · rw [List.mem_singleton.1 mem]
      exact ⟨last, List.mem_singleton_self last, List.Subset.refl _⟩
  | part :: next :: rest, line, mem => by
    rw [linesOfPieces] at mem
    · rcases List.mem_cons.1 mem with rfl | mem
      · refine ⟨part, List.mem_cons_self .., fun c inside => ?_⟩
        rcases dropReturn_cases part with kept | dropped
        · rwa [kept] at inside
        · rw [dropped]
          exact List.mem_append_left _ inside
      · obtain ⟨other, inside, subset⟩ := subset_of_mem_linesOfPieces mem
        exact ⟨other, List.mem_cons_of_mem _ inside, subset⟩
    · simp

theorem not_mem_of_mem_lines {line text : List Char} (mem : line ∈ lines text) : '\n' ∉ line := by
  obtain ⟨piece, inside, subset⟩ := subset_of_mem_linesOfPieces mem
  exact fun newline => not_mem_of_mem_pieces inside (subset newline)

/-! ## Trimmed text -/

theorem dropEndWhile_eq_rdropWhile (drop : Char → Bool) (text : List Char) :
    dropEndWhile drop text = text.rdropWhile drop := by
  induction text with
  | nil => rfl
  | cons c rest ih =>
    rw [dropEndWhile, ih]
    unfold List.rdropWhile
    rw [List.reverse_cons, List.dropWhile_append]
    rcases kept : List.dropWhile drop rest.reverse with _ | ⟨last, more⟩
    · by_cases dropped : drop c <;> simp [dropped]
    · simp

theorem not_of_getLast?_rdropWhile {drop : Char → Bool} {text : List Char} {c : Char}
    (last : (text.rdropWhile drop).getLast? = some c) : drop c = false := by
  have filled : text.rdropWhile drop ≠ [] := by
    intro empty
    rw [empty] at last
    cases last
  have kept := List.rdropWhile_last_not drop text filled
  rw [List.getLast?_eq_some_getLast filled] at last
  cases last
  simpa using kept

/-- A text with neither a tab nor a newline, that is not empty and has no white space around it. -/
def isPlainLine (line : List Char) : Bool :=
  !line.contains '\t' && !line.contains '\n' && line.head?.any (!isBlank ·) &&
    line.getLast?.any (!isBlank ·)

theorem isPlainLine_iff {line : List Char} :
    isPlainLine line = true ↔ '\t' ∉ line ∧ '\n' ∉ line ∧ line ≠ [] ∧
      trimStart line = line ∧ trimEnd line = line := by
  rw [trimStart, trimEnd, dropEndWhile_eq_rdropWhile, List.rdropWhile_eq_self_iff,
    List.dropWhile_eq_self_iff]
  rcases line with _ | ⟨c, rest⟩
  · simp [isPlainLine]
  · rw [isPlainLine, List.getLast?_eq_some_getLast (List.cons_ne_nil c rest)]
    simp [and_assoc]

end Text

/-! ## Rows -/

namespace Documentation

open Text

theorem expandTabs_eq_self {line : List Char} (clear : '\t' ∉ line) : expandTabs line = line := by
  induction line with
  | nil => rfl
  | cons c rest ih =>
    rw [List.mem_cons, not_or] at clear
    rw [expandTabs, List.flatMap_cons, if_neg (Ne.symm clear.1)]
    exact congrArg (c :: ·) (ih clear.2)

theorem mem_expandTabs {c : Char} {line : List Char} (mem : c ∈ expandTabs line) :
    c ≠ '\t' ∧ (c = ' ' ∨ c ∈ line) := by
  obtain ⟨d, inside, mem⟩ := List.mem_flatMap.1 mem
  split_ifs at mem with tab
  · rw [(List.mem_replicate.1 mem).2]
    exact ⟨by decide, .inl rfl⟩
  · rw [List.mem_singleton.1 mem]
    exact ⟨tab, .inr inside⟩

def Row.line : Option Row → List Char
  | none => []
  | some row => List.replicate row.indent ' ' ++ row.text

theorem byteLength_replicate (n : Nat) : byteLength (List.replicate n ' ') = n := by
  unfold byteLength
  have sum : ∀ start, (List.replicate n ' ').foldl (fun size c => size + c.utf8Size) start =
      start + n := by
    induction n with
    | zero => exact fun start => rfl
    | succ n ih =>
      intro start
      rw [List.replicate_succ, List.foldl_cons, ih, show ' '.utf8Size = 1 from rfl]
      omega
  rw [sum, Nat.zero_add]

theorem Row.ofLine_replicate_append (n : Nat) (line : List Char) :
    Row.ofLine (List.replicate n ' ' ++ trimStart line) =
      (Row.ofLine line).map fun row => ⟨n, row.text⟩ := by
  have blanks : ∀ c ∈ List.replicate n ' ', isBlank c = true := by
    intro c mem
    rw [List.eq_of_mem_replicate mem]
    rfl
  have trimmed : trimStart (trimStart line) = trimStart line := List.dropWhile_idempotent _ _
  have stop : (trimStart line).takeWhile isBlank = [] := by
    have parts := List.takeWhile_append_dropWhile (p := isBlank) (l := trimStart line)
    rw [← trimStart, trimmed] at parts
    exact List.append_left_eq_self.1 parts
  rw [Row.ofLine, Row.ofLine, leadingBytes, trimStart, List.dropWhile_append_of_pos blanks,
    List.takeWhile_append_of_pos blanks, ← trimStart, trimmed, stop, List.append_nil,
    byteLength_replicate]
  split_ifs <;> rfl

theorem Row.ofLine_line {row : Row} (plain : isPlainLine row.text = true) :
    Row.ofLine (expandTabs (Row.line (some row))) = some row := by
  obtain ⟨tab, -, filled, first, last⟩ := isPlainLine_iff.1 plain
  have clear : '\t' ∉ Row.line (some row) := by
    intro mem
    rcases List.mem_append.1 mem with mem | mem
    · cases List.eq_of_mem_replicate mem
    · exact tab mem
  rw [expandTabs_eq_self clear, Row.line, ← first, Row.ofLine_replicate_append, Row.ofLine, first,
    last, if_neg (by simpa using filled)]
  rfl

theorem Row.isPlainLine_of_ofLine {line : List Char} {row : Row} (clear : '\n' ∉ line)
    (eq : Row.ofLine (expandTabs line) = some row) : isPlainLine row.text = true := by
  rw [Row.ofLine] at eq
  generalize whole : expandTabs line = text at eq
  have kept : trimEnd (trimStart text) <+: trimStart text := by
    rw [trimEnd, dropEndWhile_eq_rdropWhile]
    exact List.rdropWhile_prefix _ _
  have chars : ∀ c ∈ trimEnd (trimStart text), c ≠ '\t' ∧ c ≠ '\n' := by
    intro c mem
    have inside : c ∈ text := (List.dropWhile_sublist _).subset (kept.subset mem)
    rw [← whole] at inside
    obtain ⟨tab, rfl | mem⟩ := mem_expandTabs inside
    · exact ⟨tab, by decide⟩
    · exact ⟨tab, fun newline => clear (newline ▸ mem)⟩
  split_ifs at eq with empty
  cases eq
  refine isPlainLine_iff.2 ⟨fun tab => (chars _ tab).1 rfl, fun newline => (chars _ newline).2 rfl,
    by simpa using empty, ?_, ?_⟩
  · refine List.dropWhile_eq_self_iff.2 fun filled => ?_
    rw [kept.getElem filled]
    exact List.dropWhile_eq_self_iff.1 (List.dropWhile_idempotent _ _) _
  · simp only [trimEnd, dropEndWhile_eq_rdropWhile]
    exact List.rdropWhile_idempotent _ _

/-- The line of a row is one piece, does not end in a carriage return, and has something in it. -/
theorem Row.line_ends {row : Row} (plain : isPlainLine row.text = true) :
    '\n' ∉ Row.line (some row) ∧ (Row.line (some row)).getLast? ≠ some '\r' ∧
      Row.line (some row) ≠ [] := by
  obtain ⟨-, newline, filled, -, -⟩ := isPlainLine_iff.1 plain
  simp only [isPlainLine, Bool.and_eq_true] at plain
  refine ⟨fun mem => ?_, fun ends => ?_, fun empty => ?_⟩
  · rcases List.mem_append.1 mem with mem | mem
    · cases (List.mem_replicate.1 mem).2
    · exact newline mem
  · have last := plain.2
    rw [Row.line, List.getLast?_append, List.getLast?_eq_some_getLast filled,
      Option.some_or] at ends
    rw [List.getLast?_eq_some_getLast filled, ends] at last
    cases last
  · exact filled (List.append_eq_nil_iff.1 empty).2

/-- Rows that are read back when they are written: their texts are plain lines, and the last of them
is not blank. -/
structure Writable (rows : List (Option Row)) : Prop where
  plain : ∀ row, some row ∈ rows → isPlainLine row.text = true
  ends : rows.getLast? ≠ some none

namespace Writable

variable {rows more : List (Option Row)}

theorem nil : Writable [] := ⟨by simp, by simp⟩

theorem append (first : Writable rows) (second : Writable more) : Writable (rows ++ more) := by
  refine ⟨fun row mem => ?_, fun ends => ?_⟩
  · exact (List.mem_append.1 mem).elim (first.plain row) (second.plain row)
  · rw [List.getLast?_append] at ends
    rcases last : more.getLast? with _ | row
    · rw [last, Option.none_or] at ends
      exact first.ends ends
    · rw [last, Option.some_or] at ends
      exact second.ends (last.trans ends)

theorem cons (writable : Writable rows) {row : Row} (plain : isPlainLine row.text = true) :
    Writable (some row :: rows) := by
  have first : Writable [some row] := by
    refine ⟨fun other mem => ?_, by simp⟩
    cases List.mem_singleton.1 mem
    exact plain
  exact first.append writable

theorem blank (writable : Writable rows) (filled : rows ≠ []) : Writable (none :: rows) := by
  refine ⟨fun row mem => ?_, ?_⟩
  · rcases List.mem_cons.1 mem with same | mem
    · cases same
    · exact writable.plain row mem
  · rcases rows with _ | ⟨row, rest⟩
    · exact absurd rfl filled
    · rw [List.getLast?_cons_cons]
      exact writable.ends

theorem lines_eq (writable : Writable rows) :
    lines (joinPieces ['\n'] (rows.map Row.line)) = rows.map Row.line := by
  have each : ∀ line ∈ rows.map Row.line, '\n' ∉ line ∧ line.getLast? ≠ some '\r' := by
    refine List.forall_mem_map.2 fun row mem => ?_
    rcases row with _ | row
    · simp [Row.line]
    · have ends := Row.line_ends (writable.plain row mem)
      exact ⟨ends.1, ends.2.1⟩
  have last : (rows.map Row.line).getLast? ≠ some [] := by
    intro empty
    rw [List.getLast?_map, Option.map_eq_some_iff] at empty
    obtain ⟨row, at_end, empty⟩ := empty
    rcases row with _ | row
    · exact writable.ends at_end
    · exact (Row.line_ends (writable.plain row (List.mem_of_getLast? at_end))).2.2 empty
  by_cases empty : rows = []
  · rw [empty]
    rfl
  · rw [lines, pieces_joinPieces (by simpa using empty) fun line mem => (each line mem).1]
    exact linesOfPieces_eq (fun line mem => (each line mem).2) last

theorem rowsOf_eq (writable : Writable rows) :
    rowsOf (joinPieces ['\n'] (rows.map Row.line)) = rows := by
  rw [rowsOf, writable.lines_eq, List.map_map]
  refine (List.map_congr_left fun row mem => ?_).trans (List.map_id _)
  rcases row with _ | row
  · rfl
  · exact Row.ofLine_line (writable.plain row mem)

end Writable

/-- A blank character at the end of a line makes no difference to its row. -/
theorem Row.ofLine_concat {c : Char} (blank : isBlank c = true) (line : List Char) :
    Row.ofLine (line ++ [c]) = Row.ofLine line := by
  unfold Row.ofLine leadingBytes trimStart trimEnd
  simp only [dropEndWhile_eq_rdropWhile, List.dropWhile_append, List.takeWhile_append]
  rcases rest : line.dropWhile isBlank with _ | ⟨first, more⟩
  · -- a blank line stays blank
    simp [blank]
  · have shorter : (line.takeWhile isBlank).length ≠ line.length := by
      have parts := List.takeWhile_append_dropWhile (p := isBlank) (l := line)
      have lengths := congrArg List.length parts
      rw [List.length_append, rest, List.length_cons] at lengths
      omega
    have kept := List.rdropWhile_concat_pos isBlank (first :: more) c blank
    simp only [List.isEmpty_cons, if_neg shorter, Bool.false_eq_true, if_false, kept]

/-- A carriage return at the end of a line makes no difference to its row. -/
theorem Row.ofLine_dropReturn (line : List Char) :
    Row.ofLine (expandTabs (dropReturn line)) = Row.ofLine (expandTabs line) := by
  rcases dropReturn_cases line with kept | dropped
  · rw [kept]
  · have whole : expandTabs line = expandTabs (dropReturn line) ++ ['\r'] := by
      conv_lhs => rw [dropped]
      simp [expandTabs]
    rw [whole, Row.ofLine_concat rfl]

theorem isPlainLine_of_mem_rowsOf {text : List Char} {row : Row} (mem : some row ∈ rowsOf text) :
    isPlainLine row.text = true := by
  obtain ⟨line, inside, eq⟩ := List.mem_map.1 mem
  exact Row.isPlainLine_of_ofLine (not_mem_of_mem_lines inside) eq

end Documentation

end ApiSchema
