import ApiSchema.Api.GraphQL
import ApiSchema.Proofs.TextLines

/-!
# Descriptions as block strings

A block string goes from three quotes to the next three quotes, and only three quotes after a
backslash do not end it.  The renderer escapes the quotes inside a description three at a time, but
it does not look at those beside the closing quotes.  Several lines are closed on a line of their
own, so none stand there; a single line is broken if it ends in a backslash, or in quotes whose
number is not a multiple of three (`description_complete_iff`).
-/

namespace ApiSchema.GraphQL

open Text

/-! ## Reading block strings -/

/-- What is read when some text stands before it. -/
def preceded (text : List Char) (read : Option (List Char × List Char)) :
    Option (List Char × List Char) :=
  read.map fun (content, after) => (text ++ content, after)

theorem preceded_eq_some_iff {text content after : List Char}
    {read : Option (List Char × List Char)} :
    preceded text read = some (text ++ content, after) ↔ read = some (content, after) := by
  rcases read with _ | ⟨content', after'⟩
  · exact ⟨nofun, nofun⟩
  · simp [preceded]

theorem preceded_nil (read : Option (List Char × List Char)) : preceded [] read = read := by
  rcases read with _ | read <;> rfl

theorem preceded_preceded (first second : List Char) (read : Option (List Char × List Char)) :
    preceded first (preceded second read) = preceded (first ++ second) read := by
  rcases read with _ | ⟨content, after⟩
  · rfl
  · simp [preceded]

/-- Reads a block string after its opening quotes: its content, and what follows its closing
quotes. -/
def scan : List Char → Option (List Char × List Char)
  | '\\' :: '"' :: '"' :: '"' :: rest => preceded quotes (scan rest)
  | '"' :: '"' :: '"' :: rest => some ([], rest)
  | c :: rest => preceded [c] (scan rest)
  | [] => none

/-- Is the text an indentation, a whole block string with the content, and a newline? -/
def IsBlockString (indent content text : List Char) : Prop :=
  ∃ rest, text = indent ++ quotes ++ rest ∧ scan rest = some (content, ['\n'])

/-- What a description is in a block string: a single line stands for itself, several lines stand
between a newline and an indentation. -/
def blockContent (indent text : List Char) : List Char :=
  if '\n' ∈ text then
    '\n' :: (lines text).flatMap (fun line => indent ++ line ++ ['\n']) ++ indent
  else text

theorem scan_quotes (rest : List Char) : scan (quotes ++ rest) = some ([], rest) := rfl

theorem scan_escaped (rest : List Char) :
    scan ('\\' :: quotes ++ rest) = preceded quotes (scan rest) := rfl

/-- A character that begins neither an escape nor the closing quotes stands for itself. -/
theorem scan_cons {c : Char} {rest : List Char} (inside : ¬ quotes <+: c :: rest)
    (plain : ¬ '\\' :: quotes <+: c :: rest) : scan (c :: rest) = preceded [c] (scan rest) := by
  rw [scan.eq_def]
  split
  · rename_i same
    exact absurd (same ▸ List.prefix_append ('\\' :: quotes) _) plain
  · rename_i same
    exact absurd (same ▸ List.prefix_append quotes _) inside
  · rename_i same
    cases same
    rfl
  · rename_i same
    cases same

theorem scan_cons_eq_iff {c : Char} {rest content after : List Char} :
    scan (c :: rest) = some (c :: content, after) ↔
      ¬ quotes <+: c :: rest ∧ ¬ '\\' :: quotes <+: c :: rest ∧
        scan rest = some (content, after) := by
  by_cases inside : quotes <+: c :: rest
  · obtain ⟨later, same⟩ := inside
    rw [← same, scan_quotes]
    simp
  by_cases plain : '\\' :: quotes <+: c :: rest
  · obtain ⟨later, same⟩ := plain
    rw [← same, scan_escaped]
    obtain ⟨rfl, -⟩ := List.cons.inj same
    -- An escape is read as a quote first.
    rcases scan later with _ | read <;> simp [preceded, quotes]
  · rw [scan_cons inside plain]
    have whole : preceded [c] (scan rest) = some ([c] ++ content, after) ↔ _ :=
      preceded_eq_some_iff
    exact whole.trans (by simp [inside, plain])

theorem not_quotes_prefix_newline (rest : List Char) : ¬ quotes <+: '\n' :: rest := by
  intro begins
  cases (List.cons_prefix_cons.1 begins).1

theorem scan_newline_eq_iff {rest content after : List Char} :
    scan ('\n' :: rest) = some ('\n' :: content, after) ↔ scan rest = some (content, after) := by
  have plain : ¬ '\\' :: quotes <+: '\n' :: rest := by
    intro begins
    cases (List.cons_prefix_cons.1 begins).1
  rw [scan_cons_eq_iff]
  exact ⟨fun read => read.2.2, fun read => ⟨not_quotes_prefix_newline rest, plain, read⟩⟩

/-- Does neither an escape nor the closing quotes begin inside `text`, if `rest` follows it? -/
def Unbroken (text rest : List Char) : Prop :=
  ∀ before c after, text = before ++ c :: after →
    ¬ quotes <+: c :: after ++ rest ∧ ¬ '\\' :: quotes <+: c :: after ++ rest

theorem unbroken_cons_iff {c : Char} {text rest : List Char} :
    Unbroken (c :: text) rest ↔
      (¬ quotes <+: c :: text ++ rest ∧ ¬ '\\' :: quotes <+: c :: text ++ rest) ∧
        Unbroken text rest := by
  constructor
  · intro unbroken
    exact ⟨unbroken [] c text rfl, fun before d after same =>
      unbroken (c :: before) d after (by rw [same, List.cons_append])⟩
  · rintro ⟨here, later⟩ before d after same
    rcases before with _ | ⟨first, before⟩
    · cases same
      exact here
    · cases same
      exact later before d after rfl

theorem scan_append_eq_iff {text rest content after : List Char} :
    scan (text ++ rest) = some (text ++ content, after) ↔
      Unbroken text rest ∧ scan rest = some (content, after) := by
  induction text with
  | nil =>
    have unbroken : Unbroken [] rest := fun before c after same => by simp at same
    simp [unbroken]
  | cons c text ih =>
    rw [List.cons_append, List.cons_append, scan_cons_eq_iff, ih, unbroken_cons_iff, and_assoc,
      and_assoc]
    rfl

/-- Nothing begins inside a text that has no three quotes in a row and whose last character is
neither a quote nor a backslash. -/
theorem unbroken_of_ends {text : List Char} (clear : ¬ quotes <:+: text)
    (quote : text.getLast? ≠ some '"') (backslash : text.getLast? ≠ some '\\')
    (rest : List Char) : Unbroken text rest := by
  intro before c after same
  have suffix : c :: after <:+ text := ⟨before, same.symm⟩
  have reaches : ∀ mark ∈ [quotes, '\\' :: quotes], ¬ mark <+: c :: after ++ rest := by
    intro mark known begins
    rcases List.prefix_or_prefix_of_prefix begins (List.prefix_append _ rest) with whole | part
    · -- The mark is a part of the text, and so are its three quotes.
      refine clear (List.IsInfix.trans ?_ (whole.isInfix.trans suffix.isInfix))
      simp only [List.mem_cons, List.not_mem_nil, or_false] at known
      rcases known with rfl | rfl
      · exact List.infix_rfl
      · exact ⟨['\\'], [], rfl⟩
    · -- The text ends inside the mark.
      have last := List.getLast?_eq_some_getLast (List.cons_ne_nil c after)
      have mem := part.subset (List.getLast_mem (List.cons_ne_nil c after))
      have ends : text.getLast? = some ((c :: after).getLast (List.cons_ne_nil c after)) := by
        rw [same, List.getLast?_append, last, Option.some_or]
      rw [ends] at quote backslash
      simp only [List.mem_cons, List.not_mem_nil, or_false] at known
      rcases known with rfl | rfl
      · simp only [quotes, List.mem_cons, List.not_mem_nil, or_false, or_self] at mem
        exact quote (congrArg some mem)
      · simp only [quotes, List.mem_cons, List.not_mem_nil, or_false, or_self] at mem
        exact mem.elim (fun same => backslash (congrArg some same))
          fun same => quote (congrArg some same)
  exact ⟨reaches _ (by simp), reaches _ (by simp)⟩

theorem unbroken_quotes_iff {text rest : List Char} :
    Unbroken text (quotes ++ rest) ↔
      ¬ quotes <:+: text ∧ text.getLast? ≠ some '"' ∧ text.getLast? ≠ some '\\' := by
  constructor
  · intro unbroken
    refine ⟨?_, fun quote => ?_, fun backslash => ?_⟩
    · rintro ⟨before, after, same⟩
      refine (unbroken before '"' ('"' :: '"' :: after) ?_).1 ⟨after ++ (quotes ++ rest), rfl⟩
      rw [← same, List.append_assoc]
      rfl
    · obtain ⟨before, same⟩ := List.getLast?_eq_some_iff.1 quote
      exact (unbroken before '"' [] same).1 ⟨'"' :: rest, rfl⟩
    · obtain ⟨before, same⟩ := List.getLast?_eq_some_iff.1 backslash
      exact (unbroken before '\\' [] same).2 ⟨rest, rfl⟩
  · rintro ⟨clear, quote, backslash⟩
    exact unbroken_of_ends clear quote backslash _

/-- What is not escaped is read as it is up to the closing quotes just when it is unbroken. -/
theorem scan_closing_iff {text : List Char} (rest : List Char) :
    scan (text ++ (quotes ++ rest)) = some (text, rest) ↔
      ¬ quotes <:+: text ∧ text.getLast? ≠ some '"' ∧ text.getLast? ≠ some '\\' := by
  have split : scan (text ++ (quotes ++ rest)) = some (text ++ [], rest) ↔ _ := scan_append_eq_iff
  rw [List.append_nil, scan_quotes, unbroken_quotes_iff] at split
  rw [split]
  exact and_iff_left rfl

/-! ## Escaped quotes -/

theorem escapeQuotes_quotes (rest : List Char) :
    escapeQuotes (quotes ++ rest) = '\\' :: quotes ++ escapeQuotes rest := rfl

theorem escapeQuotes_cons {c : Char} {rest : List Char} (single : ¬ quotes <+: c :: rest) :
    escapeQuotes (c :: rest) = c :: escapeQuotes rest := by
  rw [escapeQuotes.eq_def]
  split
  · rename_i same
    exact absurd (same ▸ List.prefix_append quotes _) single
  · rename_i same
    cases same
    rfl
  · rename_i same
    cases same

/-- Texts are escaped by three quotes or by one character at a time. -/
theorem escape_induction {motive : List Char → Prop} (nil : motive [])
    (triple : ∀ rest, motive rest → motive (quotes ++ rest))
    (single : ∀ c rest, ¬ quotes <+: c :: rest → motive rest → motive (c :: rest)) :
    ∀ text, motive text := by
  intro text
  induction text using escapeQuotes.induct with
  | case1 rest ih => exact triple rest ih
  | case2 c rest other ih =>
    refine single c rest ?_ ih
    rintro ⟨later, same⟩
    cases same
    exact other later rfl rfl
  | case3 => exact nil

/-- A run of quotes does not reach into a text that begins with another character. -/
theorem prefix_of_prefix_append {tail : List Char} (apart : tail.head? ≠ some '"') :
    ∀ {n : Nat} {front : List Char}, List.replicate n '"' <+: front ++ tail →
      List.replicate n '"' <+: front
  | 0, _, _ => List.nil_prefix
  | n + 1, [], ⟨later, same⟩ => by
    rw [List.nil_append] at same
    rw [← same] at apart
    exact absurd rfl apart
  | n + 1, c :: front, begins => by
    rw [List.replicate_succ, List.cons_append, List.cons_prefix_cons] at begins
    exact List.cons_prefix_cons.2 ⟨begins.1, prefix_of_prefix_append apart begins.2⟩

/-- Escaping does not reach across a character that is not a quote. -/
theorem escapeQuotes_append {front tail : List Char} (apart : tail.head? ≠ some '"') :
    escapeQuotes (front ++ tail) = escapeQuotes front ++ escapeQuotes tail := by
  induction front using escape_induction with
  | nil => rfl
  | triple rest ih =>
    rw [List.append_assoc, escapeQuotes_quotes, escapeQuotes_quotes, ih, List.append_assoc]
  | single c rest other ih =>
    have still : ¬ quotes <+: c :: (rest ++ tail) :=
      fun begins => other (prefix_of_prefix_append apart (n := 3) begins)
    rw [List.cons_append, escapeQuotes_cons still, ih, escapeQuotes_cons other]
    rfl

theorem eq_of_escapeQuotes_eq_cons {text rest : List Char}
    (same : escapeQuotes text = '"' :: rest) :
    ∃ later, text = '"' :: later ∧ escapeQuotes later = rest := by
  induction text using escape_induction with
  | nil => cases same
  | triple later => cases same
  | single c later other =>
    rw [escapeQuotes_cons other] at same
    cases same
    exact ⟨later, rfl, rfl⟩

theorem escapeQuotes_eq_nil_iff {text : List Char} : escapeQuotes text = [] ↔ text = [] := by
  induction text using escape_induction with
  | nil => exact ⟨fun _ => rfl, fun _ => rfl⟩
  | triple later => exact ⟨nofun, nofun⟩
  | single c later other =>
    rw [escapeQuotes_cons other]
    exact ⟨nofun, nofun⟩

theorem not_quotes_prefix_escapeQuotes (text : List Char) : ¬ quotes <+: escapeQuotes text := by
  rintro ⟨rest, same⟩
  obtain ⟨first, rfl, same₁⟩ := eq_of_escapeQuotes_eq_cons same.symm
  obtain ⟨second, rfl, same₂⟩ := eq_of_escapeQuotes_eq_cons same₁
  obtain ⟨third, rfl, -⟩ := eq_of_escapeQuotes_eq_cons same₂
  cases same

/-- Three quotes begin in front of the closing ones only in a text of at most two quotes. -/
theorem short_of_begins {text rest : List Char}
    (begins : quotes <+: escapeQuotes text ++ (quotes ++ rest)) :
    text ∈ [[], ['"'], ['"', '"']] := by
  rcases escaped : escapeQuotes text with _ | ⟨first, _ | ⟨second, _ | ⟨third, later⟩⟩⟩
  · simp [escapeQuotes_eq_nil_iff.1 escaped]
  · rw [escaped] at begins
    obtain ⟨rfl, -⟩ := List.cons_prefix_cons.1 begins
    obtain ⟨later, rfl, nothing⟩ := eq_of_escapeQuotes_eq_cons escaped
    simp [escapeQuotes_eq_nil_iff.1 nothing]
  · rw [escaped] at begins
    obtain ⟨rfl, reaches⟩ := List.cons_prefix_cons.1 begins
    obtain ⟨rfl, -⟩ := List.cons_prefix_cons.1 reaches
    obtain ⟨later, rfl, single⟩ := eq_of_escapeQuotes_eq_cons escaped
    obtain ⟨later, rfl, nothing⟩ := eq_of_escapeQuotes_eq_cons single
    simp [escapeQuotes_eq_nil_iff.1 nothing]
  · refine absurd ?_ (not_quotes_prefix_escapeQuotes text)
    rw [escaped] at begins ⊢
    exact List.prefix_of_prefix_length_le begins (List.prefix_append _ _) (by simp [quotes])

/-- A text is read back from its escaped form in front of another character than a quote. -/
theorem scan_escapeQuotes_append {text rest : List Char} (apart : rest.head? ≠ some '"') :
    scan (escapeQuotes text ++ rest) = preceded text (scan rest) := by
  induction text using escape_induction with
  | nil => exact (preceded_nil _).symm
  | triple later ih =>
    rw [escapeQuotes_quotes, List.append_assoc, scan_escaped, ih, preceded_preceded]
  | single c later other ih =>
    have inside : ¬ quotes <+: c :: (escapeQuotes later ++ rest) := by
      intro begins
      rw [← List.cons_append, ← escapeQuotes_cons other] at begins
      have begins := prefix_of_prefix_append apart (n := 3) begins
      exact not_quotes_prefix_escapeQuotes _ begins
    have plain : ¬ '\\' :: quotes <+: c :: (escapeQuotes later ++ rest) := by
      intro begins
      have begins := prefix_of_prefix_append apart (n := 3) (List.cons_prefix_cons.1 begins).2
      exact not_quotes_prefix_escapeQuotes _ begins
    rw [escapeQuotes_cons other, List.cons_append, scan_cons inside plain, ih, preceded_preceded]
    rfl

/-! ## One line -/

/-- The number of quotes at the end of a text. -/
def quotesAtEnd (text : List Char) : Nat := (text.reverse.takeWhile (· == '"')).length

theorem quotesAtEnd_cons (c : Char) (rest : List Char) :
    quotesAtEnd (c :: rest) =
      quotesAtEnd rest + if c = '"' ∧ rest.all (· == '"') then 1 else 0 := by
  rw [quotesAtEnd, quotesAtEnd, List.reverse_cons, List.takeWhile_append]
  by_cases all : rest.all (· == '"')
  · have whole : rest.reverse.takeWhile (· == '"') = rest.reverse :=
      List.takeWhile_eq_self_iff.2 (by simpa using all)
    rw [whole, if_pos rfl]
    by_cases quote : c = '"'
    · rw [if_pos ⟨quote, all⟩]
      simp [quote]
    · rw [if_neg fun both => quote both.1]
      simp [quote]
  · have part : (rest.reverse.takeWhile (· == '"')).length ≠ rest.reverse.length := by
      intro same
      have whole := (List.takeWhile_prefix _).eq_of_length same
      exact all (by simpa using List.takeWhile_eq_self_iff.1 whole)
    rw [if_neg part, if_neg fun both => all both.2, Nat.add_zero]

/-- A character in front of at most two quotes, with the closing quotes behind them. -/
theorem scan_short_iff {c : Char} {later rest : List Char} (single : ¬ quotes <+: c :: later)
    (short : later ∈ [[], ['"'], ['"', '"']]) :
    (¬ quotes <+: c :: (escapeQuotes later ++ (quotes ++ rest)) ∧
        ¬ '\\' :: quotes <+: c :: (escapeQuotes later ++ (quotes ++ rest)) ∧
          3 ∣ quotesAtEnd later ∧ later.getLast? ≠ some '\\') ↔
      3 ∣ quotesAtEnd (c :: later) ∧ (c :: later).getLast? ≠ some '\\' := by
  simp only [List.mem_cons, List.not_mem_nil, or_false] at short
  rcases short with rfl | rfl | rfl
  · by_cases quote : c = '"'
    · simp [quote, escapeQuotes, quotes, quotesAtEnd]
    · by_cases backslash : c = '\\'
      · simp [backslash, escapeQuotes, quotes]
      · simp [quote, backslash, escapeQuotes, quotes, quotesAtEnd, Ne.symm quote,
          Ne.symm backslash]
  · -- One or two quotes are left over with the character and without it.
    have without : ¬ 3 ∣ quotesAtEnd ['"'] := by decide
    have within : ¬ 3 ∣ quotesAtEnd [c, '"'] := by
      rw [quotesAtEnd_cons]
      show ¬ 3 ∣ 1 + _
      split_ifs <;> omega
    exact ⟨fun read => absurd read.2.2.1 without, fun ends => absurd ends.1 within⟩
  · have without : ¬ 3 ∣ quotesAtEnd ['"', '"'] := by decide
    have within : ¬ 3 ∣ quotesAtEnd [c, '"', '"'] := by
      rw [quotesAtEnd_cons, if_neg]
      · exact without
      · rintro ⟨rfl, -⟩
        exact single List.prefix_rfl
    exact ⟨fun read => absurd read.2.2.1 without, fun ends => absurd ends.1 within⟩

/-- A character that is not the first of three quotes adds nothing to the quotes at the end of a
longer text. -/
theorem quotesAtEnd_cons_of_not_short {c : Char} {later : List Char}
    (single : ¬ quotes <+: c :: later) (long : later ∉ [[], ['"'], ['"', '"']]) :
    quotesAtEnd (c :: later) = quotesAtEnd later := by
  rw [quotesAtEnd_cons, if_neg, Nat.add_zero]
  rintro ⟨rfl, all⟩
  have all : ∀ d ∈ later, d = '"' := by simpa using all
  rcases later with _ | ⟨first, _ | ⟨second, later⟩⟩
  · exact long (by simp)
  · refine long ?_
    rw [all first (by simp)]
    simp
  · refine single ?_
    rw [all first (by simp), all second (by simp)]
    exact List.prefix_append quotes later

/-- A text on one line is read back from its escaped form and the closing quotes just when its last
quotes come in threes and no backslash stands before the closing ones. -/
theorem scan_escapeQuotes_iff {text rest : List Char} :
    scan (escapeQuotes text ++ (quotes ++ rest)) = some (text, rest) ↔
      3 ∣ quotesAtEnd text ∧ text.getLast? ≠ some '\\' := by
  induction text using escape_induction with
  | nil => simp [escapeQuotes, scan_quotes, quotesAtEnd]
  | triple later ih =>
    have count : 3 ∣ quotesAtEnd (quotes ++ later) ↔ 3 ∣ quotesAtEnd later := by
      simp only [quotes, List.cons_append, List.nil_append, quotesAtEnd_cons, List.all_cons,
        beq_self_eq_true, Bool.true_and, true_and]
      split_ifs <;> omega
    have last : (quotes ++ later).getLast? ≠ some '\\' ↔ later.getLast? ≠ some '\\' := by
      rcases later with _ | ⟨c, later⟩
      · simp [quotes]
      · rw [List.getLast?_append, List.getLast?_eq_some_getLast (List.cons_ne_nil c later),
          Option.some_or]
    rw [count, last, ← ih, escapeQuotes_quotes, List.append_assoc, scan_escaped]
    exact preceded_eq_some_iff
  | single c later other ih =>
    rw [escapeQuotes_cons other, List.cons_append, scan_cons_eq_iff, ih]
    by_cases short : later ∈ [[], ['"'], ['"', '"']]
    · exact scan_short_iff other short
    · -- The closing quotes are too far away for anything to begin at this character.
      have inside : ¬ quotes <+: c :: (escapeQuotes later ++ (quotes ++ rest)) := by
        intro begins
        rw [← List.cons_append, ← escapeQuotes_cons other] at begins
        have whole := short_of_begins begins
        refine short ?_
        simp only [List.mem_cons, List.not_mem_nil, or_false, reduceCtorEq, false_or,
          List.cons.injEq] at whole ⊢
        exact whole.imp And.right fun both => .inl both.2
      have plain : ¬ '\\' :: quotes <+: c :: (escapeQuotes later ++ (quotes ++ rest)) :=
        fun begins => short (short_of_begins (List.cons_prefix_cons.1 begins).2)
      have last : (c :: later).getLast? = later.getLast? := by
        rcases later with _ | ⟨first, later⟩
        · exact absurd (by simp) short
        · exact List.getLast?_cons_cons
      rw [quotesAtEnd_cons_of_not_short other short, last]
      exact ⟨fun read => read.2.2, fun ends => ⟨inside, plain, ends⟩⟩

/-! ## Several lines -/

theorem newline_mem_escapeQuotes_iff {text : List Char} :
    '\n' ∈ escapeQuotes text ↔ '\n' ∈ text := by
  induction text using escape_induction with
  | nil => rfl
  | triple later ih =>
    rw [escapeQuotes_quotes, List.mem_append, List.mem_append, ih]
    simp [quotes]
  | single c later other ih => rw [escapeQuotes_cons other, List.mem_cons, List.mem_cons, ih]

theorem getLast?_escapeQuotes (text : List Char) :
    (escapeQuotes text).getLast? = text.getLast? := by
  induction text using escape_induction with
  | nil => rfl
  | triple later ih =>
    rw [escapeQuotes_quotes, List.getLast?_append, List.getLast?_append, ih]
    rfl
  | single c later other ih =>
    rw [escapeQuotes_cons other, List.getLast?_cons, List.getLast?_cons, ih]

/-- A carriage return at the end of a line has nothing to do with its quotes. -/
theorem dropReturn_escapeQuotes (line : List Char) :
    dropReturn (escapeQuotes line) = escapeQuotes (dropReturn line) := by
  have dropped : ∀ kept : List Char, dropReturn (kept ++ ['\r']) = kept := by
    intro kept
    simp [dropReturn]
  by_cases ends : line.getLast? = some '\r'
  · obtain ⟨kept, rfl⟩ := List.getLast?_eq_some_iff.1 ends
    rw [escapeQuotes_append (by simp), dropped]
    exact dropped _
  · rw [dropReturn_eq_self ends, dropReturn_eq_self (by rwa [getLast?_escapeQuotes])]

theorem lines_escapeQuotes (text : List Char) :
    lines (escapeQuotes text) = (lines text).map escapeQuotes := by
  induction size : text.length using Nat.strongRecOn generalizing text with
  | ind size ih =>
    subst size
    by_cases newline : '\n' ∈ text
    · obtain ⟨line, rest, rfl, clear⟩ := List.eq_append_cons_of_mem newline
      have shorter : rest.length < (line ++ '\n' :: rest).length := by
        simp only [List.length_append, List.length_cons]
        omega
      rw [escapeQuotes_append (by simp), escapeQuotes_cons (not_quotes_prefix_newline rest),
        lines_append_cons (by rwa [newline_mem_escapeQuotes_iff]), lines_append_cons clear,
        ih _ shorter rest rfl, dropReturn_escapeQuotes, List.map_cons]
    · have apart := mt newline_mem_escapeQuotes_iff.1 newline
      rw [lines, lines, pieces_of_not_mem newline, pieces_of_not_mem apart, linesOfPieces,
        linesOfPieces]
      simp only [List.isEmpty_iff, escapeQuotes_eq_nil_iff]
      split_ifs
      · rfl
      · rfl

theorem scan_of_scan_rows {indent rest content after : List Char} {rows : List (List Char)}
    (read : scan (rows.flatMap (fun row => indent ++ escapeQuotes row ++ ['\n']) ++ rest) =
      some (rows.flatMap (fun row => indent ++ row ++ ['\n']) ++ content, after)) :
    scan rest = some (content, after) := by
  induction rows with
  | nil => exact read
  | cons row rows ih =>
    simp only [List.flatMap_cons, List.append_assoc] at read ih
    have behind := (scan_append_eq_iff.1 read).2
    rw [scan_escapeQuotes_append (by simp), preceded_eq_some_iff] at behind
    exact ih (scan_newline_eq_iff.1 behind)

/-- Lines after an indentation in which nothing can begin are read as they are. -/
theorem scan_rows {indent : List Char} (plain : ∀ rest, Unbroken indent rest)
    {rest content after : List Char} (read : scan rest = some (content, after))
    (rows : List (List Char)) :
    scan (rows.flatMap (fun row => indent ++ escapeQuotes row ++ ['\n']) ++ rest) =
      some (rows.flatMap (fun row => indent ++ row ++ ['\n']) ++ content, after) := by
  induction rows with
  | nil => exact read
  | cons row rows ih =>
    simp only [List.flatMap_cons, List.append_assoc] at ih ⊢
    refine scan_append_eq_iff.2 ⟨plain _, ?_⟩
    rw [scan_escapeQuotes_append (by simp), preceded_eq_some_iff]
    exact scan_newline_eq_iff.2 ih

/-! ## Descriptions -/

theorem isBlockString_append_iff {indent content rest : List Char} :
    IsBlockString indent content (indent ++ quotes ++ rest) ↔
      scan rest = some (content, ['\n']) := by
  constructor
  · rintro ⟨rest', same, read⟩
    rwa [List.append_cancel_left same]
  · intro read
    exact ⟨rest, rfl, read⟩

theorem blockString_of_not_mem {text : List Char} (newline : '\n' ∉ text) (indent : List Char) :
    blockString indent text = indent ++ quotes ++ (escapeQuotes text ++ (quotes ++ ['\n'])) := by
  have apart := mt newline_mem_escapeQuotes_iff.1 newline
  unfold blockString
  simp only [List.contains_iff_mem, apart, if_false, List.append_assoc]

theorem blockString_of_mem {text : List Char} (newline : '\n' ∈ text) (indent : List Char) :
    blockString indent text = indent ++ quotes ++
      '\n' :: ((lines text).flatMap (fun line => indent ++ escapeQuotes line ++ ['\n']) ++
        (indent ++ (quotes ++ ['\n']))) := by
  have inside := newline_mem_escapeQuotes_iff.2 newline
  unfold blockString
  simp only [List.contains_iff_mem, inside, if_true, lines_escapeQuotes, List.flatMap_map,
    List.append_assoc]
  rfl

/-- The text for a description is a whole block string with the description in it just when nothing
stands open before the closing quotes.  For a single line that is so if it does not end in a
backslash and the quotes at its end come in threes; several lines are closed by an indentation and
are only broken if that has quotes or a backslash where they matter. -/
theorem description_complete_iff (indent text : String) :
    IsBlockString indent.toList (blockContent indent.toList text.toList)
        (description indent (some text)).toList ↔
      if '\n' ∈ text.toList then
        ¬ quotes <:+: indent.toList ∧ indent.toList.getLast? ≠ some '"' ∧
          indent.toList.getLast? ≠ some '\\'
      else 3 ∣ quotesAtEnd text.toList ∧ text.toList.getLast? ≠ some '\\' := by
  rw [description, String.toList_ofList, blockContent]
  by_cases newline : '\n' ∈ text.toList
  · rw [if_pos newline, if_pos newline, blockString_of_mem newline, isBlockString_append_iff,
      ← scan_closing_iff ['\n'], List.cons_append]
    constructor
    · intro read
      exact scan_of_scan_rows (scan_newline_eq_iff.1 read)
    · intro closed
      obtain ⟨clear, quote, backslash⟩ := (scan_closing_iff _).1 closed
      have read := scan_rows (unbroken_of_ends clear quote backslash) closed (lines text.toList)
      exact scan_newline_eq_iff.2 read
  · rw [if_neg newline, if_neg newline, blockString_of_not_mem newline, isBlockString_append_iff]
    exact scan_escapeQuotes_iff

/-- A description that ends in four quotes. -/
def fourQuotes : String := "a\"\"\"\""

/-- The fourth quote comes before the closing ones, so that the block string ends a quote early. -/
theorem fourQuotes_broken :
    ¬ IsBlockString "".toList (blockContent "".toList fourQuotes.toList)
      (description "" (some fourQuotes)).toList := by
  have emitted : (description "" (some fourQuotes)).toList =
      "".toList ++ quotes ++ "a\\\"\"\"\"\"\"\"\n".toList := by decide
  rw [emitted, isBlockString_append_iff]
  decide

end ApiSchema.GraphQL
