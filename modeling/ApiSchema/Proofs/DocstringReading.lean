import ApiSchema.Proofs.DocstringOutline

/-!
# What docstrings document

Everything that is read from a docstring is canonical: paragraphs are made of plain lines and start
with no bullet, lists have items, and terms are plain lines (`Block.Clean`).  So the trees that are
read are exactly the canonical ones, for each of these is read back from its outline
(`ofDocstring_canonical`).
-/

namespace ApiSchema.Documentation

open Text

/-! ## Clean blocks -/

mutual

/-- The lines of paragraphs and the terms are plain, no paragraph starts with a bullet, and there is
no list without items. -/
def Block.Clean : Block → Prop
  | .paragraph lines => (∀ line ∈ lines, isPlainLine line = true) ∧
      ∃ first more, lines = first :: more ∧ isBullet first = false
  | .bullets => True
  | .definitions items => items ≠ [] ∧ ItemsClean items
  | .quote inner => BlocksClean inner

/-- All blocks are clean. -/
def BlocksClean : List Block → Prop
  | [] => True
  | block :: rest => block.Clean ∧ BlocksClean rest

/-- All terms are plain lines with clean blocks below them. -/
def ItemsClean : List (List Char × List Block) → Prop
  | [] => True
  | (term, body) :: rest => isPlainLine term = true ∧ BlocksClean body ∧ ItemsClean rest

end

/-- The texts of all rows are plain lines. -/
def RowsPlain (rows : List (Option Row)) : Prop :=
  ∀ row, some row ∈ rows → isPlainLine row.text = true

theorem RowsPlain.of_subset {rows more : List (Option Row)} (plain : RowsPlain rows)
    (subset : more ⊆ rows) : RowsPlain more :=
  fun row mem => plain row (subset mem)

theorem consItem_clean {term : List Char} {body blocks : List Block}
    (plain : isPlainLine term = true) (below : BlocksClean body) (clean : BlocksClean blocks) :
    BlocksClean (consItem term body blocks) := by
  unfold consItem
  split
  · rw [BlocksClean, Block.Clean] at clean ⊢
    exact ⟨⟨List.cons_ne_nil _ _, plain, below, clean.1.2⟩, clean.2⟩
  · rw [BlocksClean, Block.Clean]
    exact ⟨⟨List.cons_ne_nil _ _, plain, below, trivial⟩, clean⟩

theorem mem_of_mem_paragraphRows {base : Nat} {row : Row} : ∀ {rows : List (Option Row)},
    row ∈ paragraphRows base rows → some row ∈ rows
  | [], mem => by cases mem
  | none :: rest, mem => by cases mem
  | some first :: rest, mem => by
    rw [paragraphRows] at mem
    split_ifs at mem
    · rcases List.mem_cons.1 mem with rfl | mem
      · exact List.mem_cons_self ..
      · exact List.mem_cons_of_mem _ (mem_of_mem_paragraphRows mem)
    · cases mem

theorem blocksAt_clean (base : Nat) (rows : List (Option Row)) (plain : RowsPlain rows) :
    BlocksClean (blocksAt base rows) := by
  fun_induction blocksAt base rows with
  | case1 base => trivial
  | case2 base rest ih => exact ih (plain.of_subset (List.subset_cons_self ..))
  | case3 base row rest region after deeper inner inner_ih after_ih =>
    have inside : RowsPlain (some row :: region) :=
      plain.of_subset (List.cons_subset_cons _ (List.takeWhile_sublist _).subset)
    have beyond : RowsPlain after :=
      plain.of_subset (List.subset_cons_of_subset _ (List.dropWhile_sublist _).subset)
    refine ⟨?_, after_ih beyond⟩
    rw [Block.Clean]
    dsimp only [inner]
    split
    · exact inner_ih _ ‹_› inside
    · trivial
  | case4 base row rest level bullet after_ih =>
    have beyond := plain.of_subset
      (List.subset_cons_of_subset _ (List.dropWhile_sublist (continuesBullets base)).subset)
    exact ⟨trivial, after_ih beyond⟩
  | case5 base row rest region after level unmarked starts body body_ih after_ih =>
    have inside : RowsPlain region :=
      plain.of_subset (List.subset_cons_of_subset _ (List.takeWhile_sublist _).subset)
    have beyond : RowsPlain after :=
      plain.of_subset (List.subset_cons_of_subset _ (List.dropWhile_sublist _).subset)
    refine consItem_clean (plain row (List.mem_cons_self ..)) ?_ (after_ih beyond)
    dsimp only [body]
    split
    · exact body_ih _ inside
    · trivial
  | case6 base row rest level unmarked flat more after_ih =>
    have beyond := plain.of_subset
      (List.subset_cons_of_subset _ (List.drop_subset more.length rest))
    refine ⟨⟨?_, row.text, more.map Row.text, rfl, by simpa using unmarked⟩, after_ih beyond⟩
    refine List.forall_mem_cons.2 ⟨plain row (List.mem_cons_self ..), List.forall_mem_map.2 ?_⟩
    exact fun other mem => plain other (List.mem_cons_of_mem _ (mem_of_mem_paragraphRows mem))

theorem blocksOf_clean {rows : List (Option Row)} (plain : RowsPlain rows) :
    BlocksClean (blocksOf rows) := by
  unfold blocksOf
  split
  · exact blocksAt_clean _ _ plain
  · trivial

/-! ## Reading clean blocks -/

mutual

theorem firstDefinitions_clean : ∀ {blocks : List Block} {items : List (List Char × List Block)},
    BlocksClean blocks → firstDefinitions blocks = some items → items ≠ [] ∧ ItemsClean items
  | [], items, clean, found => by
    rw [firstDefinitions] at found
    cases found
  | block :: rest, items, clean, found => by
    rw [BlocksClean] at clean
    rw [firstDefinitions] at found
    split at found
    · rename_i here
      cases found
      exact definitionsIn_clean clean.1 here
    · exact firstDefinitions_clean clean.2 found

theorem definitionsIn_clean : ∀ {block : Block} {items : List (List Char × List Block)},
    block.Clean → definitionsIn block = some items → items ≠ [] ∧ ItemsClean items
  | .definitions inner, items, clean, found => by
    rw [definitionsIn] at found
    cases found
    rwa [Block.Clean] at clean
  | .quote inner, items, clean, found => by
    rw [definitionsIn] at found
    rw [Block.Clean] at clean
    exact firstDefinitions_clean clean found
  | .paragraph _, items, clean, found => by
    rw [definitionsIn] at found
    cases found
  | .bullets, items, clean, found => by
    rw [definitionsIn] at found
    cases found

end

theorem isPlain_firstParagraph : ∀ {blocks : List Block} {content : String}, BlocksClean blocks →
    firstParagraph blocks = some content → isPlain content = true
  | [], content, clean, found => by
    rw [firstParagraph] at found
    cases found
  | .paragraph lines :: rest, content, clean, found => by
    rw [BlocksClean, Block.Clean] at clean
    obtain ⟨⟨each, first, more, rfl, unmarked⟩, -⟩ := clean
    rw [firstParagraph] at found
    cases found
    have clear : ∀ line ∈ first :: more, '\n' ∉ line :=
      fun line mem => (isPlainLine_iff.1 (each line mem)).2.1
    rw [isPlain_iff, paragraphText, String.toList_ofList,
      pieces_joinPieces (List.cons_ne_nil _ _) clear]
    exact ⟨first, more, rfl, each, unmarked⟩
  | .bullets :: rest, content, clean, found => isPlain_firstParagraph clean.2 found
  | .definitions _ :: rest, content, clean, found => isPlain_firstParagraph clean.2 found
  | .quote _ :: rest, content, clean, found => isPlain_firstParagraph clean.2 found

theorem isFieldName_termName {term : List Char} (plain : isPlainLine term = true) :
    isFieldName (termName term) = true := by
  obtain ⟨tab, newline, -⟩ := isPlainLine_iff.1 plain
  have kept := List.rdropWhile_prefix (fun c => c == ':' || c == ']') (term.takeWhile (· != ' '))
  rw [isFieldName_iff, termName, String.toList_ofList, dropEndWhile_eq_rdropWhile]
  generalize word : List.rdropWhile (fun c => c == ':' || c == ']')
    (term.takeWhile (· != ' ')) = name at kept ⊢
  have opened := List.dropWhile_suffix (l := name) (· == '[')
  have inside : ∀ c ∈ name.dropWhile (· == '['), c ∈ term.takeWhile (· != ' ') :=
    fun c mem => kept.subset (opened.subset mem)
  have ends : ∀ c, (name.dropWhile (· == '[')).getLast? = some c → c ≠ ':' ∧ c ≠ ']' := by
    intro c last
    obtain ⟨brackets, whole⟩ := opened
    have at_end : name.getLast? = some c := by
      rw [← whole, List.getLast?_append, last, Option.some_or]
    rw [← word] at at_end
    simpa using not_of_getLast?_rdropWhile at_end
  refine ⟨fun mem => ?_, fun mem => ?_, fun mem => ?_, fun first => ?_, fun last => ?_,
    fun last => ?_⟩
  · simpa using List.mem_takeWhile_imp (inside _ mem)
  · exact tab ((List.takeWhile_sublist _).subset (inside _ mem))
  · exact newline ((List.takeWhile_sublist _).subset (inside _ mem))
  · have := List.head?_dropWhile_not (· == '[') name
    rw [first] at this
    cases this
  · exact (ends _ last).1 rfl
  · exact (ends _ last).2 rfl

/-- The entry of clean blocks is canonical, if the fields below it are. -/
theorem canonical_of_entryOf {name : String} {body : List Block} {fields : Option Tree}
    {entry : Entry} (clean : BlocksClean body)
    (canonical : ∀ tree, fields = some tree → Canonical tree)
    (given : entryOf name (firstParagraph body) fields = .ok entry) : entry.Canonical := by
  have plain : ∀ content, firstParagraph body = some content → isPlain content = true :=
    fun content => isPlain_firstParagraph clean
  generalize firstParagraph body = own at given plain
  rcases fields with _ | fields
  · rcases own with _ | content
    · cases given
    · cases given
      rw [Entry.Canonical]
      exact plain content rfl
  · cases given
    rw [Entry.Canonical]
    exact ⟨plain, canonical fields rfl⟩

theorem fieldsCanonical_nil : FieldsCanonical [] := by
  rw [FieldsCanonical]
  trivial

theorem fieldsCanonical_insert {name : String} {entry : Entry} : ∀ {fields : List (String × Entry)},
    FieldsCanonical fields → isFieldName name = true → entry.Canonical →
    FieldsCanonical (Keyed.insert name entry fields)
  | [], canonical, named, entry_canonical => ⟨named, entry_canonical, trivial⟩
  | (other, first) :: rest, canonical, named, entry_canonical => by
    rw [FieldsCanonical] at canonical
    rw [Keyed.insert]
    split_ifs
    · exact ⟨named, entry_canonical, canonical.2.2⟩
    · exact ⟨canonical.1, canonical.2.1, fieldsCanonical_insert canonical.2.2 named entry_canonical⟩

mutual

/-- The fields that clean items document are canonical, if those that are done are. -/
theorem documentItems_canonical : ∀ {items : List (List Char × List Block)} {done tree : Tree},
    ItemsClean items → FieldsCanonical done → Keyed.Distinct done →
    documentItems done items = .ok tree →
    FieldsCanonical tree ∧ Keyed.Distinct tree ∧ (items ≠ [] ∨ done ≠ [] → tree ≠ [])
  | [], done, tree, clean, canonical, distinct, given => by
    rw [documentItems] at given
    cases given
    exact ⟨canonical, distinct, fun filled => filled.resolve_left fun absurd => absurd rfl⟩
  | (term, body) :: rest, done, tree, clean, canonical, distinct, given => by
    rw [ItemsClean] at clean
    obtain ⟨plain, below, later⟩ := clean
    rw [documentItems] at given
    rcases documented : documentBody body with _ | fields
    · rw [documented] at given
      cases given
    · rw [documented] at given
      change (entryOf (termName term) (firstParagraph body) fields >>= fun entry =>
        documentItems (Keyed.insert (termName term) entry done) rest) = _ at given
      rcases made : entryOf (termName term) (firstParagraph body) fields with _ | entry
      · rw [made] at given
        cases given
      · rw [made] at given
        have entry_canonical := canonical_of_entryOf below
          (fun tree same => documentBody_canonical below (same ▸ documented)) made
        have canonical' := fieldsCanonical_insert canonical (isFieldName_termName plain)
          entry_canonical
        obtain ⟨tree_canonical, tree_distinct, filled⟩ :=
          documentItems_canonical later canonical' (distinct.insert _ _) given
        refine ⟨tree_canonical, tree_distinct, fun _ => filled (.inr fun empty => ?_)⟩
        have mem : termName term ∈ Keyed.keys (Keyed.insert (termName term) entry done) :=
          Keyed.mem_keys_insert.2 (.inl rfl)
        rw [empty] at mem
        cases mem

theorem documentBody_canonical : ∀ {blocks : List Block} {fields : Tree}, BlocksClean blocks →
    documentBody blocks = .ok (some fields) → Canonical fields
  | [], fields, clean, given => by
    rw [documentBody] at given
    cases given
  | .definitions items :: rest, fields, clean, given => by
    rw [BlocksClean, Block.Clean] at clean
    rw [documentBody] at given
    rcases documented : documentItems [] items with _ | tree
    · rw [documented] at given
      cases given
    · rw [documented] at given
      cases given
      obtain ⟨canonical, distinct, filled⟩ :=
        documentItems_canonical clean.1.2 fieldsCanonical_nil Keyed.distinct_nil documented
      exact ⟨filled (.inl clean.1.1), distinct, canonical⟩
  | .paragraph _ :: rest, fields, clean, given => by
    rw [BlocksClean] at clean
    rw [documentBody] at given
    · exact documentBody_canonical clean.2 given
    · simp
  | .bullets :: rest, fields, clean, given => by
    rw [BlocksClean] at clean
    rw [documentBody] at given
    · exact documentBody_canonical clean.2 given
    · simp
  | .quote _ :: rest, fields, clean, given => by
    rw [BlocksClean] at clean
    rw [documentBody] at given
    · exact documentBody_canonical clean.2 given
    · simp

end

theorem canonical_of_ofDocstring {docstring : String} {tree : Tree}
    (given : ofDocstring docstring = .ok tree) : Canonical tree := by
  have plain : RowsPlain (rowsOf docstring.toList) := fun row => isPlainLine_of_mem_rowsOf
  have clean := blocksOf_clean plain
  rw [ofDocstring] at given
  split at given
  · rename_i items found
    obtain ⟨filled, clean⟩ := firstDefinitions_clean clean found
    obtain ⟨canonical, distinct, nonempty⟩ :=
      documentItems_canonical clean fieldsCanonical_nil Keyed.distinct_nil given
    exact ⟨nonempty (.inl filled), distinct, canonical⟩
  · cases given

/-! ## Docstrings of trees -/

/-- The canonical trees are those that docstrings document: each of them is read back from its
outline, and from its outline below a summary. -/
theorem ofDocstring_canonical :
    (∀ tree, Canonical tree → ofDocstring (written 0 tree) = .ok tree ∧
      ∀ summary, isSummary summary = true →
        ofDocstring (summary ++ "\n\n" ++ written 4 tree) = .ok tree) ∧
    ∀ docstring tree, ofDocstring docstring = .ok tree → Canonical tree :=
  ⟨fun _ canonical => ⟨ofDocstring_written canonical, fun _ => ofDocstring_summary canonical⟩,
    fun _ _ => canonical_of_ofDocstring⟩

/-- Documentation with an empty name, an odd one, and fields of fields. -/
def oddTree : Tree :=
  [("", .text "first line\n- second line"),
   ("]a[b", .nested (some "own text") [("$name", .text "[x]:")]),
   ("paths", .nested none [("key", .nested none [("deep", .text "A\x0btext")])])]

theorem canonical_oddTree : Canonical oddTree := by
  refine ⟨by decide, by decide, ?_⟩
  simp only [oddTree, FieldsCanonical, Entry.Canonical, Option.some.injEq, forall_eq', reduceCtorEq,
    false_imp_iff, implies_true]
  decide

theorem oddTree_canonical :
    ofDocstring (written 0 oddTree) = .ok oddTree ∧
      ofDocstring ("  A summary.\r" ++ "\n\n" ++ written 4 oddTree) = .ok oddTree ∧
      Canonical oddTree := by
  obtain ⟨reads, only⟩ := ofDocstring_canonical
  obtain ⟨plain, below⟩ := reads oddTree canonical_oddTree
  exact ⟨plain, below _ (by decide), only _ _ plain⟩

end ApiSchema.Documentation
