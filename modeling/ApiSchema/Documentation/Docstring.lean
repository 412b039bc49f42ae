import ApiSchema.Documentation.Outline
import ApiSchema.Documentation.Tree

/-!
# Documentation in docstrings

A docstring documents fields by a list of terms with deeper text below each.  The first list of
the text counts.  A term's first paragraph describes the field, and its first list documents the
field's own fields.
-/

namespace ApiSchema.Documentation

open Text

/-- What is wrong with a docstring. -/
inductive DocError where
  | noDefinitions
  | emptyTerm (term : String)
  deriving DecidableEq, Repr

def DocError.message : DocError → String
  | .noDefinitions => "documentation contains no definition list"
  | .emptyTerm term =>
    s!"invalid description for '{term}': entry must contain a paragraph or a definition list"

/-- The field that a term names: its first word, without colons and closing brackets after it and
opening brackets before it. -/
def termName (term : List Char) : String :=
  let word := term.takeWhile (· != ' ')
  String.ofList ((dropEndWhile (fun c => c == ':' || c == ']') word).dropWhile (· == '['))

def paragraphText (lines : List (List Char)) : String :=
  String.ofList (joinPieces ['\n'] lines)

def firstParagraph : List Block → Option String
  | [] => none
  | .paragraph lines :: _ => some (paragraphText lines)
  | _ :: rest => firstParagraph rest

mutual

/-- The first list among some blocks and the quotes in them. -/
def firstDefinitions : List Block → Option (List (List Char × List Block))
  | [] => none
  | block :: rest =>
    match definitionsIn block with
    | some items => some items
    | none => firstDefinitions rest

/-- The list that a block is or, if it is a quote, has inside. -/
def definitionsIn : Block → Option (List (List Char × List Block))
  | .definitions items => some items
  | .quote inner => firstDefinitions inner
  | .paragraph _ => none
  | .bullets => none

end

/-- The entry of a term from the two parts of its body. -/
def entryOf (name : String) (paragraph : Option String) (fields : Option Tree) :
    Except DocError Entry :=
  match paragraph, fields with
  | own, some fields => .ok (.nested own fields)
  | some content, none => .ok (.text content)
  | none, none => .error (.emptyTerm name)

mutual

/-- Documents the fields that the items of a list name, after the fields `done`. -/
def documentItems (done : Tree) : List (List Char × List Block) → Except DocError Tree
  | [] => .ok done
  | (term, body) :: rest => do
    let fields ← documentBody body
    let entry ← entryOf (termName term) (firstParagraph body) fields
    documentItems (Keyed.insert (termName term) entry done) rest

/-- Documents the fields that the first list among some blocks names. -/
def documentBody : List Block → Except DocError (Option Tree)
  | [] => .ok none
  | .definitions items :: _ => (documentItems [] items).map some
  | _ :: rest => documentBody rest

end

def ofDocstring (docstring : String) : Except DocError Tree :=
  match firstDefinitions (blocksOf (rowsOf docstring.toList)) with
  | some items => documentItems [] items
  | none => .error .noDefinitions

end ApiSchema.Documentation
