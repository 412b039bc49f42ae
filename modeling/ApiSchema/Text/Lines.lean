/-!
# Lines and pieces

`pieces` cuts a text at every separator, so that joining the pieces gives the text back.  `lines`
cuts at newlines, drops a carriage return that stands before one, and has no empty last line.
-/

namespace ApiSchema.Text

/-- The parts of a text between separators; an empty text has one empty part. -/
def pieces {α : Type} [DecidableEq α] (separator : α) : List α → List (List α)
  | [] => [[]]
  | c :: rest =>
    if c = separator then [] :: pieces separator rest
    else
      match pieces separator rest with
      | [] => [[c]]
      | first :: others => (c :: first) :: others

def joinPieces {α : Type} (separator : List α) (parts : List (List α)) : List α :=
  (parts.intersperse separator).flatten

/-- A line that ended in a newline loses one carriage return at its end. -/
def dropReturn (line : List Char) : List Char :=
  match line.reverse with
  | '\r' :: kept => kept.reverse
  | _ => line

/-- The lines of a text, from the pieces between its newlines. -/
def linesOfPieces : List (List Char) → List (List Char)
  | [] => []
  | [last] => if last.isEmpty then [] else [last]
  | line :: rest => dropReturn line :: linesOfPieces rest

/-- The lines of a text. -/
def lines (text : List Char) : List (List Char) :=
  linesOfPieces (pieces '\n' text)

def join (separator : String) (parts : List String) : String :=
  String.ofList (joinPieces separator.toList (parts.map String.toList))

end ApiSchema.Text
