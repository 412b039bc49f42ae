import ApiSchema.CommandLine.Options

/-!
# Commands

The commands of the command line and what they are given.
-/

namespace ApiSchema.CommandLine

open Files (OsText)

/-- How generated types are written. -/
inductive OutputFormat where
  | sdl
  | json
  deriving DecidableEq, Repr

/-- A command with its arguments. -/
inductive Command where
  /-- Writes the types of all kinds of a catalog. -/
  | generate (catalog : OsText) (format : OutputFormat) (strict progress : Bool)
      (output : Option OsText)
  /-- Writes a document reshaped to the type of a kind. -/
  | render (catalog document : OsText) (kind : String) (pretty : Bool)
  /-- Writes the documentation in a docstring. -/
  | docs (file : OsText) (pretty : Bool)
  /-- Reports what is wrong with catalog files. -/
  | lint (path : OsText) (format : String) (strict quiet : Bool)

/-- A command and whether it is to tell more. -/
structure Invocation where
  command : Command
  verbose : Bool

def commonOptions : List OptionSpec :=
  [(switch "verbose").orLetter 'v', (switch "help").orLetter 'h']

/-- The options that may stand before a command. -/
def leadingOptions : List OptionSpec := commonOptions ++ [(switch "version").orLetter 'V']

/-- The options of a command; `none` where there is no such command. -/
def optionsOf : String → Option (List OptionSpec)
  | "generate" =>
    some (commonOptions ++
      [valued "format", switch "strict-unions", switch "progress", valued "output"])
  | "render" => some (commonOptions ++ [(valued "kind").orLetter 'k', switch "pretty"])
  | "docs" => some (commonOptions ++ [switch "pretty"])
  | "lint" =>
    some (commonOptions ++ [valued "format", switch "strict", (switch "quiet").orLetter 'q'])
  | _ => none

def OutputFormat.ofName? : String → Option OutputFormat
  | "sdl" => some .sdl
  | "json" => some .json
  | _ => none

/-- The command that a name and its arguments give. -/
def commandOf (name : String) (a : Arguments) : Option Command :=
  if a.operands.any (·.isEmpty) then none
  else
    match name, a.operands with
    | "generate", [catalog] => do
      let format ← OutputFormat.ofName? (← a.textOr "format" "sdl")
      let output := a.value? "output"
      if output.any (·.isEmpty) then none
      else some (.generate catalog format (a.has "strict-unions") (a.has "progress") output)
    | "render", [catalog, document] => do
      return .render catalog document (← (← a.value? "kind").text?) (a.has "pretty")
    | "docs", [file] => some (.docs file (a.has "pretty"))
    | "lint", [path] => do
      return .lint path (← a.textOr "format" "text") (a.has "strict") (a.has "quiet")
    | _, _ => none

/-- The arguments before the command, its name, and its own arguments. -/
def splitCommand : List OsText → Option (List OsText × OsText × List OsText)
  | [] => none
  | arg :: rest =>
    if isOption arg then
      (splitCommand rest).map fun (before, name, args) => (arg :: before, name, args)
    else some ([], arg, rest)

/-- The command that a list of arguments asks for. -/
def Invocation.ofArgs (args : List OsText) : Except Interruption Invocation :=
  match splitCommand args with
  | none => do
    let _ ← Arguments.ofList leadingOptions args
    .error .misuse
  | some (before, name, rest) => do
    let leading ← Arguments.ofList leadingOptions before
    if leading.ended then .error .misuse
    let some name := name.text? | .error .misuse
    if name = "help" then .error .help
    let some specs := optionsOf name | .error .misuse
    let own ← Arguments.ofList specs rest
    match commandOf name own with
    | some command => return ⟨command, leading.has "verbose" || own.has "verbose"⟩
    | none => .error .misuse

end ApiSchema.CommandLine
