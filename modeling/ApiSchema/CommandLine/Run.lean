import ApiSchema.Api.GraphQL
import ApiSchema.Api.TypeJson
import ApiSchema.CommandLine.Command
import ApiSchema.Instance.Projection
import ApiSchema.Lint.Report

/-!
# Running commands

What a command prints, writes and answers, as a function of the files that it is given.  Nothing
here touches a file: a file to be written is part of the outcome.
-/

namespace ApiSchema.CommandLine

open Files (FileFault FileNode OsText)
open Lint (FileReport Finding Report Severity Status)

/-- What a command leaves behind. -/
structure Outcome where
  code : Nat
  out : String
  err : String
  /-- A path and the text to be written there. -/
  output : Option (OsText × String)

/-- What can be found at a path. -/
abbrev Disk := OsText → Except FileFault FileNode

namespace Outcome

/-- The outcome of a command that prints a text. -/
def success (out : String) : Outcome := ⟨0, out, "", none⟩

/-- The outcome of a command that fails with a message. -/
def failure (code : Nat) (message : String) : Outcome := ⟨code, "", message ++ "\n", none⟩

/-- Puts a text before the messages. -/
def afterMessages (messages : String) (o : Outcome) : Outcome := { o with err := messages ++ o.err }

/-- The outcome after the output could not be written. -/
def unwritten (path : OsText) (fault : FileFault) (o : Outcome) : Outcome :=
  { o with
    code := 3
    err := o.err ++ s!"Error writing to {path.shown}: {fault.message}\n"
    output := none }

end Outcome

def Disk.text (disk : Disk) (path : OsText) : Except FileFault String := do
  (← disk path).text

/-- The catalog at a path; an error ends the command. -/
def catalogAt (disk : Disk) (path : OsText) : Except Outcome Catalog :=
  (loadCatalog path (disk.text path)).mapError fun e => .failure e.exitCode s!"Error: {e.message}"

/-- The outcome of a computation that an error can end. -/
def outcomeOf : Except Outcome Outcome → Outcome
  | .ok o => o
  | .error o => o

/-- The steps of an operation, one a line. -/
def stepLines (steps : List OperationStep) : String :=
  String.join (steps.map fun step => step.toJson.compact ++ "\n")

def typesText : OutputFormat → List NamedType → String
  | .sdl, types => GraphQL.render types
  | .json, types => (Json.object [("types", .array (types.map NamedType.toJson))]).pretty

/-- Writes the types of all kinds of a catalog. -/
def generateTypes (disk : Disk) (path : OsText) (format : OutputFormat) (strict progress : Bool)
    (output : Option OsText) : Outcome :=
  outcomeOf do
    let catalog ← catalogAt disk path
    let run := (Synthesizer.new catalog strict).synthesizeCatalog
    let messages := if progress then stepLines run.steps else ""
    match run.result with
    | .error e =>
      return (Outcome.failure e.exitCode s!"Error: {e.message}").afterMessages messages
    | .ok _ =>
      let more := if progress then [NamedType.object OperationStep.apiType] else []
      let text := typesText format (run.after.types ++ more)
      match output with
      | some target => return ⟨0, "", messages, some (target, text)⟩
      | none => return (Outcome.success text).afterMessages messages

/-- The text of a value on one line or several. -/
def jsonLine (pretty : Bool) (value : Json) : String :=
  (if pretty then value.pretty else value.compact) ++ "\n"

/-- The kind with a name; an error ends the command. -/
def kindNamed (name : String) : Except Outcome DocumentKind :=
  match DocumentKind.ofName? name with
  | some kind => .ok kind
  | none =>
    let known := Text.join ", " (DocumentKind.all.map DocumentKind.name)
    .error (.failure 2
      s!"Error: unknown document kind '{name}' (expected one of: {known})")

/-- The document at a path; an error ends the command. -/
def documentAt (disk : Disk) (path : OsText) (kind : DocumentKind) : Except Outcome Document :=
  match loadJson path (disk.text path) with
  | .error e => .error (.failure e.exitCode s!"Error loading document: {e.message}")
  | .ok (.object members) => .ok ⟨kind, members⟩
  | .ok _ => .error (.failure 2 "Error: document must be a JSON object")

/-- The members of a document reshaped to a type; an error ends the command. -/
def renderMembers (document : Document) : ApiType → Except Outcome (List (String × Json))
  | .object object => .ok (object.project (.ofDocument document))
  | .union union =>
    match union.select? document.members with
    | some member => .ok (tagged member.name (member.project (.ofDocument document)))
    | none => .error (.failure 2 s!"Error: document matches no variant of {union.name}")
  | _ => .error (.failure 2 s!"Error: {document.kind.name} does not generate an object type")

/-- Writes a document in the shape of the API type of its kind. -/
def renderDocument (disk : Disk) (catalogPath documentPath : OsText) (kindName : String)
    (pretty : Bool) : Outcome :=
  outcomeOf do
    let kind ← kindNamed kindName
    let catalog ← catalogAt disk catalogPath
    let document ← documentAt disk documentPath kind
    let type ← ((Synthesizer.new catalog false).documentType kind).1.mapError fun e =>
      Outcome.failure e.exitCode s!"Error: {e.message}"
    return .success (jsonLine pretty (.object (← renderMembers document type)))

/-- Writes the documentation in a docstring. -/
def showDocs (disk : Disk) (path : OsText) (pretty : Bool) : Outcome :=
  match disk.text path with
  | .error fault => .failure 3 s!"Error reading {path.shown}: {fault.message}"
  | .ok docstring =>
    match Documentation.ofDocstring docstring with
    | .error e => .failure 2 s!"Error: {e.message}"
    | .ok tree => .success (jsonLine pretty (Documentation.treeToJson tree))

def coloured (colour text : String) : String :=
  "\x1b[" ++ colour ++ "m" ++ text ++ "\x1b[0m"

/-- The colour of good news. -/
def green : String := "32"

/-- The colour of warnings. -/
def yellow : String := "33"

/-- The colour of errors. -/
def red : String := "31"

def statusMark : Status → String
  | .ok => coloured green "✓"
  | .warning => coloured yellow "⚠"
  | .error => coloured red "✗"

def findingLine (f : Finding) : String :=
  let colour := match f.severity with
    | .error => red
    | .warning => yellow
  "    " ++ coloured colour (f.severity.name ++ "[" ++ f.code.text ++ "]") ++
    s!": {f.path} - {f.message}\n"

/-- The lines of a file; the quiet form leaves out good files and warnings. -/
def fileLines (quiet : Bool) (r : FileReport) : String :=
  (if !quiet || r.status != .ok then s!"  {statusMark r.status} {r.shown.shown}\n" else "") ++
    String.join ((r.findings.filter fun f => !quiet || f.isError).map findingLine)

def summaryLine (r : Report) : String :=
  if r.isGood then coloured green s!"✓ {r.checked} files checked, all passed"
  else
    let counts := s!"{r.passed} passed, {r.failed} failed"
    let totals := s!"({r.errors} errors, {r.warnings} warnings)"
    coloured red s!"✗ {r.checked} files checked: {counts} {totals}"

def reportText (quiet : Bool) (r : Report) : String :=
  (if quiet then "" else s!"Linting {r.path.shown} ...\n\n") ++
    String.join (r.files.map (fileLines quiet)) ++ "\n" ++ summaryLine r ++ "\n"

/-- Reports what is wrong with the catalog files at a path. -/
def lintPath (disk : Disk) (path : OsText) (format : String) (strict quiet : Bool) : Outcome :=
  match disk path with
  | .error _ => .failure 2 s!"Error: path not found: {path.shown}"
  | .ok node =>
    let report := Lint.lint path (.ok node) strict
    let ending (text : String) : Outcome := ⟨if report.isGood then 0 else 1, text, "", none⟩
    if format = "json" then
      if report.isWritable then ending (report.toJson.pretty ++ "\n")
      else .failure 2 "Error serializing output: path contains invalid UTF-8 characters"
    else ending (reportText quiet report)

def Command.run (disk : Disk) : Command → Outcome
  | .generate catalog format strict progress output =>
    generateTypes disk catalog format strict progress output
  | .render catalog document kind pretty => renderDocument disk catalog document kind pretty
  | .docs file pretty => showDocs disk file pretty
  | .lint path format strict quiet => lintPath disk path format strict quiet

/-- The paths that a command reads. -/
def Command.inputs : Command → List OsText
  | .generate catalog _ _ _ _ => [catalog]
  | .render catalog document _ _ => [catalog, document]
  | .docs file _ => [file]
  | .lint path _ _ _ => [path]

/-- The name and version of the program. -/
def versionLine : String := "schema-synth 0.1.0\n"

/-- Stands for the texts of the argument parser, its help and its complaints, whose wording is not
the program's own. -/
def usage : String :=
  "Usage: schema-synth [-v] <generate|render|docs|lint> [OPTIONS] <PATH>...\n"

/-- The outcome when there is no command to run. -/
def Interruption.outcome : Interruption → Outcome
  | .misuse => ⟨2, "", usage, none⟩
  | .help => .success usage
  | .version => .success versionLine

/-- The outcome of the command line in a file tree, and the tree after it. -/
def runLine (root : FileNode) (args : List OsText) : Outcome × FileNode :=
  match Invocation.ofArgs args with
  | .error i => (i.outcome, root)
  | .ok invocation =>
    let o := invocation.command.run root.lookup
    match o.output with
    | none => (o, root)
    | some (path, text) =>
      match root.write path text with
      | .ok after => (o, after)
      | .error fault => (o.unwritten path fault, root)

/-- The outcome of a command line that is given as texts. -/
def runIn (root : FileNode) (args : List String) : Outcome × FileNode :=
  runLine root (args.map .ofString)

end ApiSchema.CommandLine
