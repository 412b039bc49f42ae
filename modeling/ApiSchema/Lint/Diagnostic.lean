import ApiSchema.Files.OsText
import ApiSchema.Json.Basic

/-!
# Diagnostics

Findings about a catalog file.  A code tells what a finding is about and whether it is an error or
a warning; a file's status is that of its worst finding.
-/

namespace ApiSchema.Lint

open Files (OsText)

/-- How bad a finding is. -/
inductive Severity where
  | error
  | warning
  deriving DecidableEq, Repr

/-- What a finding is about. -/
inductive Code where
  | unreadable
  | shape
  | documentation
  | conversion
  | undocumented
  | scalarUnion
  | untyped
  deriving DecidableEq, Repr

def Severity.name : Severity → String
  | .error => "error"
  | .warning => "warning"

/-- How bad a finding of a code is. -/
def Code.severity : Code → Severity
  | .unreadable => .error
  | .shape => .error
  | .documentation => .error
  | .conversion => .error
  | .undocumented => .warning
  | .scalarUnion => .warning
  | .untyped => .warning

def Code.text : Code → String
  | .unreadable => "E001"
  | .shape => "E002"
  | .documentation => "E003"
  | .conversion => "E004"
  | .undocumented => "W001"
  | .scalarUnion => "W002"
  | .untyped => "W003"

/-- A finding: what it is about, the place in the file or the generated name, and its wording. -/
structure Finding where
  code : Code
  path : String
  message : String
  deriving DecidableEq

def Finding.severity (f : Finding) : Severity := f.code.severity

def Finding.isError (f : Finding) : Bool := f.severity == .error

def Finding.isWarning (f : Finding) : Bool := f.severity == .warning

/-- The result for a file. -/
inductive Status where
  | ok
  | error
  | warning
  deriving DecidableEq, Repr

def Status.name : Status → String
  | .ok => "ok"
  | .error => "error"
  | .warning => "warning"

/-- The status of a file with some findings. -/
def statusOf (findings : List Finding) : Status :=
  if findings.any Finding.isError then .error
  else if findings.any Finding.isWarning then .warning
  else .ok

/-- The findings about a file: the path it was opened by, and the name it is shown by. -/
structure FileReport where
  opened : OsText
  shown : OsText
  findings : List Finding

namespace FileReport

def status (r : FileReport) : Status := statusOf r.findings

/-- The JSON form of a finding about the file. -/
def findingJson (r : FileReport) (f : Finding) : Json :=
  .object
    [("severity", .string f.severity.name), ("code", .string f.code.text),
     ("file", .string r.opened.shown), ("path", .string f.path), ("message", .string f.message)]

def toJson (r : FileReport) : Json :=
  .object
    ([("file", .string r.shown.shown), ("status", .string r.status.name)] ++
      if r.findings.isEmpty then []
      else [("diagnostics", .array (r.findings.map r.findingJson))])

/-- The paths that the JSON form names. -/
def namedPaths (r : FileReport) : List OsText :=
  r.shown :: if r.findings.isEmpty then [] else [r.opened]

end FileReport

end ApiSchema.Lint
