import ApiSchema.Lint.Check

/-!
# Lint reports

The findings about all catalog files at a path.  A file fails if it has errors or, in strict mode,
any findings; the report is good if no finding counts against it.
-/

namespace ApiSchema.Lint

open Files

/-- The reports about the files at a path. -/
structure Report where
  path : OsText
  strict : Bool
  files : List FileReport

/-- Does a file with this status fail? -/
def Status.fails (strict : Bool) : Status → Bool
  | .ok => false
  | .error => true
  | .warning => strict

namespace Report

def checked (r : Report) : Nat := r.files.length

def failed (r : Report) : Nat := r.files.countP fun file => file.status.fails r.strict

/-- The number of files that do not fail. -/
def passed (r : Report) : Nat := r.checked - r.failed

def findings (r : Report) : List Finding := r.files.flatMap FileReport.findings

def errors (r : Report) : Nat := r.findings.countP Finding.isError

def warnings (r : Report) : Nat := r.findings.countP Finding.isWarning

def isOk (r : Report) : Bool := r.errors == 0

/-- Does nothing count against the files? -/
def isGood (r : Report) : Bool := r.isOk && (!r.strict || r.warnings == 0)

/-- The members of the report's JSON form. -/
def toMembers (r : Report) : List (String × Json) :=
  [("path", .string r.path.shown), ("files_checked", .ofInt r.checked), ("passed", .ofInt r.passed),
   ("failed", .ofInt r.failed), ("errors", .ofInt r.errors), ("warnings", .ofInt r.warnings),
   ("results", .array (r.files.map FileReport.toJson))]

def toJson (r : Report) : Json := .object r.toMembers

/-- The paths that the JSON form names. -/
def namedPaths (r : Report) : List OsText := r.path :: r.files.flatMap FileReport.namedPaths

/-- Can the JSON form be written?  A path in it is a text, which it has to spell. -/
def isWritable (r : Report) : Bool := r.namedPaths.all (·.text?.isSome)

end Report

/-- The catalog files at a path, each with the path it is opened by. -/
def filesAt (path : OsText) : FileNode → List (OsText × FileNode)
  | .file content =>
    if (fileName path).any isCatalogName then [(path, .file content)] else []
  | .directory entries =>
    (FileNode.directory entries).catalogFiles.map fun (names, node) =>
      (names.foldl below path, node)

def lint (path : OsText) (node : Except FileFault FileNode) (strict : Bool) : Report :=
  let files := match node with
    | .ok node => filesAt path node
    | .error _ => []
  ⟨path, strict, files.map fun (opened, file) => lintFile path opened file.text⟩

end ApiSchema.Lint
