import ApiSchema.CommandLine.Run

/-!
# The program

Reads the files that a command asks for, runs the command, prints what it says and writes its
output file.
-/

namespace ApiSchema

open CommandLine Files

/-- The fault behind an error of the operating system. -/
def faultOf : IO.Error → FileFault
  | .inappropriateType _ code _ => if code = 21 then .isDirectory else .notDirectory
  | _ => .notFound

/-- What is at a path, with everything below it. -/
partial def nodeBelow (path : String) : IO (Except FileFault FileNode) := do
  try
    let place ← IO.FS.realPath path
    if ← place.isDir then
      let mut entries := []
      for entry in ← place.readDir do
        match ← nodeBelow s!"{path}/{entry.fileName}" with
        | .ok node => entries := (.ofString entry.fileName, node) :: entries
        | .error _ => pure ()
      return .ok (.directory entries)
    else return .ok (.file (← IO.FS.readBinFile path))
  catch e => return .error (faultOf e)

/-- What is at a path; paths that are not texts cannot be opened here. -/
def nodeAt (path : OsText) : IO (Except FileFault FileNode) := do
  match path.text? with
  | some text => nodeBelow text
  | none => return .error .notFound

def writeOutput (o : Outcome) : IO Outcome := do
  match o.output with
  | none => return o
  | some (path, text) =>
    match path.text? with
    | none => return o.unwritten path .notFound
    | some place =>
      try
        IO.FS.writeFile place text
        return o
      catch e => return o.unwritten path (faultOf e)

/-- Prints an outcome and answers with its exit code. -/
def report (o : Outcome) : IO UInt32 := do
  (← IO.getStdout).putStr o.out
  (← IO.getStderr).putStr o.err
  return o.code.toUInt32

/-- Runs the command that the arguments ask for. -/
def runArgs (args : List String) : IO UInt32 := do
  match Invocation.ofArgs (args.map .ofString) with
  | .error i => report i.outcome
  | .ok invocation =>
    let found ← invocation.command.inputs.mapM fun path => return (path, ← nodeAt path)
    let disk : Disk := fun path => (found.lookup path).getD (.error .notFound)
    report (← writeOutput (invocation.command.run disk))

end ApiSchema

/-- The program's start. -/
def main (args : List String) : IO UInt32 := ApiSchema.runArgs args
