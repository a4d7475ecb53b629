import ViewTemplate.CommandLine.Command

/-!
# The command line

The files of the operating system, and the entry point of the command.
-/

namespace ViewTemplate.CommandLine

/-- Why the operating system refuses a file. -/
def fileError (e : IO.Error) : FileError :=
  match e with
  | .noFileOrDirectory _ _ _ => .notFound
  | .inappropriateType _ code _ => if code = 21 then .isDirectory else .notDirectory
  | e => .other e.toString

def osFiles : FileSystem IO where
  read path := do
    try
      return .ok (← IO.FS.readBinFile path)
    catch e =>
      return .error (fileError e)
  list dir := do
    try
      let entries ← ((← IO.currentDir) / dir).readDir
      let files ← entries.toList.filterM fun entry => do
        return (← entry.path.metadata).type matches .file
      return .ok ((files.map fun entry => entry.fileName).mergeSort fun a b => decide (a ≤ b))
    catch e =>
      return .error (fileError e)

end ViewTemplate.CommandLine

/-- Run the command on its arguments. -/
def main (args : List String) : IO UInt32 := do
  let report ← ViewTemplate.CommandLine.run ViewTemplate.CommandLine.osFiles args
  IO.print report.out
  IO.eprint report.err
  return UInt32.ofNat report.code
