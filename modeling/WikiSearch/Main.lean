import WikiSearch.CommandLine.Report
import WikiSearch.CommandLine.Usage

/-!
# WikiSearch — the program

Reads the arguments, the settings files around the current directory and the one in
the home directory, and writes the report of the command.
-/

namespace WikiSearch.CommandLine

/-- What there is where a path leads in the file system. -/
def findInSystem (path : Path) : IO (Except ReadError Entry) := do
  try
    return .ok (.ofBytes (← IO.FS.readBinFile path.text))
  catch
    -- what is there but cannot be read is a file: reading it fails with the reason
    | .noFileOrDirectory .. => return .error .notFound
    | .inappropriateType .. => return .ok .directory
    | e => return .ok (.file (.error (.other (toString e))))

/-- The part of the file system in which settings files are looked for. -/
def settingsTree (dirs : List Path) : IO FileTree := do
  let paths := dirs.map (·.child Settings.fileName)
  let found ← paths.mapM fun path => return (path, ← findInSystem path)
  return ⟨fun path => (found.lookup path).getD (.error .notFound)⟩

/-- Runs the command that the arguments stand for. -/
def perform (args : List String) : IO UInt32 := do
  let output ← IO.getStdout
  let errors ← IO.getStderr
  match Command.ofArguments args with
  | .error .help =>
    output.putStr usage
    return 0
  | .error e =>
    errors.putStr ("error: " ++ e.message ++ "\n\n" ++ usage)
    return 2
  | .ok command =>
    let dir := Path.ofText (← IO.currentDir).toString
    let home := (← IO.getEnv "HOME").map Path.ofText
    let tree ← settingsTree (dir.ancestors ++ home.toList)
    let report := command.run tree home dir
    output.putStr report.output
    errors.putStr (report.errors ++ report.explanation)
    return if report.failed then 1 else 0

end WikiSearch.CommandLine

/-- The program. -/
def main (args : List String) : IO UInt32 := WikiSearch.CommandLine.perform args
