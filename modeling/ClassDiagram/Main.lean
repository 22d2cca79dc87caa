import ClassDiagram.Command
import ClassDiagram.Log.Line

/-!
# The Program

The only place that touches the world: it asks for the environment, reads the catalog files that
the options name, and prints what `Command.run` decides.
-/

namespace ClassDiagram

/-- The fault that a refusal of the system is. -/
def FileFault.ofSystem (path : String) : IO.Error → FileFault
  | .noFileOrDirectory .. => .notFound
  | .inappropriateType .. => if path.endsWith "/" then .notDirectory else .isDirectory
  | e => .refused (toString e)

/-- Reads one file. -/
def readFile (path : String) : IO (Except FileFault String) := do
  if path.toList.contains '\x00' then return .error .invalidPath
  try
    let content ← IO.FS.readBinFile path
    match String.fromUTF8? content with
    | some text => return .ok text
    | none => return .error .invalidText
  catch e => return .error (.ofSystem path e)

/-- The contents of the files at some paths. -/
def readFiles (paths : List String) : IO Files := do
  let contents ← paths.mapM fun path => return (path, ← readFile path)
  return fun path => (contents.lookup path).getD (.error .notFound)

/-- What the environment says about the log. -/
def readEnvironment : IO Log.Environment := do
  return {
    level := ← IO.getEnv "UMLSCOPE_LOG_LEVEL"
    format := ← IO.getEnv "UMLSCOPE_LOG_FORMAT"
    filter := ← IO.getEnv "RUST_LOG" }

/-- The catalog files that a command line names. -/
def namedFiles (words : List String) : List String :=
  match Options.ofWords words with
  | .ok o => o.catalogs
  | .error _ => []

end ClassDiagram

/-- Runs the command and shows its report. -/
def main (words : List String) : IO UInt32 := do
  let env ← ClassDiagram.readEnvironment
  let files ← ClassDiagram.readFiles (ClassDiagram.namedFiles words)
  let report := ClassDiagram.Command.run words env files
  for event in report.log do
    IO.eprint (report.logFormat.line event)
  IO.eprint report.notices
  IO.print report.output
  return report.exitCode.toUInt32
