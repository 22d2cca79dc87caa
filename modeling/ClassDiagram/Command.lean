import ClassDiagram.Diagram
import ClassDiagram.Journal
import ClassDiagram.Log.Setup
import ClassDiagram.Options.Help

/-!
# The Command

`Command.execute` is what a run decides: the usage text where no switches are given, else a diagram,
or why there is none. `Command.report` is all that a run shows: its exit code, what it prints, and
the log. The log never changes what is printed.
-/

namespace ClassDiagram

/-- What a run prints. -/
inductive Outcome
  | usage
  | diagram (script : Script)
deriving DecidableEq

namespace Outcome

/-- The text of an outcome. -/
def text : Outcome → String
  | usage => Request.usage
  | diagram script => script.text

/-- The printed form. A script ends its own last line, and the usage text is given its end. -/
def printed : Outcome → String
  | usage => Request.usage ++ "\n"
  | diagram script => script.text

end Outcome

/-- Why a run gives no diagram: an error, and the catalog file that it is about, if it is about
one. -/
structure Failure where
  file : Option String := none
  error : Error
deriving DecidableEq

namespace Failure

/-- The text that names the file. -/
def context (path : String) : String := "Failed to load catalog '" ++ path ++ "'"

/-- The texts of a failure, from what was tried to what stood in the way. -/
def chain (f : Failure) : List String :=
  f.file.toList.map context ++ f.error.message ::
    match f.error with
    | .io fault => [fault]
    | _ => []

/-- The text that reports a failure, the first of its chain. -/
def message (f : Failure) : String :=
  match f.file with
  | some path => context path
  | none => f.error.message

end Failure

namespace Command

/-- The name of the command, as its users know it. -/
def name : String := "umlscope"

/-- The version of the command. -/
def version : String := "0.1.0"

/-- The catalog before any file is loaded. -/
def baseCatalog (o : Options) : Catalog := if o.noBuiltin then .empty else .builtin

/-- Loads catalog files one after another, up to the first that cannot be loaded. -/
def loadFiles (files : Files) : List String → Catalog → Except Failure Catalog
  | [], c => .ok c
  | path :: paths, c =>
    match c.load files path with
    | (.error error, _) => .error { file := some path, error }
    | (.ok _, c) => loadFiles files paths c

/-- The catalog that the options choose. -/
def catalog (o : Options) (files : Files) : Except Failure Catalog :=
  loadFiles files o.catalogs (baseCatalog o)

/-- What a run decides. The request is read before any file is. -/
def execute (o : Options) (files : Files) : Except Failure Outcome :=
  let switches : Switches := ⟨o.switches⟩
  if switches.isEmpty then .ok .usage
  else
    match Request.ofSwitches switches with
    | .error error => .error { error }
    | .ok request =>
      match catalog o files with
      | .error f => .error f
      | .ok c =>
        match request.diagram c.resolve with
        | .error error => .error { error }
        | .ok script => .ok (.diagram script)

/-! ### The log of a run -/

/-- The events of building the catalog that the options choose. -/
def catalogEvents (o : Options) (files : Files) : List Log.Event :=
  (if o.noBuiltin then [] else Builtin.types.map Journal.entry) ++
    Journal.filesLoaded files o.catalogs ++
    match catalog o files with
    | .error _ => []
    | .ok c => [Journal.catalogReady c]

/-- What happens in a whole run. -/
def occurrences (o : Options) (files : Files) : List Log.Occurrence :=
  let switches : Switches := ⟨o.switches⟩
  if switches.isEmpty then []
  else
    (Journal.requestRead switches).map .alone ++
      match Request.ofSwitches switches with
      | .error _ => []
      | .ok request =>
        (Journal.requestParsed request :: catalogEvents o files).map .alone ++
          match catalog o files with
          | .error _ => []
          | .ok c => Journal.diagramMade c.resolve request.settings request.roots

/-! ### Reports -/

/-- All that a run shows. -/
structure Report where
  exitCode : Nat
  /-- What is printed. -/
  output : String := ""
  /-- What is told about the run, log lines aside. -/
  notices : String := ""
  /-- How log lines are written. -/
  logFormat : Log.Format := .compact
  log : List Log.Event := []
deriving DecidableEq

/-- The notice of a log that cannot be set up. -/
def logNotice (fault : String) : String :=
  "Warning: Failed to initialize logging: " ++ fault ++ "\n"

/-- The notice of a failure. -/
def failureNotice (f : Failure) : String := "Error: " ++ f.message ++ "\n"

/-- The notice of a log that cannot be set up, where that is so. -/
def warning (o : Options) (env : Log.Environment) : String :=
  match Log.Setup.decide env o.logLevel o.logFormat with
  | .error fault => logNotice fault
  | .ok _ => ""

/-- The format and the events of the log. A log that cannot be set up is left out, and the run goes
on. -/
def log (o : Options) (env : Log.Environment) (files : Files) : Log.Format × List Log.Event :=
  match Log.Setup.decide env o.logLevel o.logFormat with
  | .error _ => (.compact, [])
  | .ok setup => (setup.format, setup.shown (occurrences o files))

/-- What a run with these options shows. -/
def report (o : Options) (env : Log.Environment) (files : Files) : Report :=
  match execute o files with
  | .ok outcome =>
    { exitCode := 0
      output := outcome.printed
      notices := warning o env
      logFormat := (log o env files).1
      log := (log o env files).2 }
  | .error f =>
    { exitCode := 1
      notices := warning o env ++ failureNotice f
      logFormat := (log o env files).1
      log := (log o env files).2 }

/-- What a run that ends with its options shows. -/
def faultReport : OptionFault → Report
  | .helpWanted => { exitCode := 0, output := Options.help }
  | .versionWanted => { exitCode := 0, output := name ++ " " ++ version ++ "\n" }
  | fault => { exitCode := 2, notices := fault.notice }

/-- What a run shows. -/
def run (words : List String) (env : Log.Environment) (files : Files) : Report :=
  match Options.ofWords words with
  | .ok o => report o env files
  | .error fault => faultReport fault

end Command

end ClassDiagram
