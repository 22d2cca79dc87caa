/-!
# Log Formats

The ways in which log lines can be written. A format is chosen by its name in any case.
-/

namespace ClassDiagram.Log

/-- A way to write log lines. -/
inductive Format
  | compact
  | pretty
  | json
deriving DecidableEq

namespace Format

/-- Every format. -/
def all : List Format := [.compact, .pretty, .json]

/-- The name of a format. -/
def word : Format → String
  | compact => "compact"
  | pretty => "pretty"
  | json => "json"

/-- The format of a name, spelt exactly. -/
def ofWord? (w : String) : Option Format := all.find? (·.word = w)

/-- The format of a name in any case, or the text that says that there is none. -/
def ofName (name : String) : Except String Format :=
  match ofWord? name.toLower with
  | some f => .ok f
  | none => .error ("Unknown log format: " ++ name)

/-- The text for a format that logging cannot be set up with. -/
def setupFault (fault : String) : String := "Invalid log format: " ++ fault

end Format

end ClassDiagram.Log
