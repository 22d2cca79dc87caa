import ClassDiagram.Settings
import ClassDiagram.Switches

/-!
# Diagram Requests

What a list of switches asks for: `-d` the depth, `-v` the verbosity, and `-c` the requested types,
which takes all words behind it. The first fault in the order of `ofSwitches` is the one reported.
-/

namespace ClassDiagram

/-- The settings of a diagram and the types it is asked for. -/
structure Request where
  settings : Settings
  roots : List String
deriving DecidableEq

namespace Request

/-- The switch for the depth. -/
def depthSwitch : String := "-d"

/-- The switch for the verbosity. -/
def verbositySwitch : String := "-v"

/-- The switch for the requested types. -/
def typesSwitch : String := "-c"

/-- The request that a list of switches spells. All switches are read before any value is judged. -/
def ofSwitches (s : Switches) : Except Error Request := do
  let depth ← s.integer depthSwitch 1
  let verbosity ← s.integer verbositySwitch 0
  let roots ← s.list typesSwitch .unbounded
  let depth ← Settings.depthOfLevel depth
  let verbosity ← Verbosity.ofLevel verbosity
  return { settings := { depth, verbosity }, roots }

/-- The text printed where no switches are given. -/
def usage : String :=
  "\n".intercalate
    ["Usage: umlscope [OPTIONS] -d <depth> -v <verbosity> -c <type 1> <type 2> ... <type n>",
      "",
      "\t-d  The level of inheritance to include 0..n (default 1)",
      "\t-v  Members to show: 0 none, 1 first five, 2 all (default 0)",
      "\t-c  Fully-qualified type names; consumes the rest of the line",
      "",
      "Run with --help for catalog and logging options."]

end Request

end ClassDiagram
