import ClassDiagram.Log.Filter
import ClassDiagram.Log.Format

/-!
# Setting Up the Log

Options and environment together decide how log lines are written and which events are let through
(`Setup.decide`). What the environment says about level or format goes before the options. The
filter of the environment goes before the level, except that the level `off` turns the log off
whatever the filter says.
-/

namespace ClassDiagram.Log

/-- What the environment says about the log. -/
structure Environment where
  /-- The value of `UMLSCOPE_LOG_LEVEL`. -/
  level : Option String := none
  /-- The value of `UMLSCOPE_LOG_FORMAT`. -/
  format : Option String := none
  /-- The value of `RUST_LOG`. -/
  filter : Option String := none
deriving DecidableEq

/-- A log that is set up: how lines are written, and what is let through. -/
structure Setup where
  format : Format
  filter : Filter
deriving DecidableEq

namespace Setup

/-- The level that counts, with the one that the options choose. -/
def levelText (env : Environment) (chosen : Threshold) : String :=
  (env.level <|> env.filter).getD chosen.word

/-- The filter that a level stands for; a level that is no filter lets warnings through. -/
def filterOfLevel (level : String) : Filter :=
  (Filter.ofText? level).getD [{ threshold := .upTo .warn }]

/-- The filter that counts. -/
def filterOf (env : Environment) (chosen : Threshold) : Filter :=
  let level := levelText env chosen
  if level = Threshold.off.word then []
  else (env.filter.bind Filter.ofText?).getD (filterOfLevel level)

/-- The log that environment and options decide on, or the text that says why there is none. -/
def decide (env : Environment) (level : Threshold) (format : Format) : Except String Setup :=
  match Format.ofName (env.format.getD format.word) with
  | .error fault => .error (Format.setupFault fault)
  | .ok format => .ok { format, filter := filterOf env level }

/-- The events that are let through. -/
def shown (s : Setup) (occurrences : List Occurrence) : List Event :=
  (occurrences.filter s.filter.passes).map (·.event)

end Setup

end ClassDiagram.Log
