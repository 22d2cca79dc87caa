import ClassDiagram.Text.Integer

/-!
# Log Levels

An event has a `Level`; a `Threshold` lets through the events of its level and of all more severe
ones, or none.
-/

namespace ClassDiagram.Log

/-- How much an event matters, from most to least. -/
inductive Level
  | error
  | warn
  | info
  | debug
  | trace
deriving DecidableEq

namespace Level

/-- The name of a level in log lines. -/
def name : Level → String
  | error => "ERROR"
  | warn => "WARN"
  | info => "INFO"
  | debug => "DEBUG"
  | trace => "TRACE"

/-- The place of a level in the order from most to least. -/
def rank : Level → Nat
  | error => 1
  | warn => 2
  | info => 3
  | debug => 4
  | trace => 5

end Level

/-- Which levels are let through. -/
inductive Threshold
  | off
  | upTo (level : Level)
deriving DecidableEq

namespace Threshold

/-- Every threshold, from the widest to the narrowest. -/
def all : List Threshold :=
  [.upTo .trace, .upTo .debug, .upTo .info, .upTo .warn, .upTo .error, .off]

/-- The word for a threshold. -/
def word : Threshold → String
  | off => "off"
  | upTo .error => "error"
  | upTo .warn => "warn"
  | upTo .info => "info"
  | upTo .debug => "debug"
  | upTo .trace => "trace"

/-- The rank of the least severe level that is let through. -/
def rank : Threshold → Nat
  | off => 0
  | upTo level => level.rank

/-- Whether a level is let through. -/
def passes (t : Threshold) (level : Level) : Bool := level.rank ≤ t.rank

/-- The threshold of a word, spelt exactly. -/
def ofWord? (w : String) : Option Threshold := all.find? (·.word = w)

/-- The threshold of a rank. -/
def ofRank? (n : Nat) : Option Threshold := all.find? (·.rank = n)

/-- The threshold of a word in any case, or of a rank in decimal digits. -/
def ofText? (s : String) : Option Threshold :=
  match Text.unsigned? s.toList with
  | some n => ofRank? n
  | none => ofWord? s.toLower

/-- The wider of two thresholds. -/
def max (t u : Threshold) : Threshold := if t.rank < u.rank then u else t

/-- The widest of some thresholds. -/
def widest (ts : List Threshold) : Threshold := ts.foldl max off

end Threshold

end ClassDiagram.Log
