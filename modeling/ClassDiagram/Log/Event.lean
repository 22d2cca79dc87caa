import ClassDiagram.Log.Level

/-!
# Log Events

What a run tells about its progress. Each event names the component that tells it, so that filters
can choose by component. A `Span` is a stretch of work, and an `Occurrence` an event together with
the span in which it happens.
-/

namespace ClassDiagram.Log

/-- A value in an event. -/
inductive Value
  | text (s : String)
  | number (n : Nat)
deriving DecidableEq

/-- The part of the program that an event comes from. -/
inductive Component
  | switches
  | catalog
  | collector
  | renderer
  | command
deriving DecidableEq

/-- The path by which filters choose a component. -/
def Component.path : Component → String
  | .switches => "umlscope::core::switches"
  | .catalog => "umlscope::catalog"
  | .collector => "umlscope::diagram::collector"
  | .renderer => "umlscope::diagram::plantuml"
  | .command => "umlscope::cli"

/-- Something worth telling. -/
structure Event where
  level : Level
  component : Component
  message : String
  fields : List (String × Value) := []
deriving DecidableEq

/-- The names of what an event tells; its message is told by name too. -/
def Event.names (e : Event) : List String := "message" :: e.fields.map (·.1)

/-- A stretch of work, with what it works on. -/
structure Span where
  name : String
  component : Component
  fields : List (String × Value)
deriving DecidableEq

/-- The level at which spans are told. -/
def Span.level : Level := .info

/-- An event, and the span in which it happens if there is one. -/
structure Occurrence where
  event : Event
  span : Option Span := none
deriving DecidableEq

namespace Occurrence

/-- An event that happens in no span. -/
def alone (e : Event) : Occurrence := { event := e }

/-- An event that happens in a span. -/
def within (s : Span) (e : Event) : Occurrence := { event := e, span := some s }

end Occurrence

end ClassDiagram.Log
