import ClassDiagram.Log.Directive.Reader

/-!
# Log Filters

A filter is a list of directives between commas. An event is let through by its own directives
(`Filter.passesAlone`): of those about it, the one that is about it most closely counts, and of two
alike the later one. An event that happens in a span is let through also by the directives about the
span (`Filter.within`): of those whose values the span has, the widest threshold counts. Spans are
told at a level of their own, and a filter that lets nothing of that level through sees no spans
(`Filter.seesSpans`).
-/

namespace ClassDiagram.Log

/-- A list of directives. -/
abbrev Filter := List Directive

namespace Filter

/-- The filter that a text spells, if all of its directives are ones. -/
def ofText? (text : String) : Option Filter :=
  ((text.splitOn ",").filter (· ≠ "")).mapM Directive.ofText?

/-! ### Single events -/

/-- The directive that counts for an event. -/
def chosen? (f : Filter) (e : Event) : Option Directive :=
  (f.filter (·.covers e)).foldl
    (fun best d => if best.all (·.yieldsTo d) then some d else best) none

/-- Whether an event is let through by the directives about it. -/
def passesAlone (f : Filter) (e : Event) : Bool :=
  (f.chosen? e).any fun d => d.threshold.passes e.level

/-! ### Spans -/

/-- The directives that no later one replaces. -/
def current : Filter → Filter
  | [] => []
  | d :: f => if f.any d.sameScope then current f else d :: current f

/-- The threshold in a span. -/
def within (f : Filter) (s : Span) : Threshold :=
  Threshold.widest ((f.current.filter fun d => d.concerns s && d.holdsIn s).map (·.threshold))

/-- The widest threshold that anything may have. What a condition lets through shows only when the
values are there. -/
def widest (f : Filter) : Threshold :=
  if f.any (·.hasCondition) then .upTo .trace else Threshold.widest (f.map (·.threshold))

/-- Whether spans are told at all. -/
def seesSpans (f : Filter) : Bool := f.widest.passes Span.level

/-- Whether an event is let through, by the directives about it or by those about its span. -/
def passes (f : Filter) (o : Occurrence) : Bool :=
  f.passesAlone o.event ||
    f.seesSpans && o.span.any fun s => (f.within s).passes o.event.level

end Filter

end ClassDiagram.Log
