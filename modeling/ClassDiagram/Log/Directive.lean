import ClassDiagram.Log.Condition

/-!
# Log Directives

A directive is a threshold for some of what happens. It may name a target, with which the paths of
the components that it is about begin, a span, and a field with or without a condition on its value.

A directive without a span and without a condition is about single events (`Directive.covers`). One
that names a span or a field is about all that happens in a span of that name or with that field
(`Directive.concerns`), as long as the values there meet the condition (`Directive.holdsIn`). One
with a field and neither span nor condition is about both.
-/

namespace ClassDiagram.Log

/-- A threshold for some of what happens. -/
structure Directive where
  target : Option String := none
  span : Option String := none
  field : Option FieldChoice := none
  threshold : Threshold := .upTo .trace
deriving DecidableEq

namespace Directive

/-- Whether a directive asks for a value. -/
def hasCondition (d : Directive) : Bool := d.field.any (·.condition.isSome)

/-- Whether a directive is about single events. -/
def isStatic (d : Directive) : Bool := d.span.isNone && !d.hasCondition

/-- Whether a directive is about what happens in spans. -/
def isDynamic (d : Directive) : Bool := d.span.isSome || d.field.isSome

/-- Whether the target of a directive begins the path of a component. -/
def targets (d : Directive) (c : Component) : Bool :=
  d.target.all fun t => t.toList.isPrefixOf c.path.toList

/-- Whether a directive is about an event. -/
def covers (d : Directive) (e : Event) : Bool :=
  d.isStatic && d.targets e.component && d.field.all fun f => e.names.contains f.name

/-- Whether a directive is about a span with some values in its fields. -/
def concerns (d : Directive) (s : Span) : Bool :=
  d.isDynamic && d.targets s.component && d.span.all (· = s.name) &&
    d.field.all fun f => s.fields.any (·.1 = f.name)

/-- Whether the values of a span are those that a directive asks for. -/
def holdsIn (d : Directive) (s : Span) : Bool :=
  d.field.all fun f => f.condition.all fun c => s.fields.any fun v => v.1 = f.name && c.holds v.2

/-- How closely a directive is about the components that it targets. -/
def weight (d : Directive) : Nat :=
  match d.target with
  | none => 0
  | some t => t.utf8ByteSize + 1

/-- Whether of two directives about an event the second one counts if it is the later one: a longer
target goes before a shorter one, a field before none, and a greater name of a field before a
smaller one. -/
def yieldsTo (d e : Directive) : Bool :=
  if d.weight ≠ e.weight then d.weight < e.weight
  else
    match d.field, e.field with
    | none, _ => true
    | some _, none => false
    | some f, some g => f.name ≤ g.name

/-- Whether two directives differ at most in their thresholds. -/
def sameScope (d e : Directive) : Bool :=
  d.target = e.target && d.span = e.span && d.field = e.field

end Directive

end ClassDiagram.Log
