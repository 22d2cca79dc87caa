import ClassDiagram.Log.Event
import ClassDiagram.Text.Number
import ClassDiagram.Text.Pattern.Reader

/-!
# Conditions on Fields

A filter may choose by what the fields of a span hold. A `Condition` is a number that a field is to
have or a pattern that is to accept its text; a `FieldChoice` is the name of a field, with or
without a condition.
-/

namespace ClassDiagram.Log

/-- A condition on the value of a field. -/
inductive Condition
  | number (n : Nat)
  /-- The pattern accepts the text of the value. -/
  | accepted (written : String) (pattern : Text.Pattern)
  /-- A truth value or a number that is negative, broken or too large, which no field has. -/
  | other
deriving DecidableEq

namespace Condition

/-- Whether a value meets a condition. -/
def holds : Condition → Value → Bool
  | number n, .number m => n = m
  | accepted _ p, .text s => p.accepts s
  | _, _ => false

/-- The condition that a text spells, if it spells one. What is no truth value and no number is a
pattern. -/
def ofText? (text : String) : Option Condition :=
  match Text.unsigned? text.toList with
  | some n => some (if n < Text.limit64 then number n else other)
  | none =>
    if text = "true" ∨ text = "false" ∨ Text.isNumber text.toList then some other
    else (Text.Pattern.ofText? text).map (accepted text)

end Condition

/-- A field, and what is asked of its value if something is. -/
structure FieldChoice where
  name : String
  condition : Option Condition
deriving DecidableEq

/-- The choice of a field that a text spells: a name, or a name and a condition with an equals sign
in between. What stands behind a second equals sign is left out of account. -/
def FieldChoice.ofText? (text : String) : Option FieldChoice :=
  match text.splitOn "=" with
  | name :: value :: _ =>
    (Condition.ofText? value).map fun c => { name, condition := some c }
  | _ => if text = "" then none else some { name := text, condition := none }

end ClassDiagram.Log
