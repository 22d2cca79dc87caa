import ClassDiagram.Error
import ClassDiagram.Text.Integer

/-!
# Switches

A command line of switches is a flat list of words. A switch is looked up by its exact spelling,
its first occurrence counts wherever it stands, and its value is read from the words behind it:
`rest?` is that tail, and `integer`, `text` and `list` each read it in their own way.
-/

namespace ClassDiagram

/-- The words of a command line that carry switches and their values. -/
structure Switches where
  words : List String
deriving DecidableEq

/-- How many words a list switch may take. -/
inductive ListBound
  | unbounded
  | atMost (n : Nat)
deriving DecidableEq

namespace ListBound

/-- Whether a list of so many words may get another one. -/
def allows : ListBound → Nat → Bool
  | unbounded, _ => true
  | atMost n, taken => taken < n

/-- Goes through words and adds them to the items, up to the first that is not allowed. -/
def gather (bound : ListBound) (items : List String) : List String → List String
  | [] => items
  | w :: ws => if bound.allows items.length then bound.gather (items ++ [w]) ws else items

end ListBound

namespace Switches

/-- The words behind the first occurrence of a word. -/
def wordsAfter (switch : String) : List String → Option (List String)
  | [] => none
  | w :: ws => if w = switch then some ws else wordsAfter switch ws

/-- The words behind the first occurrence of a switch, or `none` where it is absent. -/
def rest? (s : Switches) (switch : String) : Option (List String) := wordsAfter switch s.words

/-- Whether a switch occurs at all. -/
def has (s : Switches) (switch : String) : Bool := (s.rest? switch).isSome

/-- Whether there are no words at all. -/
def isEmpty (s : Switches) : Bool := s.words.isEmpty

/-- The integer behind a switch, or `default` where the switch is absent. -/
def integer (s : Switches) (switch : String) (default : Int) : Except Error Int :=
  match s.rest? switch with
  | none => .ok default
  | some [] => .error (.missingValue switch)
  | some (w :: _) =>
    match Text.int32? w with
    | some n => .ok n
    | none => .error (.notAnInteger switch)

/-- The word behind a switch, or all words behind it joined by single spaces; `default` where the
switch is absent. -/
def text (s : Switches) (switch : String) (default : Option String) (joined : Bool) :
    Except Error (Option String) :=
  match s.rest? switch with
  | none => .ok default
  | some [] => .error (.missingValue switch)
  | some (w :: ws) => .ok (some (if joined then " ".intercalate (w :: ws) else w))

/-- The words behind a switch that must be given, at least one of them and as many as the bound
allows. -/
def list (s : Switches) (switch : String) (bound : ListBound) : Except Error (List String) :=
  match s.rest? switch with
  | none => .error (.expectedParameter switch)
  | some ws =>
    match bound.gather [] ws with
    | [] => .error (.missingValue switch)
    | taken => .ok taken

end Switches

end ClassDiagram
