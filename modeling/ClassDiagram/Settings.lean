import ClassDiagram.Error

/-!
# Settings of a Diagram

How far the collection of ancestors goes, how many members each type shows, and which universal
roots it never crosses.
-/

namespace ClassDiagram

/-- How many members of each sort a type shows. -/
inductive MemberLimit
  | none
  | atMost (n : Nat)
  | unbounded
deriving DecidableEq

/-- How many of the available members are shown. -/
def MemberLimit.clamp : MemberLimit → Nat → Nat
  | .none, _ => 0
  | .atMost n, available => min available n
  | .unbounded, available => available

/-- How much of its members a type shows. -/
inductive Verbosity
  | hidden
  | summary
  | full
deriving DecidableEq

namespace Verbosity

/-- The number that selects a verbosity on the command line. -/
def level : Verbosity → Int
  | hidden => 0
  | summary => 1
  | full => 2

/-- The written form of a verbosity, its level. -/
def display : Verbosity → String
  | hidden => "0"
  | summary => "1"
  | full => "2"

/-- The verbosity that a level selects. -/
def ofLevel (level : Int) : Except Error Verbosity :=
  if level = 0 then .ok hidden
  else if level = 1 then .ok summary
  else if level = 2 then .ok full
  else .error (.invalidValue "-v" "must be 0, 1 or 2")

/-- A summary shows the first five members of each sort. -/
def memberLimit : Verbosity → MemberLimit
  | hidden => .none
  | summary => .atMost 5
  | full => .unbounded

/-- Whether any members are shown. -/
def showsMembers (v : Verbosity) : Bool := v ≠ hidden

end Verbosity

/-- The settings of one diagram. -/
structure Settings where
  /-- The number of steps from a requested type up to its farthest ancestor in the diagram. -/
  depth : Nat := 1
  verbosity : Verbosity := .hidden
  /-- The types that every class descends from; no edge to them is drawn. -/
  universalRoots : List String := ["java.lang.Object", "java.lang.Enum"]
deriving DecidableEq

namespace Settings

/-- Whether a name is that of a universal root. -/
def isUniversalRoot (s : Settings) (name : String) : Bool := s.universalRoots.contains name

/-- The depth that a number on the command line selects. -/
def depthOfLevel (level : Int) : Except Error Nat :=
  if level < 0 then .error (.invalidValue "-d" "must be 0 or greater") else .ok level.toNat

end Settings

end ClassDiagram
