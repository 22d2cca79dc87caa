import ClassDiagram.Text.CharSet

/-!
# Patterns of Texts

A `Pattern` is a regular expression with ordered choices: of two ways to match, the one that is
written first is preferred, and a repetition says whether it prefers more or fewer rounds. A text is
searched from its front for the first place at which the pattern matches, and the preferred match at
that place is the one that counts. `Pattern.accepts` holds of the texts to whose end that match
goes.
-/

namespace ClassDiagram.Text

/-- A place in a text, told by the characters around it. -/
inductive Place
  | textStart
  | textEnd
  /-- The start of a line. If `returns`, a carriage return ends a line too, but no line ends or
  starts between a carriage return and a line feed behind it. -/
  | lineStart (returns : Bool)
  | lineEnd (returns : Bool)
  | wordStart
  | wordEnd
  /-- The start or the end of a word. -/
  | wordBorder
  | noWordBorder
deriving DecidableEq

namespace Place

/-- Whether a character, if there is one, belongs to a word. -/
def inWord (c : Option Char) : Bool := c.any CharSet.wordLetters.contains

/-- Whether a place is where the characters in front of it and behind it are those, if there are
any. -/
def holds (before after : Option Char) : Place → Bool
  | textStart => before.isNone
  | textEnd => after.isNone
  | lineStart returns =>
    before.isNone || before = some '\n' || (returns && before = some '\r' && after ≠ some '\n')
  | lineEnd false => after.isNone || after = some '\n'
  | lineEnd true =>
    after.isNone || after = some '\r' || (after = some '\n' && before ≠ some '\r')
  | wordStart => !inWord before && inWord after
  | wordEnd => inWord before && !inWord after
  | wordBorder => inWord before != inWord after
  | noWordBorder => inWord before == inWord after

end Place

/-- A regular expression. -/
inductive Pattern
  | empty
  | oneOf (set : CharSet)
  | place (p : Place)
  | seq (p q : Pattern)
  | choice (p q : Pattern)
  /-- One round or more; `greedy` says whether more rounds are preferred to fewer. -/
  | plus (p : Pattern) (greedy : Bool)
deriving DecidableEq

namespace Pattern

/-- One round or none. -/
def optional (p : Pattern) (greedy : Bool) : Pattern :=
  if greedy then choice p empty else choice empty p

/-- Any number of rounds. -/
def star (p : Pattern) (greedy : Bool) : Pattern := optional (plus p greedy) greedy

/-! ### Beginnings of matches -/

/-- A way to go on from a place: a character of a set comes, and then what the pattern matches. -/
structure Step where
  set : CharSet
  rest : Pattern

/-- What is left to match behind a character, if that is the one that comes. -/
def Step.after? (c : Char) (s : Step) : Option Pattern :=
  if s.set.contains c then some s.rest else none

/-- The ways to begin a match at a place, the preferred ones first. -/
structure Beginnings where
  steps : List Step
  /-- If a match may end at once: the ways that are less preferred than that. -/
  others : Option (List Step) := none

namespace Beginnings

/-- No match begins. -/
def never : Beginnings := { steps := [] }

/-- A match ends at once. -/
def atOnce : Beginnings := { steps := [], others := some [] }

/-- Whether a match may end at once. -/
def isDone (b : Beginnings) : Bool := b.others.isSome

/-- The ways of the first, then those of the second. To end at once a second time is no way of its
own. -/
def orElse (a b : Beginnings) : Beginnings :=
  match a.others with
  | none => { steps := a.steps ++ b.steps, others := b.others }
  | some others => { a with others := some (others ++ b.steps ++ b.others.getD []) }

/-- The ways to begin a match of one pattern with another one behind it, of which `after` are the
ways to begin. -/
def andThen (b : Beginnings) (q : Pattern) (after : Beginnings) : Beginnings :=
  let behind := List.map fun s : Step => { s with rest := seq s.rest q }
  match b.others with
  | none => { steps := behind b.steps }
  | some others =>
    orElse (orElse { steps := behind b.steps } after) { steps := behind others }

end Beginnings

/-- The ways in which a match of a pattern may begin between two characters, if there are any. A
round of a repetition that takes no character is the last one. -/
def beginnings (before after : Option Char) : Pattern → Beginnings
  | empty => .atOnce
  | oneOf set => { steps := [{ set, rest := empty }] }
  | place p => if p.holds before after then .atOnce else .never
  | seq p q => (beginnings before after p).andThen q (beginnings before after q)
  | choice p q => (beginnings before after p).orElse (beginnings before after q)
  | plus p greedy => (beginnings before after p).andThen (star p greedy) .atOnce

/-! ### Search -/

/-- Whether the match that counts goes to the end of a text, in front of which stands `before`. Of
the matches that have begun, `begun` holds what is left to match, the preferred ones first; others
may begin here if `searching`. A match that ends before the end of the text puts an end to all that
are less preferred. -/
def search (p : Pattern) (searching : Bool) (before : Option Char) (begun : List Pattern) :
    List Char → Bool
  | [] =>
    let all := if searching then begun ++ [p] else begun
    all.any fun q => (q.beginnings before none).isDone
  | c :: cs =>
    let all := if searching then begun ++ [p] else begun
    let ways := all.foldr (fun q ways => (q.beginnings before (some c)).orElse ways) .never
    search p (searching && !ways.isDone) (some c) (ways.steps.filterMap (·.after? c)) cs

/-- Whether the first match of a pattern in a text goes to the end of the text. -/
def accepts (p : Pattern) (s : String) : Bool := search p true none [] s.toList

end Pattern

end ClassDiagram.Text
