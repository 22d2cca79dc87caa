/-!
# Sets of Characters

A `CharSet` is made of ranges by the operations on sets. The sets that have a name of their own are
those of ASCII: `CharSet.ofName?` finds them.
-/

namespace ClassDiagram.Text

/-- The same letter of ASCII in the other case; any other character is left as it is. -/
def otherCase (c : Char) : Char := if c.isUpper then c.toLower else c.toUpper

/-- A set of characters. -/
inductive CharSet
  | empty
  /-- The characters between two others, both ends included. -/
  | range (first last : Char)
  | union (a b : CharSet)
  | inter (a b : CharSet)
  /-- What belongs to one of two sets and not to the other. -/
  | differ (a b : CharSet)
  | complement (a : CharSet)
  /-- The set together with the letters of ASCII that it holds in the other case. -/
  | anyCase (a : CharSet)
deriving DecidableEq

namespace CharSet

/-- Whether a character belongs to a set. -/
def contains : CharSet → Char → Bool
  | empty, _ => false
  | range first last, c => first ≤ c && c ≤ last
  | union a b, c => a.contains c || b.contains c
  | inter a b, c => a.contains c && b.contains c
  | differ a b, c => a.contains c != b.contains c
  | complement a, c => !a.contains c
  | anyCase a, c => a.contains c || a.contains (otherCase c)

/-- The set of one character. -/
def single (c : Char) : CharSet := range c c

/-- What belongs to one set and not to another. -/
def diff (a b : CharSet) : CharSet := inter a (complement b)

/-- All characters. -/
def all : CharSet := complement empty

/-- The set of some characters. -/
def ofList : List Char → CharSet
  | [] => empty
  | c :: cs => union (single c) (ofList cs)

/-! ### Sets with a name -/

/-- The digits. -/
def digits : CharSet := range '0' '9'

/-- The letters. -/
def letters : CharSet := union (range 'a' 'z') (range 'A' 'Z')

/-- The letters and digits. -/
def alphanumerics : CharSet := union letters digits

/-- The characters of words. -/
def wordLetters : CharSet := union alphanumerics (single '_')

/-- The blank characters. -/
def blanks : CharSet := union (range '\t' '\r') (single ' ')

/-- The characters that are shown and are neither letters nor digits. -/
def punctuation : CharSet :=
  union (union (range '!' '/') (range ':' '@')) (union (range '[' '\x60') (range '\x7b' '~'))

/-- The set with a name. -/
def ofName? (name : String) : Option CharSet :=
  match name with
  | "alnum" => some alphanumerics
  | "alpha" => some letters
  | "ascii" => some (range '\x00' '\x7f')
  | "blank" => some (ofList ['\t', ' '])
  | "cntrl" => some (union (range '\x00' '\x1f') (single '\x7f'))
  | "digit" => some digits
  | "graph" => some (range '!' '~')
  | "lower" => some (range 'a' 'z')
  | "print" => some (range ' ' '~')
  | "punct" => some punctuation
  | "space" => some blanks
  | "upper" => some (range 'A' 'Z')
  | "word" => some wordLetters
  | "xdigit" => some (union digits (union (range 'a' 'f') (range 'A' 'F')))
  | _ => none

end CharSet

end ClassDiagram.Text
