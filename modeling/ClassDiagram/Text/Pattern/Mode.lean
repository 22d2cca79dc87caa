import ClassDiagram.Text.Pattern

/-!
# Modes of Written Patterns

What the signs of a written pattern mean hangs on a `Mode`, which the pattern itself may change on
the way by letters such as `i` or `s`. Characters are those of Unicode at first, of which neither
the cases nor the words are known; with the letter `u` switched off, patterns are about ASCII, and
what could match another character is mostly refused.
-/

namespace ClassDiagram.Text.Pattern

/-- How a written pattern is understood. -/
structure Mode where
  /-- Letters stand for themselves in either case. -/
  anyCase : Bool := false
  /-- `^` and `$` stand for the start and the end of a line. -/
  lines : Bool := false
  /-- A point stands for any character at all. -/
  anyPoint : Bool := false
  /-- Repetitions prefer fewer rounds, and more if a question mark follows. -/
  sparing : Bool := false
  /-- Characters are those of Unicode. -/
  unicode : Bool := true
  /-- Carriage returns end lines too. -/
  returns : Bool := false
  /-- Blanks and comments may stand between the signs. -/
  spaced : Bool := false
deriving DecidableEq

namespace Mode

/-- A letter that switches something on or off. Behind a hyphen letters switch off. -/
def switch? : Mode × Bool → Char → Option (Mode × Bool)
  | (m, on), 'i' => some ({ m with anyCase := on }, on)
  | (m, on), 'm' => some ({ m with lines := on }, on)
  | (m, on), 's' => some ({ m with anyPoint := on }, on)
  | (m, on), 'U' => some ({ m with sparing := on }, on)
  | (m, on), 'u' => some ({ m with unicode := on }, on)
  | (m, on), 'R' => some ({ m with returns := on }, on)
  | (m, on), 'x' => some ({ m with spaced := on }, on)
  | (m, _), '-' => some (m, false)
  | _, _ => none

/-- The mode behind some letters, none of which may come twice. A hyphen must have a letter behind
it. -/
def switched? (m : Mode) (letters : List Char) : Option Mode :=
  if letters.Nodup ∧ letters.getLast? ≠ some '-' then
    (letters.foldlM switch? (m, true)).map (·.1)
  else none

/-! ### What signs mean -/

/-- The set that some characters stand for. -/
def members? (m : Mode) (s : CharSet) : Option CharSet :=
  if !m.anyCase then some s else if m.unicode then none else some (.anyCase s)

/-- The set of all other characters, if a sign says so. -/
def negated? (m : Mode) (negated : Bool) (s : CharSet) : Option CharSet :=
  if !negated then some s else if m.unicode then some (.complement s) else none

/-- The set that a character stands for. `byte` says whether two digits spell it. -/
def character? (m : Mode) (c : Char) (byte : Bool) : Option CharSet :=
  if byte && !m.unicode && 0x80 ≤ c.toNat then none else m.members? (.single c)

/-- The set between two characters, both ends included. -/
def range? (m : Mode) (first last : Char) : Option CharSet :=
  if last < first ∨ (!m.unicode && 0x80 ≤ last.toNat) then none
  else m.members? (.range first last)

/-- The set that a letter behind a backslash stands for. -/
def set? (m : Mode) (negated : Bool) (s : CharSet) : Option CharSet :=
  if m.unicode || negated then none else m.members? s

/-- The set that a point stands for. -/
def point? (m : Mode) : Option CharSet :=
  if !m.unicode then none
  else if m.anyPoint then some .all
  else some (.complement (if m.returns then .ofList ['\r', '\n'] else .single '\n'))

/-- The place that a sign stands for. -/
def place? (m : Mode) (p : Place) : Option Place :=
  match p with
  | .wordStart | .wordEnd | .wordBorder | .noWordBorder => if m.unicode then none else some p
  | _ => some p

/-- The place that `^` stands for. -/
def start (m : Mode) : Place := if m.lines then .lineStart m.returns else .textStart

/-- The place that `$` stands for. -/
def finish (m : Mode) : Place := if m.lines then .lineEnd m.returns else .textEnd

end Mode

end ClassDiagram.Text.Pattern
