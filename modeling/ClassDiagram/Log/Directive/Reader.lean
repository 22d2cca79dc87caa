import ClassDiagram.Log.Directive
import ClassDiagram.Text.Numeral

/-!
# Written Directives

The written form of a directive is `target[span{field=value}]=level`. All parts may be left out, and
a word alone is a threshold if it spells one, else a target. What is not written lets everything
through.
-/

namespace ClassDiagram.Log

/-- Characters, each with its place: the number of bytes in front of it. -/
abbrev Located := List (Nat × Char)

/-- The characters of a text that begins at a place. -/
def located (start : Nat) : List Char → Located
  | [] => []
  | c :: cs => (start, c) :: located (start + c.utf8Size) cs

/-- The text of the characters from one place on. -/
def cutFrom (whole : Located) (start : Nat) : String :=
  String.ofList ((whole.filter fun p => start ≤ p.1).map (·.2))

/-- The text of the characters from one place up to another. -/
def cut (whole : Located) (start stop : Nat) : String :=
  String.ofList ((whole.filter fun p => start ≤ p.1 && p.1 < stop).map (·.2))

/-- A text without the blanks at its front and at its end. -/
def trimBlanks (s : List Char) : List Char :=
  ((s.dropWhile Text.isBlank).reverse.dropWhile Text.isBlank).reverse

namespace Directive

/-- A character with which a target may begin. -/
def beginsTarget (c : Char) : Bool :=
  c = '-' || c = ':' || c = '_' || Text.isAlphanumeric c

/-- The rest of a directive, from its threshold on. If there is nothing, everything is let
through. -/
def readThreshold? (whole : Located) (d : Directive) (start : Nat) : Option Directive :=
  let word := cutFrom whole start
  if word = "" then some d else (Threshold.ofText? word).map fun t => { d with threshold := t }

/-- The rest of a directive behind its brackets. -/
def readEnd? (whole : Located) (d : Directive) : Located → Option Directive
  | [] => some d
  | (place, '=') :: _ => readThreshold? whole d (place + 1)
  | _ => none

/-- The rest of a directive behind its opening brace, up to which there are `start` bytes. -/
def readField? (whole : Located) (d : Directive) (start : Nat) (rest : Located) :
    Option Directive :=
  match rest.dropWhile (·.2 ≠ '}') with
  | (stop, _) :: (_, ']') :: rest => do
    let field ← FieldChoice.ofText? (cut whole start stop)
    readEnd? whole { d with field := some field } rest
  | _ => none

/-- The rest of a directive behind its opening bracket, up to which there are `start` bytes. In
front of a brace there need be no name. -/
def readSpan? (whole : Located) (d : Directive) (start : Nat) (rest : Located) :
    Option Directive :=
  match rest.dropWhile fun p => p.2 ≠ ']' && p.2 ≠ '{' with
  | [] => none
  | (stop, c) :: rest =>
    let name := cut whole start stop
    if c = ']' then readEnd? whole { d with span := some name } rest
    else
      let d := if name = "" then d else { d with span := some name }
      readField? whole d (stop + 1) rest

/-- A directive that begins with a target or a threshold. -/
def readTarget? (whole rest : Located) : Option Directive :=
  match rest.dropWhile fun p => p.2 ≠ '=' && p.2 ≠ '[' with
  | [] =>
    let word := cutFrom whole 0
    some <| match Threshold.ofText? word with
      | some t => { threshold := t }
      | none => { target := some word }
  | (stop, c) :: rest =>
    let d : Directive := { target := some (cut whole 0 stop) }
    if c = '=' then readThreshold? whole d (stop + 1) else readSpan? whole d (stop + 1) rest

/-- The directive that a text spells, if it spells one. Places in it are counted from the first
character that is not blank, but what stands between two places is cut out of the whole text; so a
text that begins with a blank is hardly ever about anything, and a blank at the end belongs to the
last part. -/
def ofText? (text : String) : Option Directive :=
  let whole := located 0 text.toList
  match located 0 (trimBlanks text.toList) with
  | [] => none
  | (_, c) :: rest =>
    if c = '[' then readSpan? whole {} 1 rest
    else if beginsTarget c then readTarget? whole rest
    else none

end Directive

end ClassDiagram.Log
