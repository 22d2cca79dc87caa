import ClassDiagram.Text.Quoted

/-!
# Faults of a JSON Text

A reader that knows what it wants stops at the first thing that does not fit, whether the text is
no JSON there or holds a value of the wrong shape. `Fault` lists what can stop it and
`Fault.message` words it.
-/

namespace ClassDiagram.Json

/-- A value of another type than the one that is wanted. -/
inductive Found
  | null
  | boolean (value : Bool)
  | integer (value : Int)
  /-- A number with a fraction or an exponent, or too large for an integer, in its written form. -/
  | decimal (written : String)
  | text (value : String)
  | sequence
  | map
deriving DecidableEq

/-- How an error text names a value. -/
def Found.describe : Found → String
  | .null => "null"
  | .boolean value => "boolean `" ++ (if value then "true" else "false") ++ "`"
  | .integer value => "integer `" ++ toString value ++ "`"
  | .decimal written => "floating point `" ++ written ++ "`"
  | .text value => "string " ++ Text.quoted value
  | .sequence => "sequence"
  | .map => "map"

/-- The first thing in a text that does not fit. -/
inductive Fault
  /-- The text ends where a value has to begin or inside a word or a number. -/
  | endOfValue
  /-- The text ends inside a list. -/
  | endOfList
  /-- The text ends inside an object. -/
  | endOfObject
  /-- The text ends inside a string. -/
  | endOfText
  | expectedValue
  /-- A word that begins like `true`, `false` or `null` and goes on otherwise. -/
  | expectedWord
  | expectedColon
  | expectedCommaOrBracket
  | expectedCommaOrBrace
  | keyNotText
  | trailingComma
  | trailingCharacters
  | invalidNumber
  | numberOutOfRange
  | invalidEscape
  /-- A low surrogate that follows no high one, or a high one that another unit follows. -/
  | loneSurrogate
  /-- A high surrogate that no unit follows. -/
  | unfinishedSurrogate
  | controlCharacter
  | duplicateField (key : String)
  | missingField (key : String)
  | unknownVariant (given : String) (known : List String)
  /-- A record written as a list that is too short. -/
  | invalidLength (given : Nat) (title : String) (wanted : Nat)
  | invalidType (found : Found) (wanted : String)
deriving DecidableEq

/-- A name as error texts show it. -/
def backquoted (name : String) : String := "`" ++ name ++ "`"

/-- The text that reports a fault. -/
def Fault.message : Fault → String
  | .endOfValue => "EOF while parsing a value"
  | .endOfList => "EOF while parsing a list"
  | .endOfObject => "EOF while parsing an object"
  | .endOfText => "EOF while parsing a string"
  | .expectedValue => "expected value"
  | .expectedWord => "expected ident"
  | .expectedColon => "expected `:`"
  | .expectedCommaOrBracket => "expected `,` or `]`"
  | .expectedCommaOrBrace => "expected `,` or `\x7d`"
  | .keyNotText => "key must be a string"
  | .trailingComma => "trailing comma"
  | .trailingCharacters => "trailing characters"
  | .invalidNumber => "invalid number"
  | .numberOutOfRange => "number out of range"
  | .invalidEscape => "invalid escape"
  | .loneSurrogate => "lone leading surrogate in hex escape"
  | .unfinishedSurrogate => "unexpected end of hex escape"
  | .controlCharacter => "control character (\\u0000-\\u001F) found while parsing a string"
  | .duplicateField key => "duplicate field " ++ backquoted key
  | .missingField key => "missing field " ++ backquoted key
  | .unknownVariant given known =>
    "unknown variant " ++ backquoted given ++ ", expected one of " ++
      ", ".intercalate (known.map backquoted)
  | .invalidLength given title wanted =>
    "invalid length " ++ toString given ++ ", expected struct " ++ title ++ " with " ++
      toString wanted ++ " elements"
  | .invalidType found wanted => "invalid type: " ++ found.describe ++ ", expected " ++ wanted

/-! ### Readings that succeed -/

theorem map_ok {α β : Type} {f : α → β} {x : Except Fault α} {b : β} (h : x.map f = .ok b) :
    ∃ a, x = .ok a ∧ f a = b := by
  cases x with
  | error e => simp [Except.map] at h
  | ok a => exact ⟨a, rfl, by simpa [Except.map] using h⟩

theorem bind_ok {α β : Type} {x : Except Fault α} {f : α → Except Fault β} {b : β}
    (h : x >>= f = .ok b) : ∃ a, x = .ok a ∧ f a = .ok b := by
  cases x with
  | error e => simp [bind, Except.bind] at h
  | ok a => exact ⟨a, rfl, h⟩

end ClassDiagram.Json
