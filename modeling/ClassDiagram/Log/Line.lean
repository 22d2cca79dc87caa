import ClassDiagram.Log.Event
import ClassDiagram.Log.Format

/-!
# Log Lines

The written forms of a log event: one line of words, a short paragraph, or one JSON record.
-/

namespace ClassDiagram.Log

/-! ### JSON -/

/-- A hexadecimal digit. -/
def hexDigit (n : Nat) : Char :=
  if n < 10 then Char.ofNat ('0'.toNat + n) else Char.ofNat ('a'.toNat + n - 10)

/-- A character inside a JSON text. -/
def jsonChar (c : Char) : List Char :=
  if c = '"' then ['\\', '"']
  else if c = '\\' then ['\\', '\\']
  else if c = '\n' then ['\\', 'n']
  else if c = '\r' then ['\\', 'r']
  else if c = '\t' then ['\\', 't']
  else if c.toNat < 0x20 then
    ['\\', 'u', '0', '0', hexDigit (c.toNat / 16), hexDigit (c.toNat % 16)]
  else [c]

/-- A text as a JSON string. -/
def jsonText (s : String) : String := String.ofList ('"' :: s.toList.flatMap jsonChar ++ ['"'])

/-- A JSON record with members whose values are written already. -/
def jsonRecord (members : List (String × String)) : String :=
  "\x7b" ++ ",".intercalate (members.map fun m => jsonText m.1 ++ ":" ++ m.2) ++ "\x7d"

/-- The written form of a value, which is its JSON form everywhere. -/
def Value.written : Value → String
  | text s => jsonText s
  | number n => toString n

namespace Event

/-- An event on one line. -/
def compactLine (e : Event) : String :=
  " ".intercalate
    (e.level.name :: e.message :: e.fields.map fun f => f.1 ++ "=" ++ f.2.written) ++ "\n"

/-- An event on a line of its own and one line for each of its fields. -/
def prettyLines (e : Event) : String :=
  e.level.name ++ " " ++ e.component.path ++ ": " ++ e.message ++ "\n" ++
    String.join (e.fields.map fun f => "    " ++ f.1 ++ ": " ++ f.2.written ++ "\n")

/-- An event as a JSON record on one line. -/
def jsonLine (e : Event) : String :=
  jsonRecord
    [("level", jsonText e.level.name),
      ("fields", jsonRecord
        (("message", jsonText e.message) :: e.fields.map fun f => (f.1, f.2.written))),
      ("target", jsonText e.component.path)] ++ "\n"

end Event

/-- An event in a format. -/
def Format.line : Format → Event → String
  | compact, e => e.compactLine
  | pretty, e => e.prettyLines
  | json, e => e.jsonLine

end ClassDiagram.Log
