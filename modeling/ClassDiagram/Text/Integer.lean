/-!
# Integers

`int32?` reads an optional sign and one or more ASCII digits, and nothing else. A value that does
not fit into 32 bits is no integer: it is refused, never wrapped or clamped. `unsigned?` reads
natural numbers, in front of which there may be a plus sign. `hexDigit?` is for the numbers that are
written in hexadecimal digits.
-/

namespace ClassDiagram.Text

/-- An ASCII decimal digit. -/
def isDigit (c : Char) : Bool := '0' ≤ c && c ≤ '9'

/-- The value of a digit; other characters have no meaning here. -/
def digitValue (c : Char) : Nat := c.toNat - '0'.toNat

/-- The value of a hexadecimal digit of either case. -/
def hexDigit? (c : Char) : Option Nat :=
  if '0' ≤ c ∧ c ≤ '9' then some (c.toNat - '0'.toNat)
  else if 'a' ≤ c ∧ c ≤ 'f' then some (c.toNat - 'a'.toNat + 10)
  else if 'A' ≤ c ∧ c ≤ 'F' then some (c.toNat - 'A'.toNat + 10)
  else none

/-- The value of a run of digits, the most significant first. -/
def decimalValue (digits : List Char) : Nat :=
  digits.foldl (fun n c => 10 * n + digitValue c) 0

/-- The value of a text that consists of one or more digits. -/
def natural? (digits : List Char) : Option Nat :=
  if digits ≠ [] ∧ digits.all isDigit then some (decimalValue digits) else none

/-- The least number that 64 bits cannot hold. -/
def limit64 : Nat := 0x10000000000000000

/-- The value of a text that is a natural number behind at most one plus sign. -/
def unsigned? : List Char → Option Nat
  | '+' :: digits => natural? digits
  | digits => natural? digits

/-- The value of a text that is a natural number behind at most one sign. -/
def integer? : List Char → Option Int
  | '-' :: digits => (natural? digits).map fun n => -(n : Int)
  | '+' :: digits => (natural? digits).map fun n => (n : Int)
  | digits => (natural? digits).map fun n => (n : Int)

/-- The integers that 32 bits hold in two's complement. -/
def Fits32 (n : Int) : Prop := -2147483648 ≤ n ∧ n ≤ 2147483647

instance (n : Int) : Decidable (Fits32 n) := inferInstanceAs (Decidable (_ ∧ _))

/-- The 32-bit integer that a word spells, if it spells one. -/
def int32? (word : String) : Option Int := (integer? word.toList).filter (Fits32 ·)

end ClassDiagram.Text
