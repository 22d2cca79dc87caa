import ClassDiagram.Decimal.Shortest
import ClassDiagram.Json.Lexeme

/-!
# What a Number Is

A number in a place where no number belongs is still read to its end, and the fault names its
value. Numbers without fraction and exponent are integers of 64 bits where they fit; all others are
floating-point numbers of double precision, made from a significand of 64 bits and a power of ten.
-/

namespace ClassDiagram.Json

/-- A number by its parts. -/
structure Numeral where
  negative : Bool
  whole : List Char
  fraction : List Char
  /-- The sign and the digits of the exponent, where there is one. -/
  exponent : Option (Bool × List Char)

/-- The digits at the front of a text. -/
def digitsOf (s : List Char) : List Char := s.takeWhile Text.isDigit

/-- One or more digits and the text behind them. -/
def readDigits1 (s : List Char) : Except Fault (List Char × List Char) :=
  match s with
  | [] => .error .endOfValue
  | c :: _ =>
    if Text.isDigit c then .ok (digitsOf s, skipDigits s) else .error .invalidNumber

/-- The parts of a number at the front of a text. -/
def readNumeral (s : List Char) : Except Fault Numeral := do
  let negative := s.head? == some '-'
  let (whole, s) ← readDigits1 (skipMinus s)
  if whole.head? = some '0' ∧ whole.length ≠ 1 then throw .invalidNumber
  let (fraction, s) ← match s with
    | '.' :: s => readDigits1 s
    | s => pure ([], s)
  let isExponent := s.head? == some 'e' || s.head? == some 'E'
  if !isExponent then return { negative, whole, fraction, exponent := none }
  let s := s.drop 1
  let (digits, _) ← readDigits1 (skipSign s)
  return { negative, whole, fraction, exponent := some (s.head? == some '-', digits) }

/-- Appends digits to a significand while 64 bits hold it; the second component is the number of
digits that found no place. -/
def appendDigits (significand : Nat) : List Char → Nat × Nat
  | [] => (significand, 0)
  | c :: cs =>
    let next := significand * 10 + Text.digitValue c
    if next < Text.limit64 then appendDigits next cs else (significand, cs.length + 1)

/-- The product of a number and a power of ten in double precision. Powers that double precision
cannot hold are divided off in steps; there is no infinite result. -/
def scaleByTen (x : Float) (e : Int) : Except Fault Float :=
  if h : e < -308 then
    if x == 0 then .ok x else scaleByTen (x / Float.ofScientific 1 false 308) (e + 308)
  else if e < 0 then .ok (x / Float.ofScientific 1 false (-e).toNat)
  else if e ≤ 308 then
    let y := x * Float.ofScientific 1 false e.toNat
    if y.isInf then .error .numberOutOfRange else .ok y
  else if x == 0 then .ok x
  else .error .numberOutOfRange
termination_by (-e).toNat
decreasing_by omega

/-- The floating-point number that a numeral stands for. Digits of the whole part beyond the
significand count as zeros, digits of the fraction beyond it not at all. -/
def Numeral.toFloat (n : Numeral) : Except Fault Float := do
  let (significand, missing) := appendDigits 0 n.whole
  let (significand, dropped) := appendDigits significand n.fraction
  let shift : Int := missing - (n.fraction.length - dropped : Nat)
  let (low, digits) := n.exponent.getD (false, [])
  let e := Text.decimalValue digits
  let x ←
    if 2147483647 < e then
      if significand ≠ 0 && !low then throw .numberOutOfRange else pure 0
    else scaleByTen (Float.ofNat significand) (if low then shift - e else shift + e)
  return if n.negative then -x else x

/-- An exponent of ten behind its letter, always with a sign. -/
def writeExponent (e : Int) : List Char :=
  'e' :: (if e < 0 then '-' else '+') :: Nat.toDigits 10 e.natAbs

/-- The written form of a floating-point number: positional from 0.00001 up to sixteen digits in
front of the point, and always with a fraction; otherwise with an exponent. -/
def writeFloat (x : Float) : String :=
  let bits : Nat := x.toBits.toNat
  let field : Nat := bits / Decimal.twoTo 52 % Decimal.twoTo 11
  let low : Nat := bits % Decimal.twoTo 52
  let mantissa : Nat := if field = 0 then low else Decimal.twoTo 52 + low
  let exponent : Int := if field = 0 then -1074 else field - 1075
  let sign := if bits / Decimal.twoTo 63 = 1 then "-" else ""
  if mantissa = 0 then sign ++ "0.0"
  else
    let r := Decimal.Rounding.ofBinary mantissa exponent (low = 0 && 1 < field)
    let s := r.shortest.getD ⟨0, 0⟩
    let (digits, zeros) := Decimal.trimZeros (Nat.toDigits 10 s.significand)
    -- the point stands behind this many digits
    let point : Int := digits.length + zeros + s.exponent
    let written :=
      if (digits.length : Int) ≤ point && point ≤ 16 then
        digits ++ List.replicate (point - digits.length).toNat '0' ++ ['.', '0']
      else if 0 < point && point ≤ 16 then
        digits.take point.toNat ++ ['.'] ++ digits.drop point.toNat
      else if -5 < point && point ≤ 0 then
        ['0', '.'] ++ List.replicate (-point).toNat '0' ++ digits
      else
        digits.take 1 ++ (if digits.length = 1 then [] else '.' :: digits.drop 1) ++
          writeExponent (point - 1)
    sign ++ String.ofList written

/-- The value of a numeral as an error text shows it. -/
def Numeral.found (n : Numeral) : Except Fault Found :=
  let value := Text.decimalValue n.whole
  if n.fraction = [] ∧ n.exponent = none ∧ !n.negative ∧ value < Text.limit64 then
    .ok (.integer value)
  else if
    n.fraction = [] ∧ n.exponent = none ∧ n.negative ∧ 0 < value ∧ value ≤ Decimal.twoTo 63
  then
    .ok (.integer (-value))
  else n.toFloat.map fun x => .decimal (writeFloat x)

end ClassDiagram.Json
