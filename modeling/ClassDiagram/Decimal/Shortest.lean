/-!
# The Shortest Decimal of a Binary Number

A binary floating-point number stands for all reals that round to it, an interval around its value.
`shortest` finds the decimal with the fewest digits in that interval, and of several such decimals
the one nearest to the value. All arithmetic is exact.
-/

namespace ClassDiagram.Decimal

/-- A power of two. -/
def twoTo (n : Nat) : Nat := Nat.pow 2 n

/-- A power of ten. -/
def tenTo (n : Nat) : Nat := Nat.pow 10 n

/-- The number `significand * 10 ^ exponent`. -/
structure Scaled where
  significand : Nat
  exponent : Int
deriving DecidableEq

/-- A positive value `value / unit` and the reals that round to it, from `low / unit` to
`high / unit`; the ends belong to them where `closed` holds. -/
structure Rounding where
  value : Nat
  low : Nat
  high : Nat
  unit : Nat
  closed : Bool

namespace Rounding

/-- The reals that round to `mantissa * 2 ^ exponent`. The neighbour below is only half as far away
where the mantissa is the least of its binade. -/
def ofBinary (mantissa : Nat) (exponent : Int) (least : Bool) : Rounding :=
  let scale := twoTo (exponent - 2).toNat
  { value := 4 * mantissa * scale
    low := (4 * mantissa - if least then 1 else 2) * scale
    high := (4 * mantissa + 2) * scale
    unit := twoTo (2 - exponent).toNat
    closed := mantissa % 2 = 0 }

/-- Whether `n * 10 ^ e` is among the reals that round to the value. -/
def holds (r : Rounding) (n : Nat) (e : Int) : Bool :=
  let point := n * tenTo e.toNat * r.unit
  let up := tenTo (-e).toNat
  if r.closed then r.low * up ≤ point && point ≤ r.high * up
  else r.low * up < point && point < r.high * up

/-- The exponent of the leading decimal digit of the value. -/
def leading (r : Rounding) : Int :=
  let whole := r.value / r.unit
  if 0 < whole then (Nat.toDigits 10 whole).length - 1
  else
    -- the fewest places that bring a digit in front of the point
    let places := ((List.range 400).find? fun k => r.unit ≤ r.value * tenTo k).getD 0
    Int.negOfNat places

/-- The multiple of `10 ^ e` nearest to the value among its two neighbours that round to it. -/
def onGrid? (r : Rounding) (e : Int) : Option Scaled :=
  let scaled := r.value * tenTo (-e).toNat
  let step := r.unit * tenTo e.toNat
  let below := scaled / step
  let above := below + 1
  match r.holds below e, r.holds above e with
  | true, true =>
    let twice := 2 * (scaled - below * step)
    if twice < step || (twice = step && below % 2 = 0) then some ⟨below, e⟩ else some ⟨above, e⟩
  | true, false => some ⟨below, e⟩
  | false, true => some ⟨above, e⟩
  | false, false => none

/-- The decimal with the fewest digits that rounds to the value. Seventeen digits always suffice
for a number of double precision. -/
def shortest (r : Rounding) : Option Scaled :=
  (List.range 17).findSome? fun (places : Nat) => r.onGrid? (r.leading - places)

end Rounding

/-- The digits of a number without the zeros at its end, and the number of those zeros. -/
def trimZeros (digits : List Char) : List Char × Nat :=
  let zeros := (digits.reverse.takeWhile (· = '0')).length
  (digits.take (digits.length - zeros), zeros)

end ClassDiagram.Decimal
