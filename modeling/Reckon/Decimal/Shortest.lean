import Reckon.Decimal.Binary
import Reckon.Decimal.Rounding

/-!
# The shortest decimal that reads back

Among the decimals that round to a given finite double, those with the fewest
digits are of interest, and of these the one nearest to the double. On the grid
of decimals with a fixed number of digits, only the two neighbours of the double
need to be tried: if any grid point rounds to the double, so does one of them.
-/

namespace Reckon.Decimal

/-- The reals that round to a double, as multiples of a quarter of its last
binary place. The ends belong to the interval when the significand is even. -/
structure RoundingInterval where
  lower : Nat
  upper : Nat
  closed : Bool

/-- Half a place on either side, but a quarter below a power of two, where the
neighbour below is twice as near. The least exponent has no such step. -/
def roundingInterval (significand : Nat) (exponent : Int) : RoundingInterval where
  lower :=
    if significand = twoTo 52 && exponent ≠ -1074 then 4 * significand - 1 else 4 * significand - 2
  upper := 4 * significand + 2
  closed := significand % 2 == 0

/-- Whether `point / denominator`, in quarters of the last place, lies inside. -/
def RoundingInterval.holds (interval : RoundingInterval) (point denominator : Nat) : Bool :=
  if interval.closed then
    interval.lower * denominator ≤ point && point ≤ interval.upper * denominator
  else interval.lower * denominator < point && point < interval.upper * denominator

/-- The decimal `digits · 10 ^ power`. -/
structure Numeral where
  digits : Nat
  power : Int

/-- Whether the decimal rounds to `significand · 2 ^ exponent`. -/
def Numeral.readsBack (numeral : Numeral) (significand : Nat) (exponent : Int) : Bool :=
  let (numerator, denominator) := scaled numeral.digits 1 (-numeral.power)
  let quarter := exponent - 2
  let (above, below) := fraction 1 (-quarter)
  (roundingInterval significand exponent).holds (numerator * above) (denominator * below)

/-- The better of the two grid neighbours of the double at this power of ten. -/
def onGrid? (significand : Nat) (exponent : Int) (power : Int) : Option Numeral :=
  let (numerator, denominator) := fraction significand exponent
  let (above, below) := scaled numerator denominator power
  let nearest := roundHalfEven above below
  let floor := above / below
  let other := if nearest = floor then floor + 1 else floor
  if (Numeral.mk nearest power).readsBack significand exponent then some ⟨nearest, power⟩
  else if (Numeral.mk other power).readsBack significand exponent then some ⟨other, power⟩
  else none

/-- The first grid with a hit, from one digit upwards. Seventeen digits always
suffice; `remaining` counts the widths still to be tried. -/
def firstHit (significand : Nat) (exponent : Int) (power : Int) : Nat → Numeral
  | 0 =>
    let (numerator, denominator) := fraction significand exponent
    let (above, below) := scaled numerator denominator power
    ⟨roundHalfEven above below, power⟩
  | remaining + 1 =>
    match onGrid? significand exponent power with
    | some numeral => numeral
    | none => firstHit significand exponent (power - 1) remaining

/-- Drops the zeros at the end of the digits, at most `limit` of them. -/
def Numeral.trimmed : Nat → Numeral → Numeral
  | 0, numeral => numeral
  | limit + 1, numeral =>
    if numeral.digits ≠ 0 && numeral.digits % 10 = 0 then
      Numeral.trimmed limit ⟨numeral.digits / 10, numeral.power + 1⟩
    else numeral

/-- The shortest decimal of a positive double; zero stays zero. -/
def shortest (significand : Nat) (exponent : Int) : Numeral :=
  if significand = 0 then ⟨0, 0⟩
  else
    let (numerator, denominator) := fraction significand exponent
    Numeral.trimmed 17 (firstHit significand exponent (magnitude numerator denominator) 16)

end Reckon.Decimal
