import Descent.Decimal.Double

/-!
# Shortest digits

The fewest decimal digits that read back as a given double. The reals that round to it form an
interval around it; for one digit, two digits and so on the two neighbours of the double among the
decimals of that length are tried, and the first length that has one in the interval wins. Of two in
the interval the nearer is taken, and the larger where both are equally near.
-/

namespace Descent.Decimal

/-- A decimal number: `digits * 10 ^ exponent`. -/
structure Scientific where
  digits : Nat
  exponent : Int
  deriving DecidableEq, Repr

/-- A positive number and the interval of what rounds to it, as numerators over one denominator. -/
structure Rounding where
  low : Nat
  value : Nat
  high : Nat
  den : Nat
  /-- Whether the ends of the interval round to the number too. -/
  closed : Bool

/-- The interval of what rounds to a positive double. Below a power of two doubles lie twice as
close, so the interval reaches only half as far there. -/
def Magnitude.rounding (m : Magnitude) : Rounding :=
  let below := if m.significand = leastNormal ∧ m.exponent ≠ leastExponent then 1 else 2
  let exponent := m.exponent - 2
  let scale := 1 <<< exponent.toNat
  { low := (4 * m.significand - below) * scale
    value := 4 * m.significand * scale
    high := (4 * m.significand + 2) * scale
    den := 1 <<< (-exponent).toNat
    closed := m.significand % 2 = 0 }

/-- The number of decimal digits, of which zero has none. -/
def digitCount (n : Nat) : Nat := if n = 0 then 0 else (Nat.toDigits 10 n).length

namespace Rounding

/-- The same interval in units of a power of ten. -/
def unscale (r : Rounding) (exponent : Int) : Rounding :=
  let up := Nat.pow 10 (-exponent).toNat
  { r with
    low := r.low * up
    value := r.value * up
    high := r.high * up
    den := r.den * Nat.pow 10 exponent.toNat }

/-- Whether a natural number lies in the interval. -/
def holds (r : Rounding) (n : Nat) : Bool :=
  if r.closed then r.low ≤ n * r.den && n * r.den ≤ r.high
  else r.low < n * r.den && n * r.den < r.high

/-- The natural number in the interval that is nearest to the value, if one of the value's two
neighbours lies in the interval. -/
def neighbour? (r : Rounding) : Option Nat :=
  let below := r.value / r.den
  let above := below + 1
  match r.holds below, r.holds above with
  | true, true => some (if 2 * (r.value % r.den) < r.den then below else above)
  | true, false => some below
  | false, true => some above
  | false, false => none

/-- The number of decimal places in front of the point; it is negative or zero for small values. -/
def places (r : Rounding) : Int :=
  if r.den ≤ r.value then digitCount (r.value / r.den)
  else 1 - (digitCount ((r.den - 1) / r.value) : Int)

/-- Tries decimals with `count` digits and more. -/
def search (r : Rounding) (places : Int) (count : Nat) : Nat → Scientific
  | 0 => ⟨0, 0⟩
  | fuel + 1 =>
    let exponent := places - count
    match (r.unscale exponent).neighbour? with
    | some digits => ⟨digits, exponent⟩
    | none => search r places (count + 1) fuel

end Rounding

/-- As many digits as any double needs. -/
def mostDigits : Nat := 17

/-- The shortest decimal that reads back as a double. -/
def Magnitude.shortest (m : Magnitude) : Scientific :=
  if m.significand = 0 then ⟨0, 0⟩ else m.rounding.search m.rounding.places 1 mostDigits

end Descent.Decimal
