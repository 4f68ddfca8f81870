/-!
# Doubles in binary

A finite double is a significand times a power of two, with a sign. Reading a fraction as a double
takes the nearest one, and of two that are equally near the one whose significand is even.
-/

namespace Descent.Decimal

/-- The absolute value of a finite double: `significand * 2 ^ exponent`. -/
structure Magnitude where
  significand : Nat
  exponent : Int
  deriving DecidableEq, Repr

/-- What the bits of a double stand for. -/
inductive Double where
  | nan
  | infinite (negative : Bool)
  | finite (negative : Bool) (value : Magnitude)
  deriving DecidableEq, Repr

/-- The exponent of the smallest doubles. -/
def leastExponent : Int := -1074

/-- The significands of all doubles but the smallest start here. -/
def leastNormal : Nat := 1 <<< 52

/-- Takes the bits of a double apart. -/
def Double.ofBits (bits : UInt64) : Double :=
  let negative := bits.toNat ≥ 1 <<< 63
  let fraction : Nat := bits.toNat % leastNormal
  let biased : Nat := bits.toNat / leastNormal % 0x800
  if biased = 0x7ff then if fraction = 0 then .infinite negative else .nan
  else if biased = 0 then .finite negative ⟨fraction, leastExponent⟩
  else .finite negative ⟨leastNormal + fraction, leastExponent + biased - 1⟩

/-- A fraction divided by a power of two, as numerator and denominator. -/
def unscale (num den : Nat) (exponent : Int) : Nat × Nat :=
  (num <<< (-exponent).toNat, den <<< exponent.toNat)

/-- The nearest natural number to a fraction, an even one where two are equally near. -/
def roundEven (num den : Nat) : Nat :=
  let floor := num / den
  let twice := 2 * (num % den)
  if twice < den then floor
  else if den < twice then floor + 1
  else floor + floor % 2

/-- The exponent at which the significand of a positive fraction has 53 bits, or else the least
exponent there is. -/
def exponentFor (num den : Nat) : Int :=
  let low : Int := (num.log2 : Int) - den.log2 - 53
  let (n, d) := unscale num den low
  max (if 2 * leastNormal * d ≤ n then low + 1 else low) leastExponent

/-- The bits of the double nearest to a fraction, or of infinity where that is too large. -/
def nearestBits (num den : Nat) : UInt64 :=
  if num = 0 then 0
  else
    let exponent := exponentFor num den
    let (n, d) := unscale num den exponent
    let bits := (exponent - leastExponent).toNat * leastNormal + roundEven n d
    UInt64.ofNat (min bits (0x7ff * leastNormal))

/-- The double nearest to a fraction. -/
def nearest (num den : Nat) : Float := Float.ofBits (nearestBits num den)

end Descent.Decimal
