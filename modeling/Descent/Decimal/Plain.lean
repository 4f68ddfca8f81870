import Descent.Decimal.Shortest

/-!
# Plain notation

Doubles as digits with at most one point, whatever their size: no exponent, no point without digits
behind it, and no zeros at the end of a fraction.
-/

namespace Descent.Decimal

/-- A fraction of `places` digits behind a point, without the zeros at its end. -/
def fractionText (n places : Nat) : String :=
  let digits := Nat.toDigits 10 n
  let padded := List.replicate (places - digits.length) '0' ++ digits
  match (padded.reverse.dropWhile (· = '0')).reverse with
  | [] => ""
  | cs => "." ++ String.ofList cs

/-- A decimal in plain notation. -/
def Scientific.plain (d : Scientific) : String :=
  let unit := Nat.pow 10 (-d.exponent).toNat
  let n := d.digits * Nat.pow 10 d.exponent.toNat
  toString (n / unit) ++ fractionText (n % unit) (-d.exponent).toNat

/-- A double in plain notation. -/
def Double.plain : Double → String
  | .nan => "NaN"
  | .infinite negative => (if negative then "-" else "") ++ "inf"
  | .finite negative value => (if negative then "-" else "") ++ value.shortest.plain

/-- Reads digits, behind which there may be a point and more digits. -/
def read (whole fraction : List Char) : Float :=
  nearest (value (whole ++ fraction)) (Nat.pow 10 fraction.length)
where
  /-- The number that decimal digits stand for. -/
  value (cs : List Char) : Nat := cs.foldl (fun n c ↦ 10 * n + (c.toNat - '0'.toNat)) 0

end Descent.Decimal
