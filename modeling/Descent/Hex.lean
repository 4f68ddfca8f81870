/-!
# Hexadecimal text

Bytes written as two lower-case hexadecimal digits each.
-/

namespace Descent.Hex

/-- The two digits of a byte. -/
def encodeByte (b : UInt8) : List Char :=
  [Nat.digitChar (b.toNat / 16), Nat.digitChar (b.toNat % 16)]

/-- The digits of all bytes, one after another. -/
def encode (bs : List UInt8) : String := String.ofList (bs.flatMap encodeByte)

/-- The value of a lower-case digit. -/
def digit? (c : Char) : Option Nat :=
  if '0' ≤ c ∧ c ≤ '9' then some (c.toNat - '0'.toNat)
  else if 'a' ≤ c ∧ c ≤ 'f' then some (c.toNat - 'a'.toNat + 10)
  else none

/-- The bytes that digits stand for; their number has to be even. -/
def decode? : List Char → Option (List UInt8)
  | [] => some []
  | hi :: lo :: cs => do
    return UInt8.ofNat (16 * (← digit? hi) + (← digit? lo)) :: (← decode? cs)
  | _ => none

end Descent.Hex
