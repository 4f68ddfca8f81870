import Descent.Input

/-!
# Bytes

Binary input. Every offset up to the length is a place, and seeking only refuses to go back.
-/

namespace Descent

/-- Binary data. -/
structure Bytes where
  content : List UInt8
  deriving DecidableEq, Repr

namespace Bytes

/-- The bytes from an offset on, and none past the end. -/
def remaining (b : Bytes) (p : ByteOffset) : List UInt8 := b.content.drop p.offset

/-- The position at an offset, which must not lie before `p`. -/
def seek (_ : Bytes) (p : ByteOffset) (offset : Nat) : Except Fault ByteOffset :=
  if p.offset ≤ offset then .ok ⟨offset⟩ else .error .misplaced

instance : Input Bytes ByteOffset where
  start _ := .start
  length b := b.content.length
  seek := seek

end Bytes

end Descent
