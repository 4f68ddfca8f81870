import Descent.Position

/-!
# Inputs

What a parser runs over. An input never changes: parsers move forward by asking it for the
position at a later offset, and backtrack by returning to a position they kept.
-/

namespace Descent

/-- Inputs of type `I`, whose places are positions of type `P`. -/
class Input (I : Type) (P : outParam Type) where
  /-- The position at the start. -/
  start : I → P
  /-- The length in bytes. -/
  length : I → Nat
  /-- The position at an offset, found by scanning forward from a position before it. -/
  seek : I → P → Nat → Except Fault P

/-- Whether a position is at the end of the input or beyond it. -/
def Input.isEof {I P : Type} [Location P] [Input I P] (input : I) (place : P) : Bool :=
  Input.length input ≤ Location.offset place

/-- Whether the input has no content. -/
def Input.isEmpty {I P : Type} [Input I P] (input : I) : Bool :=
  Input.length input == 0

end Descent
