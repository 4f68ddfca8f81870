import Descent.Bytes
import Descent.Hex
import Descent.Parser.Basic

/-!
# Parsers of bytes

Parsers that look at binary data: given bytes, text in UTF-8, and integers with the most significant
byte first.
-/

namespace Descent.Parser

variable {m : Type → Type} [Monad m] [MonadExceptOf Fault m]

/-- How reports name given bytes: the text that they encode, or else their digits. -/
def describeBytes (bs : List UInt8) : String :=
  match String.fromUTF8? (ByteArray.mk bs.toArray) with
  | some s => s
  | none => "0x" ++ Hex.encode bs

/-- Matches exactly the bytes `bs`. -/
def bytes (bs : List UInt8) : Parser m Bytes ByteOffset (List UInt8) :=
  ⟨fun input place ↦ do
    if bs.isPrefixOf (input.remaining place) then
      let stop ← liftExcept (Word.add place.offset bs.length)
      return .ok bs (← liftExcept (input.seek place stop))
    else return .fail place [describeBytes bs]⟩

/-- Matches the UTF-8 form of a text, and yields the text. -/
def text (s : String) : Parser m Bytes ByteOffset String :=
  ((bytes s.toByteArray.data.toList).map fun _ ↦ s).label [s]

/-- Takes the next `count` bytes, whatever they are. -/
def take (count : Nat) : Parser m Bytes ByteOffset (List UInt8) :=
  ⟨fun input place ↦ do
    if count ≤ (input.remaining place).length then
      let stop ← liftExcept (Word.add place.offset count)
      return .ok ((input.remaining place).take count) (← liftExcept (input.seek place stop))
    else return .fail place [toString count ++ " bytes"]⟩

/-- The `width` low bytes of a number, the most significant first. -/
def bigEndian (width n : Nat) : List UInt8 :=
  match width with
  | 0 => []
  | width + 1 => UInt8.ofNat (n / 256 ^ width) :: bigEndian width n

/-- The number that bytes stand for, the most significant first. -/
def ofBigEndian (bs : List UInt8) : Nat := bs.foldl (fun n b ↦ 256 * n + b.toNat) 0

/-- Matches a 16-bit integer in two's complement. -/
def int16 (n : Int16) : Parser m Bytes ByteOffset Int16 :=
  ((bytes (bigEndian 2 n.toUInt16.toNat)).map fun _ ↦ n).label [toString n.toInt]

/-- Matches a 64-bit integer in two's complement. -/
def int64 (n : Int64) : Parser m Bytes ByteOffset Int64 :=
  ((bytes (bigEndian 8 n.toUInt64.toNat)).map fun _ ↦ n).label [toString n.toInt]

end Descent.Parser
