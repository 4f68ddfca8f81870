import Descent.Grammar.Basic
import Descent.Parser.Binary
import Descent.Parser.Text

/-!
# Primitives

The parsers that grammars of text and of bytes are made from.
-/

namespace Descent

/-- Primitives of type `T` are parsers of inputs of type `I`. -/
class Primitive (T : Type) (I P : outParam Type) where
  parser {m : Type → Type} [Monad m] [MonadExceptOf Fault m] : T → Parser m I P Value

/-- What looks at the characters of a text. -/
inductive TextPrimitive where
  | literal (s : String)
  | pattern (p : Pattern)
  | oneOf (cs : List Char)

instance : Primitive TextPrimitive Text Position where
  parser
    | .literal s => (Parser.literal s).map .str
    | .pattern p => (Parser.pattern p).map .str
    | .oneOf cs => (Parser.oneOf cs).map fun c ↦ .str (String.singleton c)

/-- What looks at binary data. -/
inductive BytePrimitive where
  | bytes (bs : List UInt8)
  | text (s : String)
  | take (count : Nat)
  | int16 (n : Int16)
  | int64 (n : Int64)

instance : Primitive BytePrimitive Bytes ByteOffset where
  parser
    | .bytes bs => (Parser.bytes bs).map .bytes
    | .text s => (Parser.text s).map .str
    | .take count => (Parser.take count).map .bytes
    | .int16 n => (Parser.int16 n).map fun n ↦ .int n.toInt
    | .int64 n => (Parser.int64 n).map fun n ↦ .int n.toInt

/-- Primitives, or answers that are fixed in advance whatever the input. -/
inductive Scripted (T P : Type) where
  | primitive (t : T)
  | answer (result : Result P Value)

instance {T I P : Type} [Primitive T I P] : Primitive (Scripted T P) I P where
  parser
    | .primitive t => Primitive.parser t
    | .answer result => ⟨fun _ _ ↦ pure result⟩

end Descent
