import Descent.Hex
import Descent.Parser.Node

/-!
# Values

What grammars yield: plain data, positions and nodes. Positions, nodes and bytes are equal to the
plain objects that they are written as, so all values are compared in their plain form.
-/

namespace Descent

/-- A position of either kind of input. -/
inductive Place where
  | text (p : Position)
  | binary (p : ByteOffset)
  deriving DecidableEq, Repr

/-- Positions that values can hold. -/
class Placed (P : Type) where
  toPlace : P → Place

instance : Placed Position := ⟨.text⟩

instance : Placed ByteOffset := ⟨.binary⟩

/-- The distance of a place from the start of its input. -/
def Place.offset : Place → Nat
  | .text p => p.offset
  | .binary p => p.offset

/-- What a grammar yields. -/
inductive Value where
  | null
  | bool (b : Bool)
  | int (n : Int)
  | str (s : String)
  | bytes (bs : List UInt8)
  | list (items : List Value)
  /-- Named fields, in the order of their names. -/
  | object (fields : List (String × Value))
  | place (p : Place)
  /-- A named value and its span, which stops no earlier than it starts. -/
  | node (name : String) (value : Value) (start stop : Place)

namespace Value

instance : Inhabited Value := ⟨.null⟩

/-- The fields of a place, in the order of their names. -/
def placeFields : Place → List (String × Value)
  | .text p => [("column", .int p.column), ("line", .int p.line), ("offset", .int p.offset)]
  | .binary p => [("offset", .int p.offset)]

mutual

/-- A value as plain data: only null, truth values, integers, strings, lists and objects. -/
def plain : Value → Value
  | .bytes bs => .object [("bytes", .str (Hex.encode bs))]
  | .list items => .list (plainAll items)
  | .object fields => .object (plainFields fields)
  | .place p => .object (placeFields p)
  | .node name value start stop =>
    let length := stop.offset - start.offset
    .object [("end", .object (placeFields stop)), ("is_empty", .bool (length == 0)),
      ("len", .int length), ("name", .str name), ("start", .object (placeFields start)),
      ("value", plain value)]
  | .null => .null
  | .bool b => .bool b
  | .int n => .int n
  | .str s => .str s

/-- All values of a list as plain data. -/
def plainAll : List Value → List Value
  | [] => []
  | v :: vs => plain v :: plainAll vs

/-- All values of fields as plain data. -/
def plainFields : List (String × Value) → List (String × Value)
  | [] => []
  | (name, v) :: fields => (name, plain v) :: plainFields fields

end

mutual

/-- Whether two values in plain form are equal. -/
def equalPlain : Value → Value → Bool
  | .null, .null => true
  | .bool a, .bool b => a == b
  | .int a, .int b => a == b
  | .str a, .str b => a == b
  | .list vs, .list ws => equalPlainAll vs ws
  | .object fs, .object gs => equalPlainFields fs gs
  | _, _ => false

/-- Whether two lists of values in plain form are equal. -/
def equalPlainAll : List Value → List Value → Bool
  | [], [] => true
  | v :: vs, w :: ws => equalPlain v w && equalPlainAll vs ws
  | _, _ => false

/-- Whether fields in plain form are equal. -/
def equalPlainFields : List (String × Value) → List (String × Value) → Bool
  | [], [] => true
  | (a, v) :: fs, (b, w) :: gs => a == b && equalPlain v w && equalPlainFields fs gs
  | _, _ => false

end

/-- Whether two values are written alike. -/
def same (v w : Value) : Bool := equalPlain v.plain w.plain

/-- An object from fields in any order. -/
def ofFields (fields : List (String × Value)) : Value :=
  .object (fields.mergeSort fun a b ↦ a.1 ≤ b.1)

/-- A pair is a list of two values. -/
def ofPair (pair : Value × Value) : Value := .list [pair.1, pair.2]

/-- A node whose span is in order. -/
def ofNode {P : Type} [Location P] [Placed P] (n : Node Value P) : Except Fault Value := do
  let _ ← n.length
  return .node n.name n.value (Placed.toPlace n.start) (Placed.toPlace n.stop)

end Value

end Descent
