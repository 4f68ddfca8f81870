import Descent.Value

/-!
# Functions on values

The transformations that grammars apply to what they have parsed. Each is total: on a value of the
wrong shape it yields null, or the empty string where it yields strings.
-/

namespace Descent.Value

/-- Whether an integer fits into 64 bits in two's complement. -/
def fitsInt64 (n : Int) : Bool := Int64.minValue.toInt ≤ n && n ≤ Int64.maxValue.toInt

/-- An integer that fits into 64 bits, and null for all others. -/
def ofInt64 (n : Int) : Value := if fitsInt64 n then .int n else .null

/-- The value of one or more ASCII digits. -/
def natOfDigits? (cs : List Char) : Option Nat :=
  if cs.isEmpty || !cs.all Char.isDigit then none
  else some (cs.foldl (fun n c ↦ 10 * n + (c.toNat - '0'.toNat)) 0)

/-- The integer that a string writes in decimal, with at most one sign. -/
def toInt : Value → Value
  | .str s =>
    let number := match s.toList with
      | '-' :: cs => (natOfDigits? cs).map fun n ↦ -(n : Int)
      | '+' :: cs => (natOfDigits? cs).map Int.ofNat
      | cs => (natOfDigits? cs).map Int.ofNat
    match number with
    | some n => ofInt64 n
    | none => .null
  | _ => .null

/-- The number of items, characters or bytes. -/
def count : Value → Value
  | .list items => .int items.length
  | .str s => .int s.length
  | .bytes bs => .int bs.length
  | _ => .null

/-- The item at an index. -/
def index (i : Nat) : Value → Value
  | .list items => items.getD i .null
  | _ => .null

mutual

/-- The strings inside nested lists, one behind the other. -/
def text : Value → String
  | .str s => s
  | .list items => textAll items
  | _ => ""

/-- The strings inside all values. -/
def textAll : List Value → String
  | [] => ""
  | v :: vs => text v ++ textAll vs

end

/-- The strings inside nested lists as one string. -/
def join (v : Value) : Value := .str v.text

/-- A value under a tag. -/
def tag (t v : Value) : Value := .object [("tag", t), ("value", v)]

/-- The next integer. -/
def addOne : Value → Value
  | .int n => if fitsInt64 n then ofInt64 (n + 1) else .null
  | _ => .null

/-- A string without its first and its last character. -/
def unquote : Value → Value
  | .str s => .str (String.ofList (s.toList.drop 1).dropLast)
  | _ => .str ""

/-- An item in front of a list of items. -/
def cons : Value → Value
  | .list [x, .list xs] => .list (x :: xs)
  | _ => .null

/-- The meaning of an operator on 64-bit integers. -/
def operation? : Value → Option (Int → Int → Int)
  | .str "+" => some (· + ·)
  | .str "-" => some (· - ·)
  | .str "*" => some (· * ·)
  | _ => none

/-- Applies operators with their right operands one after the other. -/
def foldFrom (n : Int) : List Value → Value
  | [] => ofInt64 n
  | .list [op, .int m] :: rest =>
    match operation? op with
    | some f => if fitsInt64 n && fitsInt64 m then foldFrom (f n m) rest else .null
    | none => .null
  | _ => .null

/-- Evaluates an operand and a list of operators with operands from the left. -/
def fold : Value → Value
  | .list [.int n, .list rest] => foldFrom n rest
  | _ => .null

end Descent.Value
