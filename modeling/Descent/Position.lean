import Descent.Word

/-!
# Positions

A position marks a place in an input. Positions of text count lines and columns as well as bytes;
positions of binary data are a plain offset. Parsers see only `Location`.
-/

namespace Descent

/-- A place in some input that parsers compare and report. -/
class Location (P : Type) where
  /-- Distance from the start of the input, in bytes. -/
  offset : P → Nat
  /-- How a report names the place. -/
  describe : P → String

/-- A place in a text. Lines and columns count from one, in characters; the offset counts bytes
from zero. -/
structure Position where
  line : Nat := 1
  column : Nat := 1
  offset : Nat := 0
  deriving DecidableEq, Repr

/-- A place in binary data, which has no lines. -/
structure ByteOffset where
  offset : Nat := 0
  deriving DecidableEq, Repr

/-- The number of bytes that a list of characters takes in UTF-8. -/
def utf8Length : List Char → Nat
  | [] => 0
  | c :: cs => c.utf8Size + utf8Length cs

@[simp] theorem utf8Length_nil : utf8Length [] = 0 := rfl

@[simp] theorem utf8Length_cons (c : Char) (cs : List Char) :
    utf8Length (c :: cs) = c.utf8Size + utf8Length cs := rfl

@[simp] theorem utf8Length_append (cs ds : List Char) :
    utf8Length (cs ++ ds) = utf8Length cs + utf8Length ds := by
  induction cs with
  | nil => simp
  | cons c cs ih => simp [ih, Nat.add_assoc]

namespace Position

/-- The start of every text. -/
def start : Position := {}

/-- Line and column after one more character: a delimiter opens a new line. -/
def stepLine (delimiters : List Char) : Nat × Nat → Char → Except Fault (Nat × Nat)
  | (line, column), c =>
    if c ∈ delimiters then do return (← Word.add line 1, 1)
    else do return (line, ← Word.add column 1)

/-- The position after the characters `consumed`, which start at `p`. -/
def advance (p : Position) (consumed delimiters : List Char) : Except Fault Position :=
  if consumed.isEmpty then .ok p
  else do
    let (line, column) ← consumed.foldlM (stepLine delimiters) (p.line, p.column)
    return { line, column, offset := ← Word.add p.offset (utf8Length consumed) }

instance : Location Position where
  offset := Position.offset
  describe p := "line " ++ toString p.line ++ " column " ++ toString p.column

end Position

namespace ByteOffset

/-- The start of all binary data. -/
def start : ByteOffset := {}

instance : Location ByteOffset where
  offset := ByteOffset.offset
  describe p := "offset " ++ toString p.offset

end ByteOffset

end Descent
