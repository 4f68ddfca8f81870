import Descent.CharSet
import Descent.Hex

/-!
# Tables of characters

How the tables of the Unicode standard are written here. A property that has one value for each
character is a list of runs, with the value and the length of each run in the order of the
characters. A set of characters is a list of code points and ranges of code points. The tables
follow version 16.0 of the standard where they do not say otherwise.
-/

namespace Descent.Unicode

/-- The words of a text, which blanks and line ends divide. -/
def words (text : String) : List String :=
  (text.splitToList Char.isWhitespace).filter (· ≠ "")

/-- Neighbouring characters with one value of a property: their first and last ranks. -/
structure Run where
  value : String
  first : Nat
  last : Nat

/-- Reads the runs of all characters in order. Each is written as its value, a colon and the number
of its characters. -/
def readRuns (text : String) : List Run :=
  place 0 (words text)
where
  /-- Gives ranks from `next` on to the runs that are left. -/
  place (next : Nat) : List String → List Run
    | [] => []
    | word :: rest =>
      match word.splitOn ":" with
      | [value, length] =>
        let length := length.toNat?.getD 0
        ⟨value, next, next + length - 1⟩ :: place (next + length) rest
      | _ => place next rest

/-- The characters whose value is accepted. -/
def charsWith (runs : List Run) (accept : String → Bool) : CharSet :=
  .ofRanks (runs.filterMap fun r ↦ if accept r.value then some (r.first, r.last) else none)

/-- The number that hexadecimal digits write. -/
def readHex (digits : String) : Nat :=
  digits.toList.foldl (fun n c ↦ 16 * n + (Hex.digit? c).getD 0) 0

/-- Reads a set of characters, written as code points and ranges in hexadecimal. -/
def readSet (text : String) : CharSet :=
  .ofCodePoints <| (words text).map fun word ↦
    match word.splitOn "-" with
    | [first, last] => (readHex first, readHex last)
    | _ => (readHex word, readHex word)

end Descent.Unicode
