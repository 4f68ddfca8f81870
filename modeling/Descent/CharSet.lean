/-!
# Sets of characters

What a character class matches. Characters are numbered in order without the gap that the
surrogates leave, so every run of characters is an interval of numbers, and so is every gap.
-/

namespace Descent

/-- The number of characters before a code point. -/
def rank (codePoint : Nat) : Nat := if codePoint < 0xD800 then codePoint else codePoint - 0x800

/-- The number of all characters. -/
def charCount : Nat := rank 0x110000

/-- A set of characters: intervals of ranks, first and last, ascending and never touching. -/
structure CharSet where
  intervals : List (Nat × Nat)
  deriving DecidableEq, Repr

namespace CharSet

/-- Joins intervals that overlap or touch; they come in the order of their first members. -/
def join (first last : Nat) : List (Nat × Nat) → List (Nat × Nat)
  | [] => [(first, last)]
  | (lo, hi) :: rest =>
    if lo ≤ last + 1 then join first (max last hi) rest else (first, last) :: join lo hi rest

/-- The union of intervals of ranks in any order. -/
def ofRanks (intervals : List (Nat × Nat)) : CharSet :=
  match intervals.mergeSort (fun a b ↦ a.1 ≤ b.1) with
  | [] => ⟨[]⟩
  | (lo, hi) :: rest => ⟨join lo hi rest⟩

/-- The characters in the given ranges of code points. -/
def ofCodePoints (ranges : List (Nat × Nat)) : CharSet :=
  ofRanks (ranges.map fun (lo, hi) ↦ (rank lo, rank hi))

/-- The characters from `lo` to `hi`. -/
def range (lo hi : Char) : CharSet := ⟨[(rank lo.toNat, rank hi.toNat)]⟩

/-- The set that holds one character. -/
def single (c : Char) : CharSet := range c c

/-- Whether a rank lies in one of ascending intervals. -/
def holds (n : Nat) : List (Nat × Nat) → Bool
  | [] => false
  | (lo, hi) :: rest => lo ≤ n && (n ≤ hi || holds n rest)

/-- Whether a character is a member. -/
def contains (s : CharSet) (c : Char) : Bool := holds (rank c.toNat) s.intervals

/-- The gaps of ascending intervals from a rank on. -/
def gaps (next : Nat) : List (Nat × Nat) → List (Nat × Nat)
  | [] => if next < charCount then [(next, charCount - 1)] else []
  | (lo, hi) :: rest =>
    if next < lo then (next, lo - 1) :: gaps (hi + 1) rest else gaps (hi + 1) rest

/-- All other characters. -/
def compl (s : CharSet) : CharSet := ⟨gaps 0 s.intervals⟩

/-- The characters of either set. -/
def union (s t : CharSet) : CharSet := ofRanks (s.intervals ++ t.intervals)

/-- The characters of all sets. -/
def unions (sets : List CharSet) : CharSet := ofRanks (sets.flatMap intervals)

/-- The characters of both sets. -/
def inter (s t : CharSet) : CharSet := (s.compl.union t.compl).compl

/-- The characters of `s` that are not in `t`. -/
def diff (s t : CharSet) : CharSet := s.inter t.compl

/-- The characters of exactly one of the sets. -/
def symmDiff (s t : CharSet) : CharSet := (s.diff t).union (t.diff s)

/-- Whether there is no member. -/
def isEmpty (s : CharSet) : Bool := s.intervals.isEmpty

/-- The only member of a set that has just one. -/
def single? (s : CharSet) : Option Char :=
  match s.intervals with
  | [(lo, hi)] =>
    if lo = hi then some (Char.ofNat (if lo < 0xD800 then lo else lo + 0x800)) else none
  | _ => none

/-- Whether every member belongs to ASCII. -/
def isAscii (s : CharSet) : Bool := s.intervals.all fun (_, hi) ↦ hi < 0x80

/-- All characters. -/
def any : CharSet := ⟨[(0, charCount - 1)]⟩

/-- The characters of ASCII. -/
def ascii : CharSet := range '\x00' '\x7f'

end CharSet

end Descent
