import Descent.CharSet

/-!
# White space

The characters with the Unicode property `White_Space`, as ranges of code points.
-/

namespace Descent.Unicode

/-- All blanks: tabs, line ends, spaces of every width and separators. -/
def blanks : List (Nat × Nat) := [
  (0x9, 0xD), (0x20, 0x20), (0x85, 0x85), (0xA0, 0xA0), (0x1680, 0x1680), (0x2000, 0x200A),
  (0x2028, 0x2029), (0x202F, 0x202F), (0x205F, 0x205F), (0x3000, 0x3000)]

/-- Whether a character is a blank. -/
def isBlank (c : Char) : Bool := blanks.any fun (lo, hi) ↦ lo ≤ c.toNat && c.toNat ≤ hi

/-- The set of all blanks. -/
def whiteSpace : CharSet := .ofCodePoints blanks

end Descent.Unicode
