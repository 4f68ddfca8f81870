import Descent.Fault

/-!
# Machine words

Lines, columns, offsets and counts are natural numbers that have to fit into 64 bits. Sums and
differences that leave this range are faults, so no number here ever wraps around.
-/

namespace Descent.Word

/-- The first number that does not fit. -/
def limit : Nat := UInt64.size

/-- The sum of two words, if it fits. -/
def add (a b : Nat) : Except Fault Nat :=
  if a + b < limit then .ok (a + b) else .error .overflow

/-- The difference of two words, if it is not negative. -/
def sub (a b : Nat) : Except Fault Nat :=
  if b ≤ a then .ok (a - b) else .error .overflow

/-- A sum is given exactly when it fits. -/
theorem add_eq_ok_iff {a b c : Nat} : add a b = .ok c ↔ a + b < limit ∧ c = a + b := by
  by_cases h : a + b < limit <;> simp [add, h, eq_comm]

end Descent.Word
