import Descent.Names
import Descent.Position

/-!
# Expectations

What a parser was looking for at the furthest place that it failed at. Of two expectations the one
that got further wins; at the same offset their names are united, the earlier attempt's first.
-/

namespace Descent

/-- The names that were looked for at a position. -/
structure Expected (P : Type) where
  position : P
  names : Names

namespace Expected

variable {P : Type} [Location P]

/-- The expectation of a list of names at a position. -/
def ofList (position : P) (names : List String) : Expected P := ⟨position, .ofList names⟩

/-- The offset that an expectation is about. -/
def offset (e : Expected P) : Nat := Location.offset e.position

/-- Combines an expectation with that of a later attempt: whichever got further wins outright, and
on a tie the names are united under the earlier position. -/
def absorb (earlier later : Expected P) : Expected P :=
  if earlier.offset < later.offset then later
  else if later.offset < earlier.offset then earlier
  else ⟨earlier.position, earlier.names.union later.names⟩

/-- `absorb` where either side may be missing because nothing has failed yet. -/
def merge : Option (Expected P) → Option (Expected P) → Option (Expected P)
  | some earlier, some later => some (earlier.absorb later)
  | some earlier, none => some earlier
  | none, later => later

/-- Whether two expectations are about the same position and the same set of names. -/
def same [DecidableEq P] (a b : Expected P) : Bool :=
  a.position == b.position && a.names.sameSet b.names

/-- `same` where either side may be missing. -/
def same? [DecidableEq P] : Option (Expected P) → Option (Expected P) → Bool
  | some a, some b => a.same b
  | none, none => true
  | _, _ => false

@[simp] theorem merge_none_left (e : Option (Expected P)) : merge none e = e := by
  cases e <;> rfl

@[simp] theorem merge_none_right (e : Option (Expected P)) : merge e none = e := by
  cases e <;> rfl

end Expected

end Descent
