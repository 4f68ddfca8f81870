import Descent.Expected

/-!
# Results

The outcome of running a parser from one position. Successes carry diagnostics too: the furthest
failure on the way, so that a later failure can still report it.
-/

namespace Descent

/-- A value with the position behind it, or what was expected instead. -/
inductive Result (P A : Type) where
  /-- A value, where the next parser starts, and the furthest failure seen on the way. -/
  | success (value : A) (next : P) (furthest : Option (Expected P))
  | failure (expected : Expected P)

namespace Result

variable {P A B : Type}

/-- A success that saw no failure on its way. -/
def ok (value : A) (next : P) : Result P A := .success value next none

/-- A failure at a position that was looking for the given names. -/
def fail (position : P) (names : List String) : Result P A := .failure (.ofList position names)

def isSuccess : Result P A → Bool
  | .success .. => true
  | .failure _ => false

def isFailure (r : Result P A) : Bool := !r.isSuccess

/-- The furthest failure that a result knows of. -/
def furthest : Result P A → Option (Expected P)
  | .success _ _ seen => seen
  | .failure expected => some expected

/-- Transforms the value of a success. -/
def map (f : A → B) : Result P A → Result P B
  | .success value next seen => .success (f value) next seen
  | .failure expected => .failure expected

/-- Adds the diagnostics of an attempt that ran before. Value and next position stay. -/
def merge [Location P] (r : Result P A) (earlier : Option (Expected P)) : Result P A :=
  match earlier, r with
  | none, r => r
  | some e, .success value next seen => .success value next (Expected.merge (some e) seen)
  | some e, .failure expected => .failure (e.absorb expected)

@[simp] theorem merge_none [Location P] (r : Result P A) : r.merge none = r := by
  cases r <;> rfl

/-- The furthest failure of a result with earlier diagnostics is that of both. -/
theorem furthest_merge [Location P] (r : Result P A) (earlier : Option (Expected P)) :
    (r.merge earlier).furthest = Expected.merge earlier r.furthest := by
  cases earlier <;> cases r <;> simp [merge, furthest, Expected.merge]

/-- Transforming the value and adding diagnostics do not get in each other's way. -/
theorem map_merge [Location P] (f : A → B) (r : Result P A) (earlier : Option (Expected P)) :
    (r.merge earlier).map f = (r.map f).merge earlier := by
  cases earlier <;> cases r <;> rfl

/-- Whether two results agree: equal positions, equal values in the sense of `eq`, and the same
names in whatever order. -/
def same [DecidableEq P] (eq : A → A → Bool) : Result P A → Result P A → Bool
  | .success v p e, .success w q f => eq v w && p == q && Expected.same? e f
  | .failure e, .failure f => e.same f
  | _, _ => false

end Result

end Descent
