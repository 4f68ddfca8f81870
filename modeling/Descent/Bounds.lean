import Descent.Word

/-!
# Bounds

How often a repetition may match. A range is written with ends that are included, excluded or
missing; bounds are its least and greatest member. A range without members has no bounds.
-/

namespace Descent

/-- One end of a range. -/
inductive Endpoint where
  | unbounded
  | included (n : Nat)
  | excluded (n : Nat)
  deriving DecidableEq, Repr

/-- A range of counts as it is written. -/
structure Range where
  start : Endpoint := .unbounded
  stop : Endpoint := .unbounded
  deriving DecidableEq, Repr

/-- The usual notation of a range; an excluded start is followed by `<`. -/
def Range.describe (r : Range) : String :=
  start ++ stop
where
  start := match r.start with
    | .unbounded => ""
    | .included n => toString n
    | .excluded n => toString n ++ "<"
  stop := match r.stop with
    | .unbounded => ".."
    | .included n => "..=" ++ toString n
    | .excluded n => ".." ++ toString n

/-- The range that holds a single count. -/
def Range.exactly (n : Nat) : Range := ⟨.included n, .included n⟩

/-- The range of all counts from `n` on. -/
def Range.atLeast (n : Nat) : Range := ⟨.included n, .unbounded⟩

/-- The least and the greatest count, the latter missing where there is no limit. -/
structure Bounds where
  min : Nat
  max : Option Nat
  ordered : ∀ n, max = some n → min ≤ n
  deriving DecidableEq

namespace Bounds

/-- The counts from `n` on. -/
def atLeast (n : Nat) : Bounds := ⟨n, none, fun _ h ↦ nomatch h⟩

/-- The counts up to `n`. -/
def upTo (n : Nat) : Bounds := ⟨0, some n, fun m _ ↦ Nat.zero_le m⟩

@[simp] theorem max_atLeast (n : Nat) : (atLeast n).max = none := rfl

@[simp] theorem max_upTo (n : Nat) : (upTo n).max = some n := rfl

/-- The least member of a range, unless it is too large for a word. -/
def least? : Endpoint → Option Nat
  | .unbounded => some 0
  | .included n => some n
  | .excluded n => (Word.add n 1).toOption

/-- The greatest member of a range; the outer option is missing if there is none. -/
def greatest? : Endpoint → Option (Option Nat)
  | .unbounded => some none
  | .included n => some (some n)
  | .excluded n => (Word.sub n 1).toOption.map some

/-- Bounds from their two ends, if these are in order. -/
def ofEnds? (min : Nat) (max : Option Nat) : Option Bounds :=
  if h : ∀ n, max = some n → min ≤ n then some ⟨min, max, h⟩ else none

/-- The bounds of a range. Empty and inverted ranges are refused; `combinator` names the caller
in the report. -/
def ofRange (combinator : String) (range : Range) : Except GrammarError Bounds :=
  match least? range.start, greatest? range.stop with
  | some min, some max =>
    match ofEnds? min max with
    | some bounds => .ok bounds
    | none => .error (.badRange combinator range.describe)
  | _, _ => .error (.badRange combinator range.describe)

/-- The bounds of a range for a list with separators, which must allow at least one item. -/
def ofListRange (combinator : String) (range : Range) : Except GrammarError Bounds := do
  let bounds ← ofRange combinator range
  if bounds.max = some 0 then .error (.badRange combinator range.describe) else .ok bounds

/-- The same bounds without the count zero. -/
def positive (b : Bounds) : Bounds where
  min := Max.max b.min 1
  max := b.max.map (Max.max · 1)
  ordered n h := by
    obtain ⟨m, hm, rfl⟩ := Option.map_eq_some_iff.mp h
    have := b.ordered m hm
    omega

/-- What is left of bounds after one match. -/
def pred (b : Bounds) : Bounds where
  min := b.min - 1
  max := b.max.map (· - 1)
  ordered n h := by
    obtain ⟨m, hm, rfl⟩ := Option.map_eq_some_iff.mp h
    have := b.ordered m hm
    omega

/-- Leaving out the count zero changes no upper bound but zero. -/
theorem max_positive (b : Bounds) (h : b.max ≠ some 0) : b.positive.max = b.max := by
  cases hmax : b.max with
  | none => simp [positive, hmax]
  | some n =>
    have hpos : n ≠ 0 := by
      rintro rfl
      exact h hmax
    simp only [positive, hmax, Option.map_some, Option.some.injEq]
    omega

/-- Leaving out the count zero does not change how many matches may follow the first one. -/
theorem max_pred_positive (b : Bounds) : b.positive.pred.max = b.pred.max := by
  cases h : b.max with
  | none => simp [positive, pred, h]
  | some n =>
    simp only [positive, pred, h, Option.map_some, Option.some.injEq]
    omega

/-- A limit that allows an item allows it and what is left of the limit behind it. -/
theorem max_getD_succ (b : Bounds) (h : b.max ≠ some 0) (n : Nat) :
    b.max.getD (n + 1) = b.pred.max.getD n + 1 := by
  cases hmax : b.max with
  | none => simp [pred, hmax]
  | some limit =>
    have hpos : limit ≠ 0 := by
      rintro rfl
      exact h hmax
    simp only [pred, hmax, Option.map_some, Option.getD_some]
    omega

end Bounds

end Descent
