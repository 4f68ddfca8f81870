import Descent.Decimal.Shortest
import Descent.Proofs.Decimal.Nearest

/-!
# What rounds to a double

The interval that is searched for decimals consists of what is read as the double that it surrounds:
half of a last place on both sides, and a quarter below a power of two. Its ends belong to it where
the significand is even.
-/

namespace Descent.Decimal

/-- A magnitude that a finite double has: its significand fills its bits, unless the exponent is the
least one. -/
structure Magnitude.Canonical (m : Magnitude) : Prop where
  significand_lt : m.significand < 2 * leastNormal
  normal_or_least : leastNormal ≤ m.significand ∨ m.exponent = leastExponent
  least_le : leastExponent ≤ m.exponent
  exponent_lt : m.exponent < leastExponent + 0x7fe

/-- The bits of a magnitude: the exponent counts from the least one, and the leading bit of a
significand that fills its bits counts it up by one. -/
def Magnitude.bits (m : Magnitude) : Nat :=
  (m.exponent - leastExponent).toNat * leastNormal + m.significand

/-- The bits of a finite double are below those of infinity. -/
theorem Magnitude.Canonical.bits_lt {m : Magnitude} (hm : m.Canonical) :
    m.bits < 0x7ff * leastNormal := by
  have hsignificand := hm.significand_lt
  have hleast := hm.least_le
  have hexponent := hm.exponent_lt
  have hbiased : (m.exponent - leastExponent).toNat ≤ 0x7fd := by omega
  have := Nat.mul_le_mul_right leastNormal hbiased
  rw [bits]
  omega

namespace Rounding

/-- Whether a number lies in the interval. -/
def Holds (r : Rounding) (x : ℚ) : Prop :=
  if r.closed then r.low / r.den ≤ x ∧ x ≤ r.high / r.den
  else r.low / r.den < x ∧ x < r.high / r.den

theorem Holds.le {r : Rounding} {x : ℚ} (h : r.Holds x) :
    r.low / r.den ≤ x ∧ x ≤ r.high / r.den := by
  rw [Holds] at h
  split at h
  · exact h
  · exact ⟨h.1.le, h.2.le⟩

/-- The ends belong to a closed interval only. -/
theorem Holds.closed {r : Rounding} {x : ℚ} (h : r.Holds x)
    (hends : x = r.low / r.den ∨ x = r.high / r.den) : r.closed = true := by
  rw [Holds] at h
  split at h
  · next hclosed => exact hclosed
  · rcases hends with rfl | rfl
    · exact absurd h.1 (lt_irrefl _)
    · exact absurd h.2 (lt_irrefl _)

end Rounding

namespace Magnitude

variable {m : Magnitude}

/-- The number that a magnitude stands for. -/
def toRat (m : Magnitude) : ℚ := m.significand * 2 ^ m.exponent

/-- How far the interval reaches below a magnitude, in quarters of a last place. -/
def reach (m : Magnitude) : Nat :=
  if m.significand = leastNormal ∧ m.exponent ≠ leastExponent then 1 else 2

theorem reach_pos (m : Magnitude) : 0 < m.reach := by
  rw [reach]
  split <;> decide

theorem reach_le (m : Magnitude) : m.reach ≤ 2 := by
  rw [reach]
  split <;> decide

theorem den_rounding_pos (m : Magnitude) : 0 < m.rounding.den := by
  simp only [rounding, Nat.shiftLeft_eq]
  positivity

/-- Quarters of a last place. -/
private theorem quarters_div (m : Magnitude) (n : Nat) :
    ((n * (1 <<< (m.exponent - 2).toNat) : Nat) : ℚ) / (m.rounding.den : ℚ) =
      n / 4 * 2 ^ m.exponent := by
  have hden : (m.rounding.den : ℚ) = 2 ^ (-(m.exponent - 2)).toNat := by
    simp [rounding, Nat.shiftLeft_eq]
  have hquarter : (2 : ℚ) ^ (m.exponent - 2) = 2 ^ m.exponent / 4 := by
    rw [zpow_sub₀ two_ne_zero]
    norm_num
  rw [hden, Nat.shiftLeft_eq, Nat.one_mul]
  push_cast
  rw [mul_div_assoc, pow_toNat_div_pow_toNat, hquarter]
  ring

theorem value_rounding (m : Magnitude) : (m.rounding.value : ℚ) / m.rounding.den = m.toRat := by
  refine (m.quarters_div (4 * m.significand)).trans ?_
  rw [toRat]
  push_cast
  ring

theorem high_rounding (m : Magnitude) :
    (m.rounding.high : ℚ) / m.rounding.den = (m.significand + 1 / 2) * 2 ^ m.exponent := by
  refine (m.quarters_div (4 * m.significand + 2)).trans ?_
  push_cast
  ring

theorem low_rounding (hpos : 0 < m.significand) :
    (m.rounding.low : ℚ) / m.rounding.den =
      (m.significand - m.reach / 4) * 2 ^ m.exponent := by
  have hreach : m.reach ≤ 4 * m.significand := by
    have := m.reach_le
    omega
  refine (m.quarters_div (4 * m.significand - m.reach)).trans ?_
  push_cast [hreach]
  ring

section Interval

variable (hpos : 0 < m.significand) {x : ℚ} (h : m.rounding.Holds x)
include hpos h

theorem le_of_holds : m.significand - m.reach / 4 ≤ x / 2 ^ m.exponent := by
  rw [le_div_iff₀ (zpow_pos two_pos _), ← low_rounding hpos]
  exact h.le.1

/-- What lies in the interval is rounded to the significand. -/
theorem roundsTo_of_holds : RoundsTo (x / 2 ^ m.exponent) m.significand := by
  have hreach : (m.reach : ℚ) ≤ 2 := by exact_mod_cast m.reach_le
  have hlow := le_of_holds hpos h
  have hhigh : x / 2 ^ m.exponent ≤ m.significand + 1 / 2 := by
    rw [div_le_iff₀ (zpow_pos two_pos _), ← high_rounding]
    exact h.le.2
  refine ⟨by linarith, hhigh, fun htie ↦ ?_⟩
  have hclosed : m.rounding.closed = true := by
    apply h.closed
    have hscale : x = x / 2 ^ m.exponent * 2 ^ m.exponent :=
      (div_mul_cancel₀ x (zpow_pos two_pos _).ne').symm
    rw [low_rounding hpos, high_rounding]
    refine htie.imp (fun htie ↦ ?_) fun htie ↦ ?_
    · have : (m.reach : ℚ) = 2 := by linarith
      rw [hscale, htie, this]
      ring
    · rw [hscale, htie]
  exact of_decide_eq_true hclosed

/-- What lies in the interval but has not enough bits lies below a power of two, by a quarter of a
last place at most. -/
theorem below_power (hm : m.Canonical) (hleast : m.exponent ≠ leastExponent)
    (hx : x / 2 ^ m.exponent < 2 ^ 52) :
    m.significand = leastNormal ∧ 2 ^ 52 - 1 / 4 ≤ x / 2 ^ m.exponent := by
  have hreach : (m.reach : ℚ) ≤ 2 := by exact_mod_cast m.reach_le
  have hlow := le_of_holds hpos h
  have hnormal : leastNormal ≤ m.significand := hm.normal_or_least.resolve_right hleast
  have hsignificand : m.significand = leastNormal := by
    have : (m.significand : ℚ) < 2 ^ 52 + 1 := by linarith
    have : m.significand < 2 ^ 52 + 1 := by exact_mod_cast this
    rw [leastNormal_eq] at hnormal ⊢
    omega
  have hquarter : m.reach = 1 := if_pos ⟨hsignificand, hleast⟩
  rw [hquarter, hsignificand, leastNormal_eq] at hlow
  push_cast at hlow
  exact ⟨hsignificand, hlow⟩

section Reading

variable (hm : m.Canonical) {num den : Nat} (hnum : 0 < num) (hden : 0 < den) (hx : x = num / den)
include hm hnum hden hx

/-- Where the significand fills its bits, or the exponent is the least one, the number is read with
the exponent of the magnitude. -/
private theorem nearestBits_eq_of_full
    (hfull : 2 ^ 52 ≤ x / 2 ^ m.exponent ∨ m.exponent = leastExponent) :
    nearestBits num den = UInt64.ofNat m.bits := by
  have hpower : (0 : ℚ) < 2 ^ m.exponent := zpow_pos two_pos _
  have hrounds := roundsTo_of_holds hpos h
  have hsignificand : (m.significand : ℚ) + 1 ≤ 2 ^ 53 := by
    have := hm.significand_lt
    rw [leastNormal_eq] at this
    exact_mod_cast this
  have hhigh : x < 2 ^ 53 * 2 ^ m.exponent := by
    rw [← div_lt_iff₀ hpower]
    linarith [hrounds.high]
  have hlow : 2 ^ 52 * 2 ^ m.exponent ≤ x ∨ m.exponent = leastExponent :=
    hfull.imp_left (le_div_iff₀ hpower).mp
  rw [hx] at hhigh hlow hrounds
  rw [nearestBits_eq_of_roundsTo hnum hden hm.least_le hhigh hlow hrounds,
    ← Nat.min_eq_left (Nat.le_of_lt hm.bits_lt)]
  rfl

/-- Below a power of two the exponent is one less, and the significand is rounded up to the power. -/
private theorem nearestBits_eq_of_below (hbelow : x / 2 ^ m.exponent < 2 ^ 52)
    (hleast : m.exponent ≠ leastExponent) : nearestBits num den = UInt64.ofNat m.bits := by
  have hpower : (0 : ℚ) < 2 ^ (m.exponent - 1) := zpow_pos two_pos _
  obtain ⟨hsignificand, hquarter⟩ := below_power hpos h hm hleast hbelow
  have hleast' : leastExponent ≤ m.exponent - 1 := by
    have := hm.least_le
    omega
  have hdouble : x / 2 ^ (m.exponent - 1) = 2 * (x / 2 ^ m.exponent) := by
    rw [zpow_sub_one₀ two_ne_zero]
    field_simp
  have hhigh : x < 2 ^ 53 * 2 ^ (m.exponent - 1) := by
    rw [← div_lt_iff₀ hpower, hdouble]
    linarith
  have hlow : 2 ^ 52 * 2 ^ (m.exponent - 1) ≤ x ∨ m.exponent - 1 = leastExponent := by
    rw [← le_div_iff₀ hpower, hdouble]
    exact .inl (by linarith)
  have hrounds : RoundsTo (x / 2 ^ (m.exponent - 1)) (2 * leastNormal) := by
    rw [hdouble, leastNormal_eq]
    refine ⟨?_, ?_, fun _ ↦ by decide⟩
    · push_cast
      linarith
    · push_cast
      linarith
  have hcarry : (m.exponent - 1 - leastExponent).toNat * leastNormal + 2 * leastNormal = m.bits := by
    have hsucc : (m.exponent - leastExponent).toNat =
        (m.exponent - 1 - leastExponent).toNat + 1 := by omega
    rw [bits, hsucc, hsignificand, Nat.add_mul, Nat.one_mul]
    omega
  rw [hx] at hhigh hlow hrounds
  rw [nearestBits_eq_of_roundsTo hnum hden hleast' hhigh hlow hrounds, hcarry,
    Nat.min_eq_left (Nat.le_of_lt hm.bits_lt)]

omit hnum in
/-- What lies in the interval is read as the double that it surrounds. -/
theorem nearestBits_eq : nearestBits num den = UInt64.ofNat m.bits := by
  have hnum : 0 < num := by
    rcases Nat.eq_zero_or_pos num with rfl | hnum
    · have hlow := (roundsTo_of_holds hpos h).low
      have hone : (1 : ℚ) ≤ m.significand := by exact_mod_cast hpos
      rw [hx, Nat.cast_zero, zero_div, zero_div] at hlow
      linarith
    · exact hnum
  by_cases hfull : 2 ^ 52 ≤ x / 2 ^ m.exponent ∨ m.exponent = leastExponent
  · exact nearestBits_eq_of_full hpos h hm hnum hden hx hfull
  · obtain ⟨hbelow, hleast⟩ := not_or.mp hfull
    exact nearestBits_eq_of_below hpos h hm hnum hden hx (not_le.mp hbelow) hleast

end Reading

end Interval

end Magnitude

end Descent.Decimal
