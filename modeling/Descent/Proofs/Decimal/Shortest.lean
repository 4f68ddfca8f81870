import Descent.Proofs.Decimal.Rounding
import Mathlib.Data.Nat.Cast.Order.Field

/-!
# The shortest digits read back

The search for the shortest decimal always finds one, and what it finds lies in the interval of what
rounds to the double. The doubles lie so close to each other that with 17 digits one of the two
neighbours of a double is in its interval, whatever the exponent.
-/

namespace Descent.Decimal

/-- The number that a decimal stands for. -/
def Scientific.toRat (d : Scientific) : ℚ := d.digits * 10 ^ d.exponent

section DigitCount

variable {n k : Nat}

/-- A number has no more digits than `k` if it is below the power of ten with that exponent. -/
theorem digitCount_le_iff : digitCount n ≤ k ↔ n < 10 ^ k := by
  rw [digitCount]
  split
  · next h => simp [h]
  · next h =>
    cases k with
    | zero =>
      have hlength := List.length_pos_iff.mpr (Nat.toDigits_ne_nil (b := 10) (n := n))
      omega
    | succ k => exact Nat.length_toDigits_le_iff (by decide) (Nat.succ_pos k)

theorem lt_pow_digitCount (n : Nat) : n < 10 ^ digitCount n := digitCount_le_iff.mp le_rfl

theorem pow_le_of_lt_digitCount (h : k < digitCount n) : 10 ^ k ≤ n :=
  not_lt.mp fun hlt ↦ absurd (digitCount_le_iff.mpr hlt) (not_le.mpr h)

end DigitCount

namespace Rounding

variable {r : Rounding} {n : Nat}

/-- Numerators over the denominator, in units of a power of ten. -/
private theorem unscaled_div (r : Rounding) (n : Nat) (e : Int) :
    ((n * Nat.pow 10 (-e).toNat : Nat) : ℚ) / ((r.unscale e).den : ℚ) = n / r.den / 10 ^ e := by
  calc ((n * Nat.pow 10 (-e).toNat : Nat) : ℚ) / ((r.unscale e).den : ℚ)
      = n * 10 ^ (-e).toNat / (r.den * 10 ^ e.toNat) := by simp [unscale]
    _ = n / r.den / (10 ^ e.toNat / 10 ^ (-e).toNat) := (div_div_div_eq _ _ _ _).symm
    _ = n / r.den / 10 ^ e := by rw [pow_toNat_div_pow_toNat]

theorem low_unscale (r : Rounding) (e : Int) :
    ((r.unscale e).low : ℚ) / (r.unscale e).den = r.low / r.den / 10 ^ e :=
  r.unscaled_div r.low e

theorem high_unscale (r : Rounding) (e : Int) :
    ((r.unscale e).high : ℚ) / (r.unscale e).den = r.high / r.den / 10 ^ e :=
  r.unscaled_div r.high e

theorem den_unscale_pos (hden : 0 < r.den) (e : Int) : 0 < (r.unscale e).den :=
  Nat.mul_pos hden (Nat.pow_pos (by decide))

theorem holds_iff (hden : 0 < r.den) : r.holds n = true ↔ r.Holds n := by
  have hden' : (0 : ℚ) < r.den := by exact_mod_cast hden
  rw [holds, Holds]
  split
  · rw [Bool.and_eq_true, decide_eq_true_iff, decide_eq_true_iff, div_le_iff₀ hden',
      le_div_iff₀ hden']
    exact_mod_cast Iff.rfl
  · rw [Bool.and_eq_true, decide_eq_true_iff, decide_eq_true_iff, div_lt_iff₀ hden',
      lt_div_iff₀ hden']
    exact_mod_cast Iff.rfl

/-- What lies in the interval in other units lies in it. -/
theorem holds_unscale {e : Int} {x : ℚ} : (r.unscale e).Holds x ↔ r.Holds (x * 10 ^ e) := by
  have hpower : (0 : ℚ) < 10 ^ e := zpow_pos (by norm_num) e
  have hclosed : (r.unscale e).closed = r.closed := rfl
  rw [Holds, Holds, hclosed, low_unscale, high_unscale, div_le_iff₀ hpower, le_div_iff₀ hpower,
    div_lt_iff₀ hpower, lt_div_iff₀ hpower]

/-- The neighbour that is taken lies in the interval. -/
theorem holds_of_neighbour? (h : r.neighbour? = some n) : r.holds n = true := by
  rw [neighbour?] at h
  split at h
  · next hbelow habove =>
    cases h
    split
    · exact hbelow
    · exact habove
  · next hbelow _ =>
    cases h
    exact hbelow
  · next _ habove =>
    cases h
    exact habove
  · cases h

/-- What lies between the ends lies in the interval, whether or not these do. -/
private theorem holds_of_lt (hlow : r.low < n * r.den) (hhigh : n * r.den < r.high) :
    r.holds n = true := by
  rw [holds]
  split
  · exact Bool.and_eq_true_iff.mpr ⟨decide_eq_true hlow.le, decide_eq_true hhigh.le⟩
  · exact Bool.and_eq_true_iff.mpr ⟨decide_eq_true hlow, decide_eq_true hhigh⟩

/-- One of the neighbours lies in an interval that is longer than one. -/
theorem exists_neighbour? (hden : 0 < r.den) (hlow : r.low < r.value) (hhigh : r.value < r.high)
    (hwide : r.low + r.den < r.high) : ∃ n, r.neighbour? = some n := by
  have hbelow : r.value / r.den * r.den ≤ r.value := Nat.div_mul_le_self _ _
  have habove : r.value < r.value / r.den * r.den + r.den := Nat.lt_div_mul_add hden
  have hholds : r.holds (r.value / r.den) = true ∨ r.holds (r.value / r.den + 1) = true := by
    -- If the lower neighbour is in front of the interval, the upper one cannot be behind it.
    by_cases h : r.low < r.value / r.den * r.den
    · exact .inl (holds_of_lt h (by omega))
    · refine .inr (holds_of_lt ?_ ?_)
      · rw [Nat.succ_mul]
        omega
      · rw [Nat.succ_mul]
        omega
  rw [neighbour?]
  split
  · exact ⟨_, rfl⟩
  · exact ⟨_, rfl⟩
  · exact ⟨_, rfl⟩
  · next h h' =>
    rw [h, h'] at hholds
    simp at hholds

/-- In units that are smaller than the interval is long there is a decimal. -/
theorem exists_neighbour?_unscale (hden : 0 < r.den) (hlow : r.low < r.value)
    (hhigh : r.value < r.high) {e : Int}
    (hwide : (r.low : ℚ) / r.den + 10 ^ e < r.high / r.den) :
    ∃ n, (r.unscale e).neighbour? = some n := by
  have hpower : (0 : ℚ) < 10 ^ e := zpow_pos (by norm_num) e
  have hden' : (0 : ℚ) < (r.unscale e).den := by exact_mod_cast den_unscale_pos hden e
  have hup : 0 < Nat.pow 10 (-e).toNat := Nat.pow_pos (by decide)
  refine exists_neighbour? (den_unscale_pos hden e) (Nat.mul_lt_mul_of_pos_right hlow hup)
    (Nat.mul_lt_mul_of_pos_right hhigh hup) ?_
  have hone : ((r.unscale e).low : ℚ) / (r.unscale e).den + 1 <
      (r.unscale e).high / (r.unscale e).den := by
    rw [low_unscale, high_unscale, lt_div_iff₀ hpower, add_mul, div_mul_cancel₀ _ hpower.ne',
      one_mul]
    exact hwide
  rw [lt_div_iff₀ hden', add_mul, div_mul_cancel₀ _ hden'.ne', one_mul] at hone
  exact_mod_cast hone

/-- The search stops at the latest where there is known to be a neighbour. -/
theorem exists_search_eq (r : Rounding) (places : Int) {count fuel n : Nat}
    (h : (r.unscale (places - (count + fuel : Nat))).neighbour? = some n) :
    ∃ k ≤ count + fuel, ∃ digits, (r.unscale (places - k)).neighbour? = some digits ∧
      r.search places count (fuel + 1) = ⟨digits, places - k⟩ := by
  induction fuel generalizing count with
  | zero =>
    refine ⟨count, le_rfl, n, h, ?_⟩
    rw [search]
    simp only [Nat.add_zero] at h
    rw [h]
  | succ fuel ih =>
    rw [search]
    cases hcount : (r.unscale (places - count)).neighbour? with
    | some digits =>
      exact ⟨count, Nat.le_add_right _ _, digits, hcount, rfl⟩
    | none =>
      rw [← Nat.succ_add_eq_add_succ] at h
      obtain ⟨k, hk, digits, hdigits, hsearch⟩ := ih h
      exact ⟨k, by omega, digits, hdigits, hsearch⟩

section Places

variable (hden : 0 < r.den) (hvalue : 0 < r.value)
include hden hvalue

/-- The value has no fewer digits in front of the point than are counted. -/
theorem pow_places_le : (10 : ℚ) ^ (r.places - 1) ≤ r.value / r.den := by
  have hden' : (0 : ℚ) < r.den := by exact_mod_cast hden
  have hvalue' : (0 : ℚ) < r.value := by exact_mod_cast hvalue
  rw [places]
  split
  · next hle =>
    have hpos : 0 < digitCount (r.value / r.den) := by
      by_contra h
      have hlt := digitCount_le_iff.mp (not_lt.mp h)
      have := Nat.div_pos hle hden
      omega
    have hpow : 10 ^ (digitCount (r.value / r.den) - 1) ≤ r.value / r.den :=
      pow_le_of_lt_digitCount (Nat.sub_lt hpos Nat.one_pos)
    have hcast : ((digitCount (r.value / r.den) : Int) - 1) =
        ((digitCount (r.value / r.den) - 1 : Nat) : Int) := by omega
    rw [hcast, zpow_natCast]
    calc (10 : ℚ) ^ (digitCount (r.value / r.den) - 1) ≤ ((r.value / r.den : Nat) : ℚ) := by
          exact_mod_cast hpow
      _ ≤ r.value / r.den := Nat.cast_div_le
  · next hlt =>
    -- The quotient is rounded up, so the power of ten is no less than the inverse of the value.
    have hpow := lt_pow_digitCount ((r.den - 1) / r.value)
    have hmul : r.den ≤ 10 ^ digitCount ((r.den - 1) / r.value) * r.value := by
      have := (Nat.div_lt_iff_lt_mul hvalue).mp hpow
      omega
    have hcast : (1 - (digitCount ((r.den - 1) / r.value) : Int) - 1) =
        -(digitCount ((r.den - 1) / r.value) : Int) := by omega
    rw [hcast, zpow_neg, zpow_natCast, inv_le_comm₀ (by positivity) (by positivity), inv_div,
      div_le_iff₀ hvalue']
    exact_mod_cast hmul

omit hden hvalue in
/-- There are no more zeros behind the point than the denominator has digits. -/
theorem neg_le_places {k : Nat} (h : r.den < 10 ^ k) : -(k : Int) ≤ r.places := by
  rw [places]
  split
  · omega
  · next hlt =>
    have hquotient : (r.den - 1) / r.value < 10 ^ k :=
      Nat.lt_of_le_of_lt (Nat.div_le_self _ _) (by omega)
    have := digitCount_le_iff.mpr hquotient
    omega

end Places

end Rounding

namespace Magnitude

variable {m : Magnitude}

private theorem shiftLeft_pos (k : Nat) : 0 < 1 <<< k := by
  rw [Nat.shiftLeft_eq]
  positivity

/-- The value lies between the ends of its interval. -/
theorem low_lt_value (hpos : 0 < m.significand) : m.rounding.low < m.rounding.value := by
  have hreach := m.reach_pos
  have hquarters : 4 * m.significand - m.reach < 4 * m.significand := by omega
  exact Nat.mul_lt_mul_of_pos_right hquarters (shiftLeft_pos _)

theorem value_lt_high (m : Magnitude) : m.rounding.value < m.rounding.high :=
  Nat.mul_lt_mul_of_pos_right (Nat.lt_add_of_pos_right two_pos) (shiftLeft_pos _)

section Finite

variable (hm : m.Canonical)
include hm

/-- The significand is below `10 ^ 16` times the width of the interval, both in quarters of a last
place. -/
theorem significand_lt_width : 4 * m.significand < (2 + m.reach) * 10 ^ 16 := by
  have hsignificand := hm.significand_lt
  have hnormal := leastNormal_eq
  rw [reach]
  split
  · omega
  · omega

/-- The denominator of the interval is that of the smallest doubles at most. -/
theorem den_rounding_lt : m.rounding.den < 10 ^ (2 - leastExponent).toNat := by
  have hleast := hm.least_le
  calc m.rounding.den = 2 ^ (-(m.exponent - 2)).toNat := by simp [rounding, Nat.shiftLeft_eq]
    _ ≤ 2 ^ (2 - leastExponent).toNat := Nat.pow_le_pow_right (by decide) (by omega)
    _ < 10 ^ (2 - leastExponent).toNat := Nat.pow_lt_pow_left (by decide) (by decide)

variable (hpos : 0 < m.significand)
include hpos

/-- With 17 digits the last place is shorter than the interval. -/
theorem low_add_lt_high :
    (m.rounding.low : ℚ) / m.rounding.den + 10 ^ (m.rounding.places - mostDigits) <
      m.rounding.high / m.rounding.den := by
  have hpower : (0 : ℚ) < 2 ^ m.exponent := zpow_pos two_pos _
  have hvalue : 0 < m.rounding.value := Nat.zero_lt_of_lt (low_lt_value hpos)
  -- The value has 17 digits in units of this last place, so it is at least `10 ^ 16` of them.
  have hplaces : 10 ^ 16 * (10 : ℚ) ^ (m.rounding.places - mostDigits) ≤
      m.significand * 2 ^ m.exponent := by
    calc 10 ^ 16 * (10 : ℚ) ^ (m.rounding.places - mostDigits)
        = 10 ^ (m.rounding.places - 1) := by
          rw [← zpow_natCast, ← zpow_add₀ (by norm_num), mostDigits]
          congr 1
          push_cast
          ring
      _ ≤ m.rounding.value / m.rounding.den := Rounding.pow_places_le m.den_rounding_pos hvalue
      _ = m.significand * 2 ^ m.exponent := m.value_rounding
  have hwidth : (4 * m.significand : ℚ) < (2 + m.reach) * 10 ^ 16 := by
    exact_mod_cast significand_lt_width hm
  have hscaled := mul_lt_mul_of_pos_right hwidth hpower
  rw [low_rounding hpos, high_rounding]
  linarith

/-- What is found is a decimal in the interval, with 17 digits at most. -/
theorem exists_shortest_eq :
    ∃ k ≤ mostDigits, ∃ digits, m.shortest = ⟨digits, m.rounding.places - k⟩ ∧
      m.rounding.Holds m.shortest.toRat := by
  obtain ⟨n, hn⟩ := Rounding.exists_neighbour?_unscale m.den_rounding_pos (low_lt_value hpos)
    m.value_lt_high (low_add_lt_high hm hpos)
  obtain ⟨k, hk, digits, hdigits, hsearch⟩ :=
    @Rounding.exists_search_eq m.rounding m.rounding.places 1 16 n hn
  have hshortest : m.shortest = ⟨digits, m.rounding.places - k⟩ := by
    rw [shortest, if_neg hpos.ne']
    exact hsearch
  refine ⟨k, hk, digits, hshortest, ?_⟩
  rw [hshortest, Scientific.toRat, ← Rounding.holds_unscale,
    ← Rounding.holds_iff (Rounding.den_unscale_pos m.den_rounding_pos _)]
  exact Rounding.holds_of_neighbour? hdigits

/-- The shortest decimal rounds to the double. -/
theorem holds_shortest : m.rounding.Holds m.shortest.toRat := by
  obtain ⟨_, -, _, -, hholds⟩ := exists_shortest_eq hm hpos
  exact hholds

/-- Its last place is no further behind the point than the smallest doubles call for. -/
theorem le_exponent_shortest : -1093 ≤ m.shortest.exponent := by
  obtain ⟨k, hk, digits, hshortest, -⟩ := exists_shortest_eq hm hpos
  have hplaces := Rounding.neg_le_places (den_rounding_lt hm)
  rw [leastExponent] at hplaces
  rw [mostDigits] at hk
  rw [hshortest]
  dsimp only
  omega

/-- No finite double is as large as this. -/
theorem toRat_shortest_lt : m.shortest.toRat < 10 ^ 1025 := by
  have hexponent : m.exponent ≤ 971 := by
    have := hm.exponent_lt
    rw [leastExponent] at this
    omega
  have hsignificand : (m.significand : ℚ) + 1 / 2 ≤ 2 ^ 54 := by
    have := hm.significand_lt
    rw [leastNormal_eq] at this
    have : (m.significand : ℚ) + 1 ≤ 2 ^ 53 := by exact_mod_cast this
    linarith
  calc m.shortest.toRat ≤ m.rounding.high / m.rounding.den := (holds_shortest hm hpos).le.2
    _ = (m.significand + 1 / 2) * 2 ^ m.exponent := m.high_rounding
    _ ≤ 2 ^ 54 * 2 ^ (971 : Int) := by
      gcongr
      norm_num
    _ = 2 ^ 1025 := by rw [← zpow_natCast, ← zpow_natCast, ← zpow_add₀ two_ne_zero]; rfl
    _ < 10 ^ 1025 := by
      gcongr
      norm_num

end Finite

end Magnitude

end Descent.Decimal
