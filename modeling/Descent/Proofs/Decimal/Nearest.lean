import Descent.Decimal.Double
import Mathlib.Algebra.Order.Field.Power
import Mathlib.Algebra.Order.Ring.Rat
import Mathlib.Tactic.FieldSimp
import Mathlib.Tactic.Linarith
import Mathlib.Tactic.Positivity
import Mathlib.Tactic.Ring

/-!
# The nearest double

What is read as a double are the bits of the magnitude that lies nearest. The exponent is chosen so
that the significand fills its bits, unless that would be less than the least exponent. A number
below a power of two that is rounded up to it gets the significand that comes behind the last one;
in the bits the exponent then counts up by itself.
-/

namespace Descent.Decimal

/-- A power of any sign as a quotient of two powers, one of which is one. -/
theorem pow_toNat_div_pow_toNat (b : ℚ) (e : Int) :
    b ^ e.toNat / b ^ (-e).toNat = b ^ e := by
  obtain ⟨n, rfl | rfl⟩ := e.eq_nat_or_neg
  · simp
  · simp

theorem leastNormal_eq : leastNormal = 2 ^ 52 := rfl

/-- `k` is the natural number that `x` is rounded to: of two that are equally near, the even one. -/
structure RoundsTo (x : ℚ) (k : Nat) : Prop where
  low : (k : ℚ) - 1 / 2 ≤ x
  high : x ≤ k + 1 / 2
  even : x = k - 1 / 2 ∨ x = k + 1 / 2 → k % 2 = 0

/-- The nearest natural number to a fraction is told by its remainder. -/
private theorem roundEven_eq_of_le {n d k : Nat} (hd : 0 < d) (hlow : 2 * (k * d) ≤ 2 * n + d)
    (hhigh : 2 * n ≤ 2 * (k * d) + d)
    (heven : 2 * (k * d) = 2 * n + d ∨ 2 * n = 2 * (k * d) + d → k % 2 = 0) :
    roundEven n d = k := by
  obtain ⟨q, hq⟩ : ∃ q, n / d = q := ⟨_, rfl⟩
  have hn : n = q * d + n % d := by rw [← hq, Nat.mul_comm, Nat.div_add_mod]
  have hr : n % d < d := Nat.mod_lt n hd
  have hle : ∀ {a b : Nat}, a * d < (b + 1) * d → a ≤ b :=
    fun h ↦ Nat.le_of_lt_succ (lt_of_mul_lt_mul_right h (Nat.zero_le d))
  have hsucc : (q + 1) * d = q * d + d := Nat.succ_mul q d
  have hqk : q ≤ k := hle (by rw [Nat.succ_mul]; omega)
  have hkq : k ≤ q + 1 := hle (by rw [Nat.succ_mul]; omega)
  have hcases : k = q ∨ k = q + 1 := by omega
  rw [roundEven]
  split
  · next hless =>
    rcases hcases with rfl | rfl
    · exact hq
    · omega
  · next hless =>
    split
    · next hmore =>
      rcases hcases with rfl | rfl
      · omega
      · rw [hq]
    · next hmore =>
      -- Here the fraction is as near to `q` as to `q + 1`.
      rw [hq]
      rcases hcases with rfl | rfl
      · rw [heven (.inr (by omega)), Nat.add_zero]
      · have := heven (.inl (by omega))
        omega

theorem roundEven_eq {n d k : Nat} (hd : 0 < d) (h : RoundsTo (n / d) k) : roundEven n d = k := by
  have hd' : (0 : ℚ) < d := by exact_mod_cast hd
  have hn : (n : ℚ) = n / d * d := (div_mul_cancel₀ _ hd'.ne').symm
  have hlow : (2 * (k * d) : ℚ) ≤ 2 * n + d := by
    have := mul_le_mul_of_nonneg_right h.low hd'.le
    linarith
  have hhigh : (2 * n : ℚ) ≤ 2 * (k * d) + d := by
    have := mul_le_mul_of_nonneg_right h.high hd'.le
    linarith
  refine roundEven_eq_of_le hd (by exact_mod_cast hlow) (by exact_mod_cast hhigh) fun htie ↦ ?_
  refine h.even (htie.imp (fun h ↦ ?_) fun h ↦ ?_)
  · have : (2 * (k * d) : ℚ) = 2 * n + d := by exact_mod_cast h
    rw [div_eq_iff hd'.ne']
    linarith
  · have : (2 * n : ℚ) = 2 * (k * d) + d := by exact_mod_cast h
    rw [div_eq_iff hd'.ne']
    linarith

/-- Scaling down by a power of two. -/
theorem unscale_div (num den : Nat) (e : Int) :
    ((unscale num den e).1 : ℚ) / (unscale num den e).2 = num / den / 2 ^ e := by
  calc ((unscale num den e).1 : ℚ) / (unscale num den e).2
      = num * 2 ^ (-e).toNat / (den * 2 ^ e.toNat) := by simp [unscale, Nat.shiftLeft_eq]
    _ = num / den / (2 ^ e.toNat / 2 ^ (-e).toNat) := (div_div_div_eq _ _ _ _).symm
    _ = num / den / 2 ^ e := by rw [pow_toNat_div_pow_toNat]

theorem unscale_pos {den : Nat} (hden : 0 < den) (num : Nat) (e : Int) :
    0 < (unscale num den e).2 := by
  simp only [unscale, Nat.shiftLeft_eq]
  positivity

section Exponents

variable {num den : Nat} (hnum : 0 < num) (hden : 0 < den)
include hnum hden

/-- The number of bits tells how large a fraction is, but for one power of two. -/
theorem log2_bounds :
    (2 : ℚ) ^ ((num.log2 : Int) - den.log2 - 1) < num / den ∧
      (num / den : ℚ) < 2 ^ ((num.log2 : Int) - den.log2 + 1) := by
  have hden' : (0 : ℚ) < den := by exact_mod_cast hden
  have hnumLow : (2 : ℚ) ^ num.log2 ≤ num := by exact_mod_cast Nat.log2_self_le hnum.ne'
  have hnumHigh : (num : ℚ) < 2 ^ (num.log2 + 1) := by exact_mod_cast Nat.lt_log2_self
  have hdenLow : (2 : ℚ) ^ den.log2 ≤ den := by exact_mod_cast Nat.log2_self_le hden.ne'
  have hdenHigh : (den : ℚ) < 2 ^ (den.log2 + 1) := by exact_mod_cast Nat.lt_log2_self
  constructor
  · rw [lt_div_iff₀ hden']
    calc (2 : ℚ) ^ ((num.log2 : Int) - den.log2 - 1) * den
        < 2 ^ ((num.log2 : Int) - den.log2 - 1) * 2 ^ (den.log2 + 1) := by gcongr
      _ = 2 ^ num.log2 := by
        rw [← zpow_natCast, ← zpow_natCast, ← zpow_add₀ (by norm_num)]
        congr 1
        push_cast
        ring
      _ ≤ num := hnumLow
  · rw [div_lt_iff₀ hden']
    calc (num : ℚ) < 2 ^ (num.log2 + 1) := hnumHigh
      _ = 2 ^ ((num.log2 : Int) - den.log2 + 1) * 2 ^ den.log2 := by
        rw [← zpow_natCast, ← zpow_natCast, ← zpow_add₀ (by norm_num)]
        congr 1
        push_cast
        ring
      _ ≤ 2 ^ ((num.log2 : Int) - den.log2 + 1) * den := by gcongr

/-- The exponent is the one at which the significand has 53 bits, if it is no less than the least
exponent. -/
theorem exponentFor_spec :
    ∃ e : Int, exponentFor num den = max e leastExponent ∧ 2 ^ 52 * 2 ^ e ≤ (num / den : ℚ) ∧
      (num / den : ℚ) < 2 ^ 53 * 2 ^ e := by
  obtain ⟨hlow, hhigh⟩ := log2_bounds hnum hden
  obtain ⟨low, hdef⟩ : ∃ low : Int, low = (num.log2 : Int) - den.log2 - 53 := ⟨_, rfl⟩
  have hscale : ∀ (n : Nat) (e : Int), (2 : ℚ) ^ n * 2 ^ e = 2 ^ (e + n) := by
    intro n e
    rw [← zpow_natCast, ← zpow_add₀ two_ne_zero, add_comm]
  have hfills : 2 * leastNormal * (unscale num den low).2 ≤ (unscale num den low).1 ↔
      2 ^ 53 * 2 ^ low ≤ (num / den : ℚ) := by
    have hpos : (0 : ℚ) < (unscale num den low).2 := by exact_mod_cast unscale_pos hden num low
    have hcast : ((2 * leastNormal : Nat) : ℚ) = 2 ^ 53 := by
      rw [leastNormal_eq]
      norm_num
    rw [← le_div_iff₀ (zpow_pos two_pos low), ← unscale_div, le_div_iff₀ hpos, ← hcast]
    exact_mod_cast Iff.rfl
  have hexponent : exponentFor num den =
      max (if 2 * leastNormal * (unscale num den low).2 ≤ (unscale num den low).1 then low + 1
        else low) leastExponent := by
    rw [hdef]
    rfl
  rw [hexponent]
  by_cases h : 2 * leastNormal * (unscale num den low).2 ≤ (unscale num den low).1
  · refine ⟨low + 1, by rw [if_pos h], ?_, ?_⟩
    · rw [zpow_add_one₀ two_ne_zero]
      linarith [hfills.mp h]
    · have hsum : low + 1 + (53 : Nat) = (num.log2 : Int) - den.log2 + 1 := by omega
      rwa [hscale, hsum]
  · refine ⟨low, by rw [if_neg h], ?_, not_le.mp fun hle ↦ h (hfills.mpr hle)⟩
    have hsum : low + (52 : Nat) = (num.log2 : Int) - den.log2 - 1 := by omega
    rw [hscale, hsum]
    exact hlow.le

/-- So it is known where a number is less than 53 bits can tell, and fills them or cannot. -/
theorem exponentFor_eq {e : Int} (hleast : leastExponent ≤ e)
    (hhigh : (num / den : ℚ) < 2 ^ 53 * 2 ^ e)
    (hlow : 2 ^ 52 * 2 ^ e ≤ (num / den : ℚ) ∨ e = leastExponent) : exponentFor num den = e := by
  obtain ⟨e', hexponent, hlow', hhigh'⟩ := exponentFor_spec hnum hden
  have hle : ∀ {a b : Int}, 2 ^ 52 * 2 ^ a ≤ (num / den : ℚ) →
      (num / den : ℚ) < 2 ^ 53 * 2 ^ b → a ≤ b := by
    intro a b ha hb
    have hpow : (2 : ℚ) ^ a < 2 ^ (b + 1) := by
      rw [zpow_add_one₀ two_ne_zero]
      linarith
    exact Int.lt_add_one_iff.mp ((zpow_lt_zpow_iff_right₀ one_lt_two).mp hpow)
  have hupper : e' ≤ e := hle hlow' hhigh
  rw [hexponent]
  rcases hlow with hlow | rfl
  · have hlower : e ≤ e' := hle hlow hhigh'
    omega
  · omega

/-- The bits of the nearest double are those of the exponent and of the rounded significand. -/
theorem nearestBits_eq_of_roundsTo {e : Int} {k : Nat} (hleast : leastExponent ≤ e)
    (hhigh : (num / den : ℚ) < 2 ^ 53 * 2 ^ e)
    (hlow : 2 ^ 52 * 2 ^ e ≤ (num / den : ℚ) ∨ e = leastExponent)
    (h : RoundsTo (num / den / 2 ^ e) k) :
    nearestBits num den =
      UInt64.ofNat (min ((e - leastExponent).toNat * leastNormal + k) (0x7ff * leastNormal)) := by
  have hround : roundEven (unscale num den e).1 (unscale num den e).2 = k := by
    apply roundEven_eq (unscale_pos hden num e)
    rwa [unscale_div]
  rw [nearestBits, if_neg hnum.ne', exponentFor_eq hnum hden hleast hhigh hlow, ← hround]

end Exponents

end Descent.Decimal
