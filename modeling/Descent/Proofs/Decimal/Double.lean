import Descent.Proofs.Decimal.Plain
import Mathlib

/-!
# Doubles are read back

What is printed for a finite double is a numeral, behind a minus if the sign of the double is set, and
the numeral is read as the double without its sign. Nothing is lost: the bits of a double are those of
its magnitude and its sign.
-/

namespace Descent.Decimal

open Calculator (Numeral pointed)
open Float.Model

/-- The exponent and the fraction of a double stand behind its sign. -/
private theorem toNat_mod_eq (bits : UInt64) :
    bits.toNat % 2 ^ 63 =
      bits.toNat / leastNormal % 0x800 * leastNormal + bits.toNat % leastNormal := by
  rw [leastNormal_eq]
  omega

private theorem toNat_eq (bits : UInt64) :
    bits.toNat =
      (if decide (bits.toNat ≥ 1 <<< 63) then 2 ^ 63 else 0) + bits.toNat % 2 ^ 63 := by
  have hbits : bits.toNat < 2 ^ 64 := bits.toNat_lt
  split
  · next hle =>
    have := of_decide_eq_true hle
    omega
  · next hlt =>
    have := of_decide_eq_false (Bool.eq_false_iff.mpr hlt)
    omega

/-- The bits of a finite double are those of its magnitude, with the sign in front. -/
theorem Double.of_ofBits_eq_finite {bits : UInt64} {negative : Bool} {m : Magnitude}
    (h : Double.ofBits bits = .finite negative m) :
    m.Canonical ∧ bits.toNat = (if negative then 2 ^ 63 else 0) + m.bits := by
  have hfraction : bits.toNat % leastNormal < leastNormal := Nat.mod_lt _ (by decide)
  have hfields := toNat_mod_eq bits
  have hsign := toNat_eq bits
  rw [ofBits] at h
  split at h
  · split at h
    · cases h
    · cases h
  · next hgreatest =>
    split at h
    · next hzero =>
      obtain ⟨rfl, rfl⟩ := Double.finite.inj h
      have hbits : (Magnitude.mk (bits.toNat % leastNormal) leastExponent).bits =
          bits.toNat % 2 ^ 63 := by
        rw [Magnitude.bits, Int.sub_self, hfields, hzero]
        rfl
      refine ⟨⟨?_, .inr rfl, le_rfl, ?_⟩, by rwa [hbits]⟩
      · exact Nat.lt_of_lt_of_le hfraction (Nat.le_mul_of_pos_left _ two_pos)
      · exact lt_add_of_pos_right _ (by decide)
    · next hzero =>
      obtain ⟨rfl, rfl⟩ := Double.finite.inj h
      obtain ⟨biased, hbiased⟩ := Nat.exists_eq_add_one_of_ne_zero hzero
      have hlt : bits.toNat / leastNormal % 0x800 < 0x800 := Nat.mod_lt _ (by decide)
      rw [hbiased] at hgreatest hfields hlt ⊢
      have hbits : (Magnitude.mk (leastNormal + bits.toNat % leastNormal)
          (leastExponent + (biased + 1 : Nat) - 1)).bits = bits.toNat % 2 ^ 63 := by
        have hexponent : (leastExponent + (biased + 1 : Nat) - 1 - leastExponent).toNat = biased := by
          omega
        rw [Magnitude.bits, hexponent, hfields, Nat.succ_mul, Nat.add_assoc]
      refine ⟨⟨?_, .inl (Nat.le_add_right _ _), ?_, ?_⟩, by rwa [hbits]⟩
      · rw [Nat.two_mul]
        exact Nat.add_lt_add_left hfraction _
      · dsimp only
        omega
      · dsimp only
        omega

section Negation

variable {bits bits' : UInt64}

private theorem exponent_toNat (bits : UInt64) :
    (@UnpackedFloat.unpackExponent .binary64 bits.toBitVec).toNat =
      bits.toNat / 2 ^ 52 % 2 ^ 11 := by
  rw [UnpackedFloat.unpackExponent_def, BitVec.extractLsb'_toNat, Nat.shiftRight_eq_div_pow]
  rfl

private theorem mantissa_toNat (bits : UInt64) :
    (@UnpackedFloat.unpackMantissa .binary64 bits.toBitVec).toNat =
      bits.toNat % 2 ^ 52 := by
  rw [UnpackedFloat.unpackMantissa_def, BitVec.extractLsb'_toNat, Nat.shiftRight_zero]
  rfl

private theorem sign_toNat (bits : UInt64) :
    (@UnpackedFloat.unpackSign .binary64 bits.toBitVec).toNat =
      bits.toNat / 2 ^ 63 % 2 ^ 1 := by
  rw [UnpackedFloat.unpackSign_def, BitVec.extractLsb'_toNat, Nat.shiftRight_eq_div_pow]
  rfl

private theorem exponent_ne (hfinite : bits.toNat < 0x7ff * leastNormal) :
    @UnpackedFloat.unpackExponent .binary64 bits.toBitVec ≠ -1#11 := by
  intro h
  have hones : bits.toNat / 2 ^ 52 % 2 ^ 11 = 2 ^ 11 - 1 := by
    rw [← exponent_toNat, h]
    rfl
  rw [leastNormal_eq] at hfinite
  omega

variable (hbits : bits'.toNat = 2 ^ 63 + bits.toNat)
  (hfinite : bits.toNat < 0x7ff * leastNormal)
include hbits hfinite

/-- Doubles whose bits differ in the sign alone are unpacked to numbers that do. -/
private theorem neg_unpack :
    (UnpackedFloat.unpack .binary64 bits.toBitVec).neg =
      UnpackedFloat.unpack .binary64 bits'.toBitVec := by
  have hlt : bits.toNat < 2 ^ 63 := Nat.lt_trans hfinite (by decide)
  have hexponent : @UnpackedFloat.unpackExponent .binary64 bits'.toBitVec =
      @UnpackedFloat.unpackExponent .binary64 bits.toBitVec := by
    apply BitVec.eq_of_toNat_eq
    rw [exponent_toNat, exponent_toNat]
    omega
  have hmantissa : @UnpackedFloat.unpackMantissa .binary64 bits'.toBitVec =
      @UnpackedFloat.unpackMantissa .binary64 bits.toBitVec := by
    apply BitVec.eq_of_toNat_eq
    rw [mantissa_toNat, mantissa_toNat]
    omega
  have hpositive : @UnpackedFloat.unpackSign .binary64 bits.toBitVec = 0#1 := by
    apply BitVec.eq_of_toNat_eq
    rw [sign_toNat, BitVec.toNat_ofNat]
    omega
  have hnegative : @UnpackedFloat.unpackSign .binary64 bits'.toBitVec = 1#1 := by
    apply BitVec.eq_of_toNat_eq
    rw [sign_toNat, BitVec.toNat_ofNat]
    omega
  simp only [UnpackedFloat.unpack, hexponent, hmantissa, hpositive, hnegative]
  rw [if_neg (exponent_ne hfinite), if_neg (exponent_ne hfinite)]
  split
  · split
    · rfl
    · rfl
  · rfl

/-- Negation flips the sign bit and nothing else. -/
theorem neg_ofBits : -Float.ofBits bits = Float.ofBits bits' := by
  have hvalid : Format.binary64.Valid bits.toBitVec :=
    ⟨fun h ↦ absurd h (exponent_ne hfinite)⟩
  -- The model packs a double before it is unpacked for the negation; both cancel.
  change Float.ofModel (Float.Model.pack (UnpackedFloat.unpack .binary64
    (UnpackedFloat.pack .binary64 (UnpackedFloat.unpack .binary64 bits.toBitVec))).neg) = _
  rw [UnpackedFloat.pack_unpack_of_valid hvalid, neg_unpack hbits hfinite]
  rfl

end Negation

section Reading

variable {m : Magnitude}

/-- The numeral that is printed for a magnitude is read as the double that has its bits. -/
theorem read_numeral (hm : m.Canonical) :
    read m.shortest.numeral.whole m.shortest.numeral.fraction =
      Float.ofBits (UInt64.ofNat m.bits) := by
  rw [read, nearest]
  congr 1
  rcases Nat.eq_zero_or_pos m.significand with hzero | hpos
  · have hleast : m.exponent = leastExponent :=
      hm.normal_or_least.resolve_left (by rw [hzero]; decide)
    have hshortest : m.shortest = ⟨0, 0⟩ := if_pos hzero
    rw [hshortest, Magnitude.bits, hzero, hleast]
    rfl
  · have hvalue : m.shortest.toRat =
        (read.value (m.shortest.numeral.whole ++ m.shortest.numeral.fraction) : ℚ) /
          (Nat.pow 10 m.shortest.numeral.fraction.length : Nat) := by
      rw [← Scientific.numeralValue_numeral, numeralValue]
      simp
    exact Magnitude.nearestBits_eq hpos (Magnitude.holds_shortest hm hpos) hm
      (Nat.pow_pos (by decide)) hvalue

/-- A finite double is what its numeral is read as, negated if its sign is set. -/
theorem eq_read_of_finite {x : Float} {negative : Bool}
    (h : Double.ofBits x.toBits = .finite negative m) :
    x = (if negative then (- ·) else id)
      (read m.shortest.numeral.whole m.shortest.numeral.fraction) := by
  obtain ⟨hm, hbits⟩ := Double.of_ofBits_eq_finite h
  have hlt := hm.bits_lt
  have hword : (UInt64.ofNat m.bits).toNat = m.bits := by
    rw [UInt64.toNat_ofNat']
    exact Nat.mod_eq_of_lt (Nat.lt_trans hlt (by decide))
  rw [read_numeral hm]
  cases negative with
  | false =>
    rw [if_neg Bool.false_ne_true, Nat.zero_add] at hbits
    have hx : x.toBits = UInt64.ofNat m.bits := by rw [← hbits, UInt64.ofNat_toNat]
    calc x = Float.ofBits x.toBits := (Float.ofBits_toBits x).symm
      _ = Float.ofBits (UInt64.ofNat m.bits) := by rw [hx]
  | true =>
    rw [if_pos rfl, ← hword] at hbits
    calc x = Float.ofBits x.toBits := (Float.ofBits_toBits x).symm
      _ = -Float.ofBits (UInt64.ofNat m.bits) := (neg_ofBits hbits (by rwa [hword])).symm

/-- The numeral of a double is not so long that its length would matter. -/
theorem length_numeral_le (hm : m.Canonical) : m.shortest.numeral.text.length ≤ 2120 := by
  have hsizes : m.shortest.numeral.whole.length ≤ 1025 ∧
      m.shortest.numeral.fraction.length ≤ 1094 := by
    rcases Nat.eq_zero_or_pos m.significand with hzero | hpos
    · have hshortest : m.shortest = ⟨0, 0⟩ := if_pos hzero
      rw [hshortest]
      decide
    · have hfraction := m.shortest.length_fraction_le
      have hexponent := Magnitude.le_exponent_shortest hm hpos
      have hwhole := Scientific.length_whole_le (by decide) (Magnitude.toRat_shortest_lt hm hpos)
      omega
  have hpointed : (pointed m.shortest.numeral.fraction).length ≤
      m.shortest.numeral.fraction.length + 1 := by
    cases m.shortest.numeral.fraction with
    | nil => exact Nat.zero_le _
    | cons d ds => exact le_rfl
  rw [Numeral.text, List.length_append]
  omega

end Reading

end Descent.Decimal
