import Descent.Decimal.Plain
import Descent.Proofs.Calculator.Syntax
import Descent.Proofs.Decimal.Shortest
import Mathlib.Data.List.TakeWhile

/-!
# Plain notation is read back

A decimal in plain notation is a numeral: digits, and more digits behind a point where there are any.
The numeral is worth what the decimal is worth, since neither the zeros that fill a fraction nor those
that are dropped at its end count.
-/

namespace Descent.Decimal

open Calculator (Numeral pointed)

section Digits

theorem value_eq_ofDigitChars (cs : List Char) : read.value cs = Nat.ofDigitChars 10 cs 0 := by
  rw [Nat.ofDigitChars_eq_foldl]
  rfl

theorem value_append (cs ds : List Char) :
    read.value (cs ++ ds) = 10 ^ ds.length * read.value cs + read.value ds := by
  simp only [value_eq_ofDigitChars]
  rw [Nat.ofDigitChars_append, Nat.ofDigitChars_eq_ofDigitChars_zero]

@[simp] theorem value_toDigits (n : Nat) : read.value (Nat.toDigits 10 n) = n := by
  rw [value_eq_ofDigitChars, Nat.ofDigitChars_ten_toDigits]

@[simp] theorem value_replicate_zero (k : Nat) : read.value (List.replicate k '0') = 0 := by
  rw [value_eq_ofDigitChars, Nat.ofDigitChars_replicate_zero, Nat.mul_zero]

/-- What digits behind a point are worth. -/
def fractionValue (cs : List Char) : ℚ := read.value cs / 10 ^ cs.length

/-- Zeros at the end of a fraction do not count. -/
theorem fractionValue_append_replicate (cs : List Char) (k : Nat) :
    fractionValue (cs ++ List.replicate k '0') = fractionValue cs := by
  rw [fractionValue, value_append, value_replicate_zero, List.length_append, List.length_replicate,
    fractionValue, pow_add]
  push_cast
  field_simp
  ring

end Digits

/-- What a numeral is worth. -/
def numeralValue (n : Numeral) : ℚ := read.value (n.whole ++ n.fraction) / 10 ^ n.fraction.length

theorem numeralValue_eq (n : Numeral) :
    numeralValue n = read.value n.whole + fractionValue n.fraction := by
  rw [numeralValue, value_append, fractionValue]
  push_cast
  field_simp

section Fraction

/-- The digits of a number, filled with zeros in front. -/
def padded (n places : Nat) : List Char :=
  List.replicate (places - (Nat.toDigits 10 n).length) '0' ++ Nat.toDigits 10 n

/-- Digits without the zeros at their end. -/
def trimmed (cs : List Char) : List Char := (cs.reverse.dropWhile (· = '0')).reverse

theorem toList_fractionText (n places : Nat) :
    (fractionText n places).toList = pointed (trimmed (padded n places)) := by
  rw [fractionText]
  split
  · next h =>
    have htrimmed : trimmed (padded n places) = [] := h
    rw [htrimmed]
    rfl
  · next hne =>
    have hne' : trimmed (padded n places) ≠ [] := hne
    obtain ⟨d, ds, hcons⟩ := List.exists_cons_of_ne_nil hne'
    change ("." ++ String.ofList (trimmed (padded n places))).toList = _
    rw [hcons]
    simp [pointed]

/-- Only zeros are dropped. -/
theorem exists_trimmed_append (cs : List Char) :
    ∃ k, cs = trimmed cs ++ List.replicate k '0' := by
  have hzeros : cs.reverse.takeWhile (· = '0') =
      List.replicate (cs.reverse.takeWhile (· = '0')).length '0' :=
    List.eq_replicate_iff.mpr ⟨rfl, fun c hc ↦ by simpa using List.mem_takeWhile_imp hc⟩
  refine ⟨(cs.reverse.takeWhile (· = '0')).length, ?_⟩
  rw [← List.reverse_inj, trimmed, List.reverse_append, List.reverse_reverse,
    List.reverse_replicate, ← hzeros, List.takeWhile_append_dropWhile]

theorem fractionValue_trimmed (cs : List Char) : fractionValue (trimmed cs) = fractionValue cs := by
  obtain ⟨k, hk⟩ := exists_trimmed_append cs
  conv_rhs => rw [hk]
  exact (fractionValue_append_replicate _ k).symm

theorem mem_of_mem_trimmed {c : Char} {cs : List Char} (h : c ∈ trimmed cs) : c ∈ cs :=
  List.mem_reverse.mp ((List.dropWhile_sublist _).subset (List.mem_reverse.mp h))

theorem length_trimmed_le (cs : List Char) : (trimmed cs).length ≤ cs.length := by
  have hle := (List.dropWhile_sublist (· = '0') (l := cs.reverse)).length_le
  rw [List.length_reverse] at hle
  rwa [trimmed, List.length_reverse]

variable {n places : Nat}

theorem isDigit_of_mem_padded {c : Char} (h : c ∈ padded n places) : c.isDigit = true := by
  rcases List.mem_append.mp h with h | h
  · rw [List.eq_of_mem_replicate h]
    rfl
  · exact Nat.isDigit_of_mem_toDigits (by decide) (by decide) h

/-- A number that fits into the places fills them, but for a zero without places. -/
theorem length_padded (h : n < 10 ^ places) :
    (padded n places).length = places ∨ n = 0 := by
  cases places with
  | zero => exact .inr (by omega)
  | succ places =>
    have := (Nat.length_toDigits_le_iff (by decide) (Nat.succ_pos places)).mpr h
    rw [padded, List.length_append, List.length_replicate]
    omega

theorem length_padded_le (h : n < 10 ^ places) : (padded n places).length ≤ places + 1 := by
  have hlt : n < 10 ^ (places + 1) := Nat.lt_trans h (Nat.pow_lt_pow_succ (by decide))
  have := (Nat.length_toDigits_le_iff (by decide) (Nat.succ_pos places)).mpr hlt
  rw [padded, List.length_append, List.length_replicate]
  omega

theorem fractionValue_padded (h : n < 10 ^ places) :
    fractionValue (padded n places) = n / 10 ^ places := by
  have hvalue : read.value (padded n places) = n := by
    rw [padded, value_append, value_replicate_zero, Nat.mul_zero, Nat.zero_add, value_toDigits]
  rw [fractionValue, hvalue]
  rcases length_padded h with hlength | rfl
  · rw [hlength]
  · simp

end Fraction

namespace Scientific

/-- The digits of a decimal before it is divided by the power of ten of its places. -/
private def scaled (d : Scientific) : Nat := d.digits * Nat.pow 10 d.exponent.toNat

/-- The number of digits behind the point, before zeros are dropped. -/
private def fractionPlaces (d : Scientific) : Nat := (-d.exponent).toNat

/-- The numeral that a decimal in plain notation is. -/
def numeral (d : Scientific) : Numeral where
  whole := Nat.toDigits 10 (d.scaled / Nat.pow 10 d.fractionPlaces)
  fraction := trimmed (padded (d.scaled % Nat.pow 10 d.fractionPlaces) d.fractionPlaces)
  nonempty := Nat.toDigits_ne_nil
  whole_digits _ h := Nat.isDigit_of_mem_toDigits (by decide) (by decide) h
  fraction_digits _ h := isDigit_of_mem_padded (mem_of_mem_trimmed h)

theorem toList_plain (d : Scientific) : d.plain.toList = d.numeral.text := by
  have hplain : d.plain = toString (d.scaled / Nat.pow 10 d.fractionPlaces) ++
      fractionText (d.scaled % Nat.pow 10 d.fractionPlaces) d.fractionPlaces := rfl
  rw [hplain, String.toList_append, toList_fractionText, Nat.toString_eq_ofList_toDigits,
    String.toList_ofList]
  rfl

private theorem scaled_div (d : Scientific) :
    (d.scaled : ℚ) / (Nat.pow 10 d.fractionPlaces : Nat) = d.toRat := by
  have hpow : ((Nat.pow 10 d.fractionPlaces : Nat) : ℚ) = 10 ^ (-d.exponent).toNat := by
    simp [fractionPlaces]
  rw [hpow, scaled, toRat, ← pow_toNat_div_pow_toNat]
  simp [mul_div_assoc]

/-- The numeral is worth what the decimal is worth. -/
theorem numeralValue_numeral (d : Scientific) : numeralValue d.numeral = d.toRat := by
  have hpos : 0 < Nat.pow 10 d.fractionPlaces := Nat.pow_pos (by decide)
  have hfraction : fractionValue d.numeral.fraction =
      (d.scaled % Nat.pow 10 d.fractionPlaces : Nat) / (Nat.pow 10 d.fractionPlaces : Nat) := by
    refine (fractionValue_trimmed _).trans ((fractionValue_padded (Nat.mod_lt _ hpos)).trans ?_)
    simp
  have hwhole : read.value d.numeral.whole = d.scaled / Nat.pow 10 d.fractionPlaces :=
    value_toDigits _
  have hsplit : (d.scaled : ℚ) =
      (Nat.pow 10 d.fractionPlaces : Nat) * (d.scaled / Nat.pow 10 d.fractionPlaces : Nat) +
        (d.scaled % Nat.pow 10 d.fractionPlaces : Nat) := by
    exact_mod_cast (Nat.div_add_mod _ _).symm
  have hne : ((Nat.pow 10 d.fractionPlaces : Nat) : ℚ) ≠ 0 := by exact_mod_cast hpos.ne'
  rw [numeralValue_eq, hwhole, hfraction, ← scaled_div, eq_div_iff hne, add_mul,
    div_mul_cancel₀ _ hne, hsplit]
  ring

/-- Behind the point there are no more digits than there are places. -/
theorem length_fraction_le (d : Scientific) :
    d.numeral.fraction.length ≤ (-d.exponent).toNat + 1 :=
  (length_trimmed_le _).trans (length_padded_le (Nat.mod_lt _ (Nat.pow_pos (by decide))))

/-- In front of the point there are no more digits than the decimal is large. -/
theorem length_whole_le {d : Scientific} {k : Nat} (hk : 0 < k) (h : d.toRat < 10 ^ k) :
    d.numeral.whole.length ≤ k := by
  refine (Nat.length_toDigits_le_iff (by decide) hk).mpr ?_
  have hle : ((d.scaled / Nat.pow 10 d.fractionPlaces : Nat) : ℚ) < 10 ^ k := by
    refine lt_of_le_of_lt Nat.cast_div_le ?_
    rwa [scaled_div]
  exact_mod_cast hle

end Scientific

end Descent.Decimal
