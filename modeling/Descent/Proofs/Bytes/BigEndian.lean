import Descent.Parser.Binary
import Mathlib.Algebra.Group.Int.Defs
import Mathlib.Algebra.Group.Nat.Defs

/-!
# Integers as bytes

Numbers are written with the most significant byte first, and integers in two's complement. Each
list of bytes stands for one number and for one integer of its width, and is what that is written
as.
-/

namespace Descent.Parser

theorem bigEndian_zero (n : Nat) : bigEndian 0 n = [] := rfl

theorem bigEndian_succ (width n : Nat) :
    bigEndian (width + 1) n = UInt8.ofNat (n / 256 ^ width) :: bigEndian width n := rfl

@[simp] theorem length_bigEndian (width n : Nat) : (bigEndian width n).length = width := by
  induction width with
  | zero => rfl
  | succ width ih => rw [bigEndian_succ, List.length_cons, ih]

/-- Every byte counts the numbers that those behind it can make up. -/
theorem ofBigEndian_cons (b : UInt8) (bs : List UInt8) :
    ofBigEndian (b :: bs) = b.toNat * 256 ^ bs.length + ofBigEndian bs := by
  -- Behind the first byte the fold starts from that byte, so all starts are needed.
  have hfold : ∀ n : Nat, bs.foldl (fun n b ↦ 256 * n + b.toNat) n =
      n * 256 ^ bs.length + ofBigEndian bs := by
    induction bs with
    | nil => simp [ofBigEndian]
    | cons c bs ih =>
      intro n
      have hc : ofBigEndian (c :: bs) = (256 * 0 + c.toNat) * 256 ^ bs.length + ofBigEndian bs :=
        ih (256 * 0 + c.toNat)
      rw [List.foldl_cons, ih, hc, List.length_cons, Nat.pow_succ, Nat.add_mul]
      grind
  rw [ofBigEndian, List.foldl_cons, Nat.mul_zero, Nat.zero_add]
  exact hfold b.toNat

theorem ofBigEndian_lt (bs : List UInt8) : ofBigEndian bs < 256 ^ bs.length := by
  induction bs with
  | nil => decide
  | cons b bs ih =>
    have hb : b.toNat * 256 ^ bs.length ≤ 255 * 256 ^ bs.length :=
      Nat.mul_le_mul_right _ (Nat.le_of_lt_succ b.toNat_lt)
    rw [ofBigEndian_cons, List.length_cons, Nat.pow_succ]
    omega

/-- What is written is the number, less what its width has no room for. -/
theorem ofBigEndian_bigEndian (width n : Nat) :
    ofBigEndian (bigEndian width n) = n % 256 ^ width := by
  induction width with
  | zero => simp [bigEndian_zero, ofBigEndian, Nat.mod_one]
  | succ width ih =>
    rw [bigEndian_succ, ofBigEndian_cons, ih, length_bigEndian, Nat.pow_succ, Nat.mod_mul,
      UInt8.toNat_ofNat']
    grind

/-- Of all bytes as many as these, only these stand for their number. -/
theorem ofBigEndian_inj {bs cs : List UInt8} (hlength : bs.length = cs.length) :
    ofBigEndian bs = ofBigEndian cs ↔ bs = cs := by
  refine ⟨fun h ↦ ?_, congrArg ofBigEndian⟩
  induction bs generalizing cs with
  | nil => exact (List.length_eq_zero_iff.mp hlength.symm).symm
  | cons b bs ih =>
    cases cs with
    | nil => cases hlength
    | cons c cs =>
      have hrest : bs.length = cs.length := Nat.succ.inj hlength
      have hpos : 0 < 256 ^ cs.length := Nat.pow_pos (by decide)
      -- The first byte is the quotient by what the others can make up, and they are the remainder.
      have split : ∀ {q r}, r < 256 ^ cs.length →
          (q * 256 ^ cs.length + r) / 256 ^ cs.length = q ∧
            (q * 256 ^ cs.length + r) % 256 ^ cs.length = r :=
        fun hr ↦ (Nat.div_mod_unique hpos).mpr ⟨by rw [Nat.add_comm, Nat.mul_comm], hr⟩
      obtain ⟨hb, hbs⟩ := split (q := b.toNat) (hrest ▸ ofBigEndian_lt bs)
      obtain ⟨hc, hcs⟩ := split (q := c.toNat) (ofBigEndian_lt cs)
      rw [ofBigEndian_cons, ofBigEndian_cons, hrest] at h
      rw [h] at hb hbs
      rw [UInt8.toNat_inj.mp (hb.symm.trans hc), ih hrest (hbs.symm.trans hcs)]

/-- Bytes are what the number that they stand for is written as. -/
theorem bigEndian_ofBigEndian (bs : List UInt8) : bigEndian bs.length (ofBigEndian bs) = bs := by
  rw [← ofBigEndian_inj (length_bigEndian _ _), ofBigEndian_bigEndian,
    Nat.mod_eq_of_lt (ofBigEndian_lt bs)]

/-- The integer that bytes stand for in two's complement: in the upper half of its width a number
stands for what it lacks to fill that. -/
def signed (bs : List UInt8) : Int :=
  if 2 * ofBigEndian bs < 256 ^ bs.length then ofBigEndian bs
  else ofBigEndian bs - 256 ^ bs.length

theorem signed_bigEndian {width : Nat} (x : BitVec (8 * width)) :
    signed (bigEndian width x.toNat) = x.toInt := by
  have hpow : 2 ^ (8 * width) = 256 ^ width := Nat.pow_mul 2 8 width
  have hx : x.toNat < 256 ^ width := hpow ▸ x.isLt
  rw [signed, ofBigEndian_bigEndian, Nat.mod_eq_of_lt hx, length_bigEndian,
    BitVec.toInt_eq_toNat_cond, hpow, Int.natCast_pow]
  rfl

/-- All bytes are what a word of their width is written as. -/
theorem exists_bigEndian {width : Nat} {bs : List UInt8} (h : bs.length = width) :
    ∃ x : BitVec (8 * width), bigEndian width x.toNat = bs := by
  have hpow : 2 ^ (8 * width) = 256 ^ width := Nat.pow_mul 2 8 width
  have hlt : ofBigEndian bs < 2 ^ (8 * width) := by
    rw [hpow, ← h]
    exact ofBigEndian_lt bs
  refine ⟨BitVec.ofNat _ (ofBigEndian bs), ?_⟩
  rw [BitVec.toNat_ofNat, Nat.mod_eq_of_lt hlt, ← h, bigEndian_ofBigEndian]

end Descent.Parser
