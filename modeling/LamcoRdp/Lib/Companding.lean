/-
LamcoRdp/Lib/Companding.lean

Numbers coded by an exponent and a few bits of mantissa.

A number of at least `2 ^ b` has a leading one, `b` bits after it and a rest.  The rest is
dropped: what remains names a step of width `2 ^ e`, and the number is decoded as the
middle of its step.  So the error is half a step at most, which is the `2 ^ (b + 1)`-th part
of the number (`InStep.error`), and the order is kept (`InStep.mid_le_mid`), since the middle
of a step lies in it (`inStep_mid`).
-/
import Mathlib.Data.Nat.Log
import Mathlib.Tactic.Linarith
import Mathlib.Tactic.Ring

namespace Companding

variable {b e m e' m' y y' : ℕ}

/-- The least number of a step. -/
def low (b e m : ℕ) : ℕ := (2 ^ b + m) * 2 ^ e

/-- The middle of a step. -/
def mid (b e m : ℕ) : ℕ := low b e m + 2 ^ e / 2

/-- `y` lies in the step with exponent `e` and mantissa `m`. -/
structure InStep (b e m y : ℕ) : Prop where
  mantissa : m < 2 ^ b
  low_le : low b e m ≤ y
  lt : y < low b e m + 2 ^ e

/-- Every number from `2 ^ b` on lies in a step. -/
theorem inStep_of_le (hlow : 2 ^ (b + e) ≤ y) (hhigh : y < 2 ^ (b + e + 1)) :
    InStep b e (y / 2 ^ e % 2 ^ b) y := by
  have hpos : 0 < 2 ^ e := Nat.two_pow_pos e
  have hq : 2 ^ b ≤ y / 2 ^ e := by
    rw [Nat.le_div_iff_mul_le hpos, ← Nat.pow_add]
    exact hlow
  have hq' : y / 2 ^ e < 2 ^ b + 2 ^ b := by
    rw [Nat.div_lt_iff_lt_mul hpos, ← Nat.two_mul, ← Nat.pow_succ', ← Nat.pow_add]
    rwa [Nat.add_right_comm] at hhigh
  -- the quotient is the leading one and the mantissa
  have hquot : 2 ^ b + y / 2 ^ e % 2 ^ b = y / 2 ^ e := by
    rw [Nat.mod_eq_sub_mod hq, Nat.mod_eq_of_lt (by omega)]
    omega
  have hdiv := Nat.div_add_mod y (2 ^ e)
  have hrest := Nat.mod_lt y hpos
  refine ⟨Nat.mod_lt _ (Nat.two_pow_pos b), ?_, ?_⟩ <;> rw [low, hquot, Nat.mul_comm] <;> omega

/-- The middle of a step lies in it. -/
theorem inStep_mid (hm : m < 2 ^ b) : InStep b e m (mid b e m) where
  mantissa := hm
  low_le := Nat.le_add_right _ _
  lt := Nat.add_lt_add_left (Nat.div_lt_self (Nat.two_pow_pos e) (by decide)) _

namespace InStep

theorem pow_le (h : InStep b e m y) : 2 ^ (b + e) ≤ y := by
  rw [Nat.pow_add]
  exact (Nat.mul_le_mul_right _ (Nat.le_add_right _ _)).trans h.low_le

theorem lt_pow (h : InStep b e m y) : y < 2 ^ (b + e + 1) := by
  have hm : 2 ^ b + m + 1 ≤ 2 ^ (b + 1) := by
    have hlt := h.mantissa
    rw [Nat.pow_succ]
    omega
  calc y < low b e m + 2 ^ e := h.lt
    _ = (2 ^ b + m + 1) * 2 ^ e := by rw [low]; ring
    _ ≤ 2 ^ (b + 1) * 2 ^ e := Nat.mul_le_mul_right _ hm
    _ = 2 ^ (b + e + 1) := by rw [← Nat.pow_add]; congr 1; omega

/-- A greater number has no lesser exponent. -/
theorem exponent_le (h : InStep b e m y) (h' : InStep b e' m' y') (hle : y ≤ y') : e ≤ e' := by
  by_contra hlt
  have hpow : 2 ^ (b + e' + 1) ≤ 2 ^ (b + e) := Nat.pow_le_pow_right (by decide) (by omega)
  exact absurd (h.pow_le.trans hle) (Nat.not_le.mpr (h'.lt_pow.trans_le hpow))

theorem mantissa_le (h : InStep b e m y) (h' : InStep b e m' y') (hle : y ≤ y') : m ≤ m' := by
  by_contra hlt
  have hmul : (2 ^ b + m' + 1) * 2 ^ e ≤ (2 ^ b + m) * 2 ^ e :=
    Nat.mul_le_mul_right _ (by omega)
  have hlow : low b e m' + 2 ^ e ≤ low b e m := by
    rw [low, low]
    linarith
  exact absurd (hlow.trans (h.low_le.trans hle)) (Nat.not_le.mpr h'.lt)

/-- A number is decoded within half a step. -/
theorem half (h : InStep b e m y) : 2 * ((mid b e m : ℤ) - y).natAbs ≤ 2 ^ e := by
  have hlow := h.low_le
  have hlt := h.lt
  rw [mid]
  omega

/-- Half a step, as a part of the number. -/
theorem error (h : InStep b e m y) :
    2 ^ (b + 1) * ((mid b e m : ℤ) - y).natAbs ≤ y := by
  calc 2 ^ (b + 1) * ((mid b e m : ℤ) - y).natAbs
      = 2 ^ b * (2 * ((mid b e m : ℤ) - y).natAbs) := by rw [Nat.pow_succ]; ring
    _ ≤ 2 ^ b * 2 ^ e := Nat.mul_le_mul_left _ h.half
    _ ≤ y := by rw [← Nat.pow_add]; exact h.pow_le

/-- Decoding keeps the order. -/
theorem mid_le_mid (h : InStep b e m y) (h' : InStep b e' m' y') (hle : y ≤ y') :
    mid b e m ≤ mid b e' m' := by
  rcases (h.exponent_le h' hle).eq_or_lt with rfl | hlt
  · exact Nat.add_le_add_right
      (Nat.mul_le_mul_right _ (Nat.add_le_add_left (h.mantissa_le h' hle) _)) _
  · have hpow : 2 ^ (b + e + 1) ≤ 2 ^ (b + e') := Nat.pow_le_pow_right (by decide) (by omega)
    -- the middle of the lower step lies in it, and so below the higher one
    have hmid : mid b e m < 2 ^ (b + e + 1) := (inStep_mid h.mantissa).lt_pow
    have hlow : 2 ^ (b + e') ≤ mid b e' m' := by
      rw [mid, low, Nat.pow_add]
      exact (Nat.mul_le_mul_right _ (Nat.le_add_right _ _)).trans (Nat.le_add_right _ _)
    omega

end InStep

end Companding
