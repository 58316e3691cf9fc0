/-
LamcoRdp/Lib/Signed16.lean

Sixteen-bit signed arithmetic, for programs that run under both rules for an
overflow.

A program that adds, subtracts and takes absolute values is written once, in any
monad with an `Arith`.  In `Id` the operations wrap around; in `Checked` an
overflow is a fault, and what is computed is exact (`add_eq_ok`, `sub_eq_ok`,
`abs_eq_ok`).  Saturating operations never overflow and are the same in both.
-/
import Mathlib.Algebra.Order.Group.Unbundled.Int
import Mathlib.Tactic.Push
import LamcoRdp.Lib.Checked

namespace Signed16

/-- What overflowing operations do. -/
class Arith (m : Type → Type) where
  add : Int16 → Int16 → m Int16
  sub : Int16 → Int16 → m Int16
  abs : Int16 → m Int16

/-- They wrap around. -/
instance wrapping : Arith Id where
  add a b := a + b
  sub a b := a - b
  abs a := a.abs

/-- The number as a word, if it is one. -/
def exactly (n : ℤ) : Checked Int16 :=
  if -2 ^ 15 ≤ n ∧ n < 2 ^ 15 then .ok (Int16.ofInt n) else .error .overflow

/-- They fault. -/
instance checked : Arith Checked where
  add a b := exactly (a.toInt + b.toInt)
  sub a b := exactly (a.toInt - b.toInt)
  abs a := exactly a.toInt.natAbs

/-- `saturating_add`. -/
def saturatingAdd (a b : Int16) : Int16 :=
  .ofInt (max (-2 ^ 15) (min (a.toInt + b.toInt) (2 ^ 15 - 1)))

/-- `saturating_sub`. -/
def saturatingSub (a b : Int16) : Int16 :=
  .ofInt (max (-2 ^ 15) (min (a.toInt - b.toInt) (2 ^ 15 - 1)))

variable {a b c : Int16} {n : ℤ}

theorem toInt_saturatingAdd :
    (saturatingAdd a b).toInt = max (-2 ^ 15) (min (a.toInt + b.toInt) (2 ^ 15 - 1)) :=
  Int16.toInt_ofInt_of_le (by omega) (by omega)

theorem toInt_saturatingSub :
    (saturatingSub a b).toInt = max (-2 ^ 15) (min (a.toInt - b.toInt) (2 ^ 15 - 1)) :=
  Int16.toInt_ofInt_of_le (by omega) (by omega)

theorem exists_toInt_eq (hn : -2 ^ 15 ≤ n ∧ n < 2 ^ 15) : ∃ c : Int16, c.toInt = n :=
  ⟨_, Int16.toInt_ofInt_of_le hn.1 hn.2⟩

theorem exactly_eq_ok : exactly n = .ok c ↔ (-2 ^ 15 ≤ n ∧ n < 2 ^ 15) ∧ c.toInt = n := by
  unfold exactly
  split
  · next hn =>
      rw [Except.ok.injEq, ← Int16.toInt_inj, Int16.toInt_ofInt_of_le hn.1 hn.2]
      constructor
      · intro h
        exact ⟨hn, h.symm⟩
      · rintro ⟨-, h⟩
        exact h.symm
  · next hn => exact iff_of_false nofun fun h => hn h.1

theorem add_eq_ok : (Arith.add a b : Checked Int16) = .ok c ↔
    (-2 ^ 15 ≤ a.toInt + b.toInt ∧ a.toInt + b.toInt < 2 ^ 15) ∧ c.toInt = a.toInt + b.toInt :=
  exactly_eq_ok

theorem sub_eq_ok : (Arith.sub a b : Checked Int16) = .ok c ↔
    (-2 ^ 15 ≤ a.toInt - b.toInt ∧ a.toInt - b.toInt < 2 ^ 15) ∧ c.toInt = a.toInt - b.toInt :=
  exactly_eq_ok

/-- Only the least number has no absolute value. -/
theorem abs_eq_ok : (Arith.abs a : Checked Int16) = .ok c ↔
    -2 ^ 15 < a.toInt ∧ c.toInt = |a.toInt| := by
  have hlo := a.le_toInt
  have hhi := a.toInt_lt
  rw [Int.abs_eq_natAbs]
  refine exactly_eq_ok.trans (and_congr_left fun _ => ?_)
  constructor
  · rintro ⟨-, h⟩
    omega
  · intro h
    omega

theorem abs_eq_error (ha : a.toInt ≤ -2 ^ 15) :
    (Arith.abs a : Checked Int16) = .error .overflow := by
  show exactly a.toInt.natAbs = .error .overflow
  unfold exactly
  rw [if_neg (by omega)]

/-- An arithmetic shift to the right. -/
theorem toInt_shiftRight (a b : Int16) {k : ℕ} (hk : (b.toBitVec.smod 16).toNat = k) :
    (a >>> b).toInt = a.toInt / 2 ^ k := by
  rw [← Int16.toInt_toBitVec, Int16.toBitVec_shiftRight, BitVec.sshiftRight', hk,
    BitVec.toInt_sshiftRight, Int.shiftRight_eq_div_pow, Int16.toInt_toBitVec]
  push_cast
  rfl

/-- A clamp to the whole range. -/
theorem clamp_self (a : Int16) : max (-32768) (min a 32767) = a := by
  have hle : a ≤ 32767 := Int16.le_iff_toInt_le.mpr (Int.le_of_lt_add_one a.toInt_lt)
  have hge : -32768 ≤ a := Int16.le_iff_toInt_le.mpr a.le_toInt
  have hmin : min a 32767 = a := if_pos hle
  rw [hmin]
  exact if_pos hge

end Signed16
