/-
LamcoRdp/Lib/Word32.lean

Thirty-two-bit arithmetic, for programs that run under both rules for an overflow.

A build either wraps a result around or panics where it is no word (`Overflow`).  An
operation is given by its exact result: `Overflow.int32 o n` is the word that the build
`o` makes of the number `n`.  It is `n` if that is a word (`int32_eq_some`); a build that
panics gives nothing else (`toInt_of_panics`), and one that wraps around gives a word that
differs from `n` by a multiple of `2 ^ 32` (`exists_toInt_eq`).
-/
import Mathlib.Algebra.Group.Nat.Defs
import Mathlib.Algebra.Order.Group.Unbundled.Int

/-- What a build does about an overflow. -/
inductive Overflow
  | wraps
  | panics
  deriving DecidableEq, Repr

namespace Overflow

variable {o : Overflow} {n : ℤ} {r : Int32}

/-- The `i32` that stands for a number. -/
def int32 (o : Overflow) (n : ℤ) : Option Int32 :=
  if o = .panics ∧ ¬ (-2 ^ 31 ≤ n ∧ n < 2 ^ 31) then none else some (.ofInt n)

/-- The `u32` that stands for a number. -/
def uint32 (o : Overflow) (n : ℕ) : Option UInt32 :=
  if o = .panics ∧ ¬ n < 2 ^ 32 then none else some (.ofNat n)

/-- A number that is a word stands for itself. -/
theorem int32_eq_some (h : r.toInt = n) : o.int32 n = some r := by
  have hlo := r.le_toInt
  have hhi := r.toInt_lt
  rw [int32, if_neg fun hp => hp.2 (by omega), ← h, Int32.ofInt_toInt]

/-- A number in range is a word. -/
theorem exists_int32 (o : Overflow) (hlo : -2 ^ 31 ≤ n) (hhi : n < 2 ^ 31) :
    ∃ r, o.int32 n = some r ∧ r.toInt = n := by
  have h : (Int32.ofInt n).toInt = n := Int32.toInt_ofInt_of_le hlo hhi
  exact ⟨_, int32_eq_some h, h⟩

theorem toInt_of_panics (h : panics.int32 n = some r) : r.toInt = n := by
  unfold int32 at h
  split at h
  · cases h
  · next hfit =>
      have hn : -2 ^ 31 ≤ n ∧ n < 2 ^ 31 := by
        by_contra hout
        exact hfit ⟨rfl, hout⟩
      rw [← Option.some.inj h]
      exact Int32.toInt_ofInt_of_le hn.1 hn.2

theorem exists_toInt_eq (h : o.int32 n = some r) : ∃ k : ℤ, r.toInt = n + 2 ^ 32 * k := by
  unfold int32 at h
  split at h
  · cases h
  · rw [← Option.some.inj h, Int32.toInt_ofInt]
    refine ⟨-n.bdiv Int32.size, ?_⟩
    rw [Int.mul_neg, ← Int.sub_eq_add_neg]
    exact Int.bmod_eq_self_sub_mul_bdiv n Int32.size

theorem uint32_of_lt {n : ℕ} (h : n < 2 ^ 32) : o.uint32 n = some (.ofNat n) :=
  if_neg fun hp => hp.2 h

theorem uint32_wraps (n : ℕ) : wraps.uint32 n = some (.ofNat n) := if_neg fun hp => nomatch hp.1

end Overflow

/-! ### Casts and comparisons -/

theorem UInt32.toInt_toInt32_of_lt {w : UInt32} (h : w.toNat < 2 ^ 31) :
    w.toInt32.toInt = w.toNat := by
  show w.toBitVec.toInt = w.toNat
  rw [BitVec.toInt_eq_toNat_of_lt]
  · rfl
  · rw [UInt32.toNat_toBitVec]
    omega

theorem UInt32.toInt_toInt32_of_ge {w : UInt32} (h : 2 ^ 31 ≤ w.toNat) :
    w.toInt32.toInt = w.toNat - 2 ^ 32 := by
  show w.toBitVec.toInt = w.toNat - 2 ^ 32
  rw [BitVec.toInt_eq_toNat_cond, UInt32.toNat_toBitVec, if_neg (by omega)]
  omega

theorem Int32.toNat_toUInt32_of_nonneg {n : Int32} (h : 0 ≤ n.toInt) :
    (n.toUInt32.toNat : ℤ) = n.toInt := by
  rw [Int32.toNat_toUInt32_of_le (Int32.le_iff_toInt_le.mpr h)]
  exact Int.toNat_of_nonneg h

theorem Int32.toInt_min (a b : Int32) : (min a b).toInt = min a.toInt b.toInt := by
  show (if a ≤ b then a else b).toInt = _
  split
  · next h =>
      rw [Int32.le_iff_toInt_le] at h
      omega
  · next h =>
      rw [Int32.le_iff_toInt_le] at h
      omega

theorem Int32.toInt_max (a b : Int32) : (max a b).toInt = max a.toInt b.toInt := by
  show (if a ≤ b then b else a).toInt = _
  split
  · next h =>
      rw [Int32.le_iff_toInt_le] at h
      omega
  · next h =>
      rw [Int32.le_iff_toInt_le] at h
      omega
