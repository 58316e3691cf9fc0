/-
LamcoRdp/Lib/Binary32.lean

Single precision numbers (`f32`) as exact rationals with rounding.

A finite value is the rational it stands for, so the two zeros are one, and a
division by it is one by the positive zero.  Every operation computes exactly and
rounds to nearest, ties to even, with 24 bits of precision, gradual underflow
from `2 ^ -149` and overflow from `2 ^ 128`.
-/
import Mathlib.Data.Int.Log
import Mathlib.Data.Rat.Floor
import Mathlib.Tactic.NormNum
import Mathlib.Tactic.Linarith
import Mathlib.Tactic.Positivity

/-- An `f32`. -/
inductive Binary32
  | nan
  | inf (negative : Bool)
  | fin (q : ℚ)
  deriving DecidableEq

namespace Binary32

/-- Nearest integer, ties to even. -/
def nearestEven (q : ℚ) : ℤ :=
  let d := q - ⌊q⌋
  if d < 1 / 2 then ⌊q⌋
  else if 1 / 2 < d then ⌊q⌋ + 1
  else if ⌊q⌋ % 2 = 0 then ⌊q⌋ else ⌊q⌋ + 1

/-- The exponent of the last place of a value of this size. -/
def lastPlace (q : ℚ) : ℤ := max (Int.log 2 |q| - 23) (-149)

/-- The closest representable value. -/
def round (q : ℚ) : Binary32 :=
  if q = 0 then .fin 0
  else
    let place : ℚ := 2 ^ lastPlace q
    let r := nearestEven (q / place) * place
    if 2 ^ 128 ≤ |r| then .inf (decide (q < 0)) else .fin r

/-- `as f32` of an unsigned integer. -/
def ofNat (n : ℕ) : Binary32 := round n

/-- The product. -/
def mul : Binary32 → Binary32 → Binary32
  | .fin a, .fin b => round (a * b)
  | .inf s, .inf t => .inf (s != t)
  | .inf s, .fin b => if b = 0 then .nan else .inf (s != decide (b < 0))
  | .fin a, .inf t => if a = 0 then .nan else .inf (decide (a < 0) != t)
  | .nan, _ => .nan
  | _, .nan => .nan

/-- The sum. -/
def add : Binary32 → Binary32 → Binary32
  | .fin a, .fin b => round (a + b)
  | .inf s, .inf t => if s = t then .inf s else .nan
  | .inf s, .fin _ => .inf s
  | .fin _, .inf t => .inf t
  | .nan, _ => .nan
  | _, .nan => .nan

/-- The opposite. -/
def neg : Binary32 → Binary32
  | .nan => .nan
  | .inf s => .inf !s
  | .fin q => .fin (-q)

/-- The difference. -/
def sub (a b : Binary32) : Binary32 := a.add b.neg

/-- The quotient; a zero has no sign here. -/
def div : Binary32 → Binary32 → Binary32
  | .fin a, .fin b =>
      if b ≠ 0 then round (a / b) else if a = 0 then .nan else .inf (decide (a < 0))
  | .inf s, .fin b => .inf (s != decide (b < 0))
  | .fin _, .inf _ => .fin 0
  | .inf _, .inf _ => .nan
  | .nan, _ => .nan
  | _, .nan => .nan

/-- `<`; nothing compares with not-a-number. -/
def lt : Binary32 → Binary32 → Bool
  | .fin a, .fin b => decide (a < b)
  | .inf s, .inf t => s && !t
  | .inf s, .fin _ => s
  | .fin _, .inf t => !t
  | _, _ => false

/-- `<=`. -/
def le (a b : Binary32) : Bool := a.lt b || (a ≠ .nan && decide (a = b))

/-- `f32::min`, which ignores a not-a-number. -/
def minNum (a b : Binary32) : Binary32 := if a = .nan then b else if b.lt a then b else a

/-- `as u32`: truncates and saturates; not-a-number is 0. -/
def toU32 : Binary32 → ℕ
  | .nan => 0
  | .inf negative => if negative then 0 else 2 ^ 32 - 1
  | .fin q => min ⌊q⌋₊ (2 ^ 32 - 1)

theorem toU32_lt (x : Binary32) : x.toU32 < 2 ^ 32 := by
  cases x with
  | nan => exact Nat.two_pow_pos 32
  | inf s => cases s <;> decide
  | fin q => exact (Nat.min_le_right _ _).trans_lt (by decide)

/-- Whatever is multiplied by zero counts as zero. -/
theorem toU32_mul_zero (x : Binary32) : (x.mul (.fin 0)).toU32 = 0 := by
  cases x with
  | nan => rfl
  | inf s => rfl
  | fin a =>
      have hround : round (a * 0) = .fin 0 := by
        rw [mul_zero]
        exact if_pos rfl
      show (round (a * 0)).toU32 = 0
      rw [hround]
      show min ⌊(0 : ℚ)⌋₊ (2 ^ 32 - 1) = 0
      rw [Nat.floor_zero]
      rfl

@[simp] theorem add_nan (x : Binary32) : x.add .nan = .nan := by
  cases x <;> rfl

@[simp] theorem nan_div (x : Binary32) : div .nan x = .nan := by
  cases x <;> rfl

@[simp] theorem lt_nan (x : Binary32) : x.lt .nan = false := by
  cases x <;> rfl

theorem ofNat_zero : ofNat 0 = .fin 0 := by
  unfold ofNat round
  exact if_pos Nat.cast_zero

theorem nearestEven_intCast (z : ℤ) : nearestEven (z : ℚ) = z := by
  unfold nearestEven
  rw [Int.floor_intCast, sub_self]
  exact if_pos (by norm_num)

/-- A whole number of at most 24 bits is represented exactly. -/
theorem round_natCast {n : ℕ} (h : n < 2 ^ 24) : round (n : ℚ) = .fin n := by
  rcases Nat.eq_zero_or_pos n with rfl | hn
  · exact if_pos Nat.cast_zero
  have hpos : (0 : ℚ) < n := Nat.cast_pos.mpr hn
  have hlog : Nat.log 2 n < 24 := Nat.log_lt_of_lt_pow hn.ne' h
  obtain ⟨j, hj⟩ : ∃ j : ℕ, lastPlace (n : ℚ) = -(j : ℤ) := by
    refine ⟨23 - Nat.log 2 n, ?_⟩
    rw [lastPlace, abs_of_pos hpos, Int.log_natCast]
    omega
  have hscaled : (n : ℚ) / 2 ^ lastPlace (n : ℚ) = ((n * 2 ^ j : ℤ) : ℚ) := by
    rw [hj, zpow_neg, div_inv_eq_mul, zpow_natCast]
    push_cast
    rfl
  have hback : (((n * 2 ^ j : ℤ) : ℚ)) * 2 ^ lastPlace (n : ℚ) = n := by
    rw [← hscaled]
    exact div_mul_cancel₀ _ (zpow_ne_zero _ two_ne_zero)
  have hsmall : ¬ (2 : ℚ) ^ 128 ≤ |(n : ℚ)| := by
    rw [abs_of_pos hpos, not_le]
    calc (n : ℚ) < 2 ^ 24 := by exact_mod_cast h
      _ ≤ 2 ^ 128 := by norm_num
  unfold round
  rw [if_neg hpos.ne']
  dsimp only
  rw [hscaled, nearestEven_intCast, hback, if_neg hsmall]

theorem nearestEven_near (q : ℚ) : |(nearestEven q : ℚ) - q| ≤ 1 / 2 := by
  have hlo : (⌊q⌋ : ℚ) ≤ q := Int.floor_le q
  have hhi : q < ⌊q⌋ + 1 := Int.lt_floor_add_one q
  rw [abs_le]
  unfold nearestEven
  dsimp only
  split_ifs
  · constructor <;> linarith
  · push_cast
    constructor <;> linarith
  · constructor <;> linarith
  · push_cast
    constructor <;> linarith

/-- A positive value of normal size is off by half a unit in its last place at most. -/
theorem round_near {q : ℚ} (hlo : (2 : ℚ) ^ (-126 : ℤ) ≤ q) (hhi : q ≤ 2 ^ 127) :
    ∃ r, round q = .fin r ∧ |r - q| ≤ q / 2 ^ 24 := by
  have hpos : 0 < q := (zpow_pos two_pos _).trans_le hlo
  have hlog : -126 ≤ Int.log 2 q := (Int.zpow_le_iff_le_log one_lt_two hpos).mp hlo
  -- in the normal range the last place is 2 ^ -23 of the leading bit or less
  have hplace : (2 : ℚ) ^ lastPlace q * 2 ^ 23 ≤ q := by
    have hexp : lastPlace q = Int.log 2 q - 23 := by
      rw [lastPlace, abs_of_pos hpos]
      omega
    rw [hexp, zpow_sub₀ two_ne_zero]
    calc (2 : ℚ) ^ Int.log 2 q / 2 ^ (23 : ℤ) * 2 ^ 23 = 2 ^ Int.log 2 q :=
          div_mul_cancel₀ _ (by norm_num)
      _ ≤ q := by exact_mod_cast Int.zpow_log_le_self one_lt_two hpos
  have hunit : (0 : ℚ) < 2 ^ lastPlace q := zpow_pos two_pos _
  -- rounding to a multiple of the last place is off by half a place
  have hnear : |(nearestEven (q / 2 ^ lastPlace q) : ℚ) * 2 ^ lastPlace q - q| ≤ q / 2 ^ 24 := by
    have hscale : (nearestEven (q / 2 ^ lastPlace q) : ℚ) * 2 ^ lastPlace q - q
        = ((nearestEven (q / 2 ^ lastPlace q) : ℚ) - q / 2 ^ lastPlace q)
          * 2 ^ lastPlace q := by
      rw [sub_mul, div_mul_cancel₀ _ hunit.ne']
    have hhalf := mul_le_mul_of_nonneg_right (nearestEven_near (q / 2 ^ lastPlace q)) hunit.le
    rw [hscale, abs_mul, abs_of_pos hunit]
    linarith
  -- the rounded number is still far from the overflow bound
  have hfin : ¬ (2 : ℚ) ^ 128 ≤ |(nearestEven (q / 2 ^ lastPlace q) : ℚ) * 2 ^ lastPlace q| := by
    have hle := abs_le.mp hnear
    rw [not_le, abs_lt]
    constructor <;> linarith
  refine ⟨_, ?_, hnear⟩
  unfold round
  rw [if_neg hpos.ne']
  exact if_neg hfin

/-- `as f32` of a positive word. -/
theorem ofNat_near {n : ℕ} (hpos : 1 ≤ n) (hlt : n < 2 ^ 32) :
    ∃ r, ofNat n = .fin r ∧ |r - n| ≤ n / 2 ^ 24 := by
  have hone : (1 : ℚ) ≤ n := by exact_mod_cast hpos
  have hword : (n : ℚ) < 2 ^ 32 := by exact_mod_cast hlt
  refine round_near (le_trans ?_ hone) (by linarith)
  norm_num

/-- What is below the next whole number truncates to this one at most. -/
theorem toU32_le {q : ℚ} {n : ℕ} (h : q < n + 1) : (fin q).toU32 ≤ n := by
  have hfloor : ⌊q⌋₊ < n + 1 := by
    refine (Nat.floor_lt' (Nat.succ_ne_zero n)).mpr ?_
    push_cast
    exact h
  exact (Nat.min_le_left _ _).trans (Nat.lt_succ_iff.mp hfloor)

end Binary32
