/-
LamcoRdp/Lib/RowMajor.lean

Positions of a table that is stored row after row.

Row `y` of a table with `w` columns begins at `y * w` and ends before any later row
(`rowEnd_le`).  A position `y * w + x` with `x < w` is inside the table if its row is
(`index_lt`), and `/` and `%` give the row and the column back (`div_index`,
`Nat.mul_add_mod_of_lt`).
-/
import Mathlib.Algebra.Order.Ring.Nat

namespace RowMajor

variable {w h x y : ℕ}

/-- A row ends before a later one begins. -/
theorem rowEnd_le (w : ℕ) (hy : y < h) : y * w + w ≤ h * w := by
  rw [← Nat.succ_mul]
  exact Nat.mul_le_mul_right w hy

theorem index_lt (hx : x < w) (hy : y < h) : y * w + x < h * w := by
  have hend := rowEnd_le w hy
  omega

theorem div_index (hx : x < w) (y : ℕ) : (y * w + x) / w = y := by
  have hpos : 0 < w := Nat.zero_lt_of_lt hx
  rw [Nat.mul_comm, Nat.mul_add_div hpos, Nat.div_eq_of_lt hx, Nat.add_zero]

/-- Every position of the table has a row and a column. -/
theorem exists_index {k : ℕ} (hk : k < h * w) : ∃ y < h, ∃ x < w, k = y * w + x := by
  have hpos : 0 < w := Nat.pos_of_mul_pos_left (Nat.zero_lt_of_lt hk)
  refine ⟨k / w, (Nat.div_lt_iff_lt_mul hpos).mpr hk, k % w, Nat.mod_lt k hpos, ?_⟩
  rw [Nat.mul_comm, Nat.div_add_mod]

end RowMajor
