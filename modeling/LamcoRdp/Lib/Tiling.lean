/-
LamcoRdp/Lib/Tiling.lean

Intervals cut into chunks.

A chunk is a start and a length.  `Tiles lo hi chunks` says that the chunks follow each
other without gap or overlap from `lo` to `hi`, so that every offset in between lies in
exactly one of them (`Tiles.covered_once`).
-/
import Mathlib.Order.Nat

namespace Tiling

/-- The chunks follow each other from `lo` to `hi`. -/
inductive Tiles : ℕ → ℕ → List (ℕ × ℕ) → Prop
  | nil (lo : ℕ) : Tiles lo lo []
  | cons {lo hi n : ℕ} {chunks : List (ℕ × ℕ)} :
      0 < n → Tiles (lo + n) hi chunks → Tiles lo hi ((lo, n) :: chunks)

/-- The offset lies in the chunk. -/
def inChunk (x : ℕ) (chunk : ℕ × ℕ) : Bool := decide (chunk.1 ≤ x ∧ x < chunk.1 + chunk.2)

variable {lo hi : ℕ} {chunks : List (ℕ × ℕ)}

theorem Tiles.le (h : Tiles lo hi chunks) : lo ≤ hi := by
  induction h with
  | nil => exact le_rfl
  | cons hn _ ih => omega

theorem Tiles.snoc (h : Tiles lo hi chunks) {n : ℕ} (hn : 0 < n) :
    Tiles lo (hi + n) (chunks ++ [(hi, n)]) := by
  induction h with
  | nil lo => exact .cons hn (.nil _)
  | cons hm _ ih => exact .cons hm ih

theorem tiles_singleton {n : ℕ} (hn : 0 < n) : Tiles lo (lo + n) [(lo, n)] :=
  .cons hn (.nil _)

/-- Nothing tiles the empty interval. -/
theorem tiles_self (h : Tiles lo lo chunks) : chunks = [] := by
  cases h with
  | nil => rfl
  | cons hn hrest =>
      have := hrest.le
      omega

/-- No chunk reaches below the start. -/
theorem Tiles.countP_below (h : Tiles lo hi chunks) {x : ℕ} (hx : x < lo) :
    chunks.countP (inChunk x) = 0 := by
  induction h with
  | nil => rfl
  | cons hn _ ih =>
      rw [List.countP_cons, ih (by omega), inChunk]
      simp
      omega

/-- Every offset of the interval lies in exactly one chunk. -/
theorem Tiles.covered_once (h : Tiles lo hi chunks) {x : ℕ} (hlo : lo ≤ x) (hhi : x < hi) :
    chunks.countP (inChunk x) = 1 := by
  induction h with
  | nil => omega
  | @cons lo hi n chunks hn hrest ih =>
      rw [List.countP_cons]
      by_cases hx : x < lo + n
      · have hin : inChunk x (lo, n) = true := decide_eq_true ⟨hlo, hx⟩
        rw [hrest.countP_below hx, hin]
        rfl
      · have hout : inChunk x (lo, n) = false := decide_eq_false fun h => hx h.2
        rw [ih (by omega) hhi, hout]
        rfl

/-- No chunk reaches beyond the end. -/
theorem Tiles.countP_above (h : Tiles lo hi chunks) {x : ℕ} (hx : hi ≤ x) :
    chunks.countP (inChunk x) = 0 := by
  induction h with
  | nil => rfl
  | @cons lo hi n chunks hn hrest ih =>
      have hle := hrest.le
      have hout : inChunk x (lo, n) = false := decide_eq_false fun h => by omega
      rw [List.countP_cons, ih hx, hout]
      rfl

/-- No offset lies in two chunks. -/
theorem Tiles.countP_le_one (h : Tiles lo hi chunks) (x : ℕ) :
    chunks.countP (inChunk x) ≤ 1 := by
  by_cases hlo : x < lo
  · exact (h.countP_below hlo).trans_le (Nat.zero_le 1)
  by_cases hhi : hi ≤ x
  · exact (h.countP_above hhi).trans_le (Nat.zero_le 1)
  · exact (h.covered_once (Nat.le_of_not_lt hlo) (Nat.lt_of_not_le hhi)).le

end Tiling
