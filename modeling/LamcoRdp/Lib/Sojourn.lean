/-
LamcoRdp/Lib/Sojourn.lean

How long something has been where.

A log has a time and a place for each report, in order.  What is reported holds until the next
report, so a place is `spent` the time up to the next report wherever it is reported.  The times
spent in all places are the time from the first report to the last (`sum_spent`).
-/
import Mathlib.Algebra.BigOperators.Group.Finset.Piecewise
import Mathlib.Algebra.Order.Group.Nat
import Mathlib.Data.Fintype.Defs

namespace Sojourn

variable {L : Type*} {log : List (ℕ × L)}

/-- From the first report to the last. -/
def span (log : List (ℕ × L)) : ℕ :=
  match log.head?, log.getLast? with
  | some first, some last => last.1 - first.1
  | _, _ => 0

/-- One report more at the front. -/
theorem span_cons {a b : ℕ × L} (h : ((a :: b :: log).map Prod.fst).Pairwise (· ≤ ·)) :
    span (a :: b :: log) = (b.1 - a.1) + span (b :: log) := by
  obtain ⟨ha, hb⟩ := List.pairwise_cons.mp h
  have hab : a.1 ≤ b.1 := ha b.1 List.mem_cons_self
  have hlast : (a :: b :: log).getLast? = (b :: log).getLast? := List.getLast?_cons_cons
  have hbl : b.1 ≤ ((b :: log).getLast (List.cons_ne_nil b log)).1 := by
    rcases List.mem_cons.mp (List.getLast_mem (List.cons_ne_nil b log)) with heq | hmem
    · rw [heq]
    · exact (List.pairwise_cons.mp hb).1 _ (List.mem_map_of_mem hmem)
  unfold span
  rw [hlast, List.getLast?_eq_some_getLast (List.cons_ne_nil b log)]
  show _ - a.1 = (b.1 - a.1) + (_ - b.1)
  omega

variable [DecidableEq L]

/-- The time spent at `l`. -/
def spent (l : L) : List (ℕ × L) → ℕ
  | a :: b :: log => (if a.2 = l then b.1 - a.1 else 0) + spent l (b :: log)
  | _ => 0

/-- Up to one more report it was where the last one said. -/
theorem spent_concat (l : L) (log : List (ℕ × L)) (last report : ℕ × L) :
    spent l (log ++ [last] ++ [report]) =
      spent l (log ++ [last]) + if last.2 = l then report.1 - last.1 else 0 := by
  induction log with
  | nil => exact Nat.add_comm _ _
  | cons a log ih =>
      cases log with
      | nil => exact (Nat.add_assoc _ _ _).symm
      | cons b log =>
          show (if a.2 = l then b.1 - a.1 else 0) + spent l (b :: log ++ [last] ++ [report]) =
            (if a.2 = l then b.1 - a.1 else 0) + spent l (b :: log ++ [last]) +
              if last.2 = l then report.1 - last.1 else 0
          rw [ih, Nat.add_assoc]

/-- **All the time is spent somewhere.** -/
theorem sum_spent [Fintype L] (h : (log.map Prod.fst).Pairwise (· ≤ ·)) :
    ∑ l, spent l log = span log := by
  induction log with
  | nil => exact Finset.sum_const_zero
  | cons a log ih =>
      cases log with
      | nil =>
          have hnone : ∑ l : L, spent l [a] = 0 := Finset.sum_const_zero
          rw [hnone]
          exact (Nat.sub_self a.1).symm
      | cons b log =>
          have hrest := ih (List.pairwise_cons.mp h).2
          calc ∑ l, spent l (a :: b :: log)
              = ∑ l, ((if a.2 = l then b.1 - a.1 else 0) + spent l (b :: log)) := rfl
            _ = (b.1 - a.1) + span (b :: log) := by
                rw [Finset.sum_add_distrib, hrest, Finset.sum_ite_eq, if_pos (Finset.mem_univ _)]
            _ = span (a :: b :: log) := (span_cons h).symm

end Sojourn
