/-
LamcoRdp/Lib/SlidingWindow.lean

Sliding windows: the last `size` elements of what has been pushed.

After `n` pushes of one element the last `n` of the window are that element (`rtake_pushes`),
as far as there is room for them, and from `size` pushes on there is nothing else in the window
(`pushes_replicate`).
-/
import Mathlib.Data.List.DropRight

namespace SlidingWindow

variable {α : Type*} {size n : ℕ} {w : List α} {a : α}

/-- The last `size` elements after one more. -/
def push (size : ℕ) (w : List α) (a : α) : List α := (w ++ [a]).rtake size

/-- The window after some elements. -/
def pushes (size : ℕ) (w as : List α) : List α := as.foldl (push size) w

theorem pushes_replicate_succ (size : ℕ) (w : List α) (n : ℕ) (a : α) :
    pushes size w (List.replicate (n + 1) a) = push size (pushes size w (List.replicate n a)) a := by
  rw [pushes, pushes, List.replicate_succ', List.foldl_append]
  rfl

/-- The last of the last. -/
theorem rtake_rtake {m : ℕ} (hle : n ≤ m) (w : List α) : (w.rtake m).rtake n = w.rtake n := by
  rw [List.rtake_eq_reverse_take_reverse, List.rtake_eq_reverse_take_reverse,
    List.rtake_eq_reverse_take_reverse, List.reverse_reverse, List.take_take, min_eq_left hle]

/-- A push puts its element behind what the window ends with. -/
theorem rtake_push (hlt : n < size) (w : List α) (a : α) :
    (push size w a).rtake (n + 1) = w.rtake n ++ [a] := by
  rw [push, rtake_rtake hlt, List.rtake_concat_succ]

theorem rtake_pushes (hle : n ≤ size) (w : List α) (a : α) :
    (pushes size w (List.replicate n a)).rtake n = List.replicate n a := by
  induction n with
  | zero => exact List.rtake_zero _
  | succ n ih =>
      rw [pushes_replicate_succ, rtake_push hle, ih (Nat.le_of_succ_le hle),
        ← List.replicate_succ']

/-- A window whose end is one element is that element alone after one more. -/
theorem push_of_rtake (h : w.rtake n = List.replicate n a) :
    push (n + 1) w a = List.replicate (n + 1) a := by
  rw [push, List.rtake_concat_succ, h, ← List.replicate_succ']

theorem push_replicate (size : ℕ) (a : α) :
    push size (List.replicate size a) a = List.replicate size a := by
  rw [push, ← List.replicate_succ', List.rtake, List.length_replicate, List.drop_replicate]
  congr 1
  omega

/-- **A window forgets**: after as many pushes as it is long there is nothing else in it. -/
theorem pushes_replicate (hpos : 1 ≤ size) (hle : size ≤ n) (w : List α) (a : α) :
    pushes size w (List.replicate n a) = List.replicate size a := by
  induction n, hle using Nat.le_induction with
  | base =>
      obtain ⟨k, rfl⟩ := Nat.exists_eq_succ_of_ne_zero (Nat.one_le_iff_ne_zero.mp hpos)
      rw [pushes_replicate_succ]
      have hend : (pushes (k + 1) w (List.replicate k a)).rtake k = List.replicate k a :=
        rtake_pushes (Nat.le_succ k) w a
      exact push_of_rtake hend
  | succ n hle ih => rw [pushes_replicate_succ, ih, push_replicate]

end SlidingWindow
