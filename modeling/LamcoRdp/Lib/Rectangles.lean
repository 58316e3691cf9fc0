/-
LamcoRdp/Lib/Rectangles.lean

Rectangles in a plane over a linear order, and the box around some of them.

A rectangle has the points from its left and top edge up to, but not including, its right
and bottom edge.  `IsBox box rs` says that `box` holds the rectangles `rs` and that each of
its edges is that of one of them.  The hull of a box and one more rectangle is the box
around them all (`IsBox.hull`), so a fold of hulls finds the box of a list.
-/
import Mathlib.Data.Set.Prod
import Mathlib.Order.CompletePartialOrder
import Mathlib.Order.Interval.Set.Disjoint

/-- A rectangle, by its edges. -/
@[ext] structure Rect (α : Type*) where
  left : α
  top : α
  right : α
  bottom : α
  deriving DecidableEq, Repr

namespace Rect

variable {α : Type*} [LinearOrder α] {r s box : Rect α} {rs : List (Rect α)}

/-- The points of a rectangle. -/
def points (r : Rect α) : Set (α × α) := Set.Ico r.left r.right ×ˢ Set.Ico r.top r.bottom

theorem mem_points {p : α × α} :
    p ∈ r.points ↔ (r.left ≤ p.1 ∧ p.1 < r.right) ∧ r.top ≤ p.2 ∧ p.2 < r.bottom :=
  Iff.rfl

/-- It has a point. -/
def Proper (r : Rect α) : Prop := r.left < r.right ∧ r.top < r.bottom

/-- One beside the other. -/
theorem disjoint_of_beside (h : r.right ≤ s.left) : Disjoint r.points s.points := by
  rw [points, points, Set.disjoint_prod, Set.Ico_disjoint_Ico]
  exact .inl ((min_le_left _ _).trans (h.trans (le_max_right _ _)))

/-- One above the other. -/
theorem disjoint_of_above (h : r.bottom ≤ s.top) : Disjoint r.points s.points := by
  rw [points, points, Set.disjoint_prod]
  exact .inr (Set.Ico_disjoint_Ico.mpr ((min_le_left _ _).trans (h.trans (le_max_right _ _))))

/-- Rectangles with points are disjoint if one ends before the other begins. -/
theorem disjoint_points (hr : r.Proper) (hs : s.Proper) :
    Disjoint r.points s.points ↔
      r.right ≤ s.left ∨ s.right ≤ r.left ∨ r.bottom ≤ s.top ∨ s.bottom ≤ r.top := by
  have haxis : ∀ {a b c d : α}, a < b → c < d →
      (Disjoint (Set.Ico a b) (Set.Ico c d) ↔ b ≤ c ∨ d ≤ a) := by
    intro a b c d hab hcd
    rw [Set.Ico_disjoint_Ico, min_le_iff, le_max_iff, le_max_iff]
    constructor
    · rintro ((h | h) | h | h)
      · exact absurd h (not_le.mpr hab)
      · exact .inl h
      · exact .inr h
      · exact absurd h (not_le.mpr hcd)
    · rintro (h | h)
      · exact .inl (.inr h)
      · exact .inr (.inl h)
  rw [points, points, Set.disjoint_prod, haxis hr.1 hs.1, haxis hr.2 hs.2, or_assoc]

/-- The least rectangle around two. -/
def hull (r s : Rect α) : Rect α :=
  ⟨min r.left s.left, min r.top s.top, max r.right s.right, max r.bottom s.bottom⟩

/-- The rectangle holds all of the list, and each of its edges is that of one of them. -/
structure IsBox (box : Rect α) (rs : List (Rect α)) : Prop where
  inside : ∀ r ∈ rs, box.left ≤ r.left ∧ box.top ≤ r.top ∧ r.right ≤ box.right ∧
    r.bottom ≤ box.bottom
  left : ∃ r ∈ rs, r.left = box.left
  top : ∃ r ∈ rs, r.top = box.top
  right : ∃ r ∈ rs, r.right = box.right
  bottom : ∃ r ∈ rs, r.bottom = box.bottom

theorem isBox_singleton (r : Rect α) : IsBox r [r] where
  inside := by
    intro s hs
    rw [List.mem_singleton.mp hs]
    exact ⟨le_rfl, le_rfl, le_rfl, le_rfl⟩
  left := ⟨r, List.mem_singleton_self r, rfl⟩
  top := ⟨r, List.mem_singleton_self r, rfl⟩
  right := ⟨r, List.mem_singleton_self r, rfl⟩
  bottom := ⟨r, List.mem_singleton_self r, rfl⟩

omit [LinearOrder α] in
/-- An edge of the hull: that of the new rectangle or the old one. -/
theorem exists_mem_concat {f : Rect α → α} {a b : α} (hb : b = a ∨ b = f r)
    (ha : ∃ t ∈ rs, f t = a) : ∃ t ∈ rs ++ [r], f t = b := by
  rcases hb with rfl | rfl
  · obtain ⟨t, ht, hedge⟩ := ha
    exact ⟨t, List.mem_append_left _ ht, hedge⟩
  · exact ⟨r, List.mem_append_right _ (List.mem_singleton_self r), rfl⟩

/-- One more rectangle. -/
theorem IsBox.hull (h : IsBox box rs) (r : Rect α) : IsBox (box.hull r) (rs ++ [r]) where
  inside := by
    intro s hs
    rcases List.mem_append.mp hs with hs | hs
    · obtain ⟨hl, ht, hr, hb⟩ := h.inside s hs
      exact ⟨(min_le_left _ _).trans hl, (min_le_left _ _).trans ht,
        hr.trans (le_max_left _ _), hb.trans (le_max_left _ _)⟩
    · rw [List.mem_singleton.mp hs]
      exact ⟨min_le_right _ _, min_le_right _ _, le_max_right _ _, le_max_right _ _⟩
  left := exists_mem_concat (min_choice _ _) h.left
  top := exists_mem_concat (min_choice _ _) h.top
  right := exists_mem_concat (max_choice _ _) h.right
  bottom := exists_mem_concat (max_choice _ _) h.bottom

/-- A whole list, one after the other. -/
theorem IsBox.foldl_hull (h : IsBox box rs) (ss : List (Rect α)) :
    IsBox (ss.foldl Rect.hull box) (rs ++ ss) := by
  induction ss generalizing box rs with
  | nil =>
      rw [List.append_nil]
      exact h
  | cons s ss ih =>
      rw [List.foldl_cons, List.append_cons]
      exact ih (h.hull s)

end Rect
