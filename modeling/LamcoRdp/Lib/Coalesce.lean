/-
LamcoRdp/Lib/Coalesce.lean

Coalescing.

A list is read in order, and each element is merged with the last one of the output if
`merge` has a result for the two.  No two neighbours of the output can be merged again
(`isChain_coalesce`), so that the output is its own output (`coalesce_coalesce`); elements
that are never merged stay in their order (`filter_coalesce`); and the output does to a
state what the list does, as long as a merged element does what its two parts do
(`foldr_push`).
-/
import Mathlib.Data.List.Chain

namespace Coalesce

variable {α : Type*} (merge : α → α → Option α)

/-- One more element, on an output with the newest element first. -/
def push : List α → α → List α
  | [], a => [a]
  | b :: rest, a =>
      match merge b a with
      | some c => c :: rest
      | none => a :: b :: rest

/-- Neighbours are merged where they can be, from the first on. -/
def coalesce (l : List α) : List α := (l.foldl (push merge) []).reverse

variable {merge} {stack rest l : List α} {a b c : α}

/-! ### One element -/

@[simp] theorem push_nil : push merge [] a = [a] := rfl

theorem push_of_some (h : merge b a = some c) : push merge (b :: rest) a = c :: rest := by
  simp only [push, h]

theorem push_of_none (h : ∀ b ∈ stack.head?, merge b a = none) :
    push merge stack a = a :: stack := by
  cases stack with
  | nil => rfl
  | cons b rest =>
      have hb : merge b a = none := h b rfl
      simp only [push, hb]

/-- A merged element cannot be merged with what the first of its parts could not. -/
theorem isChain_push (hmerge : ∀ {a b c}, merge b a = some c → ∀ z, merge z b = none →
    merge z c = none) (h : stack.IsChain fun a b => merge b a = none) (a : α) :
    (push merge stack a).IsChain fun a b => merge b a = none := by
  cases stack with
  | nil => exact List.isChain_singleton a
  | cons b rest =>
      cases hba : merge b a with
      | none =>
          rw [push_of_none (by rintro d ⟨⟩; exact hba)]
          exact List.isChain_cons_cons.mpr ⟨hba, h⟩
      | some c =>
          rw [push_of_some hba]
          cases rest with
          | nil => exact List.isChain_singleton c
          | cons z rest =>
              rw [List.isChain_cons_cons] at h ⊢
              exact ⟨hmerge hba z h.1, h.2⟩

theorem filter_push {p : α → Bool} (hmerge : ∀ {a b c}, merge b a = some c →
    p a = false ∧ p b = false ∧ p c = false) (stack : List α) (a : α) :
    (push merge stack a).filter p = (a :: stack).filter p := by
  cases stack with
  | nil => rfl
  | cons b rest =>
      cases hba : merge b a with
      | none => rw [push_of_none (by rintro d ⟨⟩; exact hba)]
      | some c =>
          obtain ⟨ha, hb, hc⟩ := hmerge hba
          rw [push_of_some hba, List.filter_cons_of_neg (by simp [hc]),
            List.filter_cons_of_neg (by simp [ha]), List.filter_cons_of_neg (by simp [hb])]

/-- What is pushed is done last. -/
theorem foldr_push {σ : Type*} {act : α → σ → σ}
    (hmerge : ∀ b ∈ stack.head?, ∀ c ∈ merge b a, ∀ s, act c s = act a (act b s)) (s : σ) :
    (push merge stack a).foldr act s = act a (stack.foldr act s) := by
  cases stack with
  | nil => rfl
  | cons b rest =>
      cases hba : merge b a with
      | none =>
          rw [push_of_none (by rintro d ⟨⟩; exact hba)]
          rfl
      | some c =>
          rw [push_of_some hba]
          exact hmerge b rfl c hba _

/-! ### Lists -/

theorem isChain_foldl_push (hmerge : ∀ {a b c}, merge b a = some c → ∀ z, merge z b = none →
    merge z c = none) (h : stack.IsChain fun a b => merge b a = none) (l : List α) :
    (l.foldl (push merge) stack).IsChain fun a b => merge b a = none := by
  induction l generalizing stack with
  | nil => exact h
  | cons a l ih => exact ih (isChain_push hmerge h a)

/-- No two neighbours are left that could be merged. -/
theorem isChain_coalesce (hmerge : ∀ {a b c}, merge b a = some c → ∀ z, merge z b = none →
    merge z c = none) (l : List α) : (coalesce merge l).IsChain fun a b => merge a b = none :=
  List.isChain_reverse.mpr (isChain_foldl_push hmerge List.isChain_nil l)

theorem foldl_push_of_isChain (hl : l.IsChain fun a b => merge a b = none)
    (h : ∀ a ∈ l.head?, ∀ b ∈ stack.head?, merge b a = none) :
    l.foldl (push merge) stack = l.reverse ++ stack := by
  induction l generalizing stack with
  | nil => rfl
  | cons a l ih =>
      rw [List.foldl_cons, push_of_none (h a rfl), ih hl.tail, List.reverse_cons,
        List.append_assoc, List.singleton_append]
      rintro b hb d ⟨⟩
      exact (List.isChain_cons.mp hl).1 b hb

/-- Where no two neighbours can be merged, nothing is done. -/
theorem coalesce_of_isChain (hl : l.IsChain fun a b => merge a b = none) :
    coalesce merge l = l := by
  have hpush : l.foldl (push merge) [] = l.reverse ++ [] :=
    foldl_push_of_isChain hl fun a _ b hb => absurd hb (by simp)
  rw [coalesce, hpush, List.append_nil, List.reverse_reverse]

theorem coalesce_coalesce (hmerge : ∀ {a b c}, merge b a = some c → ∀ z, merge z b = none →
    merge z c = none) (l : List α) : coalesce merge (coalesce merge l) = coalesce merge l :=
  coalesce_of_isChain (isChain_coalesce hmerge l)

theorem filter_foldl_push {p : α → Bool} (hmerge : ∀ {a b c}, merge b a = some c →
    p a = false ∧ p b = false ∧ p c = false) (l stack : List α) :
    (l.foldl (push merge) stack).filter p = l.reverse.filter p ++ stack.filter p := by
  induction l generalizing stack with
  | nil => rfl
  | cons a l ih =>
      rw [List.foldl_cons, ih, filter_push hmerge, ← List.filter_append, ← List.filter_append,
        List.reverse_cons, List.append_assoc, List.singleton_append]

/-- What is never merged stays, in its order. -/
theorem filter_coalesce {p : α → Bool} (hmerge : ∀ {a b c}, merge b a = some c →
    p a = false ∧ p b = false ∧ p c = false) (l : List α) :
    (coalesce merge l).filter p = l.filter p := by
  rw [coalesce, List.filter_reverse, filter_foldl_push hmerge, List.filter_nil, List.append_nil,
    ← List.filter_reverse, List.reverse_reverse]

end Coalesce
