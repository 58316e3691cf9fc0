/-
LamcoRdp/Lib/Histories.lean

Conditions on the elements of a list and on what comes before or behind them.

`EachAfter P l` says `P pre a` of every element `a` of `l` and the elements `pre` before it,
and `EachBefore P l` says `P a post` of it and the elements `post` behind it.  A condition
on what comes before is checked from the front of a history to its end, one element at a
time (`eachAfter_snoc`).

`Stretches start inner P l` says `P mid` of every stretch `mid` at the end of `l` that comes
directly behind a `start` and has `inner` elements only.  It too is carried from the front to
the end (`Stretches.snoc`).

`gather give pre l` collects what every element of `l` gives, which may depend on the elements
before it; a list that grows at its end adds what the last element gives (`gather_snoc`).
-/
import Mathlib.Data.List.Induction

namespace Histories

variable {α : Type*} {P : List α → α → Prop} {l : List α} {a : α}

/-- Every element, together with those before it. -/
def EachAfter (P : List α → α → Prop) (l : List α) : Prop :=
  ∀ pre a post, l = pre ++ a :: post → P pre a

@[simp] theorem eachAfter_nil : EachAfter P [] := fun pre a post h => by simp at h

theorem eachAfter_snoc : EachAfter P (l ++ [a]) ↔ EachAfter P l ∧ P l a := by
  constructor
  · intro h
    refine ⟨fun pre b post hl => h pre b (post ++ [a]) ?_, h l a [] rfl⟩
    rw [hl, List.append_assoc, List.cons_append]
  · rintro ⟨h, ha⟩ pre b post hl
    rcases List.eq_nil_or_concat post with rfl | ⟨post, c, rfl⟩
    · obtain ⟨rfl, hb⟩ := List.append_inj' hl rfl
      rw [← List.head_eq_of_cons_eq hb]
      exact ha
    · rw [List.concat_eq_append, ← List.cons_append, ← List.append_assoc] at hl
      exact h pre b post (List.append_inj_left' hl rfl)

theorem eachAfter_cons : EachAfter P (a :: l) ↔ P [] a ∧ EachAfter (fun pre => P (a :: pre)) l := by
  constructor
  · intro h
    exact ⟨h [] a l rfl, fun pre b post hl => h (a :: pre) b post (congrArg (a :: ·) hl)⟩
  · rintro ⟨ha, h⟩ pre b post hl
    cases pre with
    | nil =>
        obtain ⟨rfl, rfl⟩ := List.cons.inj hl
        exact ha
    | cons c pre =>
        obtain ⟨rfl, hrest⟩ := List.cons.inj hl
        exact h pre b post hrest

instance decidableEachAfter : (P : List α → α → Prop) → [∀ pre a, Decidable (P pre a)] →
    (l : List α) → Decidable (EachAfter P l)
  | _, _, [] => .isTrue eachAfter_nil
  | P, _, a :: l =>
      have := decidableEachAfter (fun pre => P (a :: pre)) l
      decidable_of_iff _ eachAfter_cons.symm

/-- Every element, together with those behind it. -/
def EachBefore (R : α → List α → Prop) (l : List α) : Prop :=
  ∀ pre a post, l = pre ++ a :: post → R a post

variable {R : α → List α → Prop}

@[simp] theorem eachBefore_nil : EachBefore R [] := fun pre a post h => by simp at h

theorem eachBefore_cons : EachBefore R (a :: l) ↔ R a l ∧ EachBefore R l := by
  constructor
  · intro h
    exact ⟨h [] a l rfl, fun pre b post hl => h (a :: pre) b post (congrArg (a :: ·) hl)⟩
  · rintro ⟨ha, h⟩ pre b post hl
    cases pre with
    | nil =>
        obtain ⟨rfl, rfl⟩ := List.cons.inj hl
        exact ha
    | cons c pre => exact h pre b post (List.cons.inj hl).2

instance decidableEachBefore [∀ a post, Decidable (R a post)] :
    (l : List α) → Decidable (EachBefore R l)
  | [] => .isTrue eachBefore_nil
  | _ :: l =>
      have := decidableEachBefore l
      decidable_of_iff _ eachBefore_cons.symm

/-! ### Stretches -/

/-- What comes behind a start, as long as there are inner elements only. -/
def Stretches (start inner : α → Prop) (P : List α → Prop) (l : List α) : Prop :=
  ∀ pre a mid, l = pre ++ a :: mid → start a → (∀ r ∈ mid, inner r) → P mid

variable {start inner : α → Prop} {P Q : List α → Prop}

theorem stretches_nil : Stretches start inner P [] := fun pre a mid h => by simp at h

theorem Stretches.mono (h : Stretches start inner P l)
    (hle : ∀ mid, (∀ r ∈ mid, r ∈ l) → (∀ r ∈ mid, inner r) → P mid → Q mid) :
    Stretches start inner Q l := by
  intro pre a mid hl ha hmid
  refine hle mid (fun r hr => ?_) hmid (h pre a mid hl ha hmid)
  rw [hl]
  exact List.mem_append_right _ (List.mem_cons_of_mem a hr)

/-- One element more: a stretch begins with it or goes on with it. -/
theorem Stretches.snoc (h : Stretches start inner P l) (hstart : start a → Q [])
    (hinner : ∀ mid, (∀ r ∈ mid, inner r) → P mid → inner a → Q (mid ++ [a])) :
    Stretches start inner Q (l ++ [a]) := by
  intro pre b mid hl hb hmid
  rcases List.eq_nil_or_concat mid with rfl | ⟨mid, c, rfl⟩
  · obtain ⟨-, hab⟩ := List.append_inj' hl rfl
    obtain rfl := (List.cons.inj hab).1
    exact hstart hb
  · rw [List.concat_eq_append] at hl hmid ⊢
    rw [← List.cons_append, ← List.append_assoc] at hl
    obtain ⟨hpre, hac⟩ := List.append_inj' hl rfl
    obtain rfl := (List.cons.inj hac).1
    have hinner' : ∀ r ∈ mid, inner r := fun r hr => hmid r (List.mem_append_left _ hr)
    exact hinner mid hinner' (h pre b mid hpre hb hinner')
      (hmid a (List.mem_append_right _ (List.mem_singleton_self a)))

/-! ### What the elements give -/

section Gather

variable {β : Type*}

/-- What the elements give, each together with those before it, when `pre` came before all. -/
def gather (give : List α → α → List β) : List α → List α → List β
  | _, [] => []
  | pre, a :: l => give pre a ++ gather give (pre ++ [a]) l

theorem gather_snoc (give : List α → α → List β) (pre l : List α) (a : α) :
    gather give pre (l ++ [a]) = gather give pre l ++ give (pre ++ l) a := by
  induction l generalizing pre with
  | nil => simp only [List.nil_append, gather, List.append_nil]
  | cons b l ih =>
      rw [List.cons_append, gather, gather, ih, List.append_assoc, List.append_assoc,
        List.singleton_append]

end Gather

end Histories
