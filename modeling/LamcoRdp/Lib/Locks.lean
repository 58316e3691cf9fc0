/-
LamcoRdp/Lib/Locks.lean

Calls that share locks.

`Owned lock holds` ties the owner of a lock to where the calls are: the lock belongs to
the call that is at a place where it is held, and there is one such call at most.  A move
of one call keeps this if the lock changes hands with it (`Owned.update`).  `Flagged` is
the same of a lock that is no more than a flag.

`Leads Step s P`: some run from `s` ends in a state with `P`.  It is shown step by step,
along a number that falls until `P` holds (`leads_of_falls`), and refuted by a property
that every step keeps and that excludes `P` (`not_leads_of_kept`).  A call that is in no
deadlock leads to its return; one that is in a deadlock does not.
-/
import LamcoRdp.Lib.Runs
import Mathlib.Logic.Function.Basic

namespace Locks

open Runs

/-! ### The owner of a lock -/

section Owned

variable {ι : Type*}

/-- The lock belongs to the call that holds it. -/
def Owned (lock : Option ι) (holds : ι → Bool) : Prop := ∀ i, lock = some i ↔ holds i = true

/-- What a move of call `i` does to a lock that it `held` before and `holds` after. -/
def Passes (i : ι) (lock lock' : Option ι) (held holds : Bool) : Prop :=
  match held, holds with
  | false, true => lock = none ∧ lock' = some i
  | true, false => lock' = none
  | _, _ => lock' = lock

variable {lock lock' : Option ι} {holds : ι → Bool} {i j : ι}

theorem owned_none : Owned (none : Option ι) fun _ => false :=
  fun _ => ⟨fun h => (Option.some_ne_none _ h.symm).elim, fun h => (Bool.false_ne_true h).elim⟩

/-- A lock is held once at most. -/
theorem Owned.eq (h : Owned lock holds) (hi : holds i = true) (hj : holds j = true) : i = j :=
  Option.some_inj.mp (((h i).mpr hi).symm.trans ((h j).mpr hj))

/-- A lock that is free is held by nobody. -/
theorem Owned.not_holds (h : Owned lock holds) (hfree : lock = none) (i : ι) : holds i = false := by
  cases hi : holds i with
  | false => rfl
  | true => rw [hfree] at h; exact absurd ((h i).mpr hi) (Option.some_ne_none i).symm

/-- A move of one call. -/
theorem Owned.update [DecidableEq ι] (h : Owned lock holds) {b : Bool}
    (hpass : Passes i lock lock' (holds i) b) : Owned lock' (Function.update holds i b) := by
  intro j
  have hj := h j
  have hi := h i
  rw [Function.update_apply]
  cases hheld : holds i <;> cases b <;> rw [hheld] at hpass hi
  · -- not held before, nor after
    rw [show lock' = lock from hpass, hj]
    split
    next hji => rw [hji, hheld]
    next => rfl
  · obtain ⟨hfree, rfl⟩ := hpass
    split
    next hji => simp [hji]
    next hji => simp [h.not_holds hfree j, Ne.symm hji]
  · -- given back
    rw [show lock' = none from hpass]
    split
    next => simp
    next hji =>
      have hother : holds j ≠ true := fun hjt => hji (h.eq hjt hheld)
      simp [hother]
  · rw [show lock' = lock from hpass, hj]
    split
    next hji => rw [hji, hheld]
    next => rfl

/-! A flag that is set while a call holds a lock says as much as the owner. -/

/-- The flag is set while a call holds the lock. -/
def Flagged (flag : Bool) (holds : ι → Bool) : Prop :=
  ∃ owner, Owned owner holds ∧ flag = owner.isSome

/-- What a move of a call does to the flag. -/
def PassesFlag (flag flag' held holds : Bool) : Prop :=
  match held, holds with
  | false, true => flag = false ∧ flag' = true
  | true, false => flag' = false
  | _, _ => flag' = flag

variable {flag flag' : Bool}

theorem flagged_none : Flagged false fun _ : ι => false := ⟨none, owned_none, rfl⟩

theorem Flagged.of_holds (h : Flagged flag holds) (hi : holds i = true) : flag = true := by
  obtain ⟨owner, howned, rfl⟩ := h
  rw [(howned i).mpr hi]
  rfl

theorem Flagged.not_holds (h : Flagged flag holds) (hflag : flag = false) (i : ι) :
    holds i = false := by
  cases hi : holds i with
  | false => rfl
  | true => exact absurd (h.of_holds hi) (by rw [hflag]; exact Bool.false_ne_true)

theorem Flagged.exists_holds (h : Flagged flag holds) (hflag : flag = true) :
    ∃ i, holds i = true := by
  obtain ⟨owner, howned, rfl⟩ := h
  obtain ⟨i, hi⟩ := Option.isSome_iff_exists.mp hflag
  exact ⟨i, (howned i).mp hi⟩

theorem Flagged.eq (h : Flagged flag holds) (hi : holds i = true) (hj : holds j = true) :
    i = j := by
  obtain ⟨owner, howned, -⟩ := h
  exact howned.eq hi hj

theorem Flagged.update [DecidableEq ι] (h : Flagged flag holds) {b : Bool}
    (hpass : PassesFlag flag flag' (holds i) b) : Flagged flag' (Function.update holds i b) := by
  obtain ⟨owner, howned, hflag⟩ := h
  cases hheld : holds i <;> cases b <;> rw [hheld] at hpass
  · refine ⟨owner, howned.update ?_, (show flag' = flag from hpass).trans hflag⟩
    rw [hheld]
    rfl
  · have hfree : owner = none := by
      rw [hpass.1] at hflag
      exact Option.isNone_iff_eq_none.mp (Option.isSome_eq_false_iff.mp hflag.symm)
    refine ⟨some i, howned.update ?_, hpass.2⟩
    rw [hheld]
    exact ⟨hfree, rfl⟩
  · refine ⟨none, howned.update ?_, hpass⟩
    rw [hheld]
    rfl
  · refine ⟨owner, howned.update ?_, (show flag' = flag from hpass).trans hflag⟩
    rw [hheld]
    rfl

end Owned

/-! ### What can come about -/

section Leads

variable {S E : Type*} {Step : S → E → S → Prop} {s : S} {P Q : S → Prop}

/-- `P` can come about from `s`. -/
def Leads (Step : S → E → S → Prop) (s : S) (P : S → Prop) : Prop :=
  ∃ es t, Run Step s es t ∧ P t

theorem leads_now (h : P s) : Leads Step s P := ⟨[], s, Run.nil, h⟩

theorem leads_step {e : E} {t : S} (hst : Step s e t) (h : Leads Step t P) : Leads Step s P := by
  obtain ⟨es, u, hrun, hu⟩ := h
  exact ⟨e :: es, u, Run.cons hst hrun, hu⟩

theorem Leads.trans (h : Leads Step s P) (hPQ : ∀ t, P t → Leads Step t Q) : Leads Step s Q := by
  obtain ⟨es, t, hrun, ht⟩ := h
  have hQ := hPQ t ht
  clear ht
  induction hrun with
  | nil => exact hQ
  | snoc _ hst ih => exact ih (leads_step hst hQ)

/-- Where a state without `P` has a step that keeps `I` and lowers `m`, `P` comes about. -/
theorem leads_of_falls {I : S → Prop} {m : S → ℕ}
    (hfall : ∀ s, I s → P s ∨ ∃ e t, Step s e t ∧ I t ∧ m t < m s) (hI : I s) :
    Leads Step s P := by
  induction hm : m s using Nat.strongRecOn generalizing s with
  | ind n ih =>
      rcases hfall s hI with hP | ⟨e, t, hst, ht, hlt⟩
      · exact leads_now hP
      · exact leads_step hst (ih (m t) (by omega) ht rfl)

/-- What every step keeps keeps out what it excludes. -/
theorem not_leads_of_kept {I : S → Prop} (hstep : ∀ {s e t}, I s → Step s e t → I t)
    (hnot : ∀ t, I t → ¬ P t) (hI : I s) : ¬ Leads Step s P := by
  rintro ⟨es, t, hrun, ht⟩
  exact hnot t (hrun.invariant hI hstep) ht

end Leads

end Locks
