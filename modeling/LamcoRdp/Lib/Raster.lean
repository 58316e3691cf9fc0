/-
LamcoRdp/Lib/Raster.lean

Pictures and partial updates of them.

A picture assigns a value to every point.  `overlay S new old` is `old` with the
points of `S` replaced by those of `new`.  `AgreeOn D f g` says that two
pictures are equal on the points of `D`.

`AgreeOn.overlay` is the rule behind every incremental display: if the shown
picture agrees with a reference, and the new picture differs from the reference
only inside the updated points, then the shown picture agrees with the new one
after the update.

A `Patch` is an update on its way, and `paintAll` applies several of them in
order.  `paintAll_agree` is the rule for all of them together, and
`paint_paintAll` says which patches may be left out: those that a later one
covers.
-/
import Mathlib.Data.Set.Basic

namespace Raster

variable {P V : Type*}

/-- Replace the points of `S`. -/
def overlay (S : P → Prop) [DecidablePred S] (new old : P → V) : P → V :=
  fun p => if S p then new p else old p

/-- Equality on the points of `D`. -/
def AgreeOn (D : P → Prop) (f g : P → V) : Prop := ∀ p, D p → f p = g p

variable {D S : P → Prop} [DecidablePred S] {f g h : P → V}

theorem AgreeOn.refl (f : P → V) : AgreeOn D f f := fun _ _ => rfl

theorem AgreeOn.symm (hfg : AgreeOn D f g) : AgreeOn D g f := fun p hp => (hfg p hp).symm

theorem AgreeOn.trans (hfg : AgreeOn D f g) (hgh : AgreeOn D g h) : AgreeOn D f h :=
  fun p hp => (hfg p hp).trans (hgh p hp)

/-- The new picture differs from the reference only inside the update. -/
theorem AgreeOn.overlay {shown reference new : P → V} (hshown : AgreeOn D shown reference)
    (hcover : ∀ p, D p → ¬ S p → new p = reference p) :
    AgreeOn D (overlay S new shown) new := by
  intro p hp
  unfold Raster.overlay
  by_cases hS : S p
  · rw [if_pos hS]
  · rw [if_neg hS, hcover p hp hS]
    exact hshown p hp

/-- An update of the whole domain needs no reference. -/
theorem agreeOn_overlay_all {shown new : P → V} (hall : ∀ p, D p → S p) :
    AgreeOn D (overlay S new shown) new := by
  intro p hp
  exact if_pos (hall p hp)

/-! ### Patches -/

/-- New values for some of the points. -/
structure Patch (P V : Type*) where
  area : P → Bool
  value : P → V

/-- The picture after a patch. -/
def Patch.paint (u : Patch P V) (f : P → V) : P → V := overlay (u.area · = true) u.value f

/-- The picture after several patches, the first one first. -/
def paintAll (us : List (Patch P V)) (f : P → V) : P → V := us.foldl (fun f u => u.paint f) f

@[simp] theorem paintAll_cons (u : Patch P V) (us : List (Patch P V)) (f : P → V) :
    paintAll (u :: us) f = paintAll us (u.paint f) := rfl

@[simp] theorem paintAll_append (us vs : List (Patch P V)) (f : P → V) :
    paintAll (us ++ vs) f = paintAll vs (paintAll us f) :=
  List.foldl_append

theorem Patch.paint_of_mem {u : Patch P V} {f : P → V} {p : P} (hp : u.area p = true) :
    u.paint f p = u.value p :=
  if_pos hp

theorem Patch.paint_of_not_mem {u : Patch P V} {f : P → V} {p : P} (hp : ¬ u.area p = true) :
    u.paint f p = f p :=
  if_neg hp

/-- Under a patch that covers them, earlier patches make no difference. -/
theorem Patch.paint_paintAll {us : List (Patch P V)} {v : Patch P V}
    (hcover : ∀ u ∈ us, ∀ p, u.area p = true → v.area p = true) (f : P → V) :
    v.paint (paintAll us f) = v.paint f := by
  induction us generalizing f with
  | nil => rfl
  | cons u us ih =>
      rw [paintAll_cons, ih fun u' hu' => hcover u' (List.mem_cons_of_mem u hu')]
      funext p
      by_cases hp : v.area p = true
      · rw [paint_of_mem hp, paint_of_mem hp]
      · rw [paint_of_not_mem hp, paint_of_not_mem hp, paint_of_not_mem]
        exact fun hu => hp (hcover u List.mem_cons_self p hu)

/-- Patches of the new picture, with every other point right already. -/
theorem paintAll_agree {us : List (Patch P V)} {shown new : P → V}
    (hvalue : ∀ u ∈ us, ∀ p, u.area p = true → u.value p = new p)
    (hcover : ∀ p, D p → (∃ u ∈ us, u.area p = true) ∨ shown p = new p) :
    AgreeOn D (paintAll us shown) new := by
  induction us generalizing shown with
  | nil =>
      intro p hp
      rcases hcover p hp with ⟨u, hu, -⟩ | h
      · cases hu
      · exact h
  | cons u us ih =>
      rw [paintAll_cons]
      refine ih (fun u' hu' => hvalue u' (List.mem_cons_of_mem u hu')) fun p hp => ?_
      by_cases hu : u.area p = true
      · right
        rw [Patch.paint_of_mem hu]
        exact hvalue u List.mem_cons_self p hu
      · rw [Patch.paint_of_not_mem hu]
        rcases hcover p hp with ⟨u', hu', ha⟩ | h
        · rcases List.mem_cons.mp hu' with rfl | hu'
          · exact absurd ha hu
          · exact Or.inl ⟨u', hu', ha⟩
        · exact Or.inr h

end Raster
