/-
LamcoRdp/Damage/Region.lean

Damage rectangles, their merging, and the tile grid (`damage/mod.rs`).

Coordinates are `u32`.  Sums of an edge are taken modulo `2 ^ 32`, as a release
build computes them; a region whose edges fit (`DamageRegion.Fits`) never wraps,
and every region that comes from the tile grid fits.

The inner loops of `merge_regions` keep a flag for each region already merged;
here the scan returns the regions still unused, in order.  The outer loop runs
until nothing changes and loses a region whenever something does, so as many
rounds as there are regions are enough.
-/
import Mathlib.Data.List.Basic
import Mathlib.Algebra.Order.Group.Nat

namespace LamcoRdp

/-- The value an unsigned 32-bit operation leaves. -/
def wrapU32 (n : ℕ) : ℕ := n % 2 ^ 32

/-- `u32` subtraction in a release build. -/
def wrapSubU32 (a b : ℕ) : ℕ := (a + 2 ^ 32 - b) % 2 ^ 32

/-- `DamageRegion`: a rectangle of pixels. -/
structure DamageRegion where
  x : ℕ
  y : ℕ
  width : ℕ
  height : ℕ
  deriving DecidableEq, Repr

namespace DamageRegion

/-- `full_frame`. -/
def fullFrame (width height : ℕ) : DamageRegion := ⟨0, 0, width, height⟩

/-- `area`, a `u64`. -/
def area (r : DamageRegion) : ℕ := r.width * r.height

/-- `right`, a `u32`. -/
def right (r : DamageRegion) : ℕ := wrapU32 (r.x + r.width)

/-- `bottom`, a `u32`. -/
def bottom (r : DamageRegion) : ℕ := wrapU32 (r.y + r.height)

/-- `union`: the bounding box of two regions. -/
def union (r s : DamageRegion) : DamageRegion :=
  let x := min r.x s.x
  let y := min r.y s.y
  ⟨x, y, wrapSubU32 (max r.right s.right) x, wrapSubU32 (max r.bottom s.bottom) y⟩

/-- `is_adjacent`. -/
def isAdjacent (r s : DamageRegion) (mergeDistance : ℕ) : Bool :=
  let gapX := if s.x ≥ r.right then s.x - r.right else r.x - s.right
  let gapY := if s.y ≥ r.bottom then s.y - r.bottom else r.y - s.bottom
  gapX ≤ mergeDistance && gapY ≤ mergeDistance

/-- The pixels of a region. -/
def Covers (r : DamageRegion) (px py : ℕ) : Prop :=
  r.x ≤ px ∧ px < r.x + r.width ∧ r.y ≤ py ∧ py < r.y + r.height

instance (r : DamageRegion) (px py : ℕ) : Decidable (r.Covers px py) :=
  inferInstanceAs (Decidable (_ ∧ _ ∧ _ ∧ _))

/-- The region lies inside a frame of this size. -/
def Inside (r : DamageRegion) (width height : ℕ) : Prop :=
  r.x + r.width ≤ width ∧ r.y + r.height ≤ height

instance (r : DamageRegion) (width height : ℕ) : Decidable (r.Inside width height) :=
  inferInstanceAs (Decidable (_ ∧ _))

/-- Neither edge wraps. -/
def Fits (r : DamageRegion) : Prop := r.x + r.width < 2 ^ 32 ∧ r.y + r.height < 2 ^ 32

theorem Inside.fits {r : DamageRegion} {width height : ℕ} (h : r.Inside width height)
    (hw : width < 2 ^ 32) (hh : height < 2 ^ 32) : r.Fits :=
  ⟨h.1.trans_lt hw, h.2.trans_lt hh⟩

theorem Fits.right_eq {r : DamageRegion} (h : r.Fits) : r.right = r.x + r.width :=
  Nat.mod_eq_of_lt h.1

theorem Fits.bottom_eq {r : DamageRegion} (h : r.Fits) : r.bottom = r.y + r.height :=
  Nat.mod_eq_of_lt h.2

/-- The far edges of a union. -/
theorem union_edges {r s : DamageRegion} (hr : r.Fits) (hs : s.Fits) :
    (r.union s).x + (r.union s).width = max (r.x + r.width) (s.x + s.width) ∧
      (r.union s).y + (r.union s).height = max (r.y + r.height) (s.y + s.height) := by
  obtain ⟨hrx, hry⟩ := hr
  obtain ⟨hsx, hsy⟩ := hs
  simp only [union, wrapSubU32, Fits.right_eq ⟨hrx, hry⟩, Fits.right_eq ⟨hsx, hsy⟩,
    Fits.bottom_eq ⟨hrx, hry⟩, Fits.bottom_eq ⟨hsx, hsy⟩]
  omega

theorem Inside.union {r s : DamageRegion} {width height : ℕ} (hr : r.Inside width height)
    (hs : s.Inside width height) (hw : width < 2 ^ 32) (hh : height < 2 ^ 32) :
    (r.union s).Inside width height := by
  obtain ⟨hx, hy⟩ := union_edges (hr.fits hw hh) (hs.fits hw hh)
  refine ⟨?_, ?_⟩
  · rw [hx]
    exact Nat.max_le.mpr ⟨hr.1, hs.1⟩
  · rw [hy]
    exact Nat.max_le.mpr ⟨hr.2, hs.2⟩

/-- A union covers what either part covers. -/
theorem union_covers {r s : DamageRegion} (hr : r.Fits) (hs : s.Fits) {px py : ℕ}
    (h : r.Covers px py ∨ s.Covers px py) : (r.union s).Covers px py := by
  obtain ⟨hx, hy⟩ := union_edges hr hs
  have hleft : (r.union s).x = min r.x s.x := rfl
  have htop : (r.union s).y = min r.y s.y := rfl
  unfold Covers at h ⊢
  rw [hx, hy, hleft, htop]
  omega

end DamageRegion

/-! ### Lists of regions -/

/-- Some region of the list covers the pixel. -/
def CoveredBy (rs : List DamageRegion) (px py : ℕ) : Prop := ∃ r ∈ rs, r.Covers px py

instance (rs : List DamageRegion) (px py : ℕ) : Decidable (CoveredBy rs px py) :=
  inferInstanceAs (Decidable (∃ r ∈ rs, r.Covers px py))

/-- Every region of the list lies inside the frame. -/
def AllInside (rs : List DamageRegion) (width height : ℕ) : Prop :=
  ∀ r ∈ rs, r.Inside width height

/-! ### Merging -/

/-- The scan over `j`: merge into `current` what is adjacent to it.  Returns the
merged region, the regions left unused and whether anything merged. -/
def mergeInto (mergeDistance : ℕ) (current : DamageRegion) :
    List DamageRegion → DamageRegion × List DamageRegion × Bool
  | [] => (current, [], false)
  | r :: rest =>
      if current.isAdjacent r mergeDistance then
        let (merged, unused, _) := mergeInto mergeDistance (current.union r) rest
        (merged, unused, true)
      else
        let (merged, unused, changed) := mergeInto mergeDistance current rest
        (merged, r :: unused, changed)

/-- The loop over `i`, one round of `merge_regions`; the first argument bounds
the number of regions still to visit. -/
def mergePass (mergeDistance : ℕ) : ℕ → List DamageRegion → List DamageRegion × Bool
  | 0, regions => (regions, false)
  | _, [] => ([], false)
  | n + 1, r :: rest =>
      let (merged, unused, changed) := mergeInto mergeDistance r rest
      let (out, changed') := mergePass mergeDistance n unused
      (merged :: out, changed || changed')

/-- `while changed`. -/
def mergeLoop (mergeDistance : ℕ) : ℕ → List DamageRegion → List DamageRegion
  | 0, regions => regions
  | n + 1, regions =>
      let (merged, changed) := mergePass mergeDistance regions.length regions
      if changed then mergeLoop mergeDistance n merged else merged

/-- `merge_regions`. -/
def mergeRegions (regions : List DamageRegion) (mergeDistance : ℕ) : List DamageRegion :=
  if regions.length ≤ 1 then regions else mergeLoop mergeDistance regions.length regions

section Equations

variable {d : ℕ} {current r : DamageRegion} {rest : List DamageRegion}

theorem mergeInto_of_adjacent (h : current.isAdjacent r d = true) :
    mergeInto d current (r :: rest) = ((mergeInto d (current.union r) rest).1,
      (mergeInto d (current.union r) rest).2.1, true) := by
  rw [mergeInto, if_pos h]

theorem mergeInto_of_apart (h : ¬ current.isAdjacent r d = true) :
    mergeInto d current (r :: rest) = ((mergeInto d current rest).1,
      r :: (mergeInto d current rest).2.1, (mergeInto d current rest).2.2) := by
  rw [mergeInto, if_neg h]

theorem mergePass_nil (n : ℕ) : mergePass d n [] = ([], false) := by
  cases n <;> rfl

theorem mergePass_cons (n : ℕ) :
    mergePass d (n + 1) (r :: rest)
      = ((mergeInto d r rest).1 :: (mergePass d n (mergeInto d r rest).2.1).1,
        (mergeInto d r rest).2.2 || (mergePass d n (mergeInto d r rest).2.1).2) := rfl

end Equations

/-- A relation between a list of regions and one that can stand for it, kept by every
single step of merging. -/
structure MergeStable (T : List DamageRegion → List DamageRegion → Prop) : Prop where
  refl : ∀ rs, T rs rs
  trans : ∀ {rs ss ts}, T rs ss → T ss ts → T rs ts
  cons : ∀ r {rs ss}, T rs ss → T (r :: rs) (r :: ss)
  swap : ∀ r s rs, T (r :: s :: rs) (s :: r :: rs)
  union : ∀ r s rs, T (r :: s :: rs) (r.union s :: rs)

namespace MergeStable

variable {T : List DamageRegion → List DamageRegion → Prop} (h : MergeStable T) (d : ℕ)

include h in
theorem mergeInto (current : DamageRegion) (rs : List DamageRegion) :
    T (current :: rs) ((mergeInto d current rs).1 :: (mergeInto d current rs).2.1) := by
  induction rs generalizing current with
  | nil => exact h.refl _
  | cons r rest ih =>
      unfold LamcoRdp.mergeInto
      split
      · exact h.trans (h.union current r rest) (ih (current.union r))
      · -- `r` stays unused; move it past the scan
        exact h.trans (h.swap current r rest) (h.trans (h.cons r (ih current)) (h.swap ..))

include h in
theorem mergePass (n : ℕ) (rs : List DamageRegion) : T rs (mergePass d n rs).1 := by
  induction n generalizing rs with
  | zero => exact h.refl rs
  | succ n ih =>
      cases rs with
      | nil => exact h.refl []
      | cons r rest => exact h.trans (h.mergeInto d r rest) (h.cons _ (ih _))

include h in
theorem mergeLoop (n : ℕ) (rs : List DamageRegion) : T rs (mergeLoop d n rs) := by
  induction n generalizing rs with
  | zero => exact h.refl rs
  | succ n ih =>
      have hpass := h.mergePass d rs.length rs
      unfold LamcoRdp.mergeLoop
      dsimp only
      split
      · exact h.trans hpass (ih _)
      · exact hpass

include h in
/-- What every step keeps, the whole merging keeps. -/
theorem mergeRegions (rs : List DamageRegion) : T rs (mergeRegions rs d) := by
  unfold LamcoRdp.mergeRegions
  split
  · exact h.refl rs
  · exact h.mergeLoop d rs.length rs

end MergeStable

section Merging

variable {width height : ℕ} (hw : width < 2 ^ 32) (hh : height < 2 ^ 32) (d : ℕ)

/-- What a list of regions can be replaced by: regions of the same frame that
cover at least as much. -/
structure Absorbs (width height : ℕ) (rs out : List DamageRegion) : Prop where
  inside : AllInside rs width height → AllInside out width height
  covers : AllInside rs width height → ∀ {px py}, CoveredBy rs px py → CoveredBy out px py

theorem Absorbs.refl (rs : List DamageRegion) : Absorbs width height rs rs :=
  ⟨id, fun _ => id⟩

theorem Absorbs.trans {rs ss ts : List DamageRegion} (h : Absorbs width height rs ss)
    (h' : Absorbs width height ss ts) : Absorbs width height rs ts :=
  ⟨fun hin => h'.inside (h.inside hin), fun hin _ _ hc =>
    h'.covers (h.inside hin) (h.covers hin hc)⟩

theorem Absorbs.cons {rs ss : List DamageRegion} (r : DamageRegion)
    (h : Absorbs width height rs ss) : Absorbs width height (r :: rs) (r :: ss) := by
  refine ⟨fun hin => ?_, fun hin px py hc => ?_⟩
  · rw [AllInside, List.forall_mem_cons] at hin ⊢
    exact ⟨hin.1, h.inside hin.2⟩
  · rw [AllInside, List.forall_mem_cons] at hin
    rw [CoveredBy, List.exists_mem_cons_iff] at hc ⊢
    exact hc.imp_right fun hc => h.covers hin.2 hc

theorem Absorbs.swap (r s : DamageRegion) (rs : List DamageRegion) :
    Absorbs width height (r :: s :: rs) (s :: r :: rs) := by
  refine ⟨fun hin => ?_, fun _ px py hc => ?_⟩
  · simp only [AllInside, List.forall_mem_cons] at hin ⊢
    exact ⟨hin.2.1, hin.1, hin.2.2⟩
  · simp only [CoveredBy, List.exists_mem_cons_iff] at hc ⊢
    exact or_left_comm.mp hc

include hw hh in
theorem Absorbs.union (r s : DamageRegion) (rs : List DamageRegion) :
    Absorbs width height (r :: s :: rs) (r.union s :: rs) := by
  refine ⟨fun hin => ?_, fun hin px py hc => ?_⟩
  · simp only [AllInside, List.forall_mem_cons] at hin ⊢
    exact ⟨hin.1.union hin.2.1 hw hh, hin.2.2⟩
  · simp only [AllInside, List.forall_mem_cons] at hin
    simp only [CoveredBy, List.exists_mem_cons_iff] at hc ⊢
    rw [← or_assoc] at hc
    exact hc.imp_left (DamageRegion.union_covers (hin.1.fits hw hh) (hin.2.1.fits hw hh))

include hw hh in
theorem mergeStable_absorbs : MergeStable (Absorbs width height) where
  refl := Absorbs.refl
  trans := Absorbs.trans
  cons r _ _ h := h.cons r
  swap := Absorbs.swap
  union := Absorbs.union hw hh

include hw hh in
/-- Merging loses no pixel and stays inside the frame. -/
theorem mergeRegions_absorbs (rs : List DamageRegion) :
    Absorbs width height rs (mergeRegions rs d) :=
  (mergeStable_absorbs hw hh).mergeRegions d rs

end Merging

/-! ### The tile grid -/

/-- `tiles_to_regions`. -/
def tilesToRegions (dirtyTiles : List Bool) (tilesX tilesY tileSize frameWidth frameHeight : ℕ) :
    List DamageRegion :=
  (List.range tilesY).flatMap fun ty =>
    (List.range tilesX).filterMap fun tx =>
      if dirtyTiles.getD (ty * tilesX + tx) false then
        let x := wrapU32 (tx * tileSize)
        let y := wrapU32 (ty * tileSize)
        let width := min (wrapU32 tileSize) (frameWidth - x)
        let height := min (wrapU32 tileSize) (frameHeight - y)
        if width > 0 ∧ height > 0 then some ⟨x, y, width, height⟩ else none
      else none

section TileGrid

variable {dirtyTiles : List Bool} {tilesX tilesY tileSize width height : ℕ}

theorem mem_tilesToRegions {r : DamageRegion} :
    r ∈ tilesToRegions dirtyTiles tilesX tilesY tileSize width height ↔
      ∃ ty < tilesY, ∃ tx < tilesX, dirtyTiles.getD (ty * tilesX + tx) false = true ∧
        0 < r.width ∧ 0 < r.height ∧
        r = ⟨wrapU32 (tx * tileSize), wrapU32 (ty * tileSize),
          min (wrapU32 tileSize) (width - wrapU32 (tx * tileSize)),
          min (wrapU32 tileSize) (height - wrapU32 (ty * tileSize))⟩ := by
  simp only [tilesToRegions, List.mem_flatMap, List.mem_range, List.mem_filterMap]
  refine exists_congr fun ty => and_congr_right fun _ => exists_congr fun tx =>
    and_congr_right fun _ => ?_
  -- a dirty tile gives its part inside the frame, unless that is empty
  split
  · next hd =>
      split
      · next hpos =>
          constructor
          · intro h
            obtain rfl := Option.some.inj h
            exact ⟨hd, hpos.1, hpos.2, rfl⟩
          · rintro ⟨-, -, -, rfl⟩
            rfl
      · next hpos =>
          constructor
          · exact fun h => absurd h (by simp)
          · rintro ⟨-, hw, hh, rfl⟩
            exact absurd ⟨hw, hh⟩ hpos
  · next hd =>
      constructor
      · exact fun h => absurd h (by simp)
      · exact fun h => absurd h.1 hd

theorem tilesToRegions_inside :
    AllInside (tilesToRegions dirtyTiles tilesX tilesY tileSize width height) width height := by
  intro r hr
  obtain ⟨_, _, _, _, _, hw, hh, rfl⟩ := mem_tilesToRegions.mp hr
  unfold DamageRegion.Inside
  dsimp only at hw hh ⊢
  omega

/-- The region of a dirty tile covers the tile, if the sides of the tile survive the cast
to `u32`. -/
theorem tilesToRegions_contains (hw : width < 2 ^ 32) (hh : height < 2 ^ 32) {tx ty : ℕ}
    (htx : tx < tilesX) (hty : ty < tilesY)
    (hdirty : dirtyTiles.getD (ty * tilesX + tx) false = true)
    (hx : tx * tileSize < width) (hy : ty * tileSize < height) (hts : 0 < wrapU32 tileSize)
    (hside : min tileSize (width - tx * tileSize) ≤ wrapU32 tileSize)
    (hside' : min tileSize (height - ty * tileSize) ≤ wrapU32 tileSize) :
    ∃ r ∈ tilesToRegions dirtyTiles tilesX tilesY tileSize width height, ∀ px py,
      tx * tileSize ≤ px → px < tx * tileSize + min tileSize (width - tx * tileSize) →
      ty * tileSize ≤ py → py < ty * tileSize + min tileSize (height - ty * tileSize) →
      r.Covers px py := by
  have hwx : wrapU32 (tx * tileSize) = tx * tileSize := Nat.mod_eq_of_lt (by omega)
  have hwy : wrapU32 (ty * tileSize) = ty * tileSize := Nat.mod_eq_of_lt (by omega)
  refine ⟨⟨tx * tileSize, ty * tileSize, min (wrapU32 tileSize) (width - tx * tileSize),
    min (wrapU32 tileSize) (height - ty * tileSize)⟩, mem_tilesToRegions.mpr
      ⟨ty, hty, tx, htx, hdirty, ?_, ?_, ?_⟩, fun px py hpx hpx' hpy hpy' => ?_⟩
  · show 0 < min (wrapU32 tileSize) (width - tx * tileSize)
    omega
  · show 0 < min (wrapU32 tileSize) (height - ty * tileSize)
    omega
  · rw [hwx, hwy]
  · unfold DamageRegion.Covers
    dsimp only
    omega

/-- The region of a dirty tile covers the tile's pixels. -/
theorem tilesToRegions_covers (hts : tileSize < 2 ^ 32) (hw : width < 2 ^ 32)
    (hh : height < 2 ^ 32) {tx ty px py : ℕ} (htx : tx < tilesX) (hty : ty < tilesY)
    (hdirty : dirtyTiles.getD (ty * tilesX + tx) false = true)
    (hpx : px < width) (hpy : py < height) (hx : tx * tileSize ≤ px)
    (hx' : px < tx * tileSize + tileSize) (hy : ty * tileSize ≤ py)
    (hy' : py < ty * tileSize + tileSize) :
    CoveredBy (tilesToRegions dirtyTiles tilesX tilesY tileSize width height) px py := by
  have hwt : wrapU32 tileSize = tileSize := Nat.mod_eq_of_lt hts
  have hstartx : tx * tileSize < width := by omega
  have hstarty : ty * tileSize < height := by omega
  obtain ⟨r, hr, hcovers⟩ := tilesToRegions_contains hw hh htx hty hdirty hstartx hstarty
    (by omega) (by omega) (by omega)
  exact ⟨r, hr, hcovers px py hx (by omega) hy (by omega)⟩

/-- Without a flag there is no region. -/
theorem tilesToRegions_eq_nil (h : ∀ ty < tilesY, ∀ tx < tilesX,
    dirtyTiles.getD (ty * tilesX + tx) false = false) :
    tilesToRegions dirtyTiles tilesX tilesY tileSize width height = [] := by
  refine List.eq_nil_iff_forall_not_mem.mpr fun r hr => ?_
  obtain ⟨ty, hty, tx, htx, hdirty, -⟩ := mem_tilesToRegions.mp hr
  rw [h ty hty tx htx] at hdirty
  cases hdirty

end TileGrid

end LamcoRdp
