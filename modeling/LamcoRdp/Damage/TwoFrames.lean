/-
LamcoRdp/Damage/TwoFrames.lean

What `detect` reports of a frame that follows another one directly
(`damage/mod.rs`).

The tiles in which more pixels differ than allowed become rectangles, these are
merged until no two are adjacent, and what is too small in the end is left out.  So
the regions returned are disjoint, and every tile with more differing pixels lies in
one of them, or in one that was left out (`TwoFrameSound`).

Two casts to `u32` can break this for a tile: the number of its differing pixels, and
the length of its side.  `damage_sound_iff` says for which configurations and frame
sizes they never do.
-/
import LamcoRdp.Damage.Merge
import LamcoRdp.Damage.Tiles

namespace LamcoRdp

open DamageDetector

/-! ### Detectors -/

namespace DamageDetector

/-- `set_config`. -/
def setConfig (d : DamageDetector) (config : DamageConfig) : DamageDetector :=
  { d with config, invalidated := true }

/-- A detector after any calls. -/
inductive Reachable : DamageDetector → Prop
  | new (config : DamageConfig) : Reachable (.new config)
  | detect {d d' : DamageDetector} {frame : List UInt8} {width height : ℕ}
      {regions : List DamageRegion} (h : Reachable d)
      (hdetect : d.detect frame width height = some (d', regions)) : Reachable d'
  | updateReference {d : DamageDetector} (h : Reachable d) (frame : List UInt8) :
      Reachable (d.updateReference frame)
  | invalidate {d : DamageDetector} (h : Reachable d) : Reachable d.invalidate
  | setConfig {d : DamageDetector} (h : Reachable d) (config : DamageConfig) :
      Reachable (d.setConfig config)

/-- Unless the next frame is reported whole, the grid is that of the last one. -/
def GridFits (d : DamageDetector) : Prop :=
  d.invalidated = false → ∀ width height, d.previousDimensions = some (width, height) →
    d.tilesX = divCeil width d.config.tileSize ∧ d.tilesY = divCeil height d.config.tileSize

variable {d d' : DamageDetector} {frame prev curr : List UInt8} {width height : ℕ}
  {regions : List DamageRegion}

/-- What a call leaves behind. -/
theorem GridFits.detect (h : d.GridFits)
    (hdetect : d.detect frame width height = some (d', regions)) :
    d'.GridFits ∧ d'.config = d.config ∧ d'.reference width height = some frame := by
  have hfull : d.detectFull frame width height = some (d', regions) →
      d'.GridFits ∧ d'.config = d.config ∧ d'.reference width height = some frame := by
    intro hfull
    unfold detectFull at hfull
    split at hfull
    · cases hfull
    · obtain ⟨rfl, -⟩ := Prod.mk.inj (Option.some.inj hfull)
      refine ⟨fun _ w h' hdim => ?_, rfl, by simp [reference]⟩
      obtain ⟨rfl, rfl⟩ := Prod.mk.inj (Option.some.inj hdim)
      exact ⟨rfl, rfl⟩
  unfold DamageDetector.detect at hdetect
  split at hdetect
  · cases hdetect
  split at hdetect
  · exact hfull hdetect
  dsimp only at hdetect
  split at hdetect
  · exact hfull hdetect
  · next hkept =>
      obtain ⟨rfl, -⟩ := Prod.mk.inj (Option.some.inj hdetect)
      exact ⟨h, rfl, if_neg hkept⟩

theorem Reachable.gridFits (h : Reachable d) : d.GridFits := by
  induction h with
  | new config => exact nofun
  | detect _ hdetect ih => exact (ih.detect hdetect).1
  | updateReference _ frame ih => exact ih
  | invalidate _ _ => exact nofun
  | setConfig _ config _ => exact nofun

theorem detect_isSome (ht : 1 ≤ d.config.tileSize) (hlen : frame.length = width * height * 4)
    (h64 : width * height * 4 < 2 ^ 64) :
    ∃ d' regions, d.detect frame width height = some (d', regions) := by
  rw [detect_eq hlen h64]
  split
  · exact ⟨_, _, if_neg (Nat.one_le_iff_ne_zero.mp ht)⟩
  · exact ⟨_, _, rfl⟩

/-- The regions of `detect_changes` before the small ones are left out. -/
def mergedRegions (d : DamageDetector) (prev curr : List UInt8) (width height : ℕ) :
    List DamageRegion :=
  mergeRegions (tilesToRegions (d.dirtyTiles prev curr width height) d.tilesX d.tilesY
    d.config.tileSize width height) d.config.mergeDistance

theorem detectChanges_eq : d.detectChanges prev curr width height
    = (d.mergedRegions prev curr width height).filter fun r =>
      r.area ≥ d.config.minRegionArea := rfl

end DamageDetector

/-! ### Disjoint regions -/

namespace DamageRegion

variable {r s : DamageRegion}

/-- Regions that share a pixel are adjacent. -/
theorem isAdjacent_of_covers (hr : r.Fits) (hs : s.Fits) (d : ℕ) {px py : ℕ}
    (h : r.Covers px py) (h' : s.Covers px py) : r.isAdjacent s d = true := by
  obtain ⟨hx, hx', hy, hy'⟩ := h
  obtain ⟨hsx, hsx', hsy, hsy'⟩ := h'
  have hgap : ∀ x w x' w' p : ℕ, x ≤ p → p < x + w → x' ≤ p → p < x' + w' →
      (if x' ≥ x + w then x' - (x + w) else x - (x' + w')) = 0 := by
    intro x w x' w' p _ _ _ _
    split_ifs <;> omega
  simp only [isAdjacent, hr.right_eq, hs.right_eq, hr.bottom_eq, hs.bottom_eq]
  rw [hgap r.x r.width s.x s.width px hx hx' hsx hsx',
    hgap r.y r.height s.y s.height py hy hy' hsy hsy']
  simp

/-- The pixels of a region, row by row. -/
def pixels (r : DamageRegion) : List (ℕ × ℕ) := tilePixels r.x r.y r.width r.height

theorem mem_pixels {p : ℕ × ℕ} : p ∈ r.pixels ↔ r.Covers p.1 p.2 := by
  unfold pixels Covers
  rw [mem_tilePixels, and_assoc]

end DamageRegion

/-- Disjoint regions inside a frame have at most its area together. -/
theorem sum_area_le {rs : List DamageRegion} {width height : ℕ}
    (hinside : AllInside rs width height)
    (hdisjoint : rs.Pairwise fun r s => ∀ px py, ¬ (r.Covers px py ∧ s.Covers px py)) :
    (rs.map DamageRegion.area).sum ≤ width * height := by
  have hnodup : (rs.flatMap DamageRegion.pixels).Nodup := by
    refine List.nodup_flatMap.mpr ⟨fun r _ => nodup_tilePixels .., hdisjoint.imp ?_⟩
    intro r s hrs p hr hs
    exact hrs p.1 p.2 ⟨DamageRegion.mem_pixels.mp hr, DamageRegion.mem_pixels.mp hs⟩
  have hsubset : rs.flatMap DamageRegion.pixels ⊆ tilePixels 0 0 width height := by
    intro p hp
    obtain ⟨r, hr, hp⟩ := List.mem_flatMap.mp hp
    obtain ⟨hx, hy⟩ := hinside r hr
    obtain ⟨_, hpx, _, hpy⟩ := DamageRegion.mem_pixels.mp hp
    exact mem_tilePixels.mpr ⟨⟨Nat.zero_le _, by omega⟩, Nat.zero_le _, by omega⟩
  have harea : (rs.map DamageRegion.area).sum = (rs.flatMap DamageRegion.pixels).length := by
    rw [List.length_flatMap]
    refine congrArg List.sum (List.map_congr_left fun r _ => ?_)
    exact (Nat.mul_comm _ _).trans (length_tilePixels _).symm
  rw [harea, Nat.mul_comm width]
  exact (List.subperm_of_subset hnodup hsubset).length_le.trans (length_tilePixels _).le

/-! ### Soundness -/

/-- What the regions reported say about two frames. -/
structure TwoFrameSound (config : DamageConfig) (width height : ℕ) (prev curr : List UInt8)
    (merged regions : List DamageRegion) : Prop where
  inside : AllInside regions width height
  disjoint : regions.Pairwise fun r s => ∀ px py, ¬ (r.Covers px py ∧ s.Covers px py)
  area : (regions.map DamageRegion.area).sum ≤ width * height
  /-- a tile with more differing pixels than allowed lies in one region, which is reported
  unless it is too small -/
  tiles : ∀ tx < divCeil width config.tileSize, ∀ ty < divCeil height config.tileSize,
    config.dirtyCount < config.diffCount width height prev curr tx ty →
      ∃ r ∈ merged, (∀ p ∈ config.tileOf width height tx ty, r.Covers p.1 p.2) ∧
        (r ∈ regions ∨ r.area < config.minRegionArea)
  same : (∀ px < width, ∀ py < height, bgrAt width prev px py = bgrAt width curr px py) →
    regions = []

/-- Every frame that follows another one directly is reported soundly. -/
def ReportsSoundly (config : DamageConfig) (width height : ℕ) : Prop :=
  ∀ d : DamageDetector, d.Reachable → d.config = config →
    ∀ prev curr : List UInt8, prev.length = width * height * 4 →
      curr.length = width * height * 4 →
      ∃ d₁ regions₁ d₂ regions, d.detect prev width height = some (d₁, regions₁) ∧
        d₁.detect curr width height = some (d₂, regions) ∧
        TwoFrameSound config width height prev curr
          (d₁.mergedRegions prev curr width height) regions

/-- The casts to `u32` do no harm: no tile can have more differing pixels than allowed, or
the pixels and the sides of the largest tile fit. -/
def CastsFit (config : DamageConfig) (width height : ℕ) : Prop :=
  config.pixelThreshold = 255 ∨
    min config.tileSize height * min config.tileSize width ≤ config.dirtyCount ∨
    (min config.tileSize height * min config.tileSize width < 2 ^ 32 ∧
      min config.tileSize width ≤ wrapU32 config.tileSize ∧
      min config.tileSize height ≤ wrapU32 config.tileSize)

section Sound

variable {config : DamageConfig} {d : DamageDetector} {prev curr : List UInt8}
  {width height : ℕ}

/-- A tile has at most as many pixels as the first one. -/
theorem length_tileOf_le (width height tx ty : ℕ) : (config.tileOf width height tx ty).length
    ≤ min config.tileSize height * min config.tileSize width := by
  rw [length_tileOf]
  exact Nat.mul_le_mul (by omega) (by omega)

theorem diffCount_of_same
    (h : ∀ px < width, ∀ py < height, bgrAt width prev px py = bgrAt width curr px py)
    (ht : 1 ≤ config.tileSize) (tx ty : ℕ) :
    config.diffCount width height prev curr tx ty = 0 := by
  refine List.countP_eq_zero.mpr fun p hp hdiff => ?_
  obtain ⟨hpx, hpy, -⟩ := mem_tileOf ht hp
  rw [h p.1 hpx p.2 hpy, decide_eq_true_eq] at hdiff
  unfold Differs absDiff at hdiff
  omega

section Grid

variable (ht : 1 ≤ d.config.tileSize)
  (hgrid : d.tilesX = divCeil width d.config.tileSize ∧ d.tilesY = divCeil height d.config.tileSize)
  (hprev : prev.length = width * height * 4) (hcurr : curr.length = width * height * 4)

include ht hgrid hprev hcurr in
/-- The flag of a tile of the grid. -/
theorem flag_iff {tx ty : ℕ} (htx : tx < d.tilesX) (hty : ty < d.tilesY) :
    (d.dirtyTiles prev curr width height).getD (ty * d.tilesX + tx) false = true ↔
      d.config.dirtyCount < wrapU32 (d.config.diffCount width height prev curr tx ty) := by
  rw [getD_dirtyTiles htx hty]
  exact tileDirty_iff ht hprev hcurr (lt_of_lt_divCeil ht (hgrid.1 ▸ htx))
    (lt_of_lt_divCeil ht (hgrid.2 ▸ hty))

include ht hgrid hprev hcurr in
/-- If no tile has differing pixels, as the counter sees it, nothing is reported. -/
theorem mergedRegions_eq_nil
    (h : ∀ tx ty, wrapU32 (d.config.diffCount width height prev curr tx ty) = 0) :
    d.mergedRegions prev curr width height = [] := by
  unfold mergedRegions
  rw [tilesToRegions_eq_nil]
  · rfl
  · intro ty hty tx htx
    refine Bool.eq_false_iff.mpr fun hflag => ?_
    have hmore := (flag_iff ht hgrid hprev hcurr htx hty).mp hflag
    rw [h tx ty] at hmore
    exact Nat.not_lt_zero _ hmore

/-- The regions of the grid, merged. -/
theorem mergedRegions_inside (hw : width < 2 ^ 32) (hh : height < 2 ^ 32) :
    AllInside (d.mergedRegions prev curr width height) width height :=
  (mergeRegions_absorbs hw hh d.config.mergeDistance _).inside tilesToRegions_inside

theorem mergedRegions_disjoint (hw : width < 2 ^ 32) (hh : height < 2 ^ 32) :
    (d.mergedRegions prev curr width height).Pairwise fun r s =>
      ∀ px py, ¬ (r.Covers px py ∧ s.Covers px py) := by
  have hinside : AllInside (d.mergedRegions prev curr width height) width height :=
    mergedRegions_inside hw hh
  have hfits : ∀ r ∈ tilesToRegions (d.dirtyTiles prev curr width height) d.tilesX d.tilesY
      d.config.tileSize width height, r.Fits :=
    fun r hr => (tilesToRegions_inside r hr).fits hw hh
  refine (mergeRegions_apart d.config.mergeDistance hfits).imp_of_mem fun hr hs hapart => ?_
  rintro px py ⟨hcr, hcs⟩
  have hadj := DamageRegion.isAdjacent_of_covers ((hinside _ hr).fits hw hh)
    ((hinside _ hs).fits hw hh) d.config.mergeDistance hcr hcs
  exact absurd (hadj.symm.trans hapart.1) (by simp)

include ht hgrid hprev hcurr in
/-- A tile that the counter finds dirty lies in one merged region. -/
theorem mergedRegions_tile (hw : width < 2 ^ 32) (hh : height < 2 ^ 32) {tx ty : ℕ}
    (htx : tx < d.tilesX) (hty : ty < d.tilesY)
    (hdirty : d.config.dirtyCount < wrapU32 (d.config.diffCount width height prev curr tx ty))
    (hside : min d.config.tileSize width ≤ wrapU32 d.config.tileSize)
    (hside' : min d.config.tileSize height ≤ wrapU32 d.config.tileSize) :
    ∃ r ∈ d.mergedRegions prev curr width height,
      ∀ p ∈ d.config.tileOf width height tx ty, r.Covers p.1 p.2 := by
  have hx := lt_of_lt_divCeil ht (hgrid.1 ▸ htx)
  have hy := lt_of_lt_divCeil ht (hgrid.2 ▸ hty)
  obtain ⟨s, hs, htile⟩ := tilesToRegions_contains hw hh htx hty
    ((flag_iff ht hgrid hprev hcurr htx hty).mpr hdirty) hx hy (by omega) (by omega) (by omega)
  have hfits : ∀ r ∈ tilesToRegions (d.dirtyTiles prev curr width height) d.tilesX d.tilesY
      d.config.tileSize width height, r.Fits :=
    fun r hr => (tilesToRegions_inside r hr).fits hw hh
  obtain ⟨r, hr, hcovers⟩ := mergeRegions_covers d.config.mergeDistance hfits hs
  refine ⟨r, hr, fun p hp => hcovers ?_⟩
  obtain ⟨⟨hpx, hpx'⟩, hpy, hpy'⟩ := mem_tilePixels.mp hp
  exact htile p.1 p.2 hpx hpx' hpy hpy'

end Grid

/-- A frame that follows another one is compared with it. -/
theorem detect_twice (h : d.Reachable) (ht : 1 ≤ d.config.tileSize)
    (hprev : prev.length = width * height * 4) (hcurr : curr.length = width * height * 4)
    (h64 : width * height * 4 < 2 ^ 64) :
    ∃ d₁ regions₁ d₂, d.detect prev width height = some (d₁, regions₁) ∧
      d₁.config = d.config ∧
      (d₁.tilesX = divCeil width d₁.config.tileSize ∧
        d₁.tilesY = divCeil height d₁.config.tileSize) ∧
      d₁.detect curr width height = some (d₂, d₁.detectChanges prev curr width height) := by
  obtain ⟨d₁, regions₁, hdetect⟩ := detect_isSome ht hprev h64
  obtain ⟨hgrid, hconfig, href⟩ := h.gridFits.detect hdetect
  have hvalid : ¬ (d₁.invalidated = true ∨ d₁.previousDimensions ≠ some (width, height)) := by
    intro hbad
    rw [reference, if_pos hbad] at href
    cases href
  rw [not_or, Bool.not_eq_true, not_not] at hvalid
  refine ⟨d₁, regions₁, { d₁ with previousFrame := some curr }, hdetect, hconfig,
    hgrid hvalid.1 width height hvalid.2, ?_⟩
  rw [detect_eq hcurr h64, href]

/-- Where the casts do no harm, the comparison is sound. -/
theorem detectChanges_sound (ht : 1 ≤ d.config.tileSize)
    (hgrid : d.tilesX = divCeil width d.config.tileSize ∧
      d.tilesY = divCeil height d.config.tileSize)
    (hw : width < 2 ^ 32) (hh : height < 2 ^ 32) (hprev : prev.length = width * height * 4)
    (hcurr : curr.length = width * height * 4) (hfit : CastsFit d.config width height) :
    TwoFrameSound d.config width height prev curr (d.mergedRegions prev curr width height)
      (d.detectChanges prev curr width height) := by
  have hinside : AllInside (d.detectChanges prev curr width height) width height :=
    detectChanges_inside hw hh
  have hdisjoint : (d.detectChanges prev curr width height).Pairwise fun r s =>
      ∀ px py, ¬ (r.Covers px py ∧ s.Covers px py) :=
    (mergedRegions_disjoint hw hh).filter _
  refine ⟨hinside, hdisjoint, sum_area_le hinside hdisjoint, ?_, ?_⟩
  · -- a dirty tile is marked if its count does not wrap, and then a region covers it
    intro tx htx ty hty hdirty
    have hle : d.config.diffCount width height prev curr tx ty
        ≤ min d.config.tileSize height * min d.config.tileSize width :=
      diffCount_le.trans (length_tileOf_le width height tx ty)
    rcases hfit with hmax | hfew | ⟨hpixels, hside, hside'⟩
    · rw [diffCount_of_max hmax] at hdirty
      exact absurd hdirty (Nat.not_lt_zero _)
    · exact absurd hdirty (Nat.not_lt.mpr (hle.trans hfew))
    · have hwrap : wrapU32 (d.config.diffCount width height prev curr tx ty)
          = d.config.diffCount width height prev curr tx ty :=
        Nat.mod_eq_of_lt (hle.trans_lt hpixels)
      obtain ⟨r, hr, hcovers⟩ := mergedRegions_tile ht hgrid hprev hcurr hw hh
        (hgrid.1 ▸ htx) (hgrid.2 ▸ hty) (hwrap.symm ▸ hdirty) hside hside'
      refine ⟨r, hr, hcovers, ?_⟩
      rw [detectChanges_eq, List.mem_filter, decide_eq_true_eq]
      -- which is reported, unless it is too small
      rcases Nat.lt_or_ge r.area d.config.minRegionArea with hsmall | hlarge
      · exact .inr hsmall
      · exact .inl ⟨hr, hlarge⟩
  · -- without a difference no tile is dirty
    intro hsame
    rw [detectChanges_eq, mergedRegions_eq_nil ht hgrid hprev hcurr]
    · rfl
    · intro tx ty
      rw [diffCount_of_same hsame ht]
      rfl

/-- If the side of a tile does not survive its cast, no region reaches further than what
is left of it. -/
theorem mergedRegions_inside_cast (ht : 2 ^ 32 ≤ d.config.tileSize)
    (hgrid : d.tilesX = divCeil width d.config.tileSize ∧
      d.tilesY = divCeil height d.config.tileSize)
    (hw : width < 2 ^ 32) (hh : height < 2 ^ 32) :
    AllInside (d.mergedRegions prev curr width height) (wrapU32 d.config.tileSize)
      (wrapU32 d.config.tileSize) := by
  have hlt : wrapU32 d.config.tileSize < 2 ^ 32 := Nat.mod_lt _ (by decide)
  refine (mergeRegions_absorbs hlt hlt d.config.mergeDistance _).inside fun r hr => ?_
  obtain ⟨ty, hty, tx, htx, -, -, -, rfl⟩ := mem_tilesToRegions.mp hr
  have hx := lt_of_lt_divCeil (by omega) (hgrid.1 ▸ htx)
  have hy := lt_of_lt_divCeil (by omega) (hgrid.2 ▸ hty)
  -- the grid has one tile only
  have hzero : ∀ {n side}, n * d.config.tileSize < side → side < 2 ^ 32 → n = 0 := by
    intro n side hn hside
    by_contra hne
    have hle := Nat.le_mul_of_pos_left d.config.tileSize (Nat.pos_of_ne_zero hne)
    omega
  obtain rfl := hzero hx hw
  obtain rfl := hzero hy hh
  rw [Nat.zero_mul]
  exact ⟨by show 0 + min _ _ ≤ _; omega, by show 0 + min _ _ ≤ _; omega⟩

/-- Frames that differ in so many pixels of the first tile, and in no other tile. -/
theorem exists_frames_first (hpt : config.pixelThreshold ≠ 255) (ht : 1 ≤ config.tileSize)
    {m : ℕ} (hm : m ≤ min config.tileSize height * min config.tileSize width) :
    ∃ prev curr : List UInt8, prev.length = width * height * 4 ∧
      curr.length = width * height * 4 ∧
      ∀ tx ty, config.diffCount width height prev curr tx ty
        = if tx = 0 ∧ ty = 0 then m else 0 := by
  have hright : 0 + min config.tileSize width ≤ width := by omega
  have hbottom : 0 + min config.tileSize height ≤ height := by omega
  obtain ⟨prev, curr, hprev, hcurr, hcount, honly⟩ :=
    exists_frames (toNat_lt_of_ne_max hpt) hright hbottom hm
  have hfirst : config.tileOf width height 0 0
      = tilePixels 0 0 (min config.tileSize width) (min config.tileSize height) := by
    rw [DamageConfig.tileOf, Nat.zero_mul, Nat.sub_zero, Nat.sub_zero]
  refine ⟨prev, curr, hprev, hcurr, fun tx ty => ?_⟩
  split
  · next hzero =>
      rw [hzero.1, hzero.2, DamageConfig.diffCount, hfirst]
      exact hcount
  · next hother =>
      refine List.countP_eq_zero.mpr fun p hp hdiff => hother ?_
      obtain ⟨hpx, hpy, htx, hty⟩ := mem_tileOf ht hp
      have hp' := honly p.1 hpx p.2 hpy (of_decide_eq_true hdiff)
      rw [← hfirst] at hp'
      obtain ⟨-, -, hx, hy⟩ := mem_tileOf ht hp'
      exact ⟨htx.symm.trans hx, hty.symm.trans hy⟩

/-- If every report is sound, the first tile is covered as soon as more of its pixels
differ than allowed. -/
theorem ReportsSoundly.first_tile (hsound : ReportsSoundly config width height)
    (hpt : config.pixelThreshold ≠ 255) (ht : 1 ≤ config.tileSize)
    (h64 : width * height * 4 < 2 ^ 64) {m : ℕ}
    (hm : m ≤ min config.tileSize height * min config.tileSize width)
    (hmore : config.dirtyCount < m) :
    ∃ (d : DamageDetector) (prev curr : List UInt8), d.config = config ∧
      (d.tilesX = divCeil width config.tileSize ∧ d.tilesY = divCeil height config.tileSize) ∧
      prev.length = width * height * 4 ∧ curr.length = width * height * 4 ∧
      (∀ tx ty, config.diffCount width height prev curr tx ty
        = if tx = 0 ∧ ty = 0 then m else 0) ∧
      ∃ r ∈ d.mergedRegions prev curr width height,
        ∀ px < min config.tileSize width, ∀ py < min config.tileSize height, r.Covers px py := by
  -- two frames that differ in `m` pixels of the first tile
  obtain ⟨prev, curr, hprev, hcurr, hcount⟩ := exists_frames_first hpt ht hm
  obtain ⟨d₁, _, d₂, hdetect, hconfig, hgrid, -⟩ :=
    detect_twice (.new config) ht hprev hcurr h64
  obtain ⟨d₁', _, d₂', regions, hdetect', -, hsound⟩ :=
    hsound (.new config) (.new config) rfl prev curr hprev hcurr
  obtain rfl := (Prod.mk.inj (Option.some.inj (hdetect.symm.trans hdetect'))).1
  have hconfig : d₁.config = config := hconfig
  rw [hconfig] at hgrid
  -- there are pixels, so there is a first tile
  have hpos : 0 < min config.tileSize height * min config.tileSize width :=
    (Nat.zero_le _).trans_lt (hmore.trans_le hm)
  have hw := Nat.pos_of_mul_pos_left hpos
  have hh := Nat.pos_of_mul_pos_right hpos
  have hx : 0 < divCeil width config.tileSize := by
    simpa using div_lt_divCeil ht (show 0 < width by omega)
  have hy : 0 < divCeil height config.tileSize := by
    simpa using div_lt_divCeil ht (show 0 < height by omega)
  obtain ⟨r, hr, hcovers, -⟩ := hsound.tiles 0 hx 0 hy (by
    rw [hcount, if_pos ⟨rfl, rfl⟩]
    exact hmore)
  refine ⟨d₁, prev, curr, hconfig, hgrid, hprev, hcurr, hcount, r, hr, fun px hpx py hpy => ?_⟩
  refine hcovers (px, py) (mem_tilePixels.mpr ?_)
  rw [Nat.zero_mul, Nat.sub_zero, Nat.sub_zero]
  exact ⟨⟨Nat.zero_le _, by omega⟩, Nat.zero_le _, by omega⟩

/-- **Two frames are reported soundly** exactly for the configurations and frame sizes
for which the casts do no harm. -/
theorem damage_sound_iff (config : DamageConfig) (ht : 1 ≤ config.tileSize) (width height : ℕ)
    (hw : width < 2 ^ 32) (hh : height < 2 ^ 32) (h64 : width * height * 4 < 2 ^ 64) :
    ReportsSoundly config width height ↔ CastsFit config width height := by
  constructor
  · intro hsound
    by_cases hpt : config.pixelThreshold = 255
    · exact .inl hpt
    rcases Nat.lt_or_ge config.dirtyCount
      (min config.tileSize height * min config.tileSize width) with hmore | hfew
    swap
    · exact .inr (.inl hfew)
    have hcount : config.dirtyCount < 2 ^ 32 := config.dirtyCount_lt
    refine .inr (.inr ⟨?_, ?_⟩)
    · -- else the counter would begin anew exactly when `2 ^ 32` pixels differ
      by_contra hlarge
      obtain ⟨d, prev, curr, rfl, hgrid, hprev, hcurr, hdiff, r, hr, -⟩ :=
        hsound.first_tile hpt ht h64 (Nat.le_of_not_lt hlarge) hcount
      rw [mergedRegions_eq_nil ht hgrid hprev hcurr] at hr
      · cases hr
      · intro tx ty
        rw [hdiff]
        split <;> rfl
    · rcases Nat.lt_or_ge config.tileSize (2 ^ 32) with hts | hts
      · have hwrap : wrapU32 config.tileSize = config.tileSize := Nat.mod_eq_of_lt hts
        omega
      · obtain ⟨d, prev, curr, rfl, hgrid, -, -, -, r, hr, hcovers⟩ :=
          hsound.first_tile hpt ht h64 (Nat.le_refl _) hmore
        obtain ⟨hright, hbottom⟩ := mergedRegions_inside_cast hts hgrid hw hh r hr
        have hpos := (Nat.zero_le _).trans_lt hmore
        have hposw := Nat.pos_of_mul_pos_left hpos
        have hposh := Nat.pos_of_mul_pos_right hpos
        -- the region reaches the last pixel of the tile
        obtain ⟨-, hx, -, hy⟩ := hcovers (min d.config.tileSize width - 1) (by omega)
          (min d.config.tileSize height - 1) (by omega)
        exact ⟨by omega, by omega⟩
  · intro hfit d hreach hconfig prev curr hprev hcurr
    subst hconfig
    obtain ⟨d₁, regions₁, d₂, hdetect, hconfig, hgrid, hdetect'⟩ :=
      detect_twice hreach ht hprev hcurr h64
    refine ⟨d₁, regions₁, d₂, _, hdetect, hdetect', ?_⟩
    rw [← hconfig] at ht hfit ⊢
    exact detectChanges_sound ht hgrid hw hh hprev hcurr hfit

/-- The default configuration, on a frame of 1920 by 1080 pixels. -/
theorem damage_sound_iff_default : ReportsSoundly .default 1920 1080 := by
  refine (damage_sound_iff .default (by decide) 1920 1080 (by decide) (by decide)
    (by decide)).mpr (.inr (.inr ?_))
  decide

/-- A tile size of which nothing is left as a `u32`. -/
def vanishingTiles : DamageConfig where
  tileSize := 2 ^ 32
  diffThreshold := .fin 0
  pixelThreshold := 4
  mergeDistance := 0
  minRegionArea := 1

/-- A frame of one pixel, which changes from black to white: nothing is reported. -/
theorem vanishing_tile_not_reported :
    ¬ ∀ config : DamageConfig, 1 ≤ config.tileSize → ∀ width height, width < 2 ^ 32 →
      height < 2 ^ 32 → width * height * 4 < 2 ^ 64 → ReportsSoundly config width height := by
  intro hall
  have hsound := hall vanishingTiles (by decide) 1 1 (by decide) (by decide) (by decide)
  have hcount : vanishingTiles.dirtyCount = 0 := Binary32.toU32_mul_zero _
  obtain ⟨d, prev, curr, hconfig, hgrid, -, -, -, r, hr, hcovers⟩ :=
    hsound.first_tile (by decide) (by decide) (by decide) (show 1 ≤ _ by decide)
      (hcount ▸ Nat.zero_lt_one)
  rw [← hconfig] at hgrid
  obtain ⟨hright, -⟩ := mergedRegions_inside_cast (hconfig ▸ Nat.le_refl _) hgrid (by decide)
    (by decide) r hr
  obtain ⟨-, hx, -⟩ := hcovers 0 (by decide) 0 (by decide)
  rw [hconfig, show wrapU32 vanishingTiles.tileSize = 0 by decide] at hright
  omega

end Sound

end LamcoRdp
