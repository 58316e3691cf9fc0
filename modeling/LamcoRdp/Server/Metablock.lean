/-
LamcoRdp/Server/Metablock.lean

The rectangles that go with an H.264 frame (`server/egfx_sender.rs`).

A damage region has exclusive edges, a rectangle of the metablock inclusive ones,
and a rectangle must have its left edge before its right one and its top edge
before its bottom one.  A region of which only one column or one row of pixels is
on the display has no such rectangle, and is left out.  If every region is, the
whole frame is sent; if some are not, nothing makes up for it.
`metablock_covers_iff` says when no damaged pixel is lost.
-/
import LamcoRdp.Damage.Region

namespace LamcoRdp

/-! ### Rectangles -/

/-- `Avc420Region` of the graphics library, whose edges are inclusive. -/
structure Avc420Region where
  left : ℕ
  top : ℕ
  right : ℕ
  bottom : ℕ
  quantizationParameter : UInt8
  quality : UInt8
  deriving DecidableEq, Repr

namespace Avc420Region

/-- The pixels of a rectangle. -/
def Covers (g : Avc420Region) (px py : ℕ) : Prop :=
  g.left ≤ px ∧ px ≤ g.right ∧ g.top ≤ py ∧ py ≤ g.bottom

instance (g : Avc420Region) (px py : ℕ) : Decidable (g.Covers px py) :=
  inferInstanceAs (Decidable (_ ∧ _ ∧ _ ∧ _))

/-- A rectangle that a client accepts. -/
def Proper (g : Avc420Region) : Prop := g.left < g.right ∧ g.top < g.bottom

instance (g : Avc420Region) : Decidable g.Proper := inferInstanceAs (Decidable (_ ∧ _))

end Avc420Region

/-- `n as u16`. -/
def asU16 (n : ℕ) : ℕ := n % 2 ^ 16

/-- The rectangle of a damage region, unless it is degenerate. -/
def damageRegionToAvc420 (displayWidth displayHeight : UInt16) (qp : UInt8) (r : DamageRegion) :
    Option Avc420Region :=
  let left := asU16 (min r.x displayWidth.toNat)
  let top := asU16 (min r.y displayHeight.toNat)
  let right := asU16 (min r.right displayWidth.toNat - 1)
  let bottom := asU16 (min r.bottom displayHeight.toNat - 1)
  if right ≤ left ∨ bottom ≤ top then none
  else some
    { left, top, right, bottom
      quantizationParameter := qp
      quality := 100 }

/-- `damage_regions_to_avc420`. -/
def damageRegionsToAvc420 (regions : List DamageRegion) (displayWidth displayHeight : UInt16)
    (qp : UInt8) : List Avc420Region :=
  regions.filterMap (damageRegionToAvc420 displayWidth displayHeight qp)

/-- `is_full_frame_update`. -/
def isFullFrameUpdate (regions : List DamageRegion) (displayWidth displayHeight : UInt16) : Bool :=
  match regions with
  | [] => true
  | [r] => r.x = 0 ∧ r.y = 0 ∧ r.width ≥ displayWidth.toNat ∧ r.height ≥ displayHeight.toNat
  | _ => false

/-- The rectangles that `send_frame_with_regions` and `send_avc444_frame_with_regions` hand to
the graphics server; `Avc420Region::full_frame` is the library's. -/
def metablockRegions (fullFrame : UInt16 → UInt16 → UInt8 → Avc420Region)
    (encodedWidth encodedHeight displayWidth displayHeight : UInt16)
    (damageRegions : List DamageRegion) (qp : UInt8) : List Avc420Region :=
  let regions :=
    if isFullFrameUpdate damageRegions displayWidth displayHeight then
      [fullFrame encodedWidth encodedHeight qp]
    else damageRegionsToAvc420 damageRegions displayWidth displayHeight qp
  -- a metablock must not be empty
  if regions.isEmpty then [fullFrame displayWidth displayHeight qp] else regions

/-! ### What they cover -/

/-- Of the region two columns and two rows of pixels at least are on the display. -/
def DamageRegion.Wide (r : DamageRegion) (displayWidth displayHeight : UInt16) : Prop :=
  r.x + 2 ≤ min (r.x + r.width) displayWidth.toNat ∧
    r.y + 2 ≤ min (r.y + r.height) displayHeight.toNat

instance (r : DamageRegion) (displayWidth displayHeight : UInt16) :
    Decidable (r.Wide displayWidth displayHeight) :=
  inferInstanceAs (Decidable (_ ∧ _))

/-- The rectangles are ones that a client accepts, on the display or the whole encoded frame,
and no damaged pixel of the display is outside all of them. -/
structure CoversDamage (encodedWidth encodedHeight displayWidth displayHeight : UInt16)
    (damageRegions : List DamageRegion) (emitted : List Avc420Region) : Prop where
  proper : ∀ g ∈ emitted, g.Proper
  inside : ∀ g ∈ emitted,
    (g.right < displayWidth.toNat ∧ g.bottom < displayHeight.toNat) ∨
      (g.left = 0 ∧ g.top = 0 ∧ g.right + 1 = encodedWidth.toNat ∧
        g.bottom + 1 = encodedHeight.toNat)
  covers : ∀ px < displayWidth.toNat, ∀ py < displayHeight.toNat,
    CoveredBy damageRegions px py → ∃ g ∈ emitted, g.Covers px py

/-- The library's rectangle for a whole frame. -/
def IsFullFrame (fullFrame : UInt16 → UInt16 → UInt8 → Avc420Region) : Prop :=
  ∀ width height qp, (fullFrame width height qp).left = 0 ∧ (fullFrame width height qp).top = 0 ∧
    (fullFrame width height qp).right = width.toNat - 1 ∧
    (fullFrame width height qp).bottom = height.toNat - 1

/-- Whole-frame updates are encoded whole, and of the damage on the display that is a pixel wide
or high, every pixel is in a wider region as well, if there is any of these. -/
def KeepsDamage (encodedWidth encodedHeight displayWidth displayHeight : UInt16)
    (damageRegions : List DamageRegion) : Prop :=
  if isFullFrameUpdate damageRegions displayWidth displayHeight then
    2 ≤ encodedWidth.toNat ∧ 2 ≤ encodedHeight.toNat ∧
      (0 < displayWidth.toNat → 0 < displayHeight.toNat →
        displayWidth.toNat ≤ encodedWidth.toNat ∧ displayHeight.toNat ≤ encodedHeight.toNat)
  else if ∃ r ∈ damageRegions, r.Wide displayWidth displayHeight then
    ∀ r ∈ damageRegions, ¬ r.Wide displayWidth displayHeight →
      ∀ px < displayWidth.toNat, ∀ py < displayHeight.toNat, r.Covers px py →
        ∃ s ∈ damageRegions, s.Wide displayWidth displayHeight ∧ s.Covers px py
  else 2 ≤ displayWidth.toNat ∧ 2 ≤ displayHeight.toNat

section Regions

variable {fullFrame : UInt16 → UInt16 → UInt8 → Avc420Region}
  {encodedWidth encodedHeight displayWidth displayHeight : UInt16} {qp : UInt8}
  {damageRegions : List DamageRegion} {r : DamageRegion} {g : Avc420Region}

theorem asU16_of_le {n : ℕ} (bound : UInt16) (h : n ≤ bound.toNat) : asU16 n = n :=
  Nat.mod_eq_of_lt (h.trans_lt bound.toNat_lt)

/-- The rectangle of a region that has one. -/
def DamageRegion.inclusive (r : DamageRegion) (displayWidth displayHeight : UInt16) (qp : UInt8) :
    Avc420Region where
  left := r.x
  top := r.y
  right := min (r.x + r.width) displayWidth.toNat - 1
  bottom := min (r.y + r.height) displayHeight.toNat - 1
  quantizationParameter := qp
  quality := 100

/-- Exactly the wide regions have rectangles. -/
theorem damageRegionToAvc420_eq_some (hr : r.Fits) :
    damageRegionToAvc420 displayWidth displayHeight qp r = some g ↔
      r.Wide displayWidth displayHeight ∧ r.inclusive displayWidth displayHeight qp = g := by
  unfold damageRegionToAvc420 DamageRegion.Wide
  rw [hr.right_eq, hr.bottom_eq, asU16_of_le displayWidth (by omega),
    asU16_of_le displayHeight (by omega), asU16_of_le displayWidth (by omega),
    asU16_of_le displayHeight (by omega)]
  dsimp only
  split
  · next hthin =>
      simp only [false_iff, not_and, reduceCtorEq]
      omega
  · next hwide =>
      have hx : min r.x displayWidth.toNat = r.x := by omega
      have hy : min r.y displayHeight.toNat = r.y := by omega
      rw [hx, hy, Option.some.injEq]
      constructor
      · rintro rfl
        exact ⟨by omega, rfl⟩
      · rintro ⟨-, rfl⟩
        rfl

theorem mem_damageRegionsToAvc420 (hfits : ∀ r ∈ damageRegions, r.Fits) :
    g ∈ damageRegionsToAvc420 damageRegions displayWidth displayHeight qp ↔
      ∃ r ∈ damageRegions, r.Wide displayWidth displayHeight ∧
        r.inclusive displayWidth displayHeight qp = g := by
  unfold damageRegionsToAvc420
  rw [List.mem_filterMap]
  exact exists_congr fun r => and_congr_right fun hr => damageRegionToAvc420_eq_some (hfits r hr)

/-- The rectangle of a wide region is proper, on the display, and as large as the region there. -/
theorem DamageRegion.Wide.inclusive (h : r.Wide displayWidth displayHeight) :
    (r.inclusive displayWidth displayHeight qp).Proper ∧
      (r.inclusive displayWidth displayHeight qp).right < displayWidth.toNat ∧
      (r.inclusive displayWidth displayHeight qp).bottom < displayHeight.toNat ∧
      ∀ px < displayWidth.toNat, ∀ py < displayHeight.toNat,
        (r.inclusive displayWidth displayHeight qp).Covers px py ↔ r.Covers px py := by
  unfold DamageRegion.Wide at h
  unfold DamageRegion.inclusive Avc420Region.Proper Avc420Region.Covers DamageRegion.Covers
  dsimp only
  refine ⟨by omega, by omega, by omega, fun px hpx py hpy => ?_⟩
  omega

/-- A whole-frame update damages the whole display. -/
theorem coveredBy_of_isFullFrameUpdate (hne : damageRegions ≠ [])
    (hfull : isFullFrameUpdate damageRegions displayWidth displayHeight = true) {px py : ℕ}
    (hpx : px < displayWidth.toNat) (hpy : py < displayHeight.toNat) :
    CoveredBy damageRegions px py := by
  match damageRegions, hne, hfull with
  | [r], _, hfull =>
      simp only [isFullFrameUpdate, decide_eq_true_eq] at hfull
      refine ⟨r, List.mem_singleton_self r, ?_⟩
      unfold DamageRegion.Covers
      omega

/-- A single rectangle for a whole frame of this size. -/
theorem coversDamage_fullFrame_iff (hlib : IsFullFrame fullFrame) {width height : UInt16}
    (hsize : (width = displayWidth ∧ height = displayHeight) ∨
      (width = encodedWidth ∧ height = encodedHeight)) :
    CoversDamage encodedWidth encodedHeight displayWidth displayHeight damageRegions
        [fullFrame width height qp] ↔
      2 ≤ width.toNat ∧ 2 ≤ height.toNat ∧
        ∀ px < displayWidth.toNat, ∀ py < displayHeight.toNat, CoveredBy damageRegions px py →
          px < width.toNat ∧ py < height.toNat := by
  obtain ⟨hleft, htop, hright, hbottom⟩ := hlib width height qp
  constructor
  · -- the one region covers the damage, and it is the full frame
    rintro ⟨hproper, -, hcovers⟩
    obtain ⟨hx, hy⟩ := hproper _ (List.mem_singleton_self _)
    refine ⟨by omega, by omega, fun px hpx py hpy hdamage => ?_⟩
    obtain ⟨g, hg, hcov⟩ := hcovers px hpx py hpy hdamage
    obtain rfl := List.mem_singleton.mp hg
    unfold Avc420Region.Covers at hcov
    omega
  · -- a frame of at least two pixels a side is proper, and bounded by its own size
    rintro ⟨hw, hh, hcovers⟩
    refine ⟨fun g hg => ?_, fun g hg => ?_, fun px hpx py hpy hdamage =>
      ⟨_, List.mem_singleton_self _, ?_⟩⟩
    · obtain rfl := List.mem_singleton.mp hg
      unfold Avc420Region.Proper
      omega
    · obtain rfl := List.mem_singleton.mp hg
      rcases hsize with ⟨rfl, rfl⟩ | ⟨rfl, rfl⟩
      · exact .inl (by omega)
      · exact .inr (by omega)
    · have hin := hcovers px hpx py hpy hdamage
      unfold Avc420Region.Covers
      omega

/-- The rectangles of the wide regions. -/
theorem coversDamage_wide_iff (hfits : ∀ r ∈ damageRegions, r.Fits) :
    CoversDamage encodedWidth encodedHeight displayWidth displayHeight damageRegions
        (damageRegionsToAvc420 damageRegions displayWidth displayHeight qp) ↔
      ∀ r ∈ damageRegions, ¬ r.Wide displayWidth displayHeight →
        ∀ px < displayWidth.toNat, ∀ py < displayHeight.toNat, r.Covers px py →
          ∃ s ∈ damageRegions, s.Wide displayWidth displayHeight ∧ s.Covers px py := by
  constructor
  · rintro ⟨-, -, hcovers⟩ r hr - px hpx py hpy hcov
    obtain ⟨g, hg, hgcov⟩ := hcovers px hpx py hpy ⟨r, hr, hcov⟩
    obtain ⟨s, hs, hwide, rfl⟩ := (mem_damageRegionsToAvc420 hfits).mp hg
    exact ⟨s, hs, hwide, (hwide.inclusive.2.2.2 px hpx py hpy).mp hgcov⟩
  · intro hthin
    refine ⟨fun g hg => ?_, fun g hg => ?_, fun px hpx py hpy => ?_⟩
    · obtain ⟨s, -, hwide, rfl⟩ := (mem_damageRegionsToAvc420 hfits).mp hg
      exact hwide.inclusive.1
    · obtain ⟨s, -, hwide, rfl⟩ := (mem_damageRegionsToAvc420 hfits).mp hg
      exact .inl ⟨hwide.inclusive.2.1, hwide.inclusive.2.2.1⟩
    · rintro ⟨r, hr, hcov⟩
      obtain ⟨s, hs, hwide, hscov⟩ : ∃ s ∈ damageRegions,
          s.Wide displayWidth displayHeight ∧ s.Covers px py := by
        by_cases hwide : r.Wide displayWidth displayHeight
        · exact ⟨r, hr, hwide, hcov⟩
        · exact hthin r hr hwide px hpx py hpy hcov
      exact ⟨_, (mem_damageRegionsToAvc420 hfits).mpr ⟨s, hs, hwide, rfl⟩,
        (hwide.inclusive.2.2.2 px hpx py hpy).mpr hscov⟩

/-- **No damaged pixel is dropped from the metablock exactly if the damage is kept**, whatever
the display, the encoded frame and the QP. -/
theorem metablock_covers_iff (hlib : IsFullFrame fullFrame) (hne : damageRegions ≠ [])
    (hfits : ∀ r ∈ damageRegions, r.Fits) :
    CoversDamage encodedWidth encodedHeight displayWidth displayHeight damageRegions
        (metablockRegions fullFrame encodedWidth encodedHeight displayWidth displayHeight
          damageRegions qp) ↔
      KeepsDamage encodedWidth encodedHeight displayWidth displayHeight damageRegions := by
  unfold metablockRegions KeepsDamage
  by_cases hfull : isFullFrameUpdate damageRegions displayWidth displayHeight = true
  · rw [if_pos hfull, if_pos hfull]
    dsimp only
    rw [List.isEmpty_cons, if_neg Bool.false_ne_true,
      coversDamage_fullFrame_iff hlib (.inr ⟨rfl, rfl⟩)]
    refine and_congr_right fun _ => and_congr_right fun _ => ⟨fun h hw hh => ?_, fun h => ?_⟩
    · -- the last pixel of the display
      have hlast := h (displayWidth.toNat - 1) (by omega) (displayHeight.toNat - 1) (by omega)
        (coveredBy_of_isFullFrameUpdate hne hfull (by omega) (by omega))
      omega
    · intro px hpx py hpy _
      have hle := h (by omega) (by omega)
      omega
  rw [if_neg hfull, if_neg hfull]
  dsimp only
  by_cases hwide : ∃ r ∈ damageRegions, r.Wide displayWidth displayHeight
  · obtain ⟨r, hr, hr'⟩ := hwide
    have hmem : r.inclusive displayWidth displayHeight qp
        ∈ damageRegionsToAvc420 damageRegions displayWidth displayHeight qp :=
      (mem_damageRegionsToAvc420 hfits).mpr ⟨r, hr, hr', rfl⟩
    have hnonempty : ¬ (damageRegionsToAvc420 damageRegions displayWidth displayHeight qp).isEmpty
        = true := by
      rw [List.isEmpty_iff]
      exact List.ne_nil_of_mem hmem
    rw [if_neg hnonempty, if_pos ⟨r, hr, hr'⟩]
    exact coversDamage_wide_iff hfits
  · have hnil : damageRegionsToAvc420 damageRegions displayWidth displayHeight qp = [] := by
      apply List.eq_nil_iff_forall_not_mem.mpr
      intro g hg
      obtain ⟨r, hr, hr', -⟩ := (mem_damageRegionsToAvc420 hfits).mp hg
      exact hwide ⟨r, hr, hr'⟩
    rw [if_neg hwide, hnil, List.isEmpty_nil, if_pos rfl,
      coversDamage_fullFrame_iff hlib (.inl ⟨rfl, rfl⟩)]
    exact and_congr_right fun _ => and_iff_left fun px hpx py hpy _ => ⟨hpx, hpy⟩

end Regions

/-! ### A caret -/

/-- A whole frame with inclusive edges. -/
def inclusiveFullFrame (width height : UInt16) (qp : UInt8) : Avc420Region where
  left := 0
  top := 0
  right := width.toNat - 1
  bottom := height.toNat - 1
  quantizationParameter := qp
  quality := 100

/-- Two windows that overlap. -/
theorem metablock_covers_windows :
    CoversDamage 1920 1088 1920 1080 [⟨0, 0, 64, 64⟩, ⟨32, 32, 640, 480⟩]
      (metablockRegions inclusiveFullFrame 1920 1088 1920 1080
        [⟨0, 0, 64, 64⟩, ⟨32, 32, 640, 480⟩] 22) :=
  (metablock_covers_iff (fun _ _ _ => ⟨rfl, rfl, rfl, rfl⟩) (by decide)
    (by simp [DamageRegion.Fits])).mpr
      (by simp [KeepsDamage, isFullFrameUpdate, DamageRegion.Wide])

/-- A window and a caret one pixel wide: the caret is dropped. -/
theorem metablock_drops_caret :
    ¬ CoversDamage 1920 1088 1920 1080 [⟨0, 0, 64, 64⟩, ⟨100, 100, 1, 16⟩]
      (metablockRegions inclusiveFullFrame 1920 1088 1920 1080
        [⟨0, 0, 64, 64⟩, ⟨100, 100, 1, 16⟩] 22) := by
  rintro ⟨-, -, hcovers⟩
  obtain ⟨g, hg, hcov⟩ := hcovers 100 (by decide) 100 (by decide)
    ⟨⟨100, 100, 1, 16⟩, by decide, by decide⟩
  revert g
  decide

end LamcoRdp
