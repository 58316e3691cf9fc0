/-
LamcoRdp/Damage/Detector.lean

The damage detector (`damage/mod.rs`): tile-based comparison of a frame with the
previous one.

A frame is a list of bytes, four for a pixel (B, G, R and a fourth byte that is
never compared).  `detect` returns `none` where the code panics: on a frame of
the wrong length, and on a tile size of zero.  The tile flags are recomputed
from nothing in every call, so they are not part of the state; neither are the
statistics, which nothing here reads.

`compareTile_eq` says what the comparison of a tile counts, `detect_reference`
what the detector holds as its reference after a call, and `detect_spec` that an
exact configuration reports every pixel in which the frame differs from the
reference.
-/
import LamcoRdp.Lib.Binary32
import LamcoRdp.Lib.RowMajor
import LamcoRdp.Damage.Region
import Mathlib.Tactic.Ring
import Mathlib.Tactic.Push

namespace LamcoRdp

/-! ### Configuration -/

/-- `DamageConfig`. -/
structure DamageConfig where
  tileSize : ℕ
  diffThreshold : Binary32
  pixelThreshold : UInt8
  mergeDistance : ℕ
  minRegionArea : ℕ

/-- `DamageConfig::default`. -/
def DamageConfig.default : DamageConfig where
  tileSize := 64
  diffThreshold := .round (5 / 100)
  pixelThreshold := 4
  mergeDistance := 32
  minRegionArea := 256

/-- A configuration under which every changed pixel is reported. -/
structure DamageConfig.Exact (config : DamageConfig) : Prop where
  pixel : config.pixelThreshold = 0
  diff : config.diffThreshold = .fin 0
  area : config.minRegionArea ≤ 1
  tile_pos : 1 ≤ config.tileSize
  tile_lt : config.tileSize < 2 ^ 32

/-! ### Comparing pixels -/

/-- `(p as i16 - c as i16).unsigned_abs()`. -/
def absDiff (p c : UInt8) : ℕ := (p.toNat - c.toNat) + (c.toNat - p.toNat)

/-- `count_different_pixels_scalar`, over whole pixels of both rows. -/
def countDifferentPixels (threshold : UInt8) : List UInt8 → List UInt8 → ℕ
  | pb :: pg :: pr :: _ :: prev, cb :: cg :: cr :: _ :: curr =>
      (if absDiff pb cb > threshold.toNat ∨ absDiff pg cg > threshold.toNat ∨
          absDiff pr cr > threshold.toNat then 1 else 0)
        + countDifferentPixels threshold prev curr
  | _, _ => 0

/-- `&l[off .. off + len]`. -/
def slice {α : Type*} (l : List α) (off len : ℕ) : List α := (l.drop off).take len

/-- `compare_tile`. -/
def compareTile (prev curr : List UInt8) (tileX tileY tileWidth tileHeight stride : ℕ)
    (pixelThreshold : UInt8) : ℕ :=
  let bytesPerRow := tileWidth * 4
  (List.range tileHeight).foldl (fun totalDiff row =>
    let offset := (tileY + row) * stride + tileX * 4
    if offset + bytesPerRow > prev.length ∨ offset + bytesPerRow > curr.length then totalDiff
    else wrapU32 (totalDiff + countDifferentPixels pixelThreshold
      (slice prev offset bytesPerRow) (slice curr offset bytesPerRow))) 0

/-! ### The detector -/

/-- `DamageDetector`, without the buffer of its tiles and its statistics. -/
structure DamageDetector where
  config : DamageConfig
  previousFrame : Option (List UInt8)
  previousDimensions : Option (ℕ × ℕ)
  tilesX : ℕ
  tilesY : ℕ
  invalidated : Bool

namespace DamageDetector

/-- `DamageDetector::new`. -/
def new (config : DamageConfig) : DamageDetector where
  config := config
  previousFrame := none
  previousDimensions := none
  tilesX := 0
  tilesY := 0
  invalidated := true

/-- `usize::div_ceil`. -/
def divCeil (a b : ℕ) : ℕ := (a + b - 1) / b

/-- The dirty flag of one tile. -/
def tileDirty (d : DamageDetector) (prev curr : List UInt8) (width height tx ty : ℕ) : Bool :=
  let tileSize := d.config.tileSize
  let tilePixels := wrapU32 (tileSize * tileSize)
  let diffThresholdCount := ((Binary32.ofNat tilePixels).mul d.config.diffThreshold).toU32
  let tileX := tx * tileSize
  let tileY := ty * tileSize
  let tileWidth := min tileSize (width - tileX)
  let tileHeight := min tileSize (height - tileY)
  if tileWidth = 0 ∨ tileHeight = 0 then false
  else compareTile prev curr tileX tileY tileWidth tileHeight (width * 4)
    d.config.pixelThreshold > diffThresholdCount

/-- The flags `tile_dirty` as `detect_changes` leaves them. -/
def dirtyTiles (d : DamageDetector) (prev curr : List UInt8) (width height : ℕ) : List Bool :=
  (List.range (d.tilesX * d.tilesY)).map fun idx =>
    d.tileDirty prev curr width height (idx % d.tilesX) (idx / d.tilesX)

/-- `detect_changes`. -/
def detectChanges (d : DamageDetector) (prev curr : List UInt8) (width height : ℕ) :
    List DamageRegion :=
  let dirty := (List.range (d.tilesX * d.tilesY)).map fun idx =>
    d.tileDirty prev curr width height (idx % d.tilesX) (idx / d.tilesX)
  let regions := tilesToRegions dirty d.tilesX d.tilesY d.config.tileSize width height
  (mergeRegions regions d.config.mergeDistance).filter fun r => r.area ≥ d.config.minRegionArea

/-- The frame length the assertion of `detect` asks for. -/
def expectedLen (width height : ℕ) : ℕ := width * height * 4 % 2 ^ 64

/-- The branch of `detect` that reports the whole frame. -/
def detectFull (d : DamageDetector) (frame : List UInt8) (width height : ℕ) :
    Option (DamageDetector × List DamageRegion) :=
  if d.config.tileSize = 0 then none
  else some
    ({ d with
        previousFrame := some frame
        previousDimensions := some (width, height)
        tilesX := divCeil width d.config.tileSize
        tilesY := divCeil height d.config.tileSize
        invalidated := false },
      [DamageRegion.fullFrame width height])

/-- `detect`. -/
def detect (d : DamageDetector) (frame : List UInt8) (width height : ℕ) :
    Option (DamageDetector × List DamageRegion) :=
  if frame.length ≠ expectedLen width height then none
  else
    match d.previousFrame with
    | none => d.detectFull frame width height
    | some prev =>
        let dimensionsChanged := d.previousDimensions ≠ some (width, height)
        if d.invalidated ∨ dimensionsChanged then d.detectFull frame width height
        else
          some ({ d with previousFrame := some frame }, d.detectChanges prev frame width height)

/-- `update_reference`. -/
def updateReference (d : DamageDetector) (frame : List UInt8) : DamageDetector :=
  { d with previousFrame := some frame }

/-- `invalidate`. -/
def invalidate (d : DamageDetector) : DamageDetector := { d with invalidated := true }

/-- The frame the next `detect` of this size compares with, if any. -/
def reference (d : DamageDetector) (width height : ℕ) : Option (List UInt8) :=
  if d.invalidated ∨ d.previousDimensions ≠ some (width, height) then none
  else d.previousFrame

/-- The grid and the stored frame fit the stored dimensions. -/
def WellFormed (d : DamageDetector) : Prop :=
  ∀ width height, ∀ prev, d.reference width height = some prev →
    prev.length = width * height * 4 ∧
    d.tilesX = divCeil width d.config.tileSize ∧ d.tilesY = divCeil height d.config.tileSize

end DamageDetector

/-! ### Pixels of a frame -/

/-- B, G and R of a pixel in a tightly packed frame. -/
def bgrAt (width : ℕ) (frame : List UInt8) (px py : ℕ) : UInt8 × UInt8 × UInt8 :=
  (frame.getD ((py * width + px) * 4) 0, frame.getD ((py * width + px) * 4 + 1) 0,
    frame.getD ((py * width + px) * 4 + 2) 0)

/-- Two pixels differ in B, G or R by more than the threshold. -/
def Differs (threshold : ℕ) (p c : UInt8 × UInt8 × UInt8) : Prop :=
  absDiff p.1 c.1 > threshold ∨ absDiff p.2.1 c.2.1 > threshold ∨ absDiff p.2.2 c.2.2 > threshold

instance (threshold : ℕ) (p c : UInt8 × UInt8 × UInt8) : Decidable (Differs threshold p c) :=
  inferInstanceAs (Decidable (_ ∨ _ ∨ _))

theorem absDiff_pos {p c : UInt8} (h : p ≠ c) : absDiff p c > 0 := by
  have hne : p.toNat ≠ c.toNat := fun he => h (UInt8.toNat_inj.mp he)
  unfold absDiff
  omega

theorem absDiff_le (p c : UInt8) : absDiff p c ≤ 255 := by
  have hp := p.toNat_lt
  have hc := c.toNat_lt
  unfold absDiff
  omega

/-- Without a threshold every difference is one. -/
theorem differs_zero {p c : UInt8 × UInt8 × UInt8} (h : p ≠ c) : Differs 0 p c := by
  by_contra hsame
  unfold Differs at hsame
  push Not at hsame
  have heq : ∀ {a b : UInt8}, absDiff a b ≤ 0 → a = b :=
    fun hle => by_contra fun hne => absurd (absDiff_pos hne) (by omega)
  exact h (Prod.ext (heq hsame.1) (Prod.ext (heq hsame.2.1) (heq hsame.2.2)))

/-- B, G and R of a pixel in a row. -/
def bgrOf (row : List UInt8) (k : ℕ) : UInt8 × UInt8 × UInt8 :=
  (row.getD (k * 4) 0, row.getD (k * 4 + 1) 0, row.getD (k * 4 + 2) 0)

/-- The scalar loop counts the pixels that differ. -/
theorem countDifferentPixels_eq (threshold : UInt8) (n : ℕ) (prev curr : List UInt8)
    (hp : prev.length = n * 4) (hc : curr.length = n * 4) :
    countDifferentPixels threshold prev curr
      = (List.range n).countP fun k => Differs threshold.toNat (bgrOf prev k) (bgrOf curr k) := by
  induction n generalizing prev curr with
  | zero =>
      rw [List.length_eq_zero_iff.mp (hp.trans (Nat.zero_mul 4))]
      rfl
  | succ n ih =>
      have hp' : 3 < prev.length := by omega
      have hc' : 3 < curr.length := by omega
      -- four bytes a pixel
      match prev, curr, hp, hc, hp', hc' with
      | pb :: pg :: pr :: pa :: prev, cb :: cg :: cr :: ca :: curr, hp, hc, _, _ =>
          simp only [List.length_cons] at hp hc
          have hshift : ∀ (b g r a : UInt8) (l : List UInt8) (k : ℕ),
              bgrOf (b :: g :: r :: a :: l) (k + 1) = bgrOf l k := by
            intro b g r a l k
            have hmul : (k + 1) * 4 = k * 4 + 4 := by omega
            unfold bgrOf
            rw [hmul]
            rfl
          -- the first pixel, and the others moved up by one
          rw [List.range_succ_eq_map, List.countP_cons, List.countP_map, countDifferentPixels,
            ih prev curr (by omega) (by omega), Nat.add_comm]
          congr 1
          · refine List.countP_congr fun k _ => ?_
            simp only [Function.comp_apply, hshift]
          · simp only [decide_eq_true_eq]
            rfl

theorem getD_slice (l : List UInt8) (off len i : ℕ) (hi : i < len) :
    (slice l off len).getD i 0 = l.getD (off + i) 0 := by
  unfold slice
  rw [List.getD_eq_getElem?_getD, List.getD_eq_getElem?_getD, List.getElem?_take_of_lt hi,
    List.getElem?_drop]

theorem length_slice (l : List UInt8) (off len : ℕ) (h : off + len ≤ l.length) :
    (slice l off len).length = len := by
  unfold slice
  rw [List.length_take, List.length_drop]
  omega

/-! ### Comparing tiles -/

/-- The pixels of a tile, row by row. -/
def tilePixels (tileX tileY tileWidth tileHeight : ℕ) : List (ℕ × ℕ) :=
  (List.range tileHeight).flatMap fun row =>
    (List.range tileWidth).map fun col => (tileX + col, tileY + row)

section Tiles

variable {prev curr : List UInt8} {width height tileX tileY tileWidth tileHeight : ℕ}

theorem mem_tilePixels {p : ℕ × ℕ} :
    p ∈ tilePixels tileX tileY tileWidth tileHeight ↔
      (tileX ≤ p.1 ∧ p.1 < tileX + tileWidth) ∧ tileY ≤ p.2 ∧ p.2 < tileY + tileHeight := by
  unfold tilePixels
  simp only [List.mem_flatMap, List.mem_map, List.mem_range]
  constructor
  · rintro ⟨row, hrow, col, hcol, rfl⟩
    exact ⟨⟨by omega, by omega⟩, by omega, by omega⟩
  · rintro ⟨⟨hx, hx'⟩, hy, hy'⟩
    refine ⟨p.2 - tileY, by omega, p.1 - tileX, by omega, ?_⟩
    rw [show tileX + (p.1 - tileX) = p.1 by omega, show tileY + (p.2 - tileY) = p.2 by omega]

theorem tilePixels_succ (n : ℕ) :
    tilePixels tileX tileY tileWidth (n + 1) = tilePixels tileX tileY tileWidth n
      ++ (List.range tileWidth).map fun col => (tileX + col, tileY + n) := by
  unfold tilePixels
  rw [List.range_succ, List.flatMap_append, List.flatMap_singleton]

theorem length_tilePixels (n : ℕ) :
    (tilePixels tileX tileY tileWidth n).length = n * tileWidth := by
  induction n with
  | zero => rw [Nat.zero_mul]; rfl
  | succ n ih => rw [tilePixels_succ, List.length_append, ih, List.length_map, List.length_range,
      Nat.succ_mul]

/-- A tile row inside the frame lies inside the buffers. -/
theorem tileRow_le (hx : tileX + tileWidth ≤ width) (hy : tileY + tileHeight ≤ height) {row : ℕ}
    (hrow : row < tileHeight) :
    (tileY + row) * (width * 4) + tileX * 4 + tileWidth * 4 ≤ width * height * 4 := by
  have hstep : (tileY + row + 1) * width ≤ height * width :=
    Nat.mul_le_mul_right width (by omega)
  have hsucc : (tileY + row + 1) * width = (tileY + row) * width + width := by ring
  have hassoc : (tileY + row) * (width * 4) = (tileY + row) * width * 4 := by ring
  have hcomm : width * height = height * width := Nat.mul_comm _ _
  rw [hassoc, hcomm]
  omega

/-- The pixels of a tile row are pixels of the frame. -/
theorem bgrOf_slice (frame : List UInt8) {row col : ℕ} (hcol : col < tileWidth) :
    bgrOf (slice frame ((tileY + row) * (width * 4) + tileX * 4) (tileWidth * 4)) col
      = bgrAt width frame (tileX + col) (tileY + row) := by
  have hassoc : (tileY + row) * (width * 4) = (tileY + row) * width * 4 := by ring
  have hidx : (tileY + row) * (width * 4) + tileX * 4 + col * 4
      = ((tileY + row) * width + (tileX + col)) * 4 := by omega
  unfold bgrOf bgrAt
  rw [getD_slice _ _ _ _ (by omega), getD_slice _ _ _ _ (by omega),
    getD_slice _ _ _ _ (by omega), ← Nat.add_assoc, ← Nat.add_assoc, hidx]

/-- **`compare_tile` counts the pixels of the tile that differ**, modulo the size of its
counter. -/
theorem compareTile_eq_wrap (threshold : UInt8) (hprev : prev.length = width * height * 4)
    (hcurr : curr.length = width * height * 4) (hx : tileX + tileWidth ≤ width)
    (hy : tileY + tileHeight ≤ height) :
    compareTile prev curr tileX tileY tileWidth tileHeight (width * 4) threshold
      = wrapU32 ((tilePixels tileX tileY tileWidth tileHeight).countP fun p =>
          Differs threshold.toNat (bgrAt width prev p.1 p.2) (bgrAt width curr p.1 p.2)) := by
  -- on the rows: the count wraps with each row, which comes to the same in the end
  suffices h : ∀ n ≤ tileHeight,
      compareTile prev curr tileX tileY tileWidth n (width * 4) threshold
        = wrapU32 ((tilePixels tileX tileY tileWidth n).countP fun p =>
          Differs threshold.toNat (bgrAt width prev p.1 p.2) (bgrAt width curr p.1 p.2)) from
    h tileHeight (Nat.le_refl _)
  intro n hn
  induction n with
  | zero => rfl
  | succ n ih =>
      have hfit := tileRow_le hx hy (show n < tileHeight by omega)
      have hrow : countDifferentPixels threshold
          (slice prev ((tileY + n) * (width * 4) + tileX * 4) (tileWidth * 4))
          (slice curr ((tileY + n) * (width * 4) + tileX * 4) (tileWidth * 4))
          = ((List.range tileWidth).map fun col => (tileX + col, tileY + n)).countP fun p =>
            Differs threshold.toNat (bgrAt width prev p.1 p.2) (bgrAt width curr p.1 p.2) := by
        rw [countDifferentPixels_eq threshold tileWidth _ _
          (length_slice _ _ _ (by omega)) (length_slice _ _ _ (by omega)), List.countP_map]
        refine List.countP_congr fun col hcol => ?_
        have hcol := List.mem_range.mp hcol
        simp only [Function.comp_apply, bgrOf_slice prev hcol, bgrOf_slice curr hcol]
      have hbody : compareTile prev curr tileX tileY tileWidth (n + 1) (width * 4) threshold
          = wrapU32 (compareTile prev curr tileX tileY tileWidth n (width * 4) threshold
            + countDifferentPixels threshold
              (slice prev ((tileY + n) * (width * 4) + tileX * 4) (tileWidth * 4))
              (slice curr ((tileY + n) * (width * 4) + tileX * 4) (tileWidth * 4))) := by
        unfold compareTile
        rw [List.range_succ, List.foldl_append, List.foldl_cons, List.foldl_nil]
        dsimp only
        rw [if_neg (by omega)]
      rw [hbody, ih (by omega), hrow, tilePixels_succ, List.countP_append]
      exact Nat.mod_add_mod _ _ _

/-- The count is exact as long as the tile has fewer than `2 ^ 32` pixels. -/
theorem compareTile_eq (threshold : UInt8) (hprev : prev.length = width * height * 4)
    (hcurr : curr.length = width * height * 4) (hx : tileX + tileWidth ≤ width)
    (hy : tileY + tileHeight ≤ height) (hsize : tileHeight * tileWidth < 2 ^ 32) :
    compareTile prev curr tileX tileY tileWidth tileHeight (width * 4) threshold
      = (tilePixels tileX tileY tileWidth tileHeight).countP fun p =>
          Differs threshold.toNat (bgrAt width prev p.1 p.2) (bgrAt width curr p.1 p.2) := by
  rw [compareTile_eq_wrap threshold hprev hcurr hx hy]
  exact Nat.mod_eq_of_lt
    ((List.countP_le_length.trans (length_tilePixels _).le).trans_lt hsize)

end Tiles

/-! ### What a call reports -/

namespace DamageDetector

variable {d : DamageDetector} {prev frame : List UInt8} {width height : ℕ}

/-- The tile of a pixel is in the grid. -/
theorem div_lt_divCeil {px t : ℕ} (ht : 1 ≤ t) (hpx : px < width) :
    px / t < divCeil width t := by
  unfold divCeil
  have hmul : (px / t + 1) * t ≤ width + t - 1 := by
    have hle := Nat.div_mul_le_self px t
    rw [Nat.succ_mul]
    omega
  exact (Nat.le_div_iff_mul_le ht).mpr hmul

/-- An exact configuration marks the tile of a pixel that differs. -/
theorem tileDirty_of_ne (hex : d.config.Exact) (hprev : prev.length = width * height * 4)
    (hframe : frame.length = width * height * 4) (hsize : width * height < 2 ^ 32) {px py : ℕ}
    (hpx : px < width) (hpy : py < height) (hne : bgrAt width prev px py ≠ bgrAt width frame px py) :
    d.tileDirty prev frame width height (px / d.config.tileSize) (py / d.config.tileSize)
      = true := by
  have ht := hex.tile_pos
  have hlowx := Nat.div_mul_le_self px d.config.tileSize
  have hlowy := Nat.div_mul_le_self py d.config.tileSize
  have hhighx := Nat.lt_div_mul_add (a := px) ht
  have hhighy := Nat.lt_div_mul_add (a := py) ht
  -- a threshold of zero asks for one pixel
  have hcount : ((Binary32.ofNat (wrapU32 (d.config.tileSize * d.config.tileSize))).mul
      d.config.diffThreshold).toU32 = 0 := by
    rw [hex.diff]
    exact Binary32.toU32_mul_zero _
  unfold tileDirty
  dsimp only
  rw [hcount, hex.pixel]
  generalize px / d.config.tileSize * d.config.tileSize = tileX at *
  generalize py / d.config.tileSize * d.config.tileSize = tileY at *
  generalize d.config.tileSize = t at *
  rw [if_neg (by omega), decide_eq_true_eq]
  -- the tile lies in the frame, so its pixels are no more than the frame's
  have harea : min t (height - tileY) * min t (width - tileX) ≤ height * width :=
    Nat.mul_le_mul (by omega) (by omega)
  have hcomm : width * height = height * width := Nat.mul_comm _ _
  rw [compareTile_eq 0 hprev hframe (by omega) (by omega) (by omega)]
  refine List.countP_pos_iff.mpr ⟨(px, py), mem_tilePixels.mpr ?_, ?_⟩
  · exact ⟨⟨hlowx, by omega⟩, hlowy, by omega⟩
  · exact decide_eq_true (differs_zero hne)

/-- The index of a tile in the flat list. -/
theorem tileIndex_lt {tx ty tilesX tilesY : ℕ} (htx : tx < tilesX) (hty : ty < tilesY) :
    ty * tilesX + tx < tilesX * tilesY := by
  rw [Nat.mul_comm tilesX]
  exact RowMajor.index_lt htx hty

/-- The flag of a tile in the flat list. -/
theorem getD_dirtyTiles {tx ty : ℕ} (htx : tx < d.tilesX) (hty : ty < d.tilesY) :
    (d.dirtyTiles prev frame width height).getD (ty * d.tilesX + tx) false
      = d.tileDirty prev frame width height tx ty := by
  rw [dirtyTiles, List.getD_eq_getElem?_getD, List.getElem?_map,
    List.getElem?_range (tileIndex_lt htx hty), Option.map_some, Option.getD_some,
    Nat.mul_add_mod_of_lt htx, RowMajor.div_index htx]

/-- `detect_changes` reports every pixel of a dirty tile, if no region is too small
to be reported. -/
theorem detectChanges_covers_of_dirty (hmin : d.config.minRegionArea ≤ 1)
    (ht : 1 ≤ d.config.tileSize) (ht' : d.config.tileSize < 2 ^ 32)
    (hgrid : d.tilesX = divCeil width d.config.tileSize ∧
      d.tilesY = divCeil height d.config.tileSize)
    (hw : width < 2 ^ 32) (hh : height < 2 ^ 32) {px py : ℕ} (hpx : px < width) (hpy : py < height)
    (hdirty : d.tileDirty prev frame width height (px / d.config.tileSize)
      (py / d.config.tileSize) = true) :
    CoveredBy (d.detectChanges prev frame width height) px py := by
  have htx : px / d.config.tileSize < d.tilesX := hgrid.1 ▸ div_lt_divCeil ht hpx
  have hty : py / d.config.tileSize < d.tilesY := hgrid.2 ▸ div_lt_divCeil ht hpy
  have htile := tilesToRegions_covers ht' hw hh htx hty ((getD_dirtyTiles htx hty).trans hdirty)
    hpx hpy (Nat.div_mul_le_self _ _) (Nat.lt_div_mul_add ht) (Nat.div_mul_le_self _ _)
    (Nat.lt_div_mul_add ht)
  obtain ⟨r, hr, hcov⟩ := (mergeRegions_absorbs hw hh d.config.mergeDistance _).covers
    tilesToRegions_inside htile
  refine ⟨r, List.mem_filter.mpr ⟨hr, ?_⟩, hcov⟩
  -- a region that covers a pixel has area at least one
  obtain ⟨hx1, hx2, hy1, hy2⟩ := hcov
  have harea : 0 < r.width * r.height := Nat.mul_pos (by omega) (by omega)
  rw [decide_eq_true_eq]
  exact hmin.trans harea

theorem detectChanges_inside (hw : width < 2 ^ 32) (hh : height < 2 ^ 32) :
    AllInside (d.detectChanges prev frame width height) width height := by
  intro r hr
  exact (mergeRegions_absorbs hw hh d.config.mergeDistance _).inside tilesToRegions_inside r
    (List.mem_of_mem_filter hr)

/-- The two paths of `detect`. -/
theorem detect_of_length (hlen : frame.length = expectedLen width height) :
    d.detect frame width height = match d.reference width height with
      | none => d.detectFull frame width height
      | some prev =>
          some ({ d with previousFrame := some frame },
            d.detectChanges prev frame width height) := by
  unfold detect reference
  rw [if_neg (not_not.mpr hlen)]
  cases hp : d.previousFrame with
  | none => simp only [ite_self]
  | some prev =>
      dsimp only
      split <;> rfl

/-- The outcomes of `detect` on a frame whose length fits. -/
theorem detect_eq (hlen : frame.length = width * height * 4)
    (h64 : width * height * 4 < 2 ^ 64) :
    d.detect frame width height = match d.reference width height with
      | none => d.detectFull frame width height
      | some prev =>
          some ({ d with previousFrame := some frame },
            d.detectChanges prev frame width height) :=
  detect_of_length (hlen.trans (Nat.mod_eq_of_lt h64).symm)

/-- What the regions of a call are made from: everything is reported without a
reference, and else what `detect_changes` finds. -/
def RegionsFrom (d : DamageDetector) (frame : List UInt8) (width height : ℕ)
    (regions : List DamageRegion) : Prop :=
  match d.reference width height with
  | none => regions = [DamageRegion.fullFrame width height]
  | some prev => regions = d.detectChanges prev frame width height

/-- **What `detect` does** on a frame of the right length: it succeeds, the frame
becomes the reference, and the regions lie inside the frame. -/
theorem detect_reference (hwf : d.WellFormed) (ht : 1 ≤ d.config.tileSize)
    (hlen : frame.length = width * height * 4) (hw : width < 2 ^ 32) (hh : height < 2 ^ 32)
    (h64 : width * height * 4 < 2 ^ 64) :
    ∃ d' regions, d.detect frame width height = some (d', regions) ∧
      d'.WellFormed ∧ d'.config = d.config ∧ d'.reference width height = some frame ∧
      AllInside regions width height ∧ d.RegionsFrom frame width height regions := by
  rw [detect_eq hlen h64]
  unfold RegionsFrom
  -- without a reference the whole frame is damaged, and it becomes the reference
  cases href : d.reference width height with
  | none =>
      have ht : d.config.tileSize ≠ 0 := Nat.one_le_iff_ne_zero.mp ht
      refine ⟨_, _, if_neg ht, ?_, rfl, ?_, ?_, rfl⟩
      · intro w h prev hprev
        simp only [reference, Bool.false_eq_true, false_or] at hprev
        split at hprev
        · exact absurd hprev (by simp)
        · next hdim =>
            obtain ⟨rfl, rfl⟩ := Prod.mk.inj (Option.some.inj (not_not.mp hdim))
            obtain rfl := Option.some.inj hprev
            exact ⟨hlen, rfl, rfl⟩
      · simp [reference]
      · intro r hr
        rw [List.mem_singleton.mp hr]
        exact ⟨by simp [DamageRegion.fullFrame], by simp [DamageRegion.fullFrame]⟩
  -- the reference is for frames of this size, and the frame takes its place
  | some prev =>
      obtain ⟨hprev, hgrid⟩ := hwf width height prev href
      have hvalid : ¬ (d.invalidated = true ∨ d.previousDimensions ≠ some (width, height)) := by
        intro hbad
        rw [reference, if_pos hbad] at href
        exact absurd href (by simp)
      refine ⟨_, _, rfl, ?_, rfl, ?_, detectChanges_inside hw hh, rfl⟩
      · intro w h p hp
        have hp' : (if d.invalidated = true ∨ d.previousDimensions ≠ some (w, h) then none
            else some frame) = some p := hp
        split at hp'
        · exact absurd hp' (by simp)
        · next hdim =>
            push Not at hvalid hdim
            obtain ⟨rfl, rfl⟩ := Prod.mk.inj (Option.some.inj (hvalid.2.symm.trans hdim.2))
            obtain rfl := Option.some.inj hp'
            exact ⟨hlen, hgrid⟩
      · exact if_neg hvalid

/-- The whole frame covers every pixel. -/
theorem coveredBy_fullFrame {px py : ℕ} (hpx : px < width) (hpy : py < height) :
    CoveredBy [DamageRegion.fullFrame width height] px py := by
  refine ⟨_, List.mem_singleton_self _, ?_⟩
  exact ⟨Nat.zero_le _, by simpa [DamageRegion.fullFrame] using hpx, Nat.zero_le _,
    by simpa [DamageRegion.fullFrame] using hpy⟩

/-- **What `detect` reports** under an exact configuration: every pixel in which the
frame differs from the old reference, or every pixel when there was none. -/
theorem detect_spec (hwf : d.WellFormed) (hex : d.config.Exact)
    (hlen : frame.length = width * height * 4) (hw : width < 2 ^ 32) (hh : height < 2 ^ 32)
    (hsize : width * height < 2 ^ 32) :
    ∃ d' regions, d.detect frame width height = some (d', regions) ∧
      d'.WellFormed ∧ d'.config = d.config ∧ d'.reference width height = some frame ∧
      AllInside regions width height ∧
      ∀ px < width, ∀ py < height,
        (∀ prev, d.reference width height = some prev →
          bgrAt width prev px py ≠ bgrAt width frame px py) → CoveredBy regions px py := by
  obtain ⟨d', regions, hdetect, hwf', hconfig, href', hinside, hregions⟩ :=
    detect_reference hwf hex.tile_pos hlen hw hh (by omega)
  refine ⟨d', regions, hdetect, hwf', hconfig, href', hinside, ?_⟩
  intro px hpx py hpy hne
  unfold RegionsFrom at hregions
  cases href : d.reference width height with
  | none =>
      rw [href] at hregions
      rw [hregions]
      exact coveredBy_fullFrame hpx hpy
  | some prev =>
      rw [href] at hregions
      rw [hregions]
      obtain ⟨hprev, hgrid⟩ := hwf width height prev href
      exact detectChanges_covers_of_dirty hex.area hex.tile_pos hex.tile_lt hgrid hw hh hpx hpy
        (tileDirty_of_ne hex hprev hlen hsize hpx hpy (hne prev href))

theorem wellFormed_new (config : DamageConfig) : (new config).WellFormed := by
  intro w h prev hprev
  simp [reference, new] at hprev

theorem wellFormed_invalidate : d.invalidate.WellFormed := by
  intro w h prev hprev
  simp [reference, invalidate] at hprev

@[simp] theorem reference_invalidate (w h : ℕ) : d.invalidate.reference w h = none := by
  simp [reference, invalidate]

end DamageDetector

end LamcoRdp
