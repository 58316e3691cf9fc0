/-
LamcoRdp/Damage/ReferenceDiscipline.lean

What the damage detector compares a frame with, whatever it was asked before
(`damage/mod.rs`).

Four operations write the reference, the dimensions that go with it, the grid and
the flags of the tiles, each only some of them.  `BufferedDetector` is the detector
with the flags and the statistics it keeps between calls, and with the loop of
`detect_changes` that writes the flags one by one; `detect_toDamageDetector`
connects it to the detector that computes them from nothing.

The grid and the flags are right after any calls.  The reference is always the
last frame given, but `update_reference` is not told its dimensions:
`detector_disciplined_iff` says that a frame is compared with one of its own
dimensions exactly if `update_reference` is given no others in between.
-/
import LamcoRdp.Damage.TwoFrames
import LamcoRdp.Lib.Buffer
import LamcoRdp.Lib.Runs
import Mathlib.Data.UInt

namespace LamcoRdp

open DamageDetector Runs

/-! ### Statistics -/

/-- `DamageStats`, without the time measured and the averages. -/
structure DamageStats where
  framesProcessed : UInt64
  framesSkipped : UInt64
  framesFull : UInt64
  framesPartial : UInt64
  totalDamageArea : UInt64
  totalFrameArea : UInt64

namespace DamageStats

/-- `DamageStats::default`. -/
def default : DamageStats := ⟨0, 0, 0, 0, 0, 0⟩

/-- What the full-frame path of `detect` counts. -/
def recordFull (s : DamageStats) (frameArea : UInt64) : DamageStats :=
  { s with
    framesProcessed := s.framesProcessed + 1
    framesFull := s.framesFull + 1
    totalDamageArea := s.totalDamageArea + frameArea
    totalFrameArea := s.totalFrameArea + frameArea }

/-- What the differencing path counts. -/
def record (s : DamageStats) (regions : List DamageRegion) (frameArea : UInt64) : DamageStats :=
  let damageArea := (regions.map fun r => UInt64.ofNat r.area).sum
  let s := { s with
    framesProcessed := s.framesProcessed + 1
    totalDamageArea := s.totalDamageArea + damageArea
    totalFrameArea := s.totalFrameArea + frameArea }
  if regions.isEmpty then { s with framesSkipped := s.framesSkipped + 1 }
  else if damageArea ≥ frameArea * 9 / 10 then { s with framesFull := s.framesFull + 1 }
  else { s with framesPartial := s.framesPartial + 1 }

end DamageStats

/-! ### The detector with its flags -/

/-- `flags[idx] = flag`, which panics out of range. -/
def setFlag? (flags : List Bool) (idx : ℕ) (flag : Bool) : Option (List Bool) :=
  if idx < flags.length then some (flags.set idx flag) else none

/-- The detector with the buffer of its tiles and its statistics. -/
structure BufferedDetector extends DamageDetector where
  tileDirty : List Bool
  stats : DamageStats

namespace BufferedDetector

/-- `DamageDetector::new`. -/
def new (config : DamageConfig) : BufferedDetector :=
  { DamageDetector.new config with tileDirty := [], stats := .default }

/-- `update_tile_grid`, which divides by the tile size. -/
def updateTileGrid (t : BufferedDetector) (width height : ℕ) : Option BufferedDetector :=
  if t.config.tileSize = 0 then none
  else
    let tilesX := divCeil width t.config.tileSize
    let tilesY := divCeil height t.config.tileSize
    let totalTiles := tilesX * tilesY
    some { t with
      tilesX
      tilesY
      tileDirty :=
        if t.tileDirty.length ≠ totalTiles then List.replicate totalTiles false else t.tileDirty }

/-- The pass of `detect_changes` over one tile. -/
def markTile (t : BufferedDetector) (prev curr : List UInt8) (width height : ℕ)
    (tileDirty : List Bool) (ty tx : ℕ) : Option (List Bool) :=
  let tileSize := t.config.tileSize
  let tilePixels := wrapU32 (tileSize * tileSize)
  let diffThresholdCount := ((Binary32.ofNat tilePixels).mul t.config.diffThreshold).toU32
  let tileX := tx * tileSize
  let tileY := ty * tileSize
  let tileWidth := min tileSize (width - tileX)
  let tileHeight := min tileSize (height - tileY)
  if tileWidth = 0 ∨ tileHeight = 0 then some tileDirty
  else
    let diffCount := compareTile prev curr tileX tileY tileWidth tileHeight (width * 4)
      t.config.pixelThreshold
    setFlag? tileDirty (ty * t.tilesX + tx) (diffCount > diffThresholdCount)

/-- The loops of `detect_changes` over the tiles. -/
def markTiles (t : BufferedDetector) (prev curr : List UInt8) (width height : ℕ) :
    Option (List Bool) :=
  (List.range t.tilesY).foldlM (fun tileDirty ty =>
    (List.range t.tilesX).foldlM (fun tileDirty tx =>
      t.markTile prev curr width height tileDirty ty tx) tileDirty)
    (t.tileDirty.map fun _ => false)

/-- `detect_changes`.  `tiles_to_regions` reads a flag for each tile of the grid. -/
def detectChanges (t : BufferedDetector) (prev curr : List UInt8) (width height : ℕ) :
    Option (BufferedDetector × List DamageRegion) := do
  let tileDirty ← t.markTiles prev curr width height
  if tileDirty.length < t.tilesX * t.tilesY then none
  else
    let regions :=
      tilesToRegions tileDirty t.tilesX t.tilesY t.config.tileSize width height
    let regions := mergeRegions regions t.config.mergeDistance
    some ({ t with tileDirty }, regions.filter fun r => r.area ≥ t.config.minRegionArea)

/-- The branch of `detect` that reports the whole frame. -/
def detectFull (t : BufferedDetector) (frame : List UInt8) (width height : ℕ) :
    Option (BufferedDetector × List DamageRegion) := do
  let t ← t.updateTileGrid width height
  some
    ({ t with
        previousFrame := some frame
        previousDimensions := some (width, height)
        invalidated := false
        stats := t.stats.recordFull (UInt64.ofNat width * UInt64.ofNat height) },
      [DamageRegion.fullFrame width height])

/-- `detect`. -/
def detect (t : BufferedDetector) (frame : List UInt8) (width height : ℕ) :
    Option (BufferedDetector × List DamageRegion) :=
  if frame.length ≠ expectedLen width height then none
  else
    match t.previousFrame with
    | none => t.detectFull frame width height
    | some prev =>
        let dimensionsChanged := t.previousDimensions ≠ some (width, height)
        if t.invalidated ∨ dimensionsChanged then t.detectFull frame width height
        else do
          let (t, regions) ← t.detectChanges prev frame width height
          let stats := t.stats.record regions (UInt64.ofNat width * UInt64.ofNat height)
          some ({ t with previousFrame := some frame, stats }, regions)

/-- `update_reference`. -/
def updateReference (t : BufferedDetector) (frame : List UInt8) : BufferedDetector :=
  { t with previousFrame := some frame }

/-- `invalidate`. -/
def invalidate (t : BufferedDetector) : BufferedDetector := { t with invalidated := true }

/-- `set_config`. -/
def setConfig (t : BufferedDetector) (config : DamageConfig) : BufferedDetector :=
  BufferedDetector.invalidate { t with config }

/-- `reset_stats`. -/
def resetStats (t : BufferedDetector) : BufferedDetector := { t with stats := .default }

/-! ### Marking the tiles -/

variable {t t' : BufferedDetector} {prev curr frame tileDirty : List UInt8} {width height : ℕ}
  {regions : List DamageRegion}

/-- The flags when the tiles before the `n`th have been marked. -/
structure Marked (t : BufferedDetector) (prev curr : List UInt8) (width height n : ℕ)
    (flags : List Bool) : Prop where
  length_eq : flags.length = t.tilesX * t.tilesY
  marked : ∀ i < n, i < flags.length → flags[i]? =
    some (t.toDamageDetector.tileDirty prev curr width height (i % t.tilesX) (i / t.tilesX))
  clear : ∀ i, n ≤ i → i < flags.length → flags[i]? = some false

/-- A pass writes the flag of its tile. -/
theorem markTile_eq {flags : List Bool} {tx ty : ℕ}
    (hclear : flags[ty * t.tilesX + tx]? = some false) :
    t.markTile prev curr width height flags ty tx = some (flags.set (ty * t.tilesX + tx)
      (t.toDamageDetector.tileDirty prev curr width height tx ty)) := by
  obtain ⟨hlt, hflag⟩ := List.getElem?_eq_some_iff.mp hclear
  unfold markTile DamageDetector.tileDirty
  dsimp only
  split
  · -- an empty tile keeps the flag that it has
    congr 1
    apply List.ext_getElem?
    intro i
    rw [List.getElem?_set]
    split
    · next hi => rw [← hi, hclear]
    · rfl
  · exact if_pos hlt

theorem Marked.markTile {flags : List Bool} {tx ty : ℕ} (htx : tx < t.tilesX)
    (hty : ty < t.tilesY) (h : Marked t prev curr width height (ty * t.tilesX + tx) flags) :
    ∃ flags', t.markTile prev curr width height flags ty tx = some flags' ∧
      Marked t prev curr width height (ty * t.tilesX + tx + 1) flags' := by
  obtain ⟨hlen, hmarked, hclear⟩ := h
  have hidx := tileIndex_lt htx hty
  refine ⟨_, markTile_eq (hclear _ le_rfl (hlen ▸ hidx)), ?_, fun i hi hlt => ?_,
    fun i hi hlt => ?_⟩
  · rw [List.length_set, hlen]
  · rw [List.length_set] at hlt
    rw [List.getElem?_set]
    split
    · next heq => rw [if_pos (hlen ▸ hidx), ← heq, Nat.mul_add_mod_of_lt htx,
        RowMajor.div_index htx]
    · exact hmarked i (by omega) hlt
  · rw [List.length_set] at hlt
    rw [List.getElem?_set, if_neg (by omega)]
    exact hclear i (by omega) hlt

/-- **The loops of `detect_changes`** write every flag of the grid, and none beside. -/
theorem markTiles_eq (hlen : t.tileDirty.length = t.tilesX * t.tilesY) :
    t.markTiles prev curr width height = some (t.dirtyTiles prev curr width height) := by
  -- all flags are down at the start
  have hstart : Marked t prev curr width height (0 * t.tilesX)
      (t.tileDirty.map fun _ => false) := by
    refine ⟨by rw [List.length_map, hlen], fun i hi => absurd hi (by omega), fun i _ hi => ?_⟩
    rw [List.length_map] at hi
    rw [List.getElem?_map, List.getElem?_eq_getElem hi, Option.map_some]
  -- row by row, and in a row tile by tile
  have hrow : ∀ ty < t.tilesY, ∀ flags, Marked t prev curr width height (ty * t.tilesX) flags →
      ∃ flags', (List.range t.tilesX).foldlM (fun tileDirty tx =>
          t.markTile prev curr width height tileDirty ty tx) flags = some flags' ∧
        Marked t prev curr width height ((ty + 1) * t.tilesX) flags' := by
    intro ty hty flags h
    rw [Nat.succ_mul]
    exact Buffer.foldlM_range_inv (fun tx => Marked t prev curr width height (ty * t.tilesX + tx))
      t.tilesX h fun tx htx flags h => h.markTile htx hty
  obtain ⟨flags, hflags, hlen', hmarked, -⟩ := Buffer.foldlM_range_inv
    (fun ty => Marked t prev curr width height (ty * t.tilesX)) t.tilesY hstart hrow
  unfold markTiles
  rw [hflags]
  congr 1
  apply List.ext_getElem?
  intro i
  -- each flag is that of its tile, and there are no more
  rcases Nat.lt_or_ge i (t.tilesX * t.tilesY) with hi | hi
  · rw [hmarked i (by rw [Nat.mul_comm]; exact hi) (hlen' ▸ hi), dirtyTiles, List.getElem?_map,
      List.getElem?_range hi, Option.map_some]
  · rw [List.getElem?_eq_none (hlen' ▸ hi), List.getElem?_eq_none]
    rw [dirtyTiles, List.length_map, List.length_range]
    exact hi

/-- `detect_changes` never reads or writes out of range, and finds what the flags computed from
nothing give. -/
theorem detectChanges_eq (hlen : t.tileDirty.length = t.tilesX * t.tilesY) :
    t.detectChanges prev curr width height = some
      ({ t with tileDirty := t.dirtyTiles prev curr width height },
        t.toDamageDetector.detectChanges prev curr width height) := by
  unfold detectChanges
  rw [markTiles_eq hlen, Option.bind_eq_bind, Option.bind_some, if_neg]
  · rfl
  · rw [dirtyTiles, List.length_map, List.length_range]
    exact Nat.lt_irrefl _

/-! ### The grid after any calls -/

/-- The grid is the smallest that covers a frame of these dimensions, and has a flag for each
tile. -/
structure CoversFrame (t : BufferedDetector) (width height : ℕ) : Prop where
  across : IsLeast {n | width ≤ n * t.config.tileSize} t.tilesX
  down : IsLeast {n | height ≤ n * t.config.tileSize} t.tilesY
  flags : t.tileDirty.length = t.tilesX * t.tilesY

/-- This frame was the last one that `detect` or `update_reference` was given, and the
dimensions are those of the last `detect`. -/
structure Current (t : BufferedDetector) (frame : List UInt8) (width height : ℕ) : Prop where
  valid : t.invalidated = false
  frame_eq : t.previousFrame = some frame
  dims_eq : t.previousDimensions = some (width, height)
  covers : t.CoversFrame width height

/-- Unless the next frame is reported whole, there is a reference, and a grid that goes with
the dimensions. -/
def Fits (t : BufferedDetector) : Prop :=
  t.invalidated = false → ∃ frame width height, t.Current frame width height

theorem divCeil_isLeast {tileSize : ℕ} (ht : tileSize ≠ 0) (size : ℕ) :
    IsLeast {n | size ≤ n * tileSize} (divCeil size tileSize) := by
  have hpos : 0 < tileSize := Nat.pos_of_ne_zero ht
  constructor
  · have hlt := Nat.lt_div_mul_add (a := size + tileSize - 1) hpos
    show size ≤ (size + tileSize - 1) / tileSize * tileSize
    omega
  · intro n (hn : size ≤ n * tileSize)
    refine Nat.lt_succ_iff.mp (Nat.div_lt_of_lt_mul ?_)
    rw [Nat.mul_succ, Nat.mul_comm]
    omega

/-- The full-frame path starts afresh. -/
theorem current_detectFull (h : t.detectFull frame width height = some (t', regions)) :
    t'.Current frame width height := by
  obtain ⟨grid, hgrid, h⟩ := Option.bind_eq_some_iff.mp h
  obtain ⟨rfl, -⟩ := Prod.mk.inj (Option.some.inj h)
  unfold updateTileGrid at hgrid
  split at hgrid
  · cases hgrid
  · next ht =>
      obtain rfl := Option.some.inj hgrid
      refine ⟨rfl, rfl, rfl, divCeil_isLeast ht width, divCeil_isLeast ht height, ?_⟩
      dsimp only
      split
      · rw [List.length_replicate]
      · next hlen => exact not_not.mp hlen

/-- The two paths of `detect`. -/
theorem detect_eq (hlen : frame.length = expectedLen width height) :
    t.detect frame width height = match t.reference width height with
      | none => t.detectFull frame width height
      | some prev => (t.detectChanges prev frame width height).map fun r =>
          ({ r.1 with
              previousFrame := some frame
              stats := r.1.stats.record r.2 (UInt64.ofNat width * UInt64.ofNat height) }, r.2) := by
  unfold detect reference
  rw [if_neg (not_not.mpr hlen)]
  cases hp : t.previousFrame with
  | none => simp only [ite_self]
  | some prev =>
      dsimp only
      split
      · rfl
      · dsimp only
        cases t.detectChanges prev frame width height <;> rfl

theorem length_of_detect (h : t.detect frame width height = some (t', regions)) :
    frame.length = expectedLen width height := by
  by_contra hlen
  rw [detect, if_pos hlen] at h
  cases h

/-- What there is to compare with a frame. -/
theorem Fits.current (h : t.Fits) (href : t.reference width height = some prev) :
    t.Current prev width height := by
  unfold reference at href
  split at href
  · cases href
  · next hkept =>
      push Not at hkept
      obtain ⟨frame, w, h', hcurrent⟩ := h (by simpa using hkept.1)
      obtain ⟨rfl, rfl⟩ := Prod.mk.inj (Option.some.inj (hcurrent.dims_eq.symm.trans hkept.2))
      obtain rfl := Option.some.inj (hcurrent.frame_eq.symm.trans href)
      exact hcurrent

/-- The differencing path. -/
theorem Fits.detect_of_reference (h : t.Fits) (href : t.reference width height = some prev)
    (hlen : frame.length = expectedLen width height) :
    ∃ t', t.detect frame width height
        = some (t', t.toDamageDetector.detectChanges prev frame width height) ∧
      t'.Current frame width height ∧
      t'.toDamageDetector = { t.toDamageDetector with previousFrame := some frame } := by
  have hcurrent := h.current href
  rw [detect_eq hlen, href]
  dsimp only
  rw [detectChanges_eq hcurrent.covers.flags]
  refine ⟨_, rfl, ⟨hcurrent.valid, rfl, hcurrent.dims_eq, hcurrent.covers.across,
    hcurrent.covers.down, ?_⟩, rfl⟩
  show (t.dirtyTiles prev frame width height).length = t.tilesX * t.tilesY
  rw [dirtyTiles, List.length_map, List.length_range]

/-- **What `detect` leaves behind**, on either path. -/
theorem Fits.detect (h : t.Fits) (hdetect : t.detect frame width height = some (t', regions)) :
    t'.Current frame width height := by
  have hlen := length_of_detect hdetect
  cases href : t.reference width height with
  | none =>
      rw [detect_eq hlen, href] at hdetect
      exact current_detectFull hdetect
  | some prev =>
      obtain ⟨t₁, ht₁, hcurrent, -⟩ := h.detect_of_reference href hlen
      obtain ⟨rfl, -⟩ := Prod.mk.inj (Option.some.inj (ht₁.symm.trans hdetect))
      exact hcurrent

/-- The full-frame path, without the flags. -/
theorem detectFull_toDamageDetector (t : BufferedDetector) (frame : List UInt8)
    (width height : ℕ) :
    (t.detectFull frame width height).map (fun r => (r.1.toDamageDetector, r.2))
      = t.toDamageDetector.detectFull frame width height := by
  unfold detectFull updateTileGrid DamageDetector.detectFull
  by_cases ht : t.config.tileSize = 0
  · rw [if_pos ht, if_pos ht]
    rfl
  · rw [if_neg ht, if_neg ht]
    rfl

/-- **The flags kept between calls do not matter**: the detector that computes them from
nothing does the same. -/
theorem detect_toDamageDetector (h : t.Fits) (frame : List UInt8) (width height : ℕ) :
    (t.detect frame width height).map (fun r => (r.1.toDamageDetector, r.2))
      = t.toDamageDetector.detect frame width height := by
  by_cases hlen : frame.length = expectedLen width height
  · rw [DamageDetector.detect_of_length hlen]
    cases href : t.reference width height with
    | none =>
        rw [detect_eq hlen, href]
        exact detectFull_toDamageDetector t frame width height
    | some prev =>
        obtain ⟨t', ht', -, hcore⟩ := h.detect_of_reference href hlen
        rw [ht', Option.map_some, hcore]
  · rw [BufferedDetector.detect, DamageDetector.detect, if_pos hlen, if_pos hlen, Option.map_none]

end BufferedDetector

/-! ### Any calls -/

/-- The bytes of a frame, and the dimensions of the picture in them. -/
structure GivenFrame where
  data : List UInt8
  width : ℕ
  height : ℕ

/-- A call of the detector. -/
inductive DetectorOp
  | detect (frame : GivenFrame)
  | updateReference (frame : GivenFrame)
  | invalidate
  | setConfig (config : DamageConfig)
  | resetStats

/-- A detector, and the last frame that `detect` or `update_reference` was given. -/
structure ObservedDetector where
  detector : BufferedDetector
  given : Option GivenFrame

namespace ObservedDetector

/-- A new detector, which has not been shown a frame. -/
def start (config : DamageConfig) : ObservedDetector := ⟨.new config, none⟩

/-- One call, which may panic. -/
def step (s : ObservedDetector) : DetectorOp → Option ObservedDetector
  | .detect frame => (s.detector.detect frame.data frame.width frame.height).map fun r =>
      ⟨r.1, some frame⟩
  | .updateReference frame => some ⟨s.detector.updateReference frame.data, some frame⟩
  | .invalidate => some ⟨s.detector.invalidate, s.given⟩
  | .setConfig config => some ⟨s.detector.setConfig config, s.given⟩
  | .resetStats => some ⟨s.detector.resetStats, s.given⟩

/-- Whatever frame comes next, if it is compared with a reference, that is the last frame
given, it has the dimensions of the new one, and the grid covers the new one. -/
def Disciplined (s : ObservedDetector) : Prop :=
  ∀ (frame : GivenFrame) (prev : List UInt8),
    s.detector.reference frame.width frame.height = some prev →
    ∀ r, s.detector.detect frame.data frame.width frame.height = some r →
      (∃ given, s.given = some given ∧ given.data = prev ∧
        given.width = frame.width ∧ given.height = frame.height) ∧
      r.1.CoversFrame frame.width frame.height

/-- `update_reference` is given a frame of the dimensions that `detect` remembers, unless the
next frame is reported whole anyway. -/
def Allows (s : ObservedDetector) : DetectorOp → Prop
  | .updateReference frame =>
      s.detector.invalidated = true ∨
        s.detector.previousDimensions = some (frame.width, frame.height)
  | _ => True

/-- What the detector knows, whatever it was asked. -/
structure Tracked (s : ObservedDetector) : Prop where
  fits : s.detector.Fits
  reference_eq : s.detector.previousFrame = s.given.map (·.data)

variable {s s' : ObservedDetector} {op : DetectorOp}

theorem tracked_start (config : DamageConfig) : (start config).Tracked := ⟨nofun, rfl⟩

/-- A reference that takes the place of the last one. -/
theorem fits_updateReference {t : BufferedDetector} (h : t.Fits) (frame : List UInt8) :
    (t.updateReference frame).Fits := by
  intro hvalid
  obtain ⟨_, width, height, hcurrent⟩ := h hvalid
  exact ⟨frame, width, height, hvalid, rfl, hcurrent.dims_eq, hcurrent.covers.across,
    hcurrent.covers.down, hcurrent.covers.flags⟩

theorem fits_resetStats {t : BufferedDetector} (h : t.Fits) : t.resetStats.Fits := by
  intro hvalid
  obtain ⟨frame, width, height, hcurrent⟩ := h hvalid
  exact ⟨frame, width, height, hvalid, hcurrent.frame_eq, hcurrent.dims_eq,
    hcurrent.covers.across, hcurrent.covers.down, hcurrent.covers.flags⟩

theorem Tracked.step (h : s.Tracked) (hstep : s.step op = some s') : s'.Tracked := by
  cases op with
  | detect frame =>
      obtain ⟨⟨t, regions⟩, hdetect, rfl⟩ := Option.map_eq_some_iff.mp hstep
      have hcurrent := h.fits.detect hdetect
      exact ⟨fun _ => ⟨_, _, _, hcurrent⟩, hcurrent.frame_eq⟩
  | updateReference frame =>
      obtain rfl := Option.some.inj hstep
      exact ⟨fits_updateReference h.fits frame.data, rfl⟩
  | invalidate =>
      obtain rfl := Option.some.inj hstep
      exact ⟨nofun, h.reference_eq⟩
  | setConfig config =>
      obtain rfl := Option.some.inj hstep
      exact ⟨nofun, h.reference_eq⟩
  | resetStats =>
      obtain rfl := Option.some.inj hstep
      exact ⟨fits_resetStats h.fits, h.reference_eq⟩

theorem tracked_of_run {config : DamageConfig} {ops : List DetectorOp}
    (h : Run (StepOf step) (start config) ops s) : s.Tracked :=
  h.invariant (tracked_start config) Tracked.step

/-- The dimensions remembered are those of the last frame given, or do not matter. -/
def Synchronized (s : ObservedDetector) : Prop :=
  s.detector.invalidated = true ∨
    s.detector.previousDimensions = s.given.map fun frame => (frame.width, frame.height)

/-- The reference and the grid are right of themselves; the dimensions are all that is left. -/
theorem Tracked.disciplined_iff (h : s.Tracked) : s.Disciplined ↔ s.Synchronized := by
  constructor
  · intro hdisc
    by_cases hvalid : s.detector.invalidated = true
    · exact .inl hvalid
    -- a frame of the dimensions remembered is compared with the reference
    obtain ⟨prev, width, height, hcurrent⟩ := h.fits (by simpa using hvalid)
    have href : s.detector.reference width height = some prev := by
      rw [reference, if_neg (by simp [hcurrent.valid, hcurrent.dims_eq])]
      exact hcurrent.frame_eq
    let frame : GivenFrame := ⟨List.replicate (expectedLen width height) 0, width, height⟩
    have hlen : frame.data.length = expectedLen width height := List.length_replicate
    obtain ⟨t, ht, -⟩ := h.fits.detect_of_reference href hlen
    obtain ⟨⟨given, hgiven, -, rfl, rfl⟩, -⟩ := hdisc frame prev href _ ht
    right
    rw [hcurrent.dims_eq, hgiven]
    rfl
  · rintro hsync frame prev href ⟨t, regions⟩ hdetect
    have hcurrent := h.fits.current href
    refine ⟨?_, (h.fits.detect hdetect).covers⟩
    obtain ⟨given, hgiven, rfl⟩ := Option.map_eq_some_iff.mp
      (h.reference_eq.symm.trans hcurrent.frame_eq)
    rcases hsync with hinvalid | hdims
    · rw [hcurrent.valid] at hinvalid
      cases hinvalid
    · rw [hcurrent.dims_eq, hgiven] at hdims
      obtain ⟨hw, hh⟩ := Prod.mk.inj (Option.some.inj hdims)
      exact ⟨given, hgiven, rfl, hw.symm, hh.symm⟩

/-- Only a reference of other dimensions puts them out of step. -/
theorem Synchronized.step_iff (htracked : s.Tracked) (h : s.Synchronized)
    (hstep : s.step op = some s') : s'.Synchronized ↔ s.Allows op := by
  cases op with
  | detect frame =>
      obtain ⟨⟨t, regions⟩, hdetect, rfl⟩ := Option.map_eq_some_iff.mp hstep
      exact iff_of_true (.inr (htracked.fits.detect hdetect).dims_eq) trivial
  | updateReference frame =>
      obtain rfl := Option.some.inj hstep
      exact Iff.rfl
  | invalidate =>
      obtain rfl := Option.some.inj hstep
      exact iff_of_true (.inl rfl) trivial
  | setConfig config =>
      obtain rfl := Option.some.inj hstep
      exact iff_of_true (.inl rfl) trivial
  | resetStats =>
      obtain rfl := Option.some.inj hstep
      exact iff_of_true h trivial

/-- **The detector compares like with like, in every state on the way, exactly if
`update_reference` is never given a frame of other dimensions** while those of the last
`detect` still count. -/
theorem detector_disciplined_iff (config : DamageConfig) (ops : List DetectorOp) :
    (∀ pre s, pre <+: ops → Run (StepOf step) (start config) pre s → s.Disciplined) ↔
      ∀ pre op s s', pre ++ [op] <+: ops → Run (StepOf step) (start config) pre s →
        s.step op = some s' → s.Allows op := by
  apply Run.always_iff
  · exact (tracked_start config).disciplined_iff.mpr (.inl rfl)
  · intro pre s op s' hrun hs hstep
    have htracked := tracked_of_run hrun
    rw [(htracked.step hstep).disciplined_iff]
    exact Synchronized.step_iff htracked (htracked.disciplined_iff.mp hs) hstep

/-- A frame of a pixel above a pixel, then one of a single pixel for a reference. -/
def narrowedOps : List DetectorOp :=
  [.detect ⟨List.replicate 8 0, 1, 2⟩, .updateReference ⟨List.replicate 4 255, 1, 1⟩]

/-- The next frame of two pixels is compared with the single one. -/
theorem reference_of_other_dimensions :
    ∃ s, Run (StepOf step) (start .default) narrowedOps s ∧ ¬ s.Disciplined := by
  obtain ⟨s, hs⟩ : ∃ s, narrowedOps.foldlM step (start .default) = some s := ⟨_, rfl⟩
  refine ⟨s, Run.of_foldlM hs, ?_⟩
  rw [(tracked_of_run (Run.of_foldlM hs)).disciplined_iff]
  obtain rfl := Option.some.inj hs
  rintro (hinvalid | hdims)
  · cases hinvalid
  · cases hdims

end ObservedDetector

end LamcoRdp
