/-
LamcoRdp/Damage/Checked.lean

The damage detector with its `u32` arithmetic checked (`damage/mod.rs`).

`Damage/Detector.lean` and `Damage/Region.lean` compute as a release build does.
Here a sum that is no `u32`, a subtraction below zero and a division by zero stop
the detector.  Where nothing stops it the two agree: `detectChecked_eq`.

Merging never faults, because all that is merged lies inside the frame.  What can
fault is the counter of a tile, which is a `u32` and counts as many pixels as the
tile has; and a tile size of zero, by which the frame is divided.
`DamageDetector.neverFaults_iff` says that these are all.
-/
import LamcoRdp.Lib.Checked
import LamcoRdp.Damage.Tiles

namespace LamcoRdp

open Checked

/-! ### Regions -/

namespace DamageRegion

/-- `union`. -/
def unionChecked (r s : DamageRegion) : Checked DamageRegion := do
  let x := min r.x s.x
  let y := min r.y s.y
  let selfRight ← add 32 r.x r.width
  let otherRight ← add 32 s.x s.width
  let selfBottom ← add 32 r.y r.height
  let otherBottom ← add 32 s.y s.height
  let width ← sub (max selfRight otherRight) x
  let height ← sub (max selfBottom otherBottom) y
  .ok ⟨x, y, width, height⟩

/-- `is_adjacent`; the subtractions in the second branches saturate. -/
def isAdjacentChecked (r s : DamageRegion) (mergeDistance : ℕ) : Checked Bool := do
  let selfRight ← add 32 r.x r.width
  let selfBottom ← add 32 r.y r.height
  let otherRight ← add 32 s.x s.width
  let otherBottom ← add 32 s.y s.height
  let gapX ← (if s.x ≥ selfRight then sub s.x selfRight else .ok (r.x - otherRight))
  let gapY ← (if s.y ≥ selfBottom then sub s.y selfBottom else .ok (r.y - otherBottom))
  .ok (gapX ≤ mergeDistance && gapY ≤ mergeDistance)

variable {r s : DamageRegion}

theorem unionChecked_ok (hr : r.Fits) (hs : s.Fits) : r.unionChecked s = .ok (r.union s) := by
  obtain ⟨hx, hy⟩ := union_edges hr hs
  have hleft : min r.x s.x ≤ max (r.x + r.width) (s.x + s.width) := by omega
  have htop : min r.y s.y ≤ max (r.y + r.height) (s.y + s.height) := by omega
  unfold unionChecked
  simp only [add_ok hr.1, add_ok hr.2, add_ok hs.1, add_ok hs.2, ok_bind, sub_ok hleft,
    sub_ok htop]
  rw [← hx, ← hy]
  show Except.ok (DamageRegion.mk (r.union s).x (r.union s).y
    ((r.union s).x + (r.union s).width - (r.union s).x)
    ((r.union s).y + (r.union s).height - (r.union s).y)) = .ok (r.union s)
  rw [Nat.add_sub_cancel_left, Nat.add_sub_cancel_left]

theorem isAdjacentChecked_ok (hr : r.Fits) (hs : s.Fits) (mergeDistance : ℕ) :
    r.isAdjacentChecked s mergeDistance = .ok (r.isAdjacent s mergeDistance) := by
  have hgap : ∀ {a b c : ℕ}, (if a ≥ b then sub a b else .ok c)
      = Except.ok (if a ≥ b then a - b else c) := by
    intro a b c
    split
    · next h => exact sub_ok h
    · rfl
  unfold isAdjacentChecked isAdjacent
  simp only [add_ok hr.1, add_ok hr.2, add_ok hs.1, add_ok hs.2, ok_bind, hgap, hr.right_eq,
    hr.bottom_eq, hs.right_eq, hs.bottom_eq]

end DamageRegion

/-! ### Merging -/

/-- `mergeInto`, with the sums checked. -/
def mergeIntoChecked (mergeDistance : ℕ) (current : DamageRegion) :
    List DamageRegion → Checked (DamageRegion × List DamageRegion × Bool)
  | [] => .ok (current, [], false)
  | r :: rest => do
      if ← current.isAdjacentChecked r mergeDistance then
        let union ← current.unionChecked r
        let (merged, unused, _) ← mergeIntoChecked mergeDistance union rest
        .ok (merged, unused, true)
      else
        let (merged, unused, changed) ← mergeIntoChecked mergeDistance current rest
        .ok (merged, r :: unused, changed)

/-- `mergePass`, with the sums checked. -/
def mergePassChecked (mergeDistance : ℕ) :
    ℕ → List DamageRegion → Checked (List DamageRegion × Bool)
  | 0, regions => .ok (regions, false)
  | _, [] => .ok ([], false)
  | n + 1, r :: rest => do
      let (merged, unused, changed) ← mergeIntoChecked mergeDistance r rest
      let (out, changed') ← mergePassChecked mergeDistance n unused
      .ok (merged :: out, changed || changed')

/-- `mergeLoop`, with the sums checked. -/
def mergeLoopChecked (mergeDistance : ℕ) : ℕ → List DamageRegion → Checked (List DamageRegion)
  | 0, regions => .ok regions
  | n + 1, regions => do
      let (merged, changed) ← mergePassChecked mergeDistance regions.length regions
      if changed then mergeLoopChecked mergeDistance n merged else .ok merged

/-- `merge_regions`. -/
def mergeRegionsChecked (regions : List DamageRegion) (mergeDistance : ℕ) :
    Checked (List DamageRegion) :=
  if regions.length ≤ 1 then .ok regions
  else mergeLoopChecked mergeDistance regions.length regions

section Merging

variable {width height : ℕ} (hw : width < 2 ^ 32) (hh : height < 2 ^ 32) (d : ℕ)

include hw hh

theorem mergeIntoChecked_ok (current : DamageRegion) {rs : List DamageRegion}
    (h : AllInside (current :: rs) width height) :
    mergeIntoChecked d current rs = .ok (mergeInto d current rs) := by
  induction rs generalizing current with
  | nil => rfl
  | cons r rest ih =>
      simp only [AllInside, List.forall_mem_cons] at h
      obtain ⟨hcurrent, hr, hrest⟩ := h
      have hfits := hcurrent.fits hw hh
      have hfits' := hr.fits hw hh
      rw [mergeIntoChecked, DamageRegion.isAdjacentChecked_ok hfits hfits', ok_bind]
      by_cases hadj : current.isAdjacent r d = true
      · rw [if_pos hadj, DamageRegion.unionChecked_ok hfits hfits', ok_bind,
          ih (current.union r) (List.forall_mem_cons.mpr ⟨hcurrent.union hr hw hh, hrest⟩), ok_bind,
          mergeInto_of_adjacent hadj]
      · rw [if_neg hadj, ih current (List.forall_mem_cons.mpr ⟨hcurrent, hrest⟩), ok_bind,
          mergeInto_of_apart hadj]

theorem mergePassChecked_ok (n : ℕ) {rs : List DamageRegion} (h : AllInside rs width height) :
    mergePassChecked d n rs = .ok (mergePass d n rs) := by
  induction n generalizing rs with
  | zero => rfl
  | succ n ih =>
      cases rs with
      | nil => rfl
      | cons r rest =>
          have hout := ((mergeStable_absorbs hw hh).mergeInto d r rest).inside h
          rw [mergePassChecked, mergeIntoChecked_ok hw hh d r h, ok_bind, mergePass_cons]
          show (mergePassChecked d n (mergeInto d r rest).2.1 >>= _) = _
          rw [ih (List.forall_mem_cons.mp hout).2, ok_bind]

theorem mergeLoopChecked_ok (n : ℕ) {rs : List DamageRegion} (h : AllInside rs width height) :
    mergeLoopChecked d n rs = .ok (mergeLoop d n rs) := by
  induction n generalizing rs with
  | zero => rfl
  | succ n ih =>
      have hout := ((mergeStable_absorbs hw hh).mergePass d rs.length rs).inside h
      rw [mergeLoopChecked, mergePassChecked_ok hw hh d rs.length h, ok_bind, mergeLoop]
      dsimp only
      split
      · exact ih hout
      · rfl

/-- Merging regions of a frame never faults. -/
theorem mergeRegionsChecked_ok {rs : List DamageRegion} (h : AllInside rs width height) :
    mergeRegionsChecked rs d = .ok (mergeRegions rs d) := by
  unfold mergeRegionsChecked mergeRegions
  split
  · rfl
  · exact mergeLoopChecked_ok hw hh d rs.length h

end Merging

/-! ### Tiles -/

/-- `compare_tile`. -/
def compareTileChecked (prev curr : List UInt8) (tileX tileY tileWidth tileHeight stride : ℕ)
    (pixelThreshold : UInt8) : Checked ℕ :=
  let bytesPerRow := tileWidth * 4
  (List.range tileHeight).foldlM (fun totalDiff row =>
    let offset := (tileY + row) * stride + tileX * 4
    if offset + bytesPerRow > prev.length ∨ offset + bytesPerRow > curr.length then .ok totalDiff
    else add 32 totalDiff (countDifferentPixels pixelThreshold
      (slice prev offset bytesPerRow) (slice curr offset bytesPerRow))) 0

/-- A row has no more pixels that differ than pixels. -/
theorem countDifferentPixels_le (threshold : UInt8) (prev curr : List UInt8) :
    countDifferentPixels threshold prev curr * 4 ≤ prev.length := by
  fun_induction countDifferentPixels threshold prev curr with
  | case1 pb pg pr pa prev cb cg cr ca curr ih =>
      simp only [List.length_cons]
      split <;> omega
  | case2 => omega

/-- With the greatest threshold no pixel differs. -/
theorem countDifferentPixels_max (prev curr : List UInt8) :
    countDifferentPixels 255 prev curr = 0 := by
  fun_induction countDifferentPixels 255 prev curr with
  | case1 pb pg pr pa prev cb cg cr ca curr ih =>
      have hle : ∀ a b : UInt8, ¬ absDiff a b > UInt8.toNat 255 :=
        fun a b => Nat.not_lt.mpr (absDiff_le a b)
      rw [if_neg (by simp only [hle, or_self, not_false_eq_true]), ih]
  | case2 => rfl

section Compare

variable {prev curr : List UInt8} {tileX tileY tileWidth stride : ℕ} {threshold : UInt8}

/-- Counting that has room for all rows. -/
theorem compareTileChecked_ok (bound : ℕ) {tileHeight : ℕ} (hroom : tileHeight * bound < 2 ^ 32)
    (hrow : ∀ offset, countDifferentPixels threshold (slice prev offset (tileWidth * 4))
      (slice curr offset (tileWidth * 4)) ≤ bound) :
    compareTileChecked prev curr tileX tileY tileWidth tileHeight stride threshold
      = .ok (compareTile prev curr tileX tileY tileWidth tileHeight stride threshold) := by
  -- on the rows, with a bound on what has been counted
  suffices h : ∀ n ≤ tileHeight,
      compareTileChecked prev curr tileX tileY tileWidth n stride threshold
        = .ok (compareTile prev curr tileX tileY tileWidth n stride threshold) ∧
      compareTile prev curr tileX tileY tileWidth n stride threshold ≤ n * bound from
    (h tileHeight (le_refl _)).1
  intro n hn
  induction n with
  | zero => exact ⟨rfl, Nat.zero_le _⟩
  | succ n ih =>
      obtain ⟨hok, hle⟩ := ih (by omega)
      unfold compareTileChecked at hok ⊢
      unfold compareTile at hok hle ⊢
      dsimp only at hok hle ⊢
      rw [List.range_succ, foldlM_concat, hok, ok_bind, List.foldl_concat]
      generalize (List.range n).foldl _ 0 = total at hle
      have hcount := hrow ((tileY + n) * stride + tileX * 4)
      have hfit : (n + 1) * bound ≤ tileHeight * bound := Nat.mul_le_mul_right bound hn
      rw [Nat.succ_mul] at hfit ⊢
      split
      · exact ⟨rfl, by omega⟩
      · -- the sum stays below what all rows may give
        have hsum : total + countDifferentPixels threshold
            (slice prev ((tileY + n) * stride + tileX * 4) (tileWidth * 4))
            (slice curr ((tileY + n) * stride + tileX * 4) (tileWidth * 4)) < 2 ^ 32 := by
          omega
        rw [add_ok hsum, wrapU32, Nat.mod_eq_of_lt hsum]
        exact ⟨rfl, by omega⟩

end Compare

/-! ### The detector -/

/-- Tiles whose pixels a `u32` can count, or a threshold above which no pixel is. -/
structure DamageConfig.Sound (config : DamageConfig) : Prop where
  tile_pos : config.tileSize ≠ 0
  tile_le : config.tileSize ≤ 2 ^ 16 - 1 ∨ config.pixelThreshold = 255

namespace DamageDetector

/-- The test of a tile, with its offsets checked. -/
def tileDirtyChecked (d : DamageDetector) (prev curr : List UInt8) (width height tx ty : ℕ) :
    Checked Bool :=
  let tileSize := d.config.tileSize
  let tilePixels := wrapU32 (tileSize * tileSize)
  let diffThresholdCount := ((Binary32.ofNat tilePixels).mul d.config.diffThreshold).toU32
  let tileX := tx * tileSize
  let tileY := ty * tileSize
  let tileWidth := min tileSize (width - tileX)
  let tileHeight := min tileSize (height - tileY)
  if tileWidth = 0 ∨ tileHeight = 0 then .ok false
  else do
    let diffCount ← compareTileChecked prev curr tileX tileY tileWidth tileHeight (width * 4)
      d.config.pixelThreshold
    .ok (diffCount > diffThresholdCount)

/-- `detect_changes`. -/
def detectChangesChecked (d : DamageDetector) (prev curr : List UInt8) (width height : ℕ) :
    Checked (List DamageRegion) := do
  let dirty ← (List.range (d.tilesX * d.tilesY)).mapM fun idx =>
    d.tileDirtyChecked prev curr width height (idx % d.tilesX) (idx / d.tilesX)
  let regions := tilesToRegions dirty d.tilesX d.tilesY d.config.tileSize width height
  let merged ← mergeRegionsChecked regions d.config.mergeDistance
  .ok (merged.filter fun r => r.area ≥ d.config.minRegionArea)

/-- A frame that is damaged as a whole; its tiles are counted, by a size that may be 0. -/
def detectFullChecked (d : DamageDetector) (frame : List UInt8) (width height : ℕ) :
    Checked (DamageDetector × List DamageRegion) := do
  let tilesX ← div (width + d.config.tileSize - 1) d.config.tileSize
  let tilesY ← div (height + d.config.tileSize - 1) d.config.tileSize
  .ok
    ({ d with
        previousFrame := some frame
        previousDimensions := some (width, height)
        tilesX
        tilesY
        invalidated := false },
      [DamageRegion.fullFrame width height])

/-- `detect`. -/
def detectChecked (d : DamageDetector) (frame : List UInt8) (width height : ℕ) :
    Checked (DamageDetector × List DamageRegion) :=
  if frame.length ≠ expectedLen width height then .error .failedAssertion
  else
    match d.previousFrame with
    | none => d.detectFullChecked frame width height
    | some prev =>
        let dimensionsChanged := d.previousDimensions ≠ some (width, height)
        if d.invalidated ∨ dimensionsChanged then d.detectFullChecked frame width height
        else do
          let regions ← d.detectChangesChecked prev frame width height
          .ok ({ d with previousFrame := some frame }, regions)

variable {d : DamageDetector} {prev curr frame : List UInt8} {width height : ℕ}

theorem tileDirtyChecked_ok (h : d.config.Sound) (tx ty : ℕ) :
    d.tileDirtyChecked prev curr width height tx ty
      = .ok (d.tileDirty prev curr width height tx ty) := by
  unfold tileDirtyChecked tileDirty
  dsimp only
  split
  · rfl
  have hok : compareTileChecked prev curr (tx * d.config.tileSize) (ty * d.config.tileSize)
      (min d.config.tileSize (width - tx * d.config.tileSize))
      (min d.config.tileSize (height - ty * d.config.tileSize)) (width * 4)
      d.config.pixelThreshold = .ok (compareTile prev curr (tx * d.config.tileSize)
        (ty * d.config.tileSize) (min d.config.tileSize (width - tx * d.config.tileSize))
        (min d.config.tileSize (height - ty * d.config.tileSize)) (width * 4)
        d.config.pixelThreshold) := by
    -- small tiles have few pixels, and above the threshold 255 there are none
    rcases h.tile_le with hsmall | hmax
    · refine compareTileChecked_ok d.config.tileSize ?_ fun offset => ?_
      · calc min d.config.tileSize (height - ty * d.config.tileSize) * d.config.tileSize
            ≤ (2 ^ 16 - 1) * (2 ^ 16 - 1) :=
              Nat.mul_le_mul ((min_le_left _ _).trans hsmall) hsmall
          _ < 2 ^ 32 := by norm_num
      · have hle := countDifferentPixels_le d.config.pixelThreshold
          (slice prev offset (min d.config.tileSize (width - tx * d.config.tileSize) * 4))
          (slice curr offset (min d.config.tileSize (width - tx * d.config.tileSize) * 4))
        have hlen : (slice prev offset
            (min d.config.tileSize (width - tx * d.config.tileSize) * 4)).length
            ≤ min d.config.tileSize (width - tx * d.config.tileSize) * 4 := List.length_take_le _ _
        omega
    · refine compareTileChecked_ok 0 (by norm_num) fun offset => ?_
      rw [hmax, countDifferentPixels_max]
  rw [hok, ok_bind]

theorem detectChangesChecked_ok (h : d.config.Sound) (hw : width < 2 ^ 32)
    (hh : height < 2 ^ 32) : d.detectChangesChecked prev curr width height
      = .ok (d.detectChanges prev curr width height) := by
  unfold detectChangesChecked
  rw [mapM_ok fun idx _ => tileDirtyChecked_ok h (idx % d.tilesX) (idx / d.tilesX), ok_bind]
  dsimp only
  rw [mergeRegionsChecked_ok hw hh d.config.mergeDistance tilesToRegions_inside, ok_bind]
  rfl

/-- **A sound detector does what the unchecked one does**, on every frame of the length
that it asks for. -/
theorem detectChecked_eq (h : d.config.Sound) (hw : width < 2 ^ 32) (hh : height < 2 ^ 32)
    (hlen : frame.length = expectedLen width height) :
    ∃ r, d.detectChecked frame width height = .ok r ∧ d.detect frame width height = some r := by
  have hfull : ∃ r, d.detectFullChecked frame width height = .ok r ∧
      d.detectFull frame width height = some r := by
    unfold detectFullChecked detectFull
    rw [div_ok h.tile_pos, ok_bind, div_ok h.tile_pos, ok_bind, if_neg h.tile_pos]
    exact ⟨_, rfl, rfl⟩
  unfold detectChecked detect
  rw [if_neg (not_not.mpr hlen), if_neg (not_not.mpr hlen)]
  cases d.previousFrame with
  | none => exact hfull
  | some prev =>
      dsimp only
      split
      · exact hfull
      · rw [detectChangesChecked_ok h hw hh, ok_bind]
        exact ⟨_, rfl, rfl⟩

end DamageDetector

/-! ### Runs -/

/-- A frame of positive size, tightly packed in a buffer that a `Vec` can hold. -/
structure PackedFrame where
  width : ℕ
  height : ℕ
  data : List UInt8
  width_pos : 0 < width
  height_pos : 0 < height
  width_lt : width < 2 ^ 32
  height_lt : height < 2 ^ 32
  length_eq : data.length = width * height * 4
  length_lt : data.length < 2 ^ 63

theorem PackedFrame.expectedLen_eq (f : PackedFrame) :
    f.data.length = DamageDetector.expectedLen f.width f.height := by
  have hlt := f.length_lt
  rw [f.length_eq] at hlt ⊢
  exact (Nat.mod_eq_of_lt (by omega)).symm

/-- A frame of one colour. -/
def PackedFrame.solid (width height : ℕ) (byte : UInt8) (hw : 0 < width ∧ width < 2 ^ 32)
    (hh : 0 < height ∧ height < 2 ^ 32) (hsize : width * height * 4 < 2 ^ 63) : PackedFrame where
  width := width
  height := height
  data := List.replicate (width * height * 4) byte
  width_pos := hw.1
  height_pos := hh.1
  width_lt := hw.2
  height_lt := hh.2
  length_eq := List.length_replicate
  length_lt := by rwa [List.length_replicate]

/-- What the pipeline asks of the detector. -/
inductive DetectorCall
  | detect (frame : PackedFrame)
  | updateReference (frame : PackedFrame)
  | invalidate

namespace DamageDetector

/-- A call of the detector. -/
def call (d : DamageDetector) : DetectorCall → Checked DamageDetector
  | .detect frame => do
      let (next, _) ← d.detectChecked frame.data frame.width frame.height
      .ok next
  | .updateReference frame => .ok (d.updateReference frame.data)
  | .invalidate => .ok d.invalidate

variable {d : DamageDetector} {config : DamageConfig}

theorem detect_config {r : DamageDetector × List DamageRegion} {frame : List UInt8}
    {width height : ℕ} (h : d.detect frame width height = some r) : r.1.config = d.config := by
  have hfull : d.detectFull frame width height = some r → r.1.config = d.config := by
    intro h
    unfold detectFull at h
    split at h
    · cases h
    · obtain rfl := Option.some.inj h
      rfl
  unfold detect at h
  split at h
  · cases h
  split at h
  · exact hfull h
  · dsimp only at h
    split at h
    · exact hfull h
    · obtain rfl := Option.some.inj h
      rfl

/-- A sound configuration never stops the detector. -/
theorem neverFaults_of_sound (h : config.Sound) : NeverFaults call (new config) := by
  refine NeverFaults.of_invariant (I := fun d => d.config = config) ?_ rfl
  rintro d c rfl
  cases c with
  | detect frame =>
      obtain ⟨r, hr, hdetect⟩ :=
        detectChecked_eq h frame.width_lt frame.height_lt frame.expectedLen_eq
      refine ⟨r.1, ?_, detect_config hdetect⟩
      show (d.detectChecked frame.data frame.width frame.height >>= fun p => .ok p.1) = .ok r.1
      rw [hr, ok_bind]
  | updateReference frame => exact ⟨_, rfl, rfl⟩
  | invalidate => exact ⟨_, rfl, rfl⟩

/-! ### And only these -/

/-- All pixels of a black and of a white row differ. -/
theorem countDifferentPixels_solid {threshold : UInt8} (h : threshold ≠ 255) (n : ℕ) :
    countDifferentPixels threshold (List.replicate (n * 4) 0) (List.replicate (n * 4) 255) = n := by
  have hlt := toNat_lt_of_ne_max h
  have hdiff : absDiff 0 255 > threshold.toNat := hlt
  induction n with
  | zero => rfl
  | succ n ih =>
      rw [Nat.succ_mul]
      simp only [List.replicate_succ, countDifferentPixels, hdiff, true_or, if_true, ih]
      exact Nat.add_comm 1 n

theorem slice_replicate {n off len : ℕ} (h : off + len ≤ n) (b : UInt8) :
    slice (List.replicate n b) off len = List.replicate len b := by
  unfold slice
  rw [List.drop_replicate, List.take_replicate, Nat.min_eq_left (by omega)]

/-- The counter of a tile of which all pixels differ. -/
theorem compareTileChecked_solid {threshold : UInt8} (h : threshold ≠ 255) {width height n t : ℕ}
    (hn : n ≤ height)
    (hok : compareTileChecked (List.replicate (width * height * 4) 0)
      (List.replicate (width * height * 4) 255) 0 0 width n (width * 4) threshold = .ok t) :
    t = n * width ∧ t < 2 ^ 32 := by
  induction n generalizing t with
  | zero =>
      obtain rfl := Except.ok.inj hok
      exact ⟨(Nat.zero_mul _).symm, by norm_num⟩
  | succ n ih =>
      unfold compareTileChecked at hok ih
      dsimp only at hok ih
      rw [List.range_succ, foldlM_concat] at hok
      obtain ⟨total, htotal, hok⟩ := bind_eq_ok.mp hok
      obtain ⟨rfl, -⟩ := ih (by omega) htotal
      have hrow : (0 + n) * (width * 4) + 0 * 4 + width * 4 ≤ width * height * 4 := by
        calc (0 + n) * (width * 4) + 0 * 4 + width * 4 = width * (n + 1) * 4 := by ring
          _ ≤ width * height * 4 := Nat.mul_le_mul_right 4 (Nat.mul_le_mul_left width hn)
      rw [List.length_replicate, List.length_replicate, if_neg (by omega), slice_replicate hrow,
        slice_replicate hrow, countDifferentPixels_solid h, add_eq_ok] at hok
      obtain ⟨hlt, rfl⟩ := hok
      exact ⟨(Nat.succ_mul n width).symm, hlt⟩

/-- The detector after its first frame. -/
def seen (config : DamageConfig) (frame : PackedFrame) : DamageDetector where
  config := config
  previousFrame := some frame.data
  previousDimensions := some (frame.width, frame.height)
  tilesX := divCeil frame.width config.tileSize
  tilesY := divCeil frame.height config.tileSize
  invalidated := false

/-- The first frame is divided into tiles. -/
theorem NeverFaults.first (h : NeverFaults call (new config)) (frame : PackedFrame) :
    config.tileSize ≠ 0 ∧ NeverFaults call (seen config frame) := by
  obtain ⟨d, hd, hnext⟩ := h.next (.detect frame)
  obtain ⟨r, hr, hrd⟩ := bind_eq_ok.mp hd
  obtain rfl := Except.ok.inj hrd
  unfold detectChecked at hr
  rw [if_neg (not_not.mpr frame.expectedLen_eq)] at hr
  obtain ⟨tilesX, htilesX, hr⟩ := bind_eq_ok.mp hr
  obtain ⟨hne, rfl⟩ := div_eq_ok.mp htilesX
  obtain ⟨tilesY, htilesY, hr⟩ := bind_eq_ok.mp hr
  obtain ⟨-, rfl⟩ := div_eq_ok.mp htilesY
  obtain rfl := Except.ok.inj hr
  exact ⟨hne, hnext⟩

/-- The second frame is compared with the first one, tile by tile. -/
theorem NeverFaults.second {frame : PackedFrame} (h : NeverFaults call (seen config frame))
    (frame' : PackedFrame) (hwidth : frame'.width = frame.width)
    (hheight : frame'.height = frame.height) (idx : ℕ)
    (hidx : idx < divCeil frame.width config.tileSize * divCeil frame.height config.tileSize) :
    ∃ flag, (seen config frame).tileDirtyChecked frame.data frame'.data frame.width frame.height
      (idx % divCeil frame.width config.tileSize) (idx / divCeil frame.width config.tileSize)
      = .ok flag := by
  obtain ⟨d, hd, -⟩ := h.next (.detect frame')
  obtain ⟨r, hr, -⟩ := bind_eq_ok.mp hd
  unfold detectChecked at hr
  have hprev : (seen config frame).previousFrame = some frame.data := rfl
  have hsame : ¬ ((seen config frame).invalidated = true ∨
      (seen config frame).previousDimensions ≠ some (frame.width, frame.height)) := by
    simp [seen]
  rw [if_neg (not_not.mpr frame'.expectedLen_eq), hwidth, hheight, hprev] at hr
  dsimp only at hr
  rw [if_neg hsame] at hr
  obtain ⟨regions, hregions, -⟩ := bind_eq_ok.mp hr
  obtain ⟨dirty, hdirty, -⟩ := bind_eq_ok.mp hregions
  exact of_mapM_ok hdirty idx (List.mem_range.mpr hidx)

/-- A white frame after a black one, both one tile large. -/
theorem NeverFaults.tile_le (h : NeverFaults call (new config)) :
    config.tileSize ≤ 2 ^ 16 - 1 ∨ config.pixelThreshold = 255 := by
  by_contra hbad
  rw [not_or, Nat.not_le] at hbad
  obtain ⟨hbig, hthreshold⟩ := hbad
  -- two frames of one tile of 65536 by 65536 pixels, all of them different
  have hside : 0 < 2 ^ 16 ∧ 2 ^ 16 < 2 ^ 32 := by norm_num
  have hsize : 2 ^ 16 * 2 ^ 16 * 4 < 2 ^ 63 := by norm_num
  have hone : divCeil (2 ^ 16) config.tileSize = 1 := by
    unfold divCeil
    rw [Nat.div_eq_iff (by omega)]
    omega
  obtain ⟨-, hnext⟩ := NeverFaults.first h (.solid (2 ^ 16) (2 ^ 16) 0 hside hside hsize)
  obtain ⟨flag, hflag⟩ := NeverFaults.second hnext
    (.solid (2 ^ 16) (2 ^ 16) 255 hside hside hsize) rfl rfl 0 (by
      show 0 < divCeil (2 ^ 16) config.tileSize * divCeil (2 ^ 16) config.tileSize
      rw [hone]
      norm_num)
  -- the tile is the whole frame, and its count is no `u32`
  have htile : min config.tileSize (2 ^ 16 - 0 * config.tileSize) = 2 ^ 16 := by omega
  change (seen config (.solid (2 ^ 16) (2 ^ 16) 0 hside hside hsize)).tileDirtyChecked
    (List.replicate (2 ^ 16 * 2 ^ 16 * 4) 0) (List.replicate (2 ^ 16 * 2 ^ 16 * 4) 255)
    (2 ^ 16) (2 ^ 16) (0 % divCeil (2 ^ 16) config.tileSize)
    (0 / divCeil (2 ^ 16) config.tileSize) = .ok flag at hflag
  unfold tileDirtyChecked at hflag
  dsimp only [seen] at hflag
  rw [hone, Nat.zero_mod, Nat.zero_div, htile, if_neg (by norm_num), Nat.zero_mul] at hflag
  obtain ⟨count, hcount, -⟩ := bind_eq_ok.mp hflag
  obtain ⟨rfl, hlt⟩ := compareTileChecked_solid hthreshold (le_refl _) hcount
  norm_num at hlt

/-- **Exactly the sound configurations keep the detector going**, on all frames. -/
theorem neverFaults_iff : NeverFaults call (new config) ↔ config.Sound := by
  refine ⟨fun h => ⟨?_, NeverFaults.tile_le h⟩, neverFaults_of_sound⟩
  exact (NeverFaults.first h
    (.solid 1 1 0 (by norm_num) (by norm_num) (by norm_num))).1

end DamageDetector

end LamcoRdp
