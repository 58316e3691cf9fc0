/-
LamcoRdp/Server/FrameOps.lean

The pixel buffer operations of the display loop (`server/display_handler.rs`):
orientation, padding, and cutting rectangles out of a frame.

A slice out of range is a panic; the operations that index buffers return
`none` there.  `u32` arithmetic wraps as in a release build.
-/
import LamcoRdp.Damage.Detector
import LamcoRdp.Egfx.Encoder
import LamcoRdp.Lib.Buffer
import LamcoRdp.Lib.RowMajor

namespace LamcoRdp

open Buffer

/-! ### Frames -/

/-- `FrameBuffer`: the content of a DMA-BUF is not in memory. -/
inductive FrameBuffer
  | memory (data : List UInt8)
  | dmaBuf
  deriving DecidableEq, Repr

/-- `VideoFrame` of the capture library, the fields the loop reads. -/
structure VideoFrame where
  buffer : FrameBuffer
  width : ℕ
  height : ℕ
  stride : ℕ
  /-- `transform()` -/
  transform : ℕ
  /-- `is_bottom_up()` -/
  isBottomUp : Bool
  damageRegions : List DamageRegion
  pts : ℕ
  deriving DecidableEq, Repr

/-- The four bytes of a pixel in a buffer whose rows start `stride` bytes apart. -/
def pixelAt (stride : ℕ) (buf : List UInt8) (x y : ℕ) : Fin 4 → Option UInt8 :=
  fun b => buf[y * stride + (4 * x + b)]?

/-! ### Orientation -/

/-- `[display] frame_transform`. -/
inductive FrameTransformConfig
  | auto | none | rot90 | rot180 | rot270
  | flipped | flipped90 | flipped180 | flipped270
  /-- a string `resolve_transform` does not know -/
  | unknown
  deriving DecidableEq, Repr

/-- `resolve_transform`. -/
def resolveTransform (configValue : FrameTransformConfig) (pwTransform : ℕ) : ℕ :=
  match configValue with
  | .auto => pwTransform
  | .none => 0
  | .rot90 => 1
  | .rot180 => 2
  | .rot270 => 3
  | .flipped => 4
  | .flipped90 => 5
  | .flipped180 => 6
  | .flipped270 => 7
  | .unknown => pwTransform

/-- `slice::swap`. -/
def swap? (data : List UInt8) (i j : ℕ) : Option (List UInt8) :=
  if i < data.length ∧ j < data.length then
    some ((data.set i (data.getD j 0)).set j (data.getD i 0))
  else none

/-- `flip_vertical`: the loop runs while `top < bottom`, `height / 2` times.  Of
no row at all the index of the last one wraps, and the first swap panics. -/
def flipVertical (data : List UInt8) (height stride : ℕ) : Option (List UInt8) :=
  if height = 0 then (if stride = 0 then some data else none)
  else (List.range (height / 2)).foldlM (fun data k =>
    (List.range stride).foldlM (fun data i =>
      swap? data (k * stride + i) ((height - 1 - k) * stride + i)) data) data

/-- `flip_horizontal`; of a row without pixels the first swap panics. -/
def flipHorizontal (data : List UInt8) (width height stride bpp : ℕ) : Option (List UInt8) :=
  (List.range height).foldlM (fun data row =>
    if width = 0 then none
    else (List.range (width / 2)).foldlM (fun data k =>
      (List.range bpp).foldlM (fun data b =>
        swap? data (row * stride + k * bpp + b) (row * stride + (width - 1 - k) * bpp + b))
        data) data) data

/-- `transpose`, with the new stride. -/
def transpose (data : List UInt8) (width height stride bpp : ℕ) : Option (List UInt8 × ℕ) :=
  let newStride := height * bpp
  let out := List.replicate (newStride * width) 0
  let out := (List.range height).foldlM (fun out y =>
    (List.range width).foldlM (fun out x => do
      let px ← read? data (y * stride + x * bpp) bpp
      write? out (x * newStride + y * bpp) px) out) out
  out.map fun out => (out, wrapU32 newStride)

/-- The rows in reverse order, copied whole. -/
def reverseRows (data : List UInt8) (height stride : ℕ) : Option (List UInt8) :=
  (List.range height).reverse.foldlM (fun buf row => do
    let r ← read? data (row * stride) stride
    return buf ++ r) []

/-- `apply_frame_transform`: data, width, height and stride of the result. -/
def applyFrameTransform (data : List UInt8) (width height stride transform bpp : ℕ) :
    Option (List UInt8 × ℕ × ℕ × ℕ) :=
  match transform with
  | 0 => some (data, width, height, stride)
  | 1 => do
      let (transposed, newStride) ← transpose data width height stride bpp
      let buf ← flipHorizontal transposed height width newStride bpp
      return (buf, height, width, newStride)
  | 2 => do
      let buf ← flipVertical data height stride
      let buf ← flipHorizontal buf width height stride bpp
      return (buf, width, height, stride)
  | 3 => do
      let (transposed, newStride) ← transpose data width height stride bpp
      let buf ← flipVertical transposed width newStride
      return (buf, height, width, newStride)
  | 4 => do
      let buf ← flipHorizontal data width height stride bpp
      return (buf, width, height, stride)
  | 5 => do
      let (transposed, newStride) ← transpose data width height stride bpp
      return (transposed, height, width, newStride)
  | 6 => do
      let buf ← reverseRows data height stride
      return (buf, width, height, stride)
  | 7 => do
      let buf ← flipHorizontal data width height stride bpp
      let (transposed, newStride) ← transpose buf width height stride bpp
      return (transposed, height, width, newStride)
  | _ => some (data, width, height, stride)

/-- The transform the loop applies to a frame. -/
def VideoFrame.transformValue (configValue : FrameTransformConfig) (frame : VideoFrame) : ℕ :=
  let transformValue := resolveTransform configValue frame.transform
  if transformValue = 0 ∧ frame.isBottomUp then 6 else transformValue

/-! ### Padding -/

/-- `pad_frame_to_aligned`. -/
def padFrameToAligned (data : List UInt8) (width height alignedWidth alignedHeight : ℕ) :
    Option (List UInt8) := do
  let srcStride := wrapU32 (width * 4)
  let dstStride := wrapU32 (alignedWidth * 4)
  let padded := List.replicate (wrapU32 (alignedWidth * alignedHeight * 4)) 0
  let padded ← (List.range height).foldlM (fun padded y => do
    let srcOffset := wrapU32 (y * srcStride)
    let row ← read? data srcOffset srcStride
    let padded ← write? padded (wrapU32 (y * dstStride)) row
    -- nothing to do unless `aligned_width > width`
    let lastPixelSrc := srcOffset + wrapSubU32 srcStride 4
    (List.range (alignedWidth - width)).foldlM (fun padded k => do
      let x := width + k
      let px ← read? data lastPixelSrc 4
      write? padded (wrapU32 (y * dstStride + x * 4)) px) padded) padded
  if alignedHeight > height then
    let lastRow ← read? padded (wrapU32 (wrapSubU32 height 1 * dstStride)) dstStride
    (List.range (alignedHeight - height)).foldlM (fun padded k =>
      write? padded (wrapU32 ((height + k) * dstStride)) lastRow) padded
  else return padded

/-! ### Rectangles -/

/-- `u32::saturating_add`. -/
def saturatingAddU32 (a b : ℕ) : ℕ := min (a + b) (2 ^ 32 - 1)

/-- A damage region clipped to the frame, unless nothing is left of it. -/
def DamageRegion.clip (r : DamageRegion) (frameWidth frameHeight : ℕ) : Option DamageRegion :=
  let left := min r.x frameWidth
  let top := min r.y frameHeight
  let right := min (saturatingAddU32 r.x r.width) frameWidth
  let bottom := min (saturatingAddU32 r.y r.height) frameHeight
  if left < right ∧ top < bottom then some ⟨left, top, right - left, bottom - top⟩ else none

/-- `bounding_damage_region`. -/
def boundingDamageRegion (regions : List DamageRegion) (frameWidth frameHeight : ℕ) :
    Option DamageRegion :=
  match regions.filterMap fun r => r.clip frameWidth frameHeight with
  | [] => none
  | r :: rs => some (rs.foldl DamageRegion.union r)

/-- A `usize` operation that checks for overflow. -/
def checkedUsize (n : ℕ) : Option ℕ := if n < 2 ^ 64 then some n else none

/-- `compact_bgra_region`. -/
def compactBgraRegion (frame : List UInt8) (frameStride : ℕ) (region : DamageRegion) :
    Option (List UInt8) := do
  let rowBytes ← checkedUsize (region.width * 4)
  let xOffset ← checkedUsize (region.x * 4)
  if region.height = 0 then none
  let lastRow ← checkedUsize (region.y + (region.height - 1))
  let required ← checkedUsize (lastRow * frameStride)
  let required ← checkedUsize (required + xOffset)
  let required ← checkedUsize (required + rowBytes)
  let rowEnd ← checkedUsize (xOffset + rowBytes)
  if required > frame.length ∨ rowEnd > frameStride then none
  let _ ← checkedUsize (rowBytes * region.height)
  let _ ← checkedUsize (region.y + region.height)
  return rows frame region.height
    (fun row => (region.y + row) * frameStride + xOffset) rowBytes

/-- The tightly packed copy of a frame that the Planar branch makes. -/
def tightPixels (data : List UInt8) (stride rowBytes height : ℕ) : List UInt8 :=
  if stride = rowBytes then data.take (rowBytes * height)
  else rows data height (fun row => row * stride) rowBytes

/-! ### What padding does -/

section Padding

variable {data : List UInt8} {width height alignedWidth alignedHeight : ℕ}

/-- The rows written so far: each is the row of the frame, its last pixel
repeated up to the aligned width. -/
def PaddedRows (data : List UInt8) (width alignedWidth size n : ℕ) (padded : List UInt8) : Prop :=
  padded.length = size ∧ ∀ y < n, ∀ x < alignedWidth,
    pixelAt (alignedWidth * 4) padded x y = pixelAt (width * 4) data (min x (width - 1)) y

/-- An index below a product of sides. -/
theorem rowOffset_le {y n w : ℕ} (hy : y < n) : y * (w * 4) + w * 4 ≤ w * n * 4 := by
  have hend := RowMajor.rowEnd_le (w * 4) hy
  have hring : n * (w * 4) = w * n * 4 := by ring
  omega

/-- A write leaves the pixels outside it. -/
theorem pixelAt_of_eq_outside {stride off len : ℕ} {buf buf' : List UInt8} {x y : ℕ}
    (h : ∀ i, i < off ∨ off + len ≤ i → buf'[i]? = buf[i]?)
    (hout : y * stride + (4 * x + 3) < off ∨ off + len ≤ y * stride + 4 * x) :
    pixelAt stride buf' x y = pixelAt stride buf x y := by
  funext b
  refine h _ ?_
  have hb := b.isLt
  omega

/-- The pixels inside a write are those of its source. -/
theorem pixelAt_of_eq_inside {stride stride' len : ℕ} {buf src : List UInt8} {x y x' y' : ℕ}
    (off off' k : ℕ) (h : ∀ i < len, buf[off + i]? = src[off' + i]?) (hk : k + 4 ≤ len)
    (hpos : y * stride + 4 * x = off + k) (hpos' : y' * stride' + 4 * x' = off' + k) :
    pixelAt stride buf x y = pixelAt stride' src x' y' := by
  funext b
  have hb := b.isLt
  have hi : y * stride + (4 * x + b) = off + (k + b) := by omega
  have hi' : y' * stride' + (4 * x' + b) = off' + (k + b) := by omega
  show buf[y * stride + (4 * x + b)]? = src[y' * stride' + (4 * x' + b)]?
  rw [hi, hi']
  exact h (k + b) (by omega)

/-- Inside a row: the rows above are done, and of this row the first `n` pixels. -/
def PaddedPixels (data : List UInt8) (width alignedWidth size y n : ℕ) (padded : List UInt8) :
    Prop :=
  PaddedRows data width alignedWidth size y padded ∧
    ∀ x < n, pixelAt (alignedWidth * 4) padded x y
      = pixelAt (width * 4) data (min x (width - 1)) y

/-- A write inside row `y` leaves the rows above. -/
theorem PaddedRows.write {size y off : ℕ} {padded padded' src : List UInt8}
    (hp : PaddedRows data width alignedWidth size y padded)
    (hlen : padded'.length = padded.length)
    (hout : ∀ i, i < off ∨ off + src.length ≤ i → padded'[i]? = padded[i]?)
    (hoff : y * (alignedWidth * 4) ≤ off) :
    PaddedRows data width alignedWidth size y padded' := by
  refine ⟨hlen.trans hp.1, ?_⟩
  intro y' hy' x hx
  have hbelow := rowOffset_le (w := alignedWidth) hy'
  have hcomm : alignedWidth * y * 4 = y * (alignedWidth * 4) := by ring
  rw [pixelAt_of_eq_outside hout (Or.inl (by omega))]
  exact hp.2 y' hy' x hx

/-- The copy of a row. -/
theorem copyRow_spec (hwa : width ≤ alignedWidth) (hha : height ≤ alignedHeight)
    (hlen : width * height * 4 ≤ data.length) {y : ℕ} (hy : y < height) {padded : List UInt8}
    (hp : PaddedRows data width alignedWidth (alignedWidth * alignedHeight * 4) y padded) :
    ∃ row padded', read? data (y * (width * 4)) (width * 4) = some row ∧
      write? padded (y * (alignedWidth * 4)) row = some padded' ∧
      PaddedPixels data width alignedWidth (alignedWidth * alignedHeight * 4) y width padded' := by
  have hsrc : y * (width * 4) + width * 4 ≤ data.length := (rowOffset_le hy).trans hlen
  have hdst : y * (alignedWidth * 4) + alignedWidth * 4 ≤ alignedWidth * alignedHeight * 4 :=
    rowOffset_le (by omega)
  obtain ⟨row, hread, hrowlen, hrow⟩ := read?_of_le data (y * (width * 4)) (width * 4) hsrc
  have hplen := hp.1
  obtain ⟨padded', hwrite, hlen', hin, hout⟩ :=
    write?_of_le padded (y * (alignedWidth * 4)) row (by omega)
  refine ⟨row, padded', hread, hwrite, hp.write hlen' hout (Nat.le_refl _), ?_⟩
  intro x hx
  have hmin : min x (width - 1) = x := by omega
  rw [hmin]
  refine pixelAt_of_eq_inside (y * (alignedWidth * 4)) (y * (width * 4)) (4 * x)
    (fun i hi => ?_) (show 4 * x + 4 ≤ width * 4 by omega) rfl rfl
  rw [hin i (by omega), hrow i hi]

/-- One more copy of the last pixel of a row. -/
theorem copyLastPixel_spec (hw : 1 ≤ width) (hha : height ≤ alignedHeight) {y x : ℕ}
    (hy : y < height) (hx : width ≤ x) (hxa : x < alignedWidth) {padded px : List UInt8}
    (hpxlen : px.length = 4)
    (hpx : ∀ i < 4, px[i]? = data[y * (width * 4) + (width * 4 - 4) + i]?)
    (hp : PaddedPixels data width alignedWidth (alignedWidth * alignedHeight * 4) y x padded) :
    ∃ padded', write? padded (y * (alignedWidth * 4) + x * 4) px = some padded' ∧
      PaddedPixels data width alignedWidth (alignedWidth * alignedHeight * 4) y (x + 1)
        padded' := by
  have hdst : y * (alignedWidth * 4) + alignedWidth * 4 ≤ alignedWidth * alignedHeight * 4 :=
    rowOffset_le (by omega)
  have hplen := hp.1.1
  obtain ⟨padded', hwrite, hlen', hin, hout⟩ :=
    write?_of_le padded (y * (alignedWidth * 4) + x * 4) px (by omega)
  refine ⟨padded', hwrite, hp.1.write hlen' hout (by omega), ?_⟩
  intro x' hx'
  rcases Nat.lt_succ_iff_lt_or_eq.mp hx' with hlt | rfl
  · rw [pixelAt_of_eq_outside hout (Or.inl (by omega))]
    exact hp.2 x' hlt
  · have hmin : min x' (width - 1) = width - 1 := by omega
    rw [hmin]
    refine pixelAt_of_eq_inside (y * (alignedWidth * 4) + x' * 4)
      (y * (width * 4) + (width * 4 - 4)) 0 (fun i hi => ?_) (Nat.le_refl 4)
      (by omega) (by omega)
    rw [hin i (by omega), hpx i hi]

theorem wrapU32_of_lt {n : ℕ} (h : n < 2 ^ 32) : wrapU32 n = n := Nat.mod_eq_of_lt h

theorem wrapSubU32_of_le {a b : ℕ} (hb : b ≤ a) (ha : a < 2 ^ 32) : wrapSubU32 a b = a - b := by
  unfold wrapSubU32
  omega

/-- The loop over the rows of the frame. -/
theorem padRows_spec (hw : 1 ≤ width) (hwa : width ≤ alignedWidth)
    (hha : height ≤ alignedHeight) (hfit : alignedWidth * alignedHeight * 4 < 2 ^ 32)
    (hlen : width * height * 4 ≤ data.length) :
    ∃ padded, (List.range height).foldlM (fun padded y => do
        let row ← read? data (wrapU32 (y * (width * 4))) (width * 4)
        let padded ← write? padded (wrapU32 (y * (alignedWidth * 4))) row
        (List.range (alignedWidth - width)).foldlM (fun padded k => do
          let px ← read? data (wrapU32 (y * (width * 4)) + wrapSubU32 (width * 4) 4) 4
          write? padded (wrapU32 (y * (alignedWidth * 4) + (width + k) * 4)) px) padded)
        (List.replicate (alignedWidth * alignedHeight * 4) 0) = some padded ∧
      PaddedRows data width alignedWidth (alignedWidth * alignedHeight * 4) height padded := by
  refine foldlM_range_inv (PaddedRows data width alignedWidth (alignedWidth * alignedHeight * 4))
    height ⟨List.length_replicate, fun y hy => absurd hy (Nat.not_lt_zero y)⟩ ?_
  intro y hy padded hp
  -- no offset of the source wraps
  have hdst := rowOffset_le (w := alignedWidth) (show y < alignedHeight by omega)
  have hle : y * (width * 4) ≤ y * (alignedWidth * 4) := Nat.mul_le_mul_left y (by omega)
  have hsrc : y * (width * 4) + width * 4 ≤ data.length := (rowOffset_le hy).trans hlen
  rw [wrapU32_of_lt (show y * (width * 4) < 2 ^ 32 by omega),
    wrapU32_of_lt (show y * (alignedWidth * 4) < 2 ^ 32 by omega),
    wrapSubU32_of_le (show 4 ≤ width * 4 by omega) (by omega)]
  -- the row is copied, then its last pixel into the columns on its right
  obtain ⟨row, p₁, hread, hwrite, hp₁⟩ := copyRow_spec hwa hha hlen hy hp
  obtain ⟨px, hreadPx, hpxlen, hpx⟩ :=
    read?_of_le data (y * (width * 4) + (width * 4 - 4)) 4 (by omega)
  have hpixel : ∀ k < alignedWidth - width, ∀ p,
      PaddedPixels data width alignedWidth (alignedWidth * alignedHeight * 4) y (width + k) p →
      ∃ p', write? p (wrapU32 (y * (alignedWidth * 4) + (width + k) * 4)) px = some p' ∧
        PaddedPixels data width alignedWidth (alignedWidth * alignedHeight * 4) y
          (width + (k + 1)) p' := by
    intro k hk p hpk
    rw [wrapU32_of_lt (show y * (alignedWidth * 4) + (width + k) * 4 < 2 ^ 32 by omega)]
    exact copyLastPixel_spec hw hha hy (Nat.le_add_right width k) (by omega) hpxlen hpx hpk
  obtain ⟨p₂, hloop, hp₂⟩ := foldlM_range_inv
    (fun k => PaddedPixels data width alignedWidth (alignedWidth * alignedHeight * 4) y
      (width + k)) (alignedWidth - width) hp₁ hpixel
  refine ⟨p₂, ?_, hp₂.1.1, ?_⟩
  · simpa only [hread, hwrite, hreadPx, Option.bind_eq_bind, Option.bind_some] using hloop
  · -- the rows before `y` are untouched, and row `y` is complete
    intro y' hy' x hx
    rcases Nat.lt_succ_iff_lt_or_eq.mp hy' with hlt | rfl
    · exact hp₂.1.2 y' hlt x hx
    · exact hp₂.2 x (by omega)

/-- The loop that repeats the last row. -/
theorem padBottom_spec (hh : 1 ≤ height) (hha : height ≤ alignedHeight)
    (hfit : alignedWidth * alignedHeight * 4 < 2 ^ 32) {padded : List UInt8}
    (hp : PaddedRows data width alignedWidth (alignedWidth * alignedHeight * 4) height padded) :
    ∃ lastRow out, read? padded ((height - 1) * (alignedWidth * 4)) (alignedWidth * 4)
        = some lastRow ∧
      (List.range (alignedHeight - height)).foldlM (fun padded k =>
        write? padded (wrapU32 ((height + k) * (alignedWidth * 4))) lastRow) padded = some out ∧
      out.length = alignedWidth * alignedHeight * 4 ∧
      ∀ y < alignedHeight, ∀ x < alignedWidth, pixelAt (alignedWidth * 4) out x y
        = pixelAt (width * 4) data (min x (width - 1)) (min y (height - 1)) := by
  have hlast := rowOffset_le (w := alignedWidth) (show height - 1 < alignedHeight by omega)
  have hplen := hp.1
  obtain ⟨lastRow, hread, hrowlen, hrow⟩ :=
    read?_of_le padded ((height - 1) * (alignedWidth * 4)) (alignedWidth * 4) (by omega)
  -- a row of the frame, or a copy of its last row
  let done := fun (n : ℕ) (p : List UInt8) => p.length = alignedWidth * alignedHeight * 4 ∧
    ∀ y < n, ∀ x < alignedWidth, pixelAt (alignedWidth * 4) p x y
      = pixelAt (width * 4) data (min x (width - 1)) (min y (height - 1))
  have hstart : done (height + 0) padded := by
    refine ⟨hplen, fun y hy x hx => ?_⟩
    rw [show min y (height - 1) = y by omega]
    exact hp.2 y hy x hx
  have hstep : ∀ k < alignedHeight - height, ∀ p, done (height + k) p →
      ∃ p', write? p (wrapU32 ((height + k) * (alignedWidth * 4))) lastRow = some p' ∧
        done (height + (k + 1)) p' := by
    rintro k hk p ⟨hpl, hpk⟩
    have hrowk := rowOffset_le (w := alignedWidth) (show height + k < alignedHeight by omega)
    rw [wrapU32_of_lt (show (height + k) * (alignedWidth * 4) < 2 ^ 32 by omega)]
    obtain ⟨p', hwrite, hlen', hin, hout⟩ :=
      write?_of_le p ((height + k) * (alignedWidth * 4)) lastRow (by omega)
    refine ⟨p', hwrite, hlen'.trans hpl, ?_⟩
    intro y hy x hx
    rcases Nat.lt_succ_iff_lt_or_eq.mp (show y < height + k + 1 from hy) with hlt | rfl
    · have hbelow := rowOffset_le (w := alignedWidth) hlt
      have hcomm : alignedWidth * (height + k) * 4 = (height + k) * (alignedWidth * 4) := by ring
      rw [pixelAt_of_eq_outside hout (Or.inl (by omega))]
      exact hpk y hlt x hx
    · rw [show min (height + k) (height - 1) = height - 1 by omega,
        ← hp.2 (height - 1) (by omega) x hx]
      refine pixelAt_of_eq_inside ((height + k) * (alignedWidth * 4))
        ((height - 1) * (alignedWidth * 4)) (4 * x) (fun i hi => ?_)
        (show 4 * x + 4 ≤ alignedWidth * 4 by omega) rfl rfl
      rw [hin i (by omega), hrow i hi]
  obtain ⟨out, hloop, hout⟩ := foldlM_range_inv (fun k => done (height + k))
    (alignedHeight - height) hstart hstep
  rw [show height + (alignedHeight - height) = alignedHeight by omega] at hout
  exact ⟨lastRow, out, hread, hloop, hout⟩

/-- **What padding does**, while the padded size fits its type: every pixel of
the result is the nearest pixel of the frame. -/
theorem padFrameToAligned_spec (hw : 1 ≤ width) (hh : 1 ≤ height) (hwa : width ≤ alignedWidth)
    (hha : height ≤ alignedHeight) (hfit : alignedWidth * alignedHeight * 4 < 2 ^ 32)
    (hlen : width * height * 4 ≤ data.length) :
    ∃ out, padFrameToAligned data width height alignedWidth alignedHeight = some out ∧
      out.length = alignedWidth * alignedHeight * 4 ∧
      ∀ y < alignedHeight, ∀ x < alignedWidth, pixelAt (alignedWidth * 4) out x y
        = pixelAt (width * 4) data (min x (width - 1)) (min y (height - 1)) := by
  obtain ⟨p₁, hrows, hp₁⟩ := padRows_spec hw hwa hha hfit hlen
  have hrow := rowOffset_le (w := alignedWidth) (show 0 < alignedHeight by omega)
  have hlast := rowOffset_le (w := alignedWidth) (show height - 1 < alignedHeight by omega)
  -- the sides fit as the area does
  have hsides : height ≤ alignedWidth * alignedHeight * 4 := by
    have h : 1 * alignedHeight ≤ alignedWidth * alignedHeight :=
      Nat.mul_le_mul_right _ (by omega)
    omega
  rw [padFrameToAligned, wrapU32_of_lt (show width * 4 < 2 ^ 32 by omega),
    wrapU32_of_lt (show alignedWidth * 4 < 2 ^ 32 by omega), wrapU32_of_lt hfit,
    wrapSubU32_of_le hh (by omega),
    wrapU32_of_lt (show (height - 1) * (alignedWidth * 4) < 2 ^ 32 by omega)]
  simp only [Option.bind_eq_bind, Option.pure_def] at hrows ⊢
  rw [hrows, Option.bind_some]
  -- rows below the frame are copies of its last row
  by_cases hgt : alignedHeight > height
  · obtain ⟨lastRow, out, hread, hbottom, hlen', hout⟩ := padBottom_spec hh hha hfit hp₁
    rw [if_pos hgt, hread, Option.bind_some]
    exact ⟨out, hbottom, hlen', hout⟩
  · rw [if_neg hgt]
    refine ⟨p₁, rfl, hp₁.1, ?_⟩
    intro y hy x hx
    rw [show min y (height - 1) = y by omega]
    exact hp₁.2 y (by omega) x hx

end Padding

/-! ### What the rectangles carry -/

section Rectangles

variable {width height : ℕ}

/-- A clipped region lies inside the frame and is not empty. -/
theorem DamageRegion.clip_inside {r r' : DamageRegion} (h : r.clip width height = some r') :
    r'.Inside width height ∧ 0 < r'.width ∧ 0 < r'.height := by
  obtain ⟨⟨hx, hy⟩, h⟩ := Option.ite_none_right_eq_some.mp h
  obtain rfl := Option.some.inj h
  refine ⟨⟨?_, ?_⟩, Nat.sub_pos_of_lt hx, Nat.sub_pos_of_lt hy⟩
  · show min r.x width + (min _ width - min r.x width) ≤ width
    omega
  · show min r.y height + (min _ height - min r.y height) ≤ height
    omega

/-- Clipping keeps the pixels of the frame. -/
theorem DamageRegion.clip_covers {r : DamageRegion} (hw : width < 2 ^ 32) (hh : height < 2 ^ 32)
    {px py : ℕ} (hpx : px < width) (hpy : py < height) (hc : r.Covers px py) :
    ∃ r', r.clip width height = some r' ∧ r'.Covers px py := by
  obtain ⟨hx₁, hx₂, hy₁, hy₂⟩ := hc
  unfold DamageRegion.clip saturatingAddU32
  refine ⟨_, if_pos ⟨by omega, by omega⟩, ?_⟩
  refine ⟨?_, ?_, ?_, ?_⟩
  · show min r.x width ≤ px
    omega
  · show px < min r.x width + (min (min _ _) width - min r.x width)
    omega
  · show min r.y height ≤ py
    omega
  · show py < min r.y height + (min (min _ _) height - min r.y height)
    omega

/-- The union of a list of regions inside the frame lies inside it, is not empty
and covers all of them. -/
theorem foldl_union_spec (hw : width < 2 ^ 32) (hh : height < 2 ^ 32) (rs : List DamageRegion)
    (r : DamageRegion) (hr : r.Inside width height) (hrs : ∀ s ∈ rs, s.Inside width height) :
    (rs.foldl DamageRegion.union r).Inside width height ∧
      ∀ px py, (r.Covers px py ∨ CoveredBy rs px py) →
        (rs.foldl DamageRegion.union r).Covers px py := by
  induction rs generalizing r with
  | nil =>
      refine ⟨hr, ?_⟩
      rintro px py (h | ⟨s, hs, -⟩)
      · exact h
      · exact absurd hs List.not_mem_nil
  | cons s rs ih =>
      have hs := hrs s List.mem_cons_self
      obtain ⟨hin, hcov⟩ := ih (r.union s) (hr.union hs hw hh)
        fun t ht => hrs t (List.mem_cons_of_mem s ht)
      refine ⟨hin, ?_⟩
      rintro px py (h | ⟨t, ht, h⟩)
      · exact hcov px py (Or.inl (DamageRegion.union_covers (hr.fits hw hh) (hs.fits hw hh)
          (Or.inl h)))
      · rcases List.mem_cons.mp ht with rfl | ht
        · exact hcov px py (Or.inl (DamageRegion.union_covers (hr.fits hw hh) (hs.fits hw hh)
            (Or.inr h)))
        · exact hcov px py (Or.inr ⟨t, ht, h⟩)

/-- **The bounding rectangle**: none if no region meets the frame; otherwise a
rectangle inside the frame that covers every damaged pixel of it. -/
theorem boundingDamageRegion_spec (hw : width < 2 ^ 32) (hh : height < 2 ^ 32)
    (regions : List DamageRegion) :
    (boundingDamageRegion regions width height = none ∧
      ∀ px < width, ∀ py < height, ¬ CoveredBy regions px py) ∨
    ∃ r, boundingDamageRegion regions width height = some r ∧
      r.Inside width height ∧ 0 < r.width ∧ 0 < r.height ∧
      ∀ px < width, ∀ py < height, CoveredBy regions px py → r.Covers px py := by
  have hclip : ∀ px < width, ∀ py < height, CoveredBy regions px py →
      CoveredBy (regions.filterMap fun r => r.clip width height) px py := by
    rintro px hpx py hpy ⟨r, hr, hc⟩
    obtain ⟨r', hr', hc'⟩ := r.clip_covers hw hh hpx hpy hc
    exact ⟨r', List.mem_filterMap.mpr ⟨r, hr, hr'⟩, hc'⟩
  have hinside : ∀ r ∈ regions.filterMap fun r => r.clip width height,
      r.Inside width height ∧ 0 < r.width ∧ 0 < r.height := by
    intro r hr
    obtain ⟨r₀, -, hr₀⟩ := List.mem_filterMap.mp hr
    exact DamageRegion.clip_inside hr₀
  unfold boundingDamageRegion
  rcases hrs : regions.filterMap fun r => r.clip width height with - | ⟨r, rs⟩
  · refine Or.inl ⟨by rw [hrs], ?_⟩
    intro px hpx py hpy hc
    have h := hclip px hpx py hpy hc
    rw [hrs] at h
    obtain ⟨r, hr, -⟩ := h
    exact absurd hr List.not_mem_nil
  · rw [hrs] at hclip hinside
    obtain ⟨hr, hrw, hrh⟩ := hinside r List.mem_cons_self
    obtain ⟨hin, hcov⟩ := foldl_union_spec hw hh rs r hr
      fun s hs => (hinside s (List.mem_cons_of_mem r hs)).1
    -- the first rectangle has a pixel, which the union covers
    have hpix : (rs.foldl DamageRegion.union r).Covers r.x r.y :=
      hcov r.x r.y (Or.inl ⟨Nat.le_refl _, by omega, Nat.le_refl _, by omega⟩)
    obtain ⟨h₁, h₂, h₃, h₄⟩ := hpix
    refine Or.inr ⟨_, by rw [hrs], hin, by omega, by omega, ?_⟩
    intro px hpx py hpy hc
    obtain ⟨s, hs, hcs⟩ := hclip px hpx py hpy hc
    rcases List.mem_cons.mp hs with rfl | hs
    · exact hcov px py (Or.inl hcs)
    · exact hcov px py (Or.inr ⟨s, hs, hcs⟩)

/-- The tight copy has the frame's pixels at the stride of its own width. -/
theorem tightPixels_spec {data : List UInt8} {stride : ℕ} (hstride : width * 4 ≤ stride)
    (hlen : stride * height ≤ data.length) :
    (tightPixels data stride (width * 4) height).length = width * height * 4 ∧
      ∀ y < height, ∀ x < width, pixelAt (width * 4) (tightPixels data stride (width * 4) height)
        x y = pixelAt stride data x y := by
  have hring : width * 4 * height = width * height * 4 := by ring
  unfold tightPixels
  split_ifs with heq
  · subst heq
    refine ⟨by rw [List.length_take]; omega, ?_⟩
    intro y hy x hx
    funext b
    have hb := b.isLt
    have hrow := rowOffset_le (w := width) hy
    exact List.getElem?_take_of_lt (by omega)
  · have hoff : ∀ k < height, k * stride + width * 4 ≤ data.length := by
      intro k hk
      have hend := RowMajor.rowEnd_le stride hk
      rw [Nat.mul_comm height stride] at hend
      omega
    refine ⟨by rw [length_rows hoff, Nat.mul_comm height]; exact hring, ?_⟩
    intro y hy x hx
    funext b
    have hb := b.isLt
    exact getElem?_rows hoff hy (by omega)

/-- A rectangle cut out of a tight frame carries the frame's pixels. -/
theorem compactBgraRegion_spec {frame : List UInt8} {r : DamageRegion}
    (hlen : frame.length = width * height * 4) (hsize : width * height * 4 < 2 ^ 64)
    (hr : r.Inside width height) (hrw : 0 < r.width) (hrh : 0 < r.height) :
    ∃ out, compactBgraRegion frame (width * 4) r = some out ∧
      out.length = r.width * r.height * 4 ∧
      ∀ y < r.height, ∀ x < r.width, pixelAt (r.width * 4) out x y
        = pixelAt (width * 4) frame (r.x + x) (r.y + y) := by
  obtain ⟨hx, hy⟩ := hr
  -- every row of the region ends inside the frame
  have hoff : ∀ k < r.height,
      (r.y + k) * (width * 4) + r.x * 4 + r.width * 4 ≤ width * height * 4 := by
    intro k hk
    have h := rowOffset_le (w := width) (show r.y + k < height by omega)
    omega
  have hlast := hoff (r.height - 1) (by omega)
  have hsides : r.y + r.height ≤ width * height * 4 := by
    have h : 1 * height ≤ width * height := Nat.mul_le_mul_right _ (by omega)
    omega
  have harea : r.width * 4 * r.height ≤ width * height * 4 := by
    have h : r.width * r.height ≤ width * height := Nat.mul_le_mul (by omega) (by omega)
    have hring : r.width * 4 * r.height = r.width * r.height * 4 := by ring
    omega
  -- so no checked operation of the source fails
  have hcheck : ∀ n, n ≤ width * height * 4 → checkedUsize n = some n :=
    fun n hn => if_pos (hn.trans_lt hsize)
  have hsub : r.y + (r.height - 1) ≤ width * height * 4 := by omega
  refine ⟨rows frame r.height (fun row => (r.y + row) * (width * 4) + r.x * 4) (r.width * 4),
    ?_, ?_, ?_⟩
  · -- the copy
    unfold compactBgraRegion
    simp only [Option.bind_eq_bind, Option.pure_def, hcheck _ (show r.width * 4 ≤ _ by omega),
      hcheck _ (show r.x * 4 ≤ _ by omega), hcheck _ hsub,
      hcheck _ (show (r.y + (r.height - 1)) * (width * 4) ≤ _ by omega),
      hcheck _ (show (r.y + (r.height - 1)) * (width * 4) + r.x * 4 ≤ _ by omega),
      hcheck _ hlast, hcheck _ (show r.x * 4 + r.width * 4 ≤ _ by omega), hcheck _ harea,
      hcheck _ hsides, Option.bind_some]
    rw [if_neg (by omega), if_neg (by omega)]
  · rw [length_rows (by rw [hlen]; exact hoff)]
    ring
  · -- its pixels
    intro y hy' x hx'
    funext b
    have hb := b.isLt
    have hpos : (r.y + y) * (width * 4) + (4 * (r.x + x) + b)
        = (r.y + y) * (width * 4) + r.x * 4 + (4 * x + b) := by omega
    show _ = frame[(r.y + y) * (width * 4) + (4 * (r.x + x) + b)]?
    rw [hpos]
    exact getElem?_rows (by rw [hlen]; exact hoff) hy' (by omega)

end Rectangles

end LamcoRdp
