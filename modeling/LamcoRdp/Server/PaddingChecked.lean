/-
LamcoRdp/Server/PaddingChecked.lean

Padding a frame to multiples of sixteen, with its `u32` arithmetic checked.

`padFrameToAligned` computes as a release build does.  Every address it computes lies in
the padded frame, so while the size of the padded frame is a `u32` nothing overflows, and
the two agree (`padFrameToAlignedChecked_eq`).
-/
import LamcoRdp.Lib.Checked
import LamcoRdp.Server.FrameOps

namespace LamcoRdp

open Buffer Checked

/-! ### The checked operations -/

/-- `align_to_16`. -/
def alignTo16Checked (dimension : ℕ) : Checked ℕ := do
  let sum ← add 32 dimension 15
  .ok (sum / 16 * 16)

/-- `buf[off..off + len]`. -/
def sliceChecked (buf : List UInt8) (off len : ℕ) : Checked (List UInt8) := do
  let _ ← add 64 off len
  inRange (read? buf off len)

/-- `buf[off..off + src.len()].copy_from_slice(src)`. -/
def copyChecked (buf : List UInt8) (off : ℕ) (src : List UInt8) : Checked (List UInt8) := do
  let _ ← add 64 off src.length
  inRange (write? buf off src)

/-- The loop of `pad_frame_to_aligned` over the rows of the frame, one pass. -/
def padRowChecked (data : List UInt8) (width alignedWidth srcStride dstStride : ℕ)
    (padded : List UInt8) (y : ℕ) : Checked (List UInt8) := do
  let srcOffset ← mul 32 y srcStride
  let dstOffset ← mul 32 y dstStride
  let row ← sliceChecked data srcOffset srcStride
  let padded ← copyChecked padded dstOffset row
  if alignedWidth > width then
    let lastPixel ← sub srcStride 4
    let lastPixelSrc ← add 64 srcOffset lastPixel
    (List.range (alignedWidth - width)).foldlM (fun padded k => do
      let rowStart ← mul 32 y dstStride
      let column ← mul 32 (width + k) 4
      let dstOffset ← add 32 rowStart column
      let px ← sliceChecked data lastPixelSrc 4
      copyChecked padded dstOffset px) padded
  else .ok padded

/-- `pad_frame_to_aligned`. -/
def padFrameToAlignedChecked (data : List UInt8) (width height alignedWidth alignedHeight : ℕ) :
    Checked (List UInt8) := do
  let srcStride ← mul 32 width 4
  let dstStride ← mul 32 alignedWidth 4
  let area ← mul 32 alignedWidth alignedHeight
  let size ← mul 32 area 4
  let padded ← (List.range height).foldlM
    (padRowChecked data width alignedWidth srcStride dstStride) (List.replicate size 0)
  if alignedHeight > height then
    let last ← sub height 1
    let lastRowOffset ← mul 32 last dstStride
    let lastRow ← sliceChecked padded lastRowOffset dstStride
    (List.range (alignedHeight - height)).foldlM (fun padded k => do
      let dstOffset ← mul 32 (height + k) dstStride
      copyChecked padded dstOffset lastRow) padded
  else .ok padded

/-! ### Nothing overflows -/

theorem alignTo16Checked_eq_ok {dimension aligned : ℕ} :
    alignTo16Checked dimension = .ok aligned ↔
      dimension + 15 < 2 ^ 32 ∧ aligned = alignTo16 dimension := by
  rw [alignTo16Checked, bind_eq_ok]
  constructor
  · rintro ⟨sum, hsum, haligned⟩
    obtain ⟨hfit, rfl⟩ := add_eq_ok.mp hsum
    rw [alignTo16, wrapU32_of_lt hfit]
    exact ⟨hfit, (Except.ok.inj haligned).symm⟩
  · rintro ⟨hfit, rfl⟩
    rw [alignTo16, wrapU32_of_lt hfit]
    exact ⟨_, add_ok hfit, rfl⟩

/-- An aligned dimension is no smaller. -/
theorem le_of_alignTo16Checked {dimension aligned : ℕ}
    (h : alignTo16Checked dimension = .ok aligned) : dimension ≤ aligned := by
  obtain ⟨hfit, rfl⟩ := alignTo16Checked_eq_ok.mp h
  rw [alignTo16, wrapU32_of_lt hfit]
  omega

section Padding

variable {data : List UInt8} {width height alignedWidth alignedHeight : ℕ}

theorem sliceChecked_eq {buf : List UInt8} {off len : ℕ} (h : off + len < 2 ^ 64) :
    sliceChecked buf off len = inRange (read? buf off len) := by
  rw [sliceChecked, add_ok h, ok_bind]

theorem copyChecked_eq {buf src : List UInt8} {off : ℕ} (h : off + src.length < 2 ^ 64) :
    copyChecked buf off src = inRange (write? buf off src) := by
  rw [copyChecked, add_ok h, ok_bind]

/-- One row of the frame. -/
theorem padRowChecked_eq (data padded : List UInt8) (hw : 1 ≤ width) (hwa : width ≤ alignedWidth)
    (hfit : alignedWidth * alignedHeight * 4 < 2 ^ 32) {y : ℕ} (hy : y < alignedHeight) :
    padRowChecked data width alignedWidth (width * 4) (alignedWidth * 4) padded y = inRange (do
      let row ← read? data (wrapU32 (y * (width * 4))) (width * 4)
      let padded ← write? padded (wrapU32 (y * (alignedWidth * 4))) row
      (List.range (alignedWidth - width)).foldlM (fun padded k => do
        let px ← read? data (wrapU32 (y * (width * 4)) + wrapSubU32 (width * 4) 4) 4
        write? padded (wrapU32 (y * (alignedWidth * 4) + (width + k) * 4)) px) padded) := by
  have hdst := rowOffset_le (w := alignedWidth) hy
  have hle : y * (width * 4) ≤ y * (alignedWidth * 4) := Nat.mul_le_mul_left y (by omega)
  rw [wrapU32_of_lt (show y * (width * 4) < 2 ^ 32 by omega),
    wrapU32_of_lt (show y * (alignedWidth * 4) < 2 ^ 32 by omega),
    wrapSubU32_of_le (show 4 ≤ width * 4 by omega) (by omega)]
  -- each product and sum of a row is below the bound of the aligned frame
  rw [padRowChecked, mul_ok (by omega), ok_bind, mul_ok (by omega), ok_bind,
    sliceChecked_eq (by omega)]
  simp only [Option.bind_eq_bind, inRange_bind]
  rcases hrow : read? data (y * (width * 4)) (width * 4) with - | row
  · -- the same slices fail in both
    rfl
  have hlen := length_of_read? hrow
  rw [inRange_some, ok_bind, ok_bind, copyChecked_eq (by omega)]
  rcases write? padded (y * (alignedWidth * 4)) row with - | padded₁
  · rfl
  rw [inRange_some, ok_bind, ok_bind]
  -- the columns right of the frame
  by_cases hgt : alignedWidth > width
  · rw [if_pos hgt, sub_ok (by omega), ok_bind, add_ok (by omega), ok_bind]
    refine foldlM_inRange (fun _ => True) (fun k hk b _ => ?_) (fun _ _ _ _ _ _ => trivial) trivial
    rw [List.mem_range] at hk
    rw [wrapU32_of_lt (show y * (alignedWidth * 4) + (width + k) * 4 < 2 ^ 32 by omega),
      ok_bind, mul_ok (by omega), ok_bind, add_ok (by omega), ok_bind,
      sliceChecked_eq (by omega), inRange_bind]
    rcases hpx : read? data (y * (width * 4) + (width * 4 - 4)) 4 with - | px
    · rfl
    · have hlen := length_of_read? hpx
      rw [inRange_some, ok_bind, ok_bind, copyChecked_eq (by omega)]
  · rw [if_neg hgt, show alignedWidth - width = 0 by omega]
    rfl

/-- While the size of the padded frame is a `u32`, no operation overflows. -/
theorem padFrameToAlignedChecked_eq (hw : 1 ≤ width) (hh : 1 ≤ height)
    (hwa : width ≤ alignedWidth) (hha : height ≤ alignedHeight)
    (hfit : alignedWidth * alignedHeight * 4 < 2 ^ 32) :
    padFrameToAlignedChecked data width height alignedWidth alignedHeight =
      inRange (padFrameToAligned data width height alignedWidth alignedHeight) := by
  have hrow := rowOffset_le (w := alignedWidth) (show 0 < alignedHeight by omega)
  have hlast := rowOffset_le (w := alignedWidth) (show height - 1 < alignedHeight by omega)
  -- the sides fit as the area does
  have hsides : height ≤ alignedWidth * alignedHeight * 4 := by
    have h : 1 * alignedHeight ≤ alignedWidth * alignedHeight :=
      Nat.mul_le_mul_right _ (by omega)
    omega
  have hrows := foldlM_inRange (fun _ => True) (l := List.range height)
    (b := List.replicate (alignedWidth * alignedHeight * 4) 0)
    (fun y hy b _ => padRowChecked_eq data b hw hwa hfit
      (Nat.lt_of_lt_of_le (List.mem_range.mp hy) hha)) (fun _ _ _ _ _ _ => trivial) trivial
  -- the products before the loop
  rw [padFrameToAlignedChecked, mul_ok (by omega), ok_bind, mul_ok (by omega), ok_bind,
    mul_ok (by omega), ok_bind, mul_ok hfit, ok_bind, hrows, padFrameToAligned,
    wrapU32_of_lt (show width * 4 < 2 ^ 32 by omega),
    wrapU32_of_lt (show alignedWidth * 4 < 2 ^ 32 by omega), wrapU32_of_lt hfit,
    wrapSubU32_of_le hh (by omega),
    wrapU32_of_lt (show (height - 1) * (alignedWidth * 4) < 2 ^ 32 by omega)]
  simp only [Option.bind_eq_bind, Option.pure_def]
  rw [inRange_bind]
  congr 1
  funext padded
  -- the rows below the frame
  by_cases hgt : alignedHeight > height
  · rw [if_pos hgt, if_pos hgt, sub_ok hh, ok_bind, mul_ok (by omega), ok_bind,
      sliceChecked_eq (by omega), inRange_bind]
    rcases hlastRow : read? padded ((height - 1) * (alignedWidth * 4)) (alignedWidth * 4) with
      - | lastRow
    · rfl
    have hlen := length_of_read? hlastRow
    rw [inRange_some, ok_bind, ok_bind]
    refine foldlM_inRange (fun _ => True) (fun k hk b _ => ?_) (fun _ _ _ _ _ _ => trivial) trivial
    rw [List.mem_range] at hk
    have hrowk := rowOffset_le (w := alignedWidth) (show height + k < alignedHeight by omega)
    rw [mul_ok (by omega), ok_bind, copyChecked_eq (by omega),
      wrapU32_of_lt (show (height + k) * (alignedWidth * 4) < 2 ^ 32 by omega)]
  · rw [if_neg hgt, if_neg hgt, inRange_some]

end Padding

/-- **Padding replicates edges**: where the padded size is a `u32`, padding a frame to the
next multiples of sixteen overflows nothing, stays in range, and gives a buffer of the
padded size in which every pixel is the nearest pixel of the frame. -/
theorem padFrameToAligned_replicates {data : List UInt8}
    {width height alignedWidth alignedHeight : ℕ} (hw : 1 ≤ width) (hh : 1 ≤ height)
    (hwidth : alignTo16Checked width = .ok alignedWidth)
    (hheight : alignTo16Checked height = .ok alignedHeight)
    (hfit : alignedWidth * alignedHeight * 4 < 2 ^ 32)
    (hlen : data.length = width * height * 4) :
    ∃ padded, padFrameToAlignedChecked data width height alignedWidth alignedHeight = .ok padded ∧
      padFrameToAligned data width height alignedWidth alignedHeight = some padded ∧
      padded.length = alignedWidth * alignedHeight * 4 ∧
      ∀ y < alignedHeight, ∀ x < alignedWidth, pixelAt (alignedWidth * 4) padded x y
        = pixelAt (width * 4) data (min x (width - 1)) (min y (height - 1)) := by
  have hwa := le_of_alignTo16Checked hwidth
  have hha := le_of_alignTo16Checked hheight
  obtain ⟨padded, hpad, hpixels⟩ := padFrameToAligned_spec hw hh hwa hha hfit hlen.ge
  refine ⟨padded, ?_, hpad, hpixels⟩
  rw [padFrameToAlignedChecked_eq hw hh hwa hha hfit, hpad, inRange_some]

/-- Six pixels, no two of them alike. -/
def sixPixels : List UInt8 := (List.range 24).map .ofNat

/-- They are padded as three columns of two rows. -/
theorem padFrameToAligned_replicates_sixPixels :
    ∃ padded, padFrameToAlignedChecked sixPixels 3 2 16 16 = .ok padded ∧
      padFrameToAligned sixPixels 3 2 16 16 = some padded ∧ padded.length = 16 * 16 * 4 ∧
      ∀ y < 16, ∀ x < 16, pixelAt (16 * 4) padded x y
        = pixelAt (3 * 4) sixPixels (min x (3 - 1)) (min y (2 - 1)) :=
  padFrameToAligned_replicates (by decide) (by decide) rfl rfl (by decide) rfl

end LamcoRdp
