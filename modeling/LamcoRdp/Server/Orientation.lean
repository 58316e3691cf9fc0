/-
LamcoRdp/Server/Orientation.lean

Frames and their rows in memory, and what `apply_frame_transform` makes of them.

`LaidOut` is what capture promises of a frame: rows of `stride` bytes, at least
as long as their pixels, and all of them in the buffer.  Every orientation
succeeds on such a frame and gives another one; where it swaps the sides, the
rows of the result have no gap (`orient_holdsPicture_iff`).
-/
import LamcoRdp.Server.AvcFrame
import LamcoRdp.Server.FrameTransform

namespace LamcoRdp

open Buffer Pipeline

/-! ### Layouts -/

/-- A frame with pixels, in a buffer of `len` bytes that holds all its rows. -/
structure VideoFrame.LaidOut (frame : VideoFrame) (len : ℕ) : Prop where
  width_pos : 1 ≤ frame.width
  height_pos : 1 ≤ frame.height
  width_lt : frame.width < 2 ^ 32
  height_lt : frame.height < 2 ^ 32
  row_le : frame.width * 4 ≤ frame.stride
  rows_le : frame.stride * frame.height ≤ len
  len_lt : len < 2 ^ 64

/-- The frame with these bytes in its buffer. -/
def VideoFrame.withData (frame : VideoFrame) (data : List UInt8) : VideoFrame :=
  { frame with buffer := .memory data }

/-- The buffer holds the picture without its gaps as well. -/
theorem VideoFrame.LaidOut.size_le {frame : VideoFrame} {len : ℕ} (h : frame.LaidOut len) :
    frame.width * frame.height * 4 ≤ len := by
  have hmul := Nat.mul_le_mul_right frame.height h.row_le
  have hring : frame.width * 4 * frame.height = frame.width * frame.height * 4 := by ring
  have hrows := h.rows_le
  omega

/-- Without bytes to spare there is no gap. -/
theorem VideoFrame.LaidOut.isTight {frame : VideoFrame} {len : ℕ} (h : frame.LaidOut len)
    (hlen : len = frame.width * frame.height * 4) : frame.IsTight := by
  left
  have hring : frame.width * frame.height * 4 = frame.width * 4 * frame.height := by ring
  have hle : frame.stride * frame.height ≤ frame.width * 4 * frame.height := by
    rw [← hring, ← hlen]
    exact h.rows_le
  exact Nat.le_antisymm (Nat.le_of_mul_le_mul_right hle h.height_pos) h.row_le

/-! ### Orientation keeps the layout -/

section Orientation

variable (data : List UInt8) {width height stride : ℕ}

/-- Rows of whole pixels that the buffer holds can be read. -/
theorem rows_inside {data : List UInt8} (hrow : width * 4 ≤ stride)
    (hlen : stride * height ≤ data.length) :
    ∀ y < height, y * stride + width * 4 ≤ data.length := by
  intro y hy
  have hend := rowEnd_le stride hy
  omega

/-- The orientations that swap the sides. -/
def swapsSides (transform : ℕ) : Bool := transform ∈ [1, 3, 5, 7]

/-- The others keep sides and stride. -/
theorem applyFrameTransform_of_not_swapsSides {transform : ℕ} (hswap : swapsSides transform = false)
    (hw : 1 ≤ width) (hh : 1 ≤ height) (hrow : width * 4 ≤ stride)
    (hlen : stride * height ≤ data.length) :
    ∃ out, applyFrameTransform data width height stride transform 4
        = some (out, width, height, stride) ∧
      stride * height ≤ out.length ∧ out.length ≤ data.length := by
  match transform with
  | 0 => exact ⟨data, rfl, hlen, Nat.le_refl _⟩
  | 1 | 3 | 5 | 7 => exact Bool.noConfusion hswap
  -- 2 turns the rows, then the columns; 4 and 6 need one pass
  | 2 =>
      obtain ⟨buf, hbuf, hbuflen, -⟩ := flipVertical_of_le data hh (Or.inr hlen)
      obtain ⟨out, hout, hflip⟩ := flipHorizontal_of_rows buf hw (Or.inr hrow)
        (rows_inside hrow (hbuflen ▸ hlen))
      have houtlen := hflip.length
      refine ⟨out, ?_, by omega, by omega⟩
      simp only [applyFrameTransform, hbuf, hout, Option.bind_eq_bind, Option.bind_some,
        Option.pure_def]
  | 4 =>
      obtain ⟨out, hout, hflip⟩ := flipHorizontal_of_rows data hw (Or.inr hrow)
        (rows_inside hrow hlen)
      have houtlen := hflip.length
      refine ⟨out, ?_, by omega, by omega⟩
      simp only [applyFrameTransform, hout, Option.bind_eq_bind, Option.bind_some, Option.pure_def]
  | 6 =>
      obtain ⟨out, hout, houtlen, -⟩ := reverseRows_of_le data hlen
      refine ⟨out, ?_, by omega, by omega⟩
      simp only [applyFrameTransform, hout, Option.bind_eq_bind, Option.bind_some, Option.pure_def]
  | n + 8 => exact ⟨data, rfl, hlen, Nat.le_refl _⟩

/-- A transposed frame has no gaps, while its stride fits the type. -/
theorem applyFrameTransform_of_swapsSides {transform : ℕ} (hswap : swapsSides transform = true)
    (hw : 1 ≤ width) (hh : 1 ≤ height) (hrow : width * 4 ≤ stride)
    (hlen : stride * height ≤ data.length) (hfit : height * 4 < 2 ^ 32) :
    ∃ out, applyFrameTransform data width height stride transform 4
        = some (out, height, width, height * 4) ∧ out.length = height * 4 * width := by
  obtain ⟨buf, hbuf, hbuflen, -⟩ := transpose_of_rows data (rows_inside hrow hlen)
  rw [wrapU32_of_lt hfit] at hbuf
  match transform with
  -- after the transposition the rows are `height` pixels long
  | 1 =>
      obtain ⟨out, hout, hflip⟩ := flipHorizontal_of_rows buf hh (Or.inr (Nat.le_refl _))
        (rows_inside (Nat.le_refl _) hbuflen.ge)
      refine ⟨out, ?_, hflip.length.trans hbuflen⟩
      simp only [applyFrameTransform, hbuf, hout, Option.bind_eq_bind, Option.bind_some,
        Option.pure_def]
  | 3 =>
      obtain ⟨out, hout, houtlen, -⟩ := flipVertical_of_le buf hw (Or.inr hbuflen.ge)
      refine ⟨out, ?_, houtlen.trans hbuflen⟩
      simp only [applyFrameTransform, hbuf, hout, Option.bind_eq_bind, Option.bind_some,
        Option.pure_def]
  | 5 =>
      refine ⟨buf, ?_, hbuflen⟩
      simp only [applyFrameTransform, hbuf, Option.bind_eq_bind, Option.bind_some, Option.pure_def]
  -- 7 flips before it transposes
  | 7 =>
      obtain ⟨flipped, hflip, hflipped⟩ := flipHorizontal_of_rows data hw (Or.inr hrow)
        (rows_inside hrow hlen)
      obtain ⟨out, hout, houtlen, -⟩ := transpose_of_rows flipped
        (rows_inside hrow (hflipped.length.symm ▸ hlen))
      rw [wrapU32_of_lt hfit] at hout
      refine ⟨out, ?_, houtlen⟩
      simp only [applyFrameTransform, hflip, hout, Option.bind_eq_bind, Option.bind_some,
        Option.pure_def]
  | 0 | 2 | 4 | 6 | n + 8 => exact absurd hswap (by simp [swapsSides])

variable {data}

/-- The stride `transpose` returns is that of its own rows, as far as it fits. -/
theorem transpose_stride {bpp : ℕ} {r : List UInt8 × ℕ}
    (h : transpose data width height stride bpp = some r) : r.2 = wrapU32 (height * bpp) := by
  obtain ⟨out, -, rfl⟩ := Option.map_eq_some_iff.mp h
  rfl

theorem applyFrameTransform_stride {transform bpp : ℕ} {r : List UInt8 × ℕ × ℕ × ℕ}
    (hswap : swapsSides transform = true)
    (h : applyFrameTransform data width height stride transform bpp = some r) :
    r.2.1 = height ∧ r.2.2.2 = wrapU32 (height * bpp) := by
  match transform with
  | 1 | 3 =>
      simp only [applyFrameTransform, Option.bind_eq_bind, Option.pure_def,
        Option.bind_eq_some_iff] at h
      obtain ⟨t, ht, out, -, h⟩ := h
      obtain rfl := Option.some.inj h
      exact ⟨rfl, transpose_stride ht⟩
  | 5 =>
      simp only [applyFrameTransform, Option.bind_eq_bind, Option.pure_def,
        Option.bind_eq_some_iff] at h
      obtain ⟨t, ht, h⟩ := h
      obtain rfl := Option.some.inj h
      exact ⟨rfl, transpose_stride ht⟩
  | 7 =>
      simp only [applyFrameTransform, Option.bind_eq_bind, Option.pure_def,
        Option.bind_eq_some_iff] at h
      obtain ⟨buf, -, t, ht, h⟩ := h
      obtain rfl := Option.some.inj h
      exact ⟨rfl, transpose_stride ht⟩
  | 0 | 2 | 4 | 6 | n + 8 => exact absurd hswap (by simp [swapsSides])

end Orientation

/-- The frame is in memory, and its buffer holds all its rows. -/
def VideoFrame.HoldsPicture (frame : VideoFrame) : Prop :=
  ∃ data, frame.buffer = .memory data ∧ frame.LaidOut data.length

/-- **Orientation keeps the layout**, unless it swaps the sides of a frame with
so many rows that the new stride does not fit its type. -/
theorem orient_holdsPicture_iff (cfg : PipelineConfig) {frame : VideoFrame} {data : List UInt8}
    (h : frame.LaidOut data.length) :
    (∃ frame', orient cfg (frame.withData data) = .ok frame' ∧ frame'.HoldsPicture) ↔
      (swapsSides (frame.transformValue cfg.frameTransform) = true → frame.height * 4 < 2 ^ 32) := by
  have htv : (frame.withData data).transformValue cfg.frameTransform
      = frame.transformValue cfg.frameTransform := rfl
  obtain ⟨hw, hh, hw32, hh32, hrow, hrows, hlen⟩ := h
  unfold orient
  rw [htv]
  cases hswap : swapsSides (frame.transformValue cfg.frameTransform) with
  -- without a change of sides the layout stays
  | false =>
      refine ⟨fun _ h => Bool.noConfusion h, fun _ => ?_⟩
      by_cases hzero : frame.transformValue cfg.frameTransform = 0
      · exact ⟨_, if_pos hzero, data, rfl, hw, hh, hw32, hh32, hrow, hrows, hlen⟩
      obtain ⟨out, hout, hge, hle⟩ :=
        applyFrameTransform_of_not_swapsSides data hswap hw hh hrow hrows
      refine ⟨{ frame with buffer := .memory out }, ?_, out, rfl, hw, hh, hw32, hh32, hrow, hge,
        hle.trans_lt hlen⟩
      rw [if_neg hzero]
      simp only [VideoFrame.withData, hout]
  -- with one the new stride is four times the height, and must not wrap
  | true =>
      have hzero : frame.transformValue cfg.frameTransform ≠ 0 := by
        intro hzero
        rw [hzero] at hswap
        cases hswap
      rw [if_neg hzero]
      constructor
      · -- the stride of the turned frame has not wrapped
        rintro ⟨frame', horient, out, hbuf, hlaid⟩ -
        simp only [VideoFrame.withData] at horient
        rcases htr : applyFrameTransform data frame.width frame.height frame.stride
            (frame.transformValue cfg.frameTransform) 4 with - | ⟨out', w', h', s'⟩
        · rw [htr] at horient
          cases horient
        · rw [htr] at horient
          obtain rfl := Except.ok.inj horient
          obtain ⟨rfl, hs⟩ := applyFrameTransform_stride hswap htr
          have hle : frame.height * 4 ≤ s' := hlaid.row_le
          have hs' : s' = wrapU32 (frame.height * 4) := hs
          rw [hs', wrapU32] at hle
          exact hle.trans_lt (Nat.mod_lt _ (by norm_num))
      · -- where it fits the transposed data fill the new rows
        intro hfit
        obtain ⟨out, hout, hlen'⟩ :=
          applyFrameTransform_of_swapsSides data hswap hw hh hrow hrows (hfit rfl)
        have hsmall : frame.height * 4 * frame.width ≤ data.length := by
          have hmul := Nat.mul_le_mul_right frame.height hrow
          have hring : frame.width * 4 * frame.height = frame.height * 4 * frame.width := by ring
          omega
        refine ⟨{ frame with
          buffer := .memory out, width := frame.height, height := frame.width,
          stride := frame.height * 4 }, ?_, out, rfl, hh, hw, hh32, hw32, Nat.le_refl _,
          hlen'.ge, ?_⟩
        · simp only [VideoFrame.withData, hout]
        · rw [hlen']
          exact hsmall.trans_lt hlen

end LamcoRdp
