/-
LamcoRdp/Egfx/ColorConvert.lean

BGRA to YUV444 (`egfx/color_convert.rs`): the scalar loop and its AVX2 and NEON
versions.

`i32` is `BitVec 32`; no product or sum of the loops leaves its range, so
wrapping and checked arithmetic agree.  A buffer is a list of bytes.  The
vector versions take eight pixels at a time and leave the rest to a scalar
loop.
-/
import LamcoRdp.Lib.Simd

namespace LamcoRdp

open Simd

/-! ### Matrices -/

/-- `ColorMatrix`. -/
inductive ColorMatrix
  | bt601 | bt709 | openH264
  deriving DecidableEq, Repr

namespace ColorMatrix

/-- `y_coefficients_fixed`: (Kr, Kg, Kb) scaled by 65536. -/
def yCoefficientsFixed : ColorMatrix → BitVec 32 × BitVec 32 × BitVec 32
  | .bt601 => (19595#32, 38470#32, 7471#32)
  | .bt709 => (13933#32, 46871#32, 4732#32)
  | .openH264 => (16896#32, 33024#32, 6400#32)

/-- `u_coefficients_fixed`. -/
def uCoefficientsFixed : ColorMatrix → BitVec 32 × BitVec 32 × BitVec 32
  | .bt601 => (-11056#32, -21712#32, 32768#32)
  | .bt709 => (-7508#32, -25260#32, 32768#32)
  | .openH264 => (-9728#32, -18944#32, 28672#32)

/-- `v_coefficients_fixed`. -/
def vCoefficientsFixed : ColorMatrix → BitVec 32 × BitVec 32 × BitVec 32
  | .bt601 => (32768#32, -27440#32, -5328#32)
  | .bt709 => (32768#32, -29764#32, -3004#32)
  | .openH264 => (28672#32, -24064#32, -4608#32)

/-- `is_limited_range`. -/
def isLimitedRange : ColorMatrix → Bool
  | .openH264 => true
  | .bt601 | .bt709 => false

end ColorMatrix

/-! ### Frames -/

/-- `Yuv444Frame`: three planes of the size of the frame. -/
structure Yuv444Frame where
  y : List UInt8
  u : List UInt8
  v : List UInt8
  width : ℕ
  height : ℕ
  deriving DecidableEq, Repr

namespace Yuv444Frame

/-- `Yuv444Frame::new`: black, with neutral chroma. -/
def new (width height : ℕ) : Yuv444Frame where
  y := List.replicate (width * height) 0
  u := List.replicate (width * height) 128
  v := List.replicate (width * height) 128
  width := width
  height := height

/-- The length of each plane. -/
def pixelCount (frame : Yuv444Frame) : ℕ := frame.width * frame.height

/-- The three stores of one pixel. -/
def setPixel (frame : Yuv444Frame) (i : ℕ) (p : UInt8 × UInt8 × UInt8) : Yuv444Frame :=
  { frame with y := frame.y.set i p.1, u := frame.u.set i p.2.1, v := frame.v.set i p.2.2 }

/-- The three stores of eight pixels from `base` on. -/
def storeGroup (frame : Yuv444Frame) (base : ℕ)
    (g : (Fin 8 → BitVec 8) × (Fin 8 → BitVec 8) × (Fin 8 → BitVec 8)) : Yuv444Frame :=
  { frame with
    y := store frame.y base fun k => UInt8.ofBitVec (g.1 k)
    u := store frame.u base fun k => UInt8.ofBitVec (g.2.1 k)
    v := store frame.v base fun k => UInt8.ofBitVec (g.2.2 k) }

end Yuv444Frame

/-! ### Scalar -/

/-- `as i32` of a byte. -/
def toI32 (x : UInt8) : BitVec 32 := x.toBitVec.setWidth 32

/-- `as u8` of an `i32`. -/
def toU8 (x : BitVec 32) : UInt8 := UInt8.ofBitVec (x.setWidth 8)

/-- `(kr * r + kg * g + kb * b + 32768) >> 16`. -/
def fixedPoint (k : BitVec 32 × BitVec 32 × BitVec 32) (b g r : BitVec 32) : BitVec 32 :=
  (k.1 * r + k.2.1 * g + k.2.2 * b + 32768#32).sshiftRight 16

/-- One pixel of `bgra_to_yuv444_scalar`. -/
def scalarPixel (matrix : ColorMatrix) (b g r : UInt8) : UInt8 × UInt8 × UInt8 :=
  let limitedRange := matrix.isLimitedRange
  let yBase := fixedPoint matrix.yCoefficientsFixed (toI32 b) (toI32 g) (toI32 r)
  let yVal :=
    if limitedRange then clampS (yBase + 16#32) 16#32 235#32 else clampS yBase 0#32 255#32
  let uVal := fixedPoint matrix.uCoefficientsFixed (toI32 b) (toI32 g) (toI32 r) + 128#32
  let uVal := if limitedRange then clampS uVal 16#32 240#32 else clampS uVal 0#32 255#32
  let vVal := fixedPoint matrix.vCoefficientsFixed (toI32 b) (toI32 g) (toI32 r) + 128#32
  let vVal := if limitedRange then clampS vVal 16#32 240#32 else clampS vVal 0#32 255#32
  (toU8 yVal, toU8 uVal, toU8 vVal)

/-- One pixel of the scalar loops that finish the vector versions: the same
without the limited range. -/
def fullRangePixel (matrix : ColorMatrix) (b g r : UInt8) : UInt8 × UInt8 × UInt8 :=
  let y := clampS (fixedPoint matrix.yCoefficientsFixed (toI32 b) (toI32 g) (toI32 r))
    0#32 255#32
  let u := clampS (fixedPoint matrix.uCoefficientsFixed (toI32 b) (toI32 g) (toI32 r) + 128#32)
    0#32 255#32
  let v := clampS (fixedPoint matrix.vCoefficientsFixed (toI32 b) (toI32 g) (toI32 r) + 128#32)
    0#32 255#32
  (toU8 y, toU8 u, toU8 v)

/-- Apply a function of one pixel's bytes to pixel `i` of a buffer. -/
def atPixel {α : Type*} (f : UInt8 → UInt8 → UInt8 → α) (bgra : List UInt8) (i : ℕ) : α :=
  f (bgra.getD (i * 4) 0) (bgra.getD (i * 4 + 1) 0) (bgra.getD (i * 4 + 2) 0)

/-- `bgra_to_yuv444_scalar`. -/
def bgraToYuv444Scalar (bgra : List UInt8) (frame : Yuv444Frame) (matrix : ColorMatrix) :
    Yuv444Frame :=
  (List.range' 0 frame.pixelCount).foldl
    (fun frame i => frame.setPixel i (atPixel (scalarPixel matrix) bgra i)) frame

/-- The scalar loop over the pixels a vector version leaves over. -/
def scalarRemainder (bgra : List UInt8) (frame : Yuv444Frame) (matrix : ColorMatrix) :
    Yuv444Frame :=
  let pixelCount := frame.pixelCount
  let remainder := pixelCount % 8
  if remainder > 0 then
    let start := pixelCount / 8 * 8
    (List.range' start (pixelCount - start)).foldl
      (fun frame i => frame.setPixel i (atPixel (fullRangePixel matrix) bgra i)) frame
  else frame

/-- The 32 bytes of pixels `8 i … 8 i + 7`. -/
def loadGroup (bgra : List UInt8) (i : ℕ) : Fin 32 → BitVec 8 :=
  fun j => (bgra.getD (i * 8 * 4 + j) 0).toBitVec

/-! ### AVX2 -/

/-- `shuffle_b`, `shuffle_g` and `shuffle_r`: collect byte `c` of four pixels. -/
def shuffleChannel (c : ℤ) : M128 :=
  mmSetrEpi8 ![c, c + 4, c + 8, c + 12, -1, -1, -1, -1, -1, -1, -1, -1, -1, -1, -1, -1]

/-- One channel of eight pixels, each zero-extended to 32 bits (`b_32`, `g_32`,
`r_32`). -/
def avx2Channel (pixels : M256) (c : ℤ) : M256 :=
  let lo := mm256Castsi256Si128 pixels
  let hi := mm256Extracti128Si256 pixels 1
  let packed := mmUnpackloEpi32 (mmShuffleEpi8 lo (shuffleChannel c))
    (mmShuffleEpi8 hi (shuffleChannel c))
  let wide := mmUnpackloEpi8 packed mmSetzeroSi128
  mm256SetM128i (mmUnpackhiEpi16 wide mmSetzeroSi128) (mmUnpackloEpi16 wide mmSetzeroSi128)

/-- The weighted sum, rounded and shifted, of eight pixels. -/
def avx2FixedPoint (k : BitVec 32 × BitVec 32 × BitVec 32) (b g r : M256) : M256 :=
  let sum := mm256AddEpi32
    (mm256AddEpi32 (mm256MulloEpi32 r (mm256Set1Epi32 k.1))
      (mm256MulloEpi32 g (mm256Set1Epi32 k.2.1)))
    (mm256MulloEpi32 b (mm256Set1Epi32 k.2.2))
  mm256SraiEpi32 (mm256AddEpi32 sum (mm256Set1Epi32 32768#32)) 16

/-- Clamp eight values to a byte. -/
def avx2Clamp (x : M256) : M256 :=
  mm256MinEpi32 (mm256MaxEpi32 x mm256SetzeroSi256) (mm256Set1Epi32 255#32)

/-- `shuffle_mask`. -/
def shuffleMask : M128 :=
  mmSetrEpi8 ![0, 1, 2, 3, 8, 9, 10, 11, -1, -1, -1, -1, -1, -1, -1, -1]

/-- Pack eight 32-bit values to the eight bytes that are stored. -/
def avx2Pack (x : M256) : Fin 8 → BitVec 8 :=
  let x16 := mm256PacksEpi32 x x
  let x8 := mm256PackusEpi16 x16 x16
  mmStorelEpi64 (mmShuffleEpi8 (mm256Castsi256Si128 x8) shuffleMask)

/-- The body of the vector loop of `bgra_to_yuv444_avx2_impl`. -/
def avx2Group (matrix : ColorMatrix) (pixels : M256) :
    (Fin 8 → BitVec 8) × (Fin 8 → BitVec 8) × (Fin 8 → BitVec 8) :=
  let b := avx2Channel pixels 0
  let g := avx2Channel pixels 1
  let r := avx2Channel pixels 2
  let offset128 := mm256Set1Epi32 128#32
  let y := avx2Clamp (avx2FixedPoint matrix.yCoefficientsFixed b g r)
  let u := avx2Clamp
    (mm256AddEpi32 (avx2FixedPoint matrix.uCoefficientsFixed b g r) offset128)
  let v := avx2Clamp
    (mm256AddEpi32 (avx2FixedPoint matrix.vCoefficientsFixed b g r) offset128)
  (avx2Pack y, avx2Pack u, avx2Pack v)

/-- `bgra_to_yuv444_avx2_impl`. -/
def bgraToYuv444Avx2 (bgra : List UInt8) (frame : Yuv444Frame) (matrix : ColorMatrix) :
    Yuv444Frame :=
  let simdCount := frame.pixelCount / 8
  let frame := (List.range simdCount).foldl
    (fun frame i => frame.storeGroup (i * 8) (avx2Group matrix (loadGroup bgra i))) frame
  scalarRemainder bgra frame matrix

/-! ### NEON -/

/-- The weighted sum, rounded and shifted, of four pixels. -/
def neonFixedPoint (k : BitVec 32 × BitVec 32 × BitVec 32) (b g r : Neon 4 32) : Neon 4 32 :=
  let sum := vmlaqS32 (vmlaqS32 (vmulqS32 r (vdupqNS32 k.1)) g (vdupqNS32 k.2.1)) b
    (vdupqNS32 k.2.2)
  vshrqNS32 (vaddqS32 sum (vdupqNS32 32768#32)) 16

/-- The clamp to a byte, on lanes of 32 bits. -/
def neonClamp (x : Neon 4 32) : Neon 4 32 :=
  vminqS32 (vmaxqS32 x (vdupqNS32 0#32)) (vdupqNS32 255#32)

/-- Pack two halves of four values to the eight bytes that are stored. -/
def neonPack (lo hi : Neon 4 32) : Neon 8 8 :=
  vqmovunS16 (vcombineS16 (vmovnS32 lo) (vmovnS32 hi))

attribute [local instance] neZero_four in
/-- The body of the vector loop of `bgra_to_yuv444_neon`. -/
def neonGroup (matrix : ColorMatrix) (pixels : Fin 32 → BitVec 8) :
    (Fin 8 → BitVec 8) × (Fin 8 → BitVec 8) × (Fin 8 → BitVec 8) :=
  let b16 := vmovlU8 (vld4U8 pixels 0)
  let g16 := vmovlU8 (vld4U8 pixels 1)
  let r16 := vmovlU8 (vld4U8 pixels 2)
  let bLo := vmovlU16 (vgetLowU16 b16)
  let gLo := vmovlU16 (vgetLowU16 g16)
  let rLo := vmovlU16 (vgetLowU16 r16)
  let bHi := vmovlU16 (vgetHighU16 b16)
  let gHi := vmovlU16 (vgetHighU16 g16)
  let rHi := vmovlU16 (vgetHighU16 r16)
  let offset128 := vdupqNS32 128#32
  let yLo := neonClamp (neonFixedPoint matrix.yCoefficientsFixed bLo gLo rLo)
  let yHi := neonClamp (neonFixedPoint matrix.yCoefficientsFixed bHi gHi rHi)
  let uLo := neonClamp (vaddqS32 (neonFixedPoint matrix.uCoefficientsFixed bLo gLo rLo) offset128)
  let uHi := neonClamp (vaddqS32 (neonFixedPoint matrix.uCoefficientsFixed bHi gHi rHi) offset128)
  let vLo := neonClamp (vaddqS32 (neonFixedPoint matrix.vCoefficientsFixed bLo gLo rLo) offset128)
  let vHi := neonClamp (vaddqS32 (neonFixedPoint matrix.vCoefficientsFixed bHi gHi rHi) offset128)
  (neonPack yLo yHi, neonPack uLo uHi, neonPack vLo vHi)

/-- `bgra_to_yuv444_neon`. -/
def bgraToYuv444Neon (bgra : List UInt8) (frame : Yuv444Frame) (matrix : ColorMatrix) :
    Yuv444Frame :=
  let simdCount := frame.pixelCount / 8
  let frame := (List.range simdCount).foldl
    (fun frame i => frame.storeGroup (i * 8) (neonGroup matrix (loadGroup bgra i))) frame
  scalarRemainder bgra frame matrix

/-! ### Dispatch -/

/-- What the running machine offers. -/
inductive SimdTarget
  | avx2 | neon | scalar
  deriving DecidableEq, Repr

/-- `bgra_to_yuv444`; `none` is the failed length assertion. -/
def bgraToYuv444 (target : SimdTarget) (bgra : List UInt8) (width height : ℕ)
    (matrix : ColorMatrix) : Option Yuv444Frame :=
  if bgra.length = width * height * 4 then
    let frame := Yuv444Frame.new width height
    some <|
      if matrix.isLimitedRange then bgraToYuv444Scalar bgra frame matrix
      else match target with
        | .avx2 => bgraToYuv444Avx2 bgra frame matrix
        | .neon => bgraToYuv444Neon bgra frame matrix
        | .scalar => bgraToYuv444Scalar bgra frame matrix
  else none

end LamcoRdp
