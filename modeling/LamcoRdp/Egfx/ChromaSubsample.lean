/-
LamcoRdp/Egfx/ChromaSubsample.lean

The 2x2 box filter for chroma, in three versions (`egfx/color_convert.rs`).

The vector versions go through the output row by row, a register of averages at a
time and the rest of the row one by one.  Both widen the bytes, add the two rows and
then the pairs, and narrow again.  AVX2 works in halves of a register all the way:
the horizontal addition leaves the sixteen averages in order, the narrowing doubles
each half, and the permutation joins one copy of each (`avx2_averagesPairs`).

Every version writes at each position of the output the rounded average of its four
samples (`averageAt`).
-/
import LamcoRdp.Egfx.ColorConvert
import LamcoRdp.Lib.Chunks

namespace LamcoRdp

open Chunks Simd

/-! ### The scalar loop -/

/-- The average of four samples, rounded half up. -/
def boxAverage (chroma444 : List UInt8) (idx00 idx01 idx10 idx11 : ℕ) : UInt8 :=
  .ofNat (((chroma444.getD idx00 0).toNat + (chroma444.getD idx01 0).toNat
    + (chroma444.getD idx10 0).toNat + (chroma444.getD idx11 0).toNat + 2) / 4)

/-- `(0..n).step_by(2)`. -/
def stepBy2 (n : ℕ) : List ℕ := List.range' 0 ((n + 1) / 2) 2

/-- The scalar loop of `subsample_chroma_420`. -/
def subsampleChroma420Scalar (chroma444 : List UInt8) (width height : ℕ) : List UInt8 :=
  (stepBy2 height).flatMap fun y => (stepBy2 width).map fun x =>
    boxAverage chroma444 (y * width + x) (y * width + (x + 1)) ((y + 1) * width + x)
      ((y + 1) * width + (x + 1))

/-! ### The vector versions -/

/-- Both of them, for registers of `n` averages. -/
def subsampleByRegisters (n : ℕ) (average : (r0 r1 : Fin (2 * n) → BitVec 8) → Fin n → BitVec 8)
    (chroma444 : List UInt8) (width height : ℕ) : List UInt8 :=
  let outWidth := width / 2
  let outHeight := height / 2
  let simdWidth := outWidth / n
  (List.range outHeight).foldl (fun chroma420 outY =>
    let inY := outY * 2
    let row0 := inY * width
    let row1 := (inY + 1) * width
    let outRow := outY * outWidth
    let chroma420 := (List.range simdWidth).foldl (fun chroma420 chunk =>
      let inX := chunk * (2 * n)
      let outX := chunk * n
      store chroma420 (outRow + outX) fun k =>
        UInt8.ofBitVec (average (load chroma444 (row0 + inX)) (load chroma444 (row1 + inX)) k))
      chroma420
    let remainingStart := simdWidth * n
    (List.range' remainingStart (outWidth - remainingStart)).foldl (fun chroma420 outX =>
      let inX := outX * 2
      chroma420.set (outRow + outX) (boxAverage chroma444 (row0 + inX) (row0 + inX + 1)
        (row1 + inX) (row1 + inX + 1))) chroma420)
    (List.replicate (outWidth * outHeight) 0)

/-- The body of the AVX2 loop: 16 averages. -/
def avx2Average (r0 r1 : M256) : M128 :=
  let zero := mm256SetzeroSi256
  let r0Lo := mm256UnpackloEpi8 r0 zero
  let r0Hi := mm256UnpackhiEpi8 r0 zero
  let r1Lo := mm256UnpackloEpi8 r1 zero
  let r1Hi := mm256UnpackhiEpi8 r1 zero
  let vLo := mm256AddEpi16 r0Lo r1Lo
  let vHi := mm256AddEpi16 r0Hi r1Hi
  let hLo := mm256HaddEpi16 vLo vHi
  let rounding := mm256Set1Epi16 2#16
  let sum := mm256AddEpi16 hLo rounding
  let avg := mm256SrliEpi16 sum 2
  let result := mm256PackusEpi16 avg avg
  let permuted := mm256Permute4x64Epi64 result 0b11011000
  mm256Castsi256Si128 permuted

/-- `subsample_chroma_420_avx2`. -/
def subsampleChroma420Avx2 : (chroma444 : List UInt8) → (width height : ℕ) → List UInt8 :=
  subsampleByRegisters 16 avx2Average

/-- The body of the NEON loop: 8 averages. -/
def neonAverage (r0 r1 : Neon 16 8) : Neon 8 8 :=
  let r0Lo := vmovlU8 (vgetLowU8 r0)
  let r1Lo := vmovlU8 (vgetLowU8 r1)
  let vLo := vaddqU16 r0Lo r1Lo
  let r0Hi := vmovlU8 (vgetHighU8 r0)
  let r1Hi := vmovlU8 (vgetHighU8 r1)
  let vHi := vaddqU16 r0Hi r1Hi
  let hSum := vpaddqU16 vLo vHi
  let rounding := vdupqN 2#16
  let sum := vaddqU16 hSum rounding
  let avg := vshrqNU16 sum 2
  vmovnU16 avg

/-- `subsample_chroma_420_neon`. -/
def subsampleChroma420Neon : (chroma444 : List UInt8) → (width height : ℕ) → List UInt8 :=
  subsampleByRegisters 8 neonAverage

/-- `subsample_chroma_420`; `none` is a failed assertion. -/
def subsampleChroma420 (target : SimdTarget) (chroma444 : List UInt8) (width height : ℕ) :
    Option (List UInt8) :=
  if width % 2 = 0 ∧ height % 2 = 0 ∧ chroma444.length = width * height then
    some <| match target with
      | .avx2 => subsampleChroma420Avx2 chroma444 width height
      | .neon => subsampleChroma420Neon chroma444 width height
      | .scalar => subsampleChroma420Scalar chroma444 width height
  else none

/-! ### One register -/

section Registers

variable {n : ℕ}

/-- The body of a loop averages the pairs of its two registers. -/
def AveragesPairs (n : ℕ)
    (average : (Fin (2 * n) → BitVec 8) → (Fin (2 * n) → BitVec 8) → Fin n → BitVec 8) : Prop :=
  ∀ r0 r1 k, average r0 r1 k = .ofNat 8
    (((r0 ⟨2 * k, by omega⟩).toNat + (r0 ⟨2 * k + 1, by omega⟩).toNat
      + (r1 ⟨2 * k, by omega⟩).toNat + (r1 ⟨2 * k + 1, by omega⟩).toNat + 2) / 4)

/-- Four widened bytes and the rounding do not overflow sixteen bits. -/
theorem toNat_average (a b c d : BitVec 8) :
    ((a.setWidth 16 + c.setWidth 16 + (b.setWidth 16 + d.setWidth 16) + 2#16) >>> 2).toNat
      = (a.toNat + b.toNat + c.toNat + d.toNat + 2) / 4 := by
  have ha := a.isLt
  have hb := b.isLt
  have hc := c.isLt
  have hd := d.isLt
  rw [BitVec.toNat_ushiftRight, Nat.shiftRight_eq_div_pow]
  simp only [BitVec.toNat_add, BitVec.toNat_setWidth, BitVec.toNat_ofNat]
  omega

theorem average_le (a b c d : BitVec 8) :
    (a.toNat + b.toNat + c.toNat + d.toNat + 2) / 4 ≤ 255 := by
  have ha := a.isLt
  have hb := b.isLt
  have hc := c.isLt
  have hd := d.isLt
  omega

/-- NEON: pair `k` is in the low half of the rows for `k < 4`, and in the high half after. -/
theorem neon_averagesPairs : AveragesPairs 8 neonAverage := by
  intro r0 r1 k
  apply BitVec.eq_of_toNat_eq
  rw [BitVec.toNat_ofNat]
  have hsum : (vshrqNU16 (vaddqU16 (vpaddqU16
        (vaddqU16 (vmovlU8 (vgetLowU8 r0)) (vmovlU8 (vgetLowU8 r1)))
        (vaddqU16 (vmovlU8 (vgetHighU8 r0)) (vmovlU8 (vgetHighU8 r1)))) (vdupqN 2#16)) 2 k).toNat
      = ((r0 ⟨2 * k, by omega⟩).toNat + (r0 ⟨2 * k + 1, by omega⟩).toNat
        + (r1 ⟨2 * k, by omega⟩).toNat + (r1 ⟨2 * k + 1, by omega⟩).toNat + 2) / 4 := by
    rw [← toNat_average]
    -- pairwise addition takes the pairs of the low half first
    by_cases hk : k.val < 4
    · simp only [vshrqNU16, vaddqU16, vpaddqU16, vmovlU8, vgetLowU8, vdupqN, dif_pos hk]
    · have h0 : 2 * (k.val - 4) + 8 = 2 * k := by omega
      have h1 : 2 * (k.val - 4) + 1 + 8 = 2 * k + 1 := by omega
      simp only [vshrqNU16, vaddqU16, vpaddqU16, vmovlU8, vgetHighU8, vdupqN, dif_neg hk, h0, h1]
  show (BitVec.setWidth 8 _).toNat = _
  rw [BitVec.toNat_setWidth]
  exact congrArg (· % 2 ^ 8) hsum

/-- The horizontal addition leaves the pairs in order. -/
theorem lane16_hadd (r0 r1 : M256) (t : Fin 16) :
    lane16 (n := 16) (mm256HaddEpi16
        (mm256AddEpi16 (mm256UnpackloEpi8 r0 mm256SetzeroSi256)
          (mm256UnpackloEpi8 r1 mm256SetzeroSi256))
        (mm256AddEpi16 (mm256UnpackhiEpi8 r0 mm256SetzeroSi256)
          (mm256UnpackhiEpi8 r1 mm256SetzeroSi256))) t
      = (r0 ⟨2 * t, by omega⟩).setWidth 16 + (r1 ⟨2 * t, by omega⟩).setWidth 16
        + ((r0 ⟨2 * t + 1, by omega⟩).setWidth 16 + (r1 ⟨2 * t + 1, by omega⟩).setWidth 16) := by
  rw [mm256HaddEpi16, lane16_ofLanes16]
  -- in either half of the register, the low bytes and then the high bytes
  split
  · next h =>
      have h0 : 16 * ((8 * (t.val / 8) + 2 * (t % 8)) / 8) + (8 * (t.val / 8) + 2 * (t % 8)) % 8
          = 2 * t := by omega
      have h1 : 16 * ((8 * (t.val / 8) + 2 * (t % 8) + 1) / 8)
          + (8 * (t.val / 8) + 2 * (t % 8) + 1) % 8 = 2 * t + 1 := by omega
      simp only [lane16_add, lane16_unpacklo_zero, h0, h1]
  · next h =>
      have h0 : 16 * ((8 * (t.val / 8) + 2 * (t % 8 - 4)) / 8) + 8
          + (8 * (t.val / 8) + 2 * (t % 8 - 4)) % 8 = 2 * t := by omega
      have h1 : 16 * ((8 * (t.val / 8) + 2 * (t % 8 - 4) + 1) / 8) + 8
          + (8 * (t.val / 8) + 2 * (t % 8 - 4) + 1) % 8 = 2 * t + 1 := by omega
      simp only [lane16_add, lane16_unpackhi_zero, h0, h1]

/-- Narrowing doubles each half, and the permutation takes one copy of each. -/
theorem castsi128_permute_packus (a : M256) (k : Fin 16) :
    mm256Castsi256Si128 (mm256Permute4x64Epi64 (mm256PackusEpi16 a a) 0b11011000) k
      = satU8 (lane16 (n := 16) a k) := by
  fin_cases k <;> rfl

/-- AVX2: the sixteen pairs come out in order. -/
theorem avx2_averagesPairs : AveragesPairs 16 avx2Average := by
  intro r0 r1 k
  unfold avx2Average
  rw [castsi128_permute_packus, lane16_srli, lane16_add, lane16_hadd, lane16_set1]
  have hsum := toNat_average (r0 ⟨2 * k, by omega⟩) (r0 ⟨2 * k + 1, by omega⟩)
    (r1 ⟨2 * k, by omega⟩) (r1 ⟨2 * k + 1, by omega⟩)
  rw [satU8_of_le (hsum.trans_le (average_le _ _ _ _))]
  apply BitVec.eq_of_toNat_eq
  rw [BitVec.toNat_setWidth, hsum, BitVec.toNat_ofNat]

end Registers

/-! ### The whole plane -/

section Planes

variable {n width height : ℕ} {chroma444 : List UInt8}

/-- The average for position `j` of the output. -/
def averageAt (chroma444 : List UInt8) (width : ℕ) (j : ℕ) : UInt8 :=
  let y := 2 * (j / (width / 2))
  let x := 2 * (j % (width / 2))
  boxAverage chroma444 (y * width + x) (y * width + (x + 1)) ((y + 1) * width + x)
    ((y + 1) * width + (x + 1))

theorem averageAt_row {x : ℕ} (y : ℕ) (hx : x < width / 2) :
    averageAt chroma444 width (y * (width / 2) + x) =
      boxAverage chroma444 (y * 2 * width + x * 2) (y * 2 * width + x * 2 + 1)
        ((y * 2 + 1) * width + x * 2) ((y * 2 + 1) * width + x * 2 + 1) := by
  unfold averageAt
  dsimp only
  rw [RowMajor.div_index hx, Nat.mul_add_mod_of_lt hx, Nat.mul_comm 2 y, Nat.mul_comm 2 x]
  rfl

theorem getElem?_averages {y x : ℕ} (hy : y < height / 2) (hx : x < width / 2) :
    ((List.range (height / 2 * (width / 2))).map (averageAt chroma444 width))[
        y * (width / 2) + x]?
      = some (boxAverage chroma444 (2 * y * width + 2 * x) (2 * y * width + 2 * x + 1)
        ((2 * y + 1) * width + 2 * x) ((2 * y + 1) * width + 2 * x + 1)) := by
  rw [List.getElem?_map, List.getElem?_range (RowMajor.index_lt hx hy), Option.map_some,
    averageAt_row y hx, Nat.mul_comm y 2, Nat.mul_comm x 2]

/-- The scalar loop pushes the averages in the order of their positions. -/
theorem subsampleChroma420Scalar_eq {c : List UInt8} (hwidth : width % 2 = 0)
    (hheight : height % 2 = 0) : subsampleChroma420Scalar c width height
      = (List.range (height / 2 * (width / 2))).map (averageAt c width) := by
  have hsteps : ∀ {m : ℕ}, m % 2 = 0 → stepBy2 m = (List.range (m / 2)).map (2 * ·) := by
    intro m hm
    have hcount : (m + 1) / 2 = m / 2 := by omega
    unfold stepBy2
    rw [hcount]
    refine List.ext_getElem ?_ fun i _ _ => ?_
    · rw [List.length_range', List.length_map, List.length_range]
    · rw [List.getElem_range', List.getElem_map, List.getElem_range, Nat.zero_add]
  unfold subsampleChroma420Scalar
  rw [hsteps hwidth, hsteps hheight, List.flatMap_map, ← flatMap_range_map]
  congr 1
  funext y
  rw [List.map_map]
  refine List.map_congr_left fun x hx => ?_
  rw [averageAt_row y (List.mem_range.mp hx), Nat.mul_comm y 2, Nat.mul_comm x 2]
  rfl

/-- A register holds averages of the output. -/
theorem AveragesPairs.at {average : (Fin (2 * n) → BitVec 8) → (Fin (2 * n) → BitVec 8) →
    Fin n → BitVec 8} (h : AveragesPairs n average) (y chunk : ℕ) (k : Fin n)
    (hlt : chunk * n + k < width / 2) :
    UInt8.ofBitVec (average (load chroma444 (y * 2 * width + chunk * (2 * n)))
        (load chroma444 ((y * 2 + 1) * width + chunk * (2 * n))) k)
      = averageAt chroma444 width (y * (width / 2) + (chunk * n + k)) := by
  have h0 : ∀ row, row + chunk * (2 * n) + 2 * k = row + (chunk * n + k) * 2 := by
    intro row
    rw [Nat.add_mul, Nat.mul_comm 2 n, Nat.mul_assoc, Nat.add_assoc, Nat.mul_comm 2 k.val]
  rw [h, averageAt_row y hlt]
  simp only [load, ← Nat.add_assoc, h0]
  rfl

/-- The loop over registers writes the front of a row. -/
theorem writes_registers {average : (Fin (2 * n) → BitVec 8) → (Fin (2 * n) → BitVec 8) →
    Fin n → BitVec 8} (h : AveragesPairs n average) (chroma444 : List UInt8) (y : ℕ) :
    Writes (averageAt chroma444 width) (y * (width / 2))
      (y * (width / 2) + width / 2 / n * n) fun chroma420 =>
        (List.range (width / 2 / n)).foldl (fun chroma420 chunk =>
          store chroma420 (y * (width / 2) + chunk * n) fun k => UInt8.ofBitVec
            (average (load chroma444 (y * 2 * width + chunk * (2 * n)))
              (load chroma444 ((y * 2 + 1) * width + chunk * (2 * n))) k)) chroma420 := by
  have hloop := Writes.loop (f := averageAt chroma444 width)
    (g := fun chunk => y * (width / 2) + chunk * n) (m := width / 2 / n)
    (s := fun chunk chroma420 => store chroma420 (y * (width / 2) + chunk * n) fun k =>
      UInt8.ofBitVec (average (load chroma444 (y * 2 * width + chunk * (2 * n)))
        (load chroma444 ((y * 2 + 1) * width + chunk * (2 * n))) k))
    (fun chunk => Nat.add_le_add_left (Nat.mul_le_mul_right n (Nat.le_succ chunk)) _) ?_
  · rwa [Nat.zero_mul, Nat.add_zero] at hloop
  · intro chunk hchunk
    have hle : (chunk + 1) * n ≤ width / 2 :=
      (Nat.mul_le_mul_right n hchunk).trans (Nat.div_mul_le_self _ _)
    rw [Nat.succ_mul] at hle ⊢
    rw [← Nat.add_assoc]
    refine writes_store fun k => ?_
    rw [h.at y chunk k (by omega), Nat.add_assoc]

/-- The scalar loop writes the rest of a row. -/
theorem writes_rest {start : ℕ} (hstart : start ≤ width / 2) (y : ℕ) :
    Writes (averageAt chroma444 width) (y * (width / 2) + start) ((y + 1) * (width / 2))
      fun chroma420 => (List.range' start (width / 2 - start)).foldl
        (fun chroma420 outX => chroma420.set (y * (width / 2) + outX)
          (boxAverage chroma444 (y * 2 * width + outX * 2) (y * 2 * width + outX * 2 + 1)
            ((y * 2 + 1) * width + outX * 2) ((y * 2 + 1) * width + outX * 2 + 1))) chroma420 := by
  have hloop := Writes.loop (f := averageAt chroma444 width)
    (g := fun i => y * (width / 2) + (start + i)) (m := width / 2 - start)
    (s := fun i chroma420 => chroma420.set (y * (width / 2) + (start + i))
      (boxAverage chroma444 (y * 2 * width + (start + i) * 2)
        (y * 2 * width + (start + i) * 2 + 1) ((y * 2 + 1) * width + (start + i) * 2)
        ((y * 2 + 1) * width + (start + i) * 2 + 1)))
    (fun i => Nat.add_le_add_left (Nat.le_succ (start + i)) _) ?_
  · have hend : (y + 1) * (width / 2)
        = y * (width / 2) + (start + (width / 2 - start)) := by
      rw [Nat.succ_mul, Nat.add_sub_cancel' hstart]
    rw [hend, List.range'_eq_map_range]
    simp only [List.foldl_map]
    exact hloop
  · intro i hi
    rw [← averageAt_row y (by omega)]
    exact writes_set _ _

/-- The vector versions write the averages to their positions. -/
theorem subsampleByRegisters_eq {average : (Fin (2 * n) → BitVec 8) → (Fin (2 * n) → BitVec 8) →
    Fin n → BitVec 8} (h : AveragesPairs n average) :
    subsampleByRegisters n average chroma444 width height
      = (List.range (height / 2 * (width / 2))).map (averageAt chroma444 width) := by
  have hle : width / 2 / n * n ≤ width / 2 := Nat.div_mul_le_self _ _
  -- a row is its registers and then its rest
  have hplane := Writes.loop (g := fun y => y * (width / 2)) (m := height / 2)
    (fun y => Nat.mul_le_mul_right _ (Nat.le_succ y)) fun y _ =>
      (writes_registers h chroma444 y).comp (writes_rest hle y)
        (Nat.le_add_right _ _) (by rw [Nat.succ_mul]; omega)
  have hlength : (List.replicate (width / 2 * (height / 2)) (0 : UInt8)).length
      = height / 2 * (width / 2) := List.length_replicate.trans (Nat.mul_comm _ _)
  unfold subsampleByRegisters
  dsimp only
  rw [Nat.zero_mul, ← hlength] at hplane
  rw [← hlength]
  exact hplane.eq_map

/-- `subsample_chroma_420` gives the averages on every machine. -/
theorem subsampleChroma420_eq (target : SimdTarget) (hwidth : width % 2 = 0)
    (hheight : height % 2 = 0) (hlength : chroma444.length = width * height) :
    subsampleChroma420 target chroma444 width height
      = some ((List.range (height / 2 * (width / 2))).map (averageAt chroma444 width)) := by
  unfold subsampleChroma420
  rw [if_pos ⟨hwidth, hheight, hlength⟩]
  cases target with
  | avx2 => exact congrArg some (subsampleByRegisters_eq avx2_averagesPairs)
  | neon => exact congrArg some (subsampleByRegisters_eq neon_averagesPairs)
  | scalar => exact congrArg some (subsampleChroma420Scalar_eq hwidth hheight)

/-- **The vector versions agree with the scalar loop**, and all of them give at each position
of the output the rounded average of its four samples. -/
theorem subsample_chroma_420_simd_eq_scalar (hwidth : width % 2 = 0) (hheight : height % 2 = 0)
    (chroma444 : List UInt8) :
    subsampleChroma420Avx2 chroma444 width height
        = subsampleChroma420Scalar chroma444 width height ∧
      subsampleChroma420Neon chroma444 width height
        = subsampleChroma420Scalar chroma444 width height ∧
      ∀ y < height / 2, ∀ x < width / 2,
        (subsampleChroma420Scalar chroma444 width height)[y * (width / 2) + x]?
          = some (boxAverage chroma444 (2 * y * width + 2 * x) (2 * y * width + 2 * x + 1)
            ((2 * y + 1) * width + 2 * x) ((2 * y + 1) * width + 2 * x + 1)) := by
  have hscalar := subsampleChroma420Scalar_eq (c := chroma444) hwidth hheight
  refine ⟨(subsampleByRegisters_eq avx2_averagesPairs).trans hscalar.symm,
    (subsampleByRegisters_eq neon_averagesPairs).trans hscalar.symm, fun y hy x hx => ?_⟩
  rw [hscalar]
  exact getElem?_averages hy hx

/-- A row of 17 averages, one more than an AVX2 register holds. -/
theorem subsample_chroma_420_seventeen :
    (subsampleChroma420Avx2 (List.replicate 68 7) 34 2)[16]? = some 7 ∧
      (subsampleChroma420Neon (List.replicate 68 7) 34 2)[16]? = some 7 := by
  obtain ⟨havx2, hneon, hat⟩ := subsample_chroma_420_simd_eq_scalar (show 34 % 2 = 0 from rfl)
    (show 2 % 2 = 0 from rfl) (List.replicate 68 7)
  have hlast : (subsampleChroma420Scalar (List.replicate 68 7) 34 2)[16]? = some 7 :=
    hat 0 (by decide) 16 (by decide)
  rw [havx2, hneon]
  exact ⟨hlast, hlast⟩

end Planes

end LamcoRdp
