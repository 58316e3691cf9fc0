/-
LamcoRdp/Egfx/ColorConvertSimd.lean

When the vector versions of the colour conversion agree with the scalar loop.

Lane by lane both kernels compute the scalar formula; they differ in the way
the eight results are packed for the store.  NEON keeps their order.  The AVX2
kernel packs within each 128-bit half and then reads only the low half, so the
bytes it stores for pixels 4 … 7 of a group are those of pixels 0 … 3
(`avx2Group_eq`).
-/
import LamcoRdp.Egfx.ColorConvert
import Mathlib.Data.Fintype.Basic

namespace LamcoRdp

open Simd

/-! ### The kernels -/

/-- Outside the limited range the scalar loop computes the formula of the
remainder loops. -/
theorem scalarPixel_eq {matrix : ColorMatrix} (hm : matrix.isLimitedRange = false) :
    scalarPixel matrix = fullRangePixel matrix := by
  funext b g r
  simp only [scalarPixel, hm, Bool.false_eq_true, if_false]
  rfl

/-- Pixel `k` of a group of eight. -/
def groupPixel (matrix : ColorMatrix) (pixels : Fin 32 → BitVec 8) (k : Fin 8) :
    UInt8 × UInt8 × UInt8 :=
  fullRangePixel matrix (UInt8.ofBitVec (pixels ⟨4 * k, by omega⟩))
    (UInt8.ofBitVec (pixels ⟨4 * k + 1, by omega⟩))
    (UInt8.ofBitVec (pixels ⟨4 * k + 2, by omega⟩))

theorem groupPixel_loadGroup (matrix : ColorMatrix) (bgra : List UInt8) (i : ℕ) (k : Fin 8) :
    groupPixel matrix (loadGroup bgra i) k
      = atPixel (fullRangePixel matrix) bgra (i * 8 + k) := by
  have h0 : i * 8 * 4 + 4 * (k : ℕ) = (i * 8 + k) * 4 := by omega
  have h1 : i * 8 * 4 + (4 * (k : ℕ) + 1) = (i * 8 + k) * 4 + 1 := by omega
  have h2 : i * 8 * 4 + (4 * (k : ℕ) + 2) = (i * 8 + k) * 4 + 2 := by omega
  simp only [groupPixel, loadGroup, atPixel, h0, h1, h2]

section Avx2

variable (pixels : M256)

/-- The channel registers hold one zero-extended byte of each pixel. -/
theorem lane32_avx2Channel_b (i : Fin 8) :
    lane32 (n := 8) (avx2Channel pixels 0) i
      = (pixels ⟨4 * i, by omega⟩).setWidth 32 := by
  fin_cases i <;> exact zero_append_byte _

theorem lane32_avx2Channel_g (i : Fin 8) :
    lane32 (n := 8) (avx2Channel pixels 1) i
      = (pixels ⟨4 * i + 1, by omega⟩).setWidth 32 := by
  fin_cases i <;> exact zero_append_byte _

theorem lane32_avx2Channel_r (i : Fin 8) :
    lane32 (n := 8) (avx2Channel pixels 2) i
      = (pixels ⟨4 * i + 2, by omega⟩).setWidth 32 := by
  fin_cases i <;> exact zero_append_byte _

theorem lane32_avx2FixedPoint (k : BitVec 32 × BitVec 32 × BitVec 32) (b g r : M256)
    (i : Fin 8) :
    lane32 (n := 8) (avx2FixedPoint k b g r) i
      = fixedPoint k (lane32 (n := 8) b i) (lane32 (n := 8) g i) (lane32 (n := 8) r i) := by
  simp only [avx2FixedPoint, lane32_srai, lane32_add, lane32_mullo, lane32_set1, fixedPoint]
  rw [BitVec.mul_comm (lane32 r i), BitVec.mul_comm (lane32 g i), BitVec.mul_comm (lane32 b i)]

theorem lane32_avx2Clamp (x : M256) (i : Fin 8) :
    lane32 (n := 8) (avx2Clamp x) i = clampS (lane32 (n := 8) x i) 0#32 255#32 := by
  rw [avx2Clamp, lane32_min, lane32_max, lane32_set1, lane32_setzero, minS_maxS]

theorem lane16_packs_self (x : M256) (t : Fin 16) :
    lane16 (n := 16) (mm256PacksEpi32 x x) t
      = satS16 (lane32 (n := 8) x ⟨4 * (t / 8) + t % 4, by omega⟩) := by
  rw [mm256PacksEpi32, lane16_ofLanes16]
  have hlt : t.val % 8 < 4 → t.val % 8 = t.val % 4 := by omega
  have hge : ¬ t.val % 8 < 4 → 4 * (t.val / 8) + t.val % 8 - 4 = 4 * (t.val / 8) + t.val % 4 := by
    omega
  split
  · next h => simp only [hlt h]
  · next h => simp only [hge h]

/-- The low half after both packs: the four low lanes, four times over.  The
high lanes have gone to the high half. -/
theorem low_half_packus_packs (x : M256) (j : Fin 16) :
    mm256Castsi256Si128 (mm256PackusEpi16 (mm256PacksEpi32 x x) (mm256PacksEpi32 x x)) j
      = satU8 (satS16 (lane32 (n := 8) x ⟨j % 4, by omega⟩)) := by
  simp only [mm256Castsi256Si128, mm256PackusEpi16, lane16_packs_self]
  have hlow : j.val / 16 = 0 := by omega
  split
  · next h =>
      have hidx : 4 * ((8 * (j.val / 16) + j.val % 16) / 8) + (8 * (j.val / 16) + j.val % 16) % 4
          = j.val % 4 := by omega
      simp only [hidx]
  · next h =>
      have hidx : 4 * ((8 * (j.val / 16) + j.val % 16 - 8) / 8)
          + (8 * (j.val / 16) + j.val % 16 - 8) % 4 = j.val % 4 := by omega
      simp only [hidx]

/-- The final shuffle reads bytes 0 … 3 and 8 … 11. -/
theorem storel_shuffleMask (a : M128) (k : Fin 8) :
    mmStorelEpi64 (mmShuffleEpi8 a shuffleMask) k
      = a ⟨if k.val < 4 then k else k + 4, by split <;> omega⟩ := by
  fin_cases k <;> rfl

/-- What the AVX2 kernel stores for pixel `k` is the value of lane `k % 4`. -/
theorem avx2Pack_clamp (x : M256) (k : Fin 8) :
    avx2Pack (avx2Clamp x) k
      = (clampS (lane32 (n := 8) x ⟨k % 4, by omega⟩) 0#32 255#32).setWidth 8 := by
  have hidx : (if k.val < 4 then k.val else k + 4) % 4 = k % 4 := by split <;> omega
  unfold avx2Pack
  rw [storel_shuffleMask, low_half_packus_packs, lane32_avx2Clamp,
    satU8_satS16 (toNat_clampS_le _)]
  simp only [hidx]

/-- **The AVX2 kernel** stores for each of the eight pixels of a group the
conversion of pixel `k % 4`. -/
theorem avx2Group_eq (matrix : ColorMatrix) (k : Fin 8) :
    (UInt8.ofBitVec ((avx2Group matrix pixels).1 k),
      UInt8.ofBitVec ((avx2Group matrix pixels).2.1 k),
      UInt8.ofBitVec ((avx2Group matrix pixels).2.2 k))
      = groupPixel matrix pixels ⟨k % 4, by omega⟩ := by
  simp only [avx2Group, avx2Pack_clamp, lane32_add, lane32_avx2FixedPoint, lane32_set1,
    lane32_avx2Channel_b, lane32_avx2Channel_g, lane32_avx2Channel_r]
  rfl

end Avx2

section NeonKernel

variable (pixels : Fin 32 → BitVec 8)

theorem neonFixedPoint_apply (k : BitVec 32 × BitVec 32 × BitVec 32) (b g r : Neon 4 32)
    (i : Fin 4) : neonFixedPoint k b g r i = fixedPoint k (b i) (g i) (r i) := by
  simp only [neonFixedPoint, vshrqNS32, vaddqS32, vmlaqS32, vmulqS32, vdupqNS32, fixedPoint]
  rw [BitVec.mul_comm (r i), BitVec.mul_comm (g i), BitVec.mul_comm (b i)]

theorem neonClamp_apply (x : Neon 4 32) (i : Fin 4) :
    neonClamp x i = clampS (x i) 0#32 255#32 :=
  minS_maxS (x i)

/-- NEON packs the two halves in order. -/
theorem neonPack_clamp (lo hi : Neon 4 32) (k : Fin 8) :
    neonPack (neonClamp lo) (neonClamp hi) k
      = (clampS (if h : k.val < 4 then lo ⟨k, h⟩ else hi ⟨k - 4, by omega⟩)
          0#32 255#32).setWidth 8 := by
  simp only [neonPack, vqmovunS16, vcombineS16, vmovnS32, neonClamp_apply]
  split <;> exact satU8_setWidth (toNat_clampS_le _)

/-- Zero-extending a byte in two steps. -/
theorem setWidth_setWidth_byte (x : BitVec 8) :
    (x.setWidth 16).setWidth 32 = x.setWidth 32 := by
  apply BitVec.eq_of_toNat_eq
  have hx := x.isLt
  simp only [BitVec.toNat_setWidth]
  omega

/-- **The NEON kernel** stores the conversion of each pixel in its place. -/
theorem neonGroup_eq (matrix : ColorMatrix) (k : Fin 8) :
    (UInt8.ofBitVec ((neonGroup matrix pixels).1 k),
      UInt8.ofBitVec ((neonGroup matrix pixels).2.1 k),
      UInt8.ofBitVec ((neonGroup matrix pixels).2.2 k))
      = groupPixel matrix pixels k := by
  simp only [neonGroup, neonPack_clamp, vaddqS32, neonFixedPoint_apply, vmovlU16, vgetLowU16,
    vgetHighU16, vmovlU8, vld4U8, vdupqNS32, setWidth_setWidth_byte]
  split
  · rfl
  · next h =>
      have hk : k.val - 4 + 4 = k.val := by omega
      simp only [hk]
      rfl

end NeonKernel

/-! ### The loops, plane by plane -/

/-- The planes of a frame. -/
inductive Plane
  | y | u | v
  deriving DecidableEq, Repr

/-- The component of a plane in a pixel's three values. -/
def Plane.of {α : Type*} : Plane → α × α × α → α
  | .y, p => p.1
  | .u, p => p.2.1
  | .v, p => p.2.2

/-- A plane, by its name. -/
def Yuv444Frame.plane (frame : Yuv444Frame) : Plane → List UInt8
  | .y => frame.y
  | .u => frame.u
  | .v => frame.v

theorem Plane.ext {α : Type*} {p q : α × α × α} (h : ∀ c : Plane, c.of p = c.of q) : p = q :=
  Prod.ext (h .y) (Prod.ext (h .u) (h .v))

theorem Yuv444Frame.ext_plane {f g : Yuv444Frame} (hw : f.width = g.width)
    (hh : f.height = g.height) (h : ∀ (c : Plane) (j : ℕ), (f.plane c)[j]? = (g.plane c)[j]?) :
    f = g := by
  have hp : ∀ c, f.plane c = g.plane c := fun c => List.ext_getElem? (h c)
  cases f with
  | mk fy fu fv fw fh =>
      cases g with
      | mk gy gu gv gw gh =>
          obtain rfl : fw = gw := hw
          obtain rfl : fh = gh := hh
          obtain rfl : fy = gy := hp .y
          obtain rfl : fu = gu := hp .u
          obtain rfl : fv = gv := hp .v
          rfl

section Loops

variable (frame : Yuv444Frame)

theorem setPixel_plane (i : ℕ) (p : UInt8 × UInt8 × UInt8) (c : Plane) :
    (frame.setPixel i p).plane c = (frame.plane c).set i (c.of p) := by
  cases c <;> rfl

theorem storeGroup_plane (base : ℕ)
    (g : (Fin 8 → BitVec 8) × (Fin 8 → BitVec 8) × (Fin 8 → BitVec 8)) (c : Plane) :
    (frame.storeGroup base g).plane c
      = store (frame.plane c) base fun k => UInt8.ofBitVec (c.of g k) := by
  cases c <;> rfl

/-- The loop that sets pixels, on one plane. -/
theorem foldl_setPixel_plane (f : ℕ → UInt8 × UInt8 × UInt8) (start k : ℕ) (c : Plane) (j : ℕ) :
    (((List.range' start k).foldl (fun frame i => frame.setPixel i (f i)) frame).plane c)[j]?
      = (frame.plane c)[j]?.map fun x => if start ≤ j ∧ j < start + k then c.of (f j) else x := by
  have hloop := getElem?_foldl_set (frame.plane c) (fun i => c.of (f i)) start k j
  rw [← hloop, ← List.foldl_hom (fun frame => Yuv444Frame.plane frame c)]
  intro frame i
  exact (setPixel_plane frame i (f i) c).symm

/-- The loop that stores groups, on one plane. -/
theorem foldl_storeGroup_plane
    (g : ℕ → (Fin 8 → BitVec 8) × (Fin 8 → BitVec 8) × (Fin 8 → BitVec 8)) (m : ℕ) (c : Plane)
    (j : ℕ) :
    (((List.range m).foldl (fun frame i => frame.storeGroup (i * 8) (g i)) frame).plane c)[j]?
      = (frame.plane c)[j]?.map fun x =>
          if j < m * 8 then UInt8.ofBitVec (c.of (g (j / 8)) ⟨j % 8, by omega⟩) else x := by
  have hn : 0 < 8 := by decide
  have hloop := getElem?_foldl_store (frame.plane c) hn
    (fun i k => UInt8.ofBitVec (c.of (g i) k)) m j
  rw [← hloop, ← List.foldl_hom (fun frame => Yuv444Frame.plane frame c)]
  intro frame i
  exact (storeGroup_plane frame (i * 8) (g i) c).symm

theorem foldl_setPixel_dims (f : ℕ → UInt8 × UInt8 × UInt8) (l : List ℕ) :
    ((l.foldl (fun frame i => frame.setPixel i (f i)) frame).width = frame.width) ∧
      (l.foldl (fun frame i => frame.setPixel i (f i)) frame).height = frame.height := by
  induction l generalizing frame with
  | nil => exact ⟨rfl, rfl⟩
  | cons i l ih => exact ih (frame.setPixel i (f i))

theorem foldl_storeGroup_dims
    (g : ℕ → (Fin 8 → BitVec 8) × (Fin 8 → BitVec 8) × (Fin 8 → BitVec 8)) (l : List ℕ) :
    ((l.foldl (fun frame i => frame.storeGroup (i * 8) (g i)) frame).width = frame.width) ∧
      (l.foldl (fun frame i => frame.storeGroup (i * 8) (g i)) frame).height = frame.height := by
  induction l generalizing frame with
  | nil => exact ⟨rfl, rfl⟩
  | cons i l ih => exact ih (frame.storeGroup (i * 8) (g i))

theorem scalarRemainder_plane (bgra : List UInt8) (matrix : ColorMatrix) (c : Plane) (j : ℕ) :
    ((scalarRemainder bgra frame matrix).plane c)[j]? = (frame.plane c)[j]?.map fun x =>
      if frame.pixelCount / 8 * 8 ≤ j ∧ j < frame.pixelCount
      then c.of (atPixel (fullRangePixel matrix) bgra j) else x := by
  have hsum : frame.pixelCount / 8 * 8 + (frame.pixelCount - frame.pixelCount / 8 * 8)
      = frame.pixelCount := by omega
  unfold scalarRemainder
  dsimp only
  split
  · rw [foldl_setPixel_plane, hsum]
  · next h =>
      -- no pixel is left over, so the range is empty
      have hno : ¬ (frame.pixelCount / 8 * 8 ≤ j ∧ j < frame.pixelCount) := by omega
      simp only [if_neg hno, Option.map_id']

theorem scalarRemainder_dims (bgra : List UInt8) (matrix : ColorMatrix) :
    (scalarRemainder bgra frame matrix).width = frame.width ∧
      (scalarRemainder bgra frame matrix).height = frame.height := by
  unfold scalarRemainder
  dsimp only
  split
  · exact foldl_setPixel_dims frame _ _
  · exact ⟨rfl, rfl⟩

/-- A vector loop followed by the scalar remainder, on one plane. -/
theorem vectorLoop_plane (bgra : List UInt8) (matrix : ColorMatrix)
    (g : ℕ → (Fin 8 → BitVec 8) × (Fin 8 → BitVec 8) × (Fin 8 → BitVec 8)) (c : Plane) (j : ℕ)
    (hj : j < frame.pixelCount) :
    ((scalarRemainder bgra ((List.range (frame.pixelCount / 8)).foldl
        (fun frame i => frame.storeGroup (i * 8) (g i)) frame) matrix).plane c)[j]?
      = (frame.plane c)[j]?.map fun _ =>
          if j < frame.pixelCount / 8 * 8
          then UInt8.ofBitVec (c.of (g (j / 8)) ⟨j % 8, by omega⟩)
          else c.of (atPixel (fullRangePixel matrix) bgra j) := by
  obtain ⟨hw, hh⟩ := foldl_storeGroup_dims frame g (List.range (frame.pixelCount / 8))
  have hcount : ((List.range (frame.pixelCount / 8)).foldl
      (fun frame i => frame.storeGroup (i * 8) (g i)) frame).pixelCount = frame.pixelCount := by
    unfold Yuv444Frame.pixelCount at hw hh ⊢
    rw [hw, hh]
  rw [scalarRemainder_plane, hcount, foldl_storeGroup_plane, Option.map_map]
  refine congrArg (Option.map · _) (funext fun x => ?_)
  show (if _ then _ else if _ then _ else _) = _
  by_cases h : j < frame.pixelCount / 8 * 8
  · rw [if_neg (by omega), if_pos h, if_pos h]
  · rw [if_pos ⟨by omega, hj⟩, if_neg h]

end Loops

/-! ### Agreement with the scalar loop -/

section Agreement

variable {matrix : ColorMatrix} (hm : matrix.isLimitedRange = false) (width height : ℕ)
  (bgra : List UInt8)

theorem new_plane_length (c : Plane) :
    ((Yuv444Frame.new width height).plane c).length = width * height := by
  cases c <;> exact List.length_replicate

include hm in
/-- The scalar loop writes the conversion of every pixel. -/
theorem scalar_plane (c : Plane) (j : ℕ) (hj : j < width * height) :
    ((bgraToYuv444Scalar bgra (.new width height) matrix).plane c)[j]?
      = ((Yuv444Frame.new width height).plane c)[j]?.map fun _ =>
          c.of (atPixel (fullRangePixel matrix) bgra j) := by
  unfold bgraToYuv444Scalar
  rw [foldl_setPixel_plane, scalarPixel_eq hm]
  refine congrArg (Option.map · _) (funext fun x => ?_)
  exact if_pos ⟨Nat.zero_le j, by rw [Nat.zero_add]; exact hj⟩

include hm in
/-- A vector version agrees with the scalar loop when, and only when, each
pixel of a whole group gets its own conversion. -/
theorem vector_eq_scalar_iff
    (g : ℕ → (Fin 8 → BitVec 8) × (Fin 8 → BitVec 8) × (Fin 8 → BitVec 8)) :
    scalarRemainder bgra ((List.range ((Yuv444Frame.new width height).pixelCount / 8)).foldl
        (fun frame i => frame.storeGroup (i * 8) (g i)) (.new width height)) matrix
      = bgraToYuv444Scalar bgra (.new width height) matrix ↔
    ∀ i < width * height / 8, ∀ k : Fin 8, ∀ c : Plane,
      UInt8.ofBitVec (c.of (g i) k) = c.of (atPixel (fullRangePixel matrix) bgra (i * 8 + k)) := by
  constructor
  · intro heq i hi k c
    have hj : i * 8 + k < width * height := by omega
    have hidx : (i * 8 + k) / 8 = i := by omega
    have hmod : (i * 8 + (k : ℕ)) % 8 = k := by omega
    have hv := vectorLoop_plane (Yuv444Frame.new width height) bgra matrix g c (i * 8 + k) hj
    rw [heq, scalar_plane hm width height bgra c _ hj] at hv
    have hlen := new_plane_length width height c
    rw [List.getElem?_eq_getElem (by omega)] at hv
    have hgroup : i * 8 + (k : ℕ) < (Yuv444Frame.new width height).pixelCount / 8 * 8 := by
      show i * 8 + (k : ℕ) < width * height / 8 * 8
      omega
    simp only [Option.map_some, if_pos hgroup, hidx, hmod] at hv
    exact (Option.some.inj hv).symm
  · intro h
    obtain ⟨hw, hh⟩ := scalarRemainder_dims ((List.range
      ((Yuv444Frame.new width height).pixelCount / 8)).foldl
        (fun frame i => frame.storeGroup (i * 8) (g i)) (.new width height)) bgra matrix
    obtain ⟨hw', hh'⟩ := foldl_storeGroup_dims (.new width height) g
      (List.range ((Yuv444Frame.new width height).pixelCount / 8))
    obtain ⟨hws, hhs⟩ := foldl_setPixel_dims (.new width height)
      (atPixel (scalarPixel matrix) bgra)
      (List.range' 0 (Yuv444Frame.new width height).pixelCount)
    refine Yuv444Frame.ext_plane ((hw.trans hw').trans hws.symm) ((hh.trans hh').trans hhs.symm) ?_
    intro c j
    have hlen := new_plane_length width height c
    by_cases hj : j < width * height
    · rw [vectorLoop_plane (.new width height) bgra matrix g c j hj,
        scalar_plane hm width height bgra c j hj]
      refine congrArg (Option.map · _) (funext fun x => ?_)
      split
      · next hgroup =>
          have hi : j / 8 < width * height / 8 := by
            have : j < width * height / 8 * 8 := hgroup
            omega
          have hback : j / 8 * 8 + j % 8 = j := by omega
          rw [h (j / 8) hi ⟨j % 8, by omega⟩ c]
          show c.of (atPixel (fullRangePixel matrix) bgra (j / 8 * 8 + j % 8)) = _
          rw [hback]
      · rfl
    · -- past the end of every plane
      have hnone : ((Yuv444Frame.new width height).plane c)[j]? = none :=
        List.getElem?_eq_none (by omega)
      rw [scalarRemainder_plane, foldl_storeGroup_plane, hnone, Option.map_none, Option.map_none]
      unfold bgraToYuv444Scalar
      rw [foldl_setPixel_plane, hnone, Option.map_none]

include hm in
/-- NEON always agrees. -/
theorem neon_eq_scalar :
    bgraToYuv444Neon bgra (.new width height) matrix
      = bgraToYuv444Scalar bgra (.new width height) matrix := by
  refine (vector_eq_scalar_iff hm width height bgra _).mpr ?_
  intro i _ k c
  have hk := neonGroup_eq (loadGroup bgra i) matrix k
  rw [groupPixel_loadGroup] at hk
  rw [← hk]
  cases c <;> rfl

include hm in
/-- AVX2 agrees exactly when pixels 4 … 7 of every whole group convert to the
same values as pixels 0 … 3. -/
theorem avx2_eq_scalar_iff :
    bgraToYuv444Avx2 bgra (.new width height) matrix
      = bgraToYuv444Scalar bgra (.new width height) matrix ↔
    ∀ i < width * height / 8, ∀ k < 4,
      atPixel (scalarPixel matrix) bgra (i * 8 + 4 + k)
        = atPixel (scalarPixel matrix) bgra (i * 8 + k) := by
  rw [scalarPixel_eq hm]
  refine (vector_eq_scalar_iff hm width height bgra _).trans ?_
  -- what is stored for pixel `k` of group `i`
  have hstored : ∀ (i : ℕ) (k : Fin 8) (c : Plane),
      UInt8.ofBitVec (c.of (avx2Group matrix (loadGroup bgra i)) k)
        = c.of (atPixel (fullRangePixel matrix) bgra (i * 8 + k % 4)) := by
    intro i k c
    have hk := avx2Group_eq (loadGroup bgra i) matrix k
    rw [groupPixel_loadGroup] at hk
    rw [← hk]
    cases c <;> rfl
  simp only [hstored]
  constructor
  · intro h i hi k hk
    refine Plane.ext fun c => ?_
    have hc := h i hi ⟨4 + k, by omega⟩ c
    have hmod : (4 + k) % 4 = k := by omega
    simp only [hmod, ← Nat.add_assoc] at hc
    exact hc.symm
  · intro h i hi k c
    by_cases hk : k.val < 4
    · rw [Nat.mod_eq_of_lt hk]
    · have hmod : k.val % 4 = k - 4 := by omega
      have hback : i * 8 + 4 + (k - 4) = i * 8 + (k : ℕ) := by omega
      have hpix := h i hi (k - 4) (by omega)
      rw [hback] at hpix
      rw [hmod, hpix]

end Agreement

/-- **When the vector conversions agree with the scalar one.**  For a full-range
matrix and a buffer of the frame's size, AVX2 and NEON both write the scalar
planes if and only if, in every whole group of eight pixels, pixels 4 … 7 have
the luma and chroma of pixels 0 … 3, one by one. -/
theorem simd_eq_scalar_iff (matrix : ColorMatrix) (hm : matrix = .bt601 ∨ matrix = .bt709)
    (width height : ℕ) (bgra : List UInt8) (_hlen : bgra.length = width * height * 4) :
    (bgraToYuv444Avx2 bgra (.new width height) matrix
        = bgraToYuv444Scalar bgra (.new width height) matrix ∧
      bgraToYuv444Neon bgra (.new width height) matrix
        = bgraToYuv444Scalar bgra (.new width height) matrix) ↔
    ∀ i < width * height / 8, ∀ k < 4,
      atPixel (scalarPixel matrix) bgra (i * 8 + 4 + k)
        = atPixel (scalarPixel matrix) bgra (i * 8 + k) := by
  have hfull : matrix.isLimitedRange = false := by
    rcases hm with rfl | rfl <;> rfl
  rw [← avx2_eq_scalar_iff hfull]
  exact and_iff_left (neon_eq_scalar hfull width height bgra)

/-- Eight pixels of one colour. -/
def uniformGroup : List UInt8 := (List.replicate 8 [10, 20, 30, 255]).flatten

theorem simd_eq_scalar_iff_uniform :
    uniformGroup.length = 8 * 1 * 4 ∧
    bgraToYuv444Avx2 uniformGroup (.new 8 1) .bt709
      = bgraToYuv444Scalar uniformGroup (.new 8 1) .bt709 := by
  have hlen : uniformGroup.length = 8 * 1 * 4 := by decide
  refine ⟨hlen, ((simd_eq_scalar_iff .bt709 (.inr rfl) 8 1 uniformGroup hlen).mpr ?_).1⟩
  decide

/-- Four black pixels and four white ones. -/
def splitGroup : List UInt8 :=
  (List.replicate 4 [0, 0, 0, 255]).flatten ++ (List.replicate 4 [255, 255, 255, 255]).flatten

/-- On the two-coloured group the AVX2 planes are not the scalar ones. -/
theorem avx2_differs_on_splitGroup :
    ¬ ∀ (matrix : ColorMatrix), matrix = .bt601 ∨ matrix = .bt709 →
      ∀ (width height : ℕ) (bgra : List UInt8), bgra.length = width * height * 4 →
        bgraToYuv444Avx2 bgra (.new width height) matrix
            = bgraToYuv444Scalar bgra (.new width height) matrix ∧
          bgraToYuv444Neon bgra (.new width height) matrix
            = bgraToYuv444Scalar bgra (.new width height) matrix := by
  intro hall
  have h := (hall .bt709 (.inr rfl) 8 1 splitGroup (by decide)).1
  rw [avx2_eq_scalar_iff rfl] at h
  exact absurd (h 0 (by decide) 0 (by decide)) (by decide)

end LamcoRdp
