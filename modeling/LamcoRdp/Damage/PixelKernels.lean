/-
LamcoRdp/Damage/PixelKernels.lean

The three ways to count the pixels of a row that differ (`damage/mod.rs`).

Both vector kernels take whole registers from the front of the rows and leave the
rest to the scalar loop; they differ in what they do with a register.  AVX2 has no
unsigned comparison and takes the threshold off with a subtraction that stops at
zero, NEON compares.  Either way a 32-bit lane ends up zero exactly if its pixel is
within the threshold, so a register counts its pixels that differ (`CountsPixels`),
and a kernel that does agrees with the scalar loop on rows of any length
(`countByRegisters_eq`).

The counters have 32 bits and wrap.
-/
import LamcoRdp.Damage.Checked
import LamcoRdp.Lib.Chunks
import LamcoRdp.Lib.Simd

namespace LamcoRdp

open Chunks Simd

/-! ### The scalar loop -/

/-- Whether a pixel counts: `diff_b > threshold || diff_g > threshold || diff_r > threshold`. -/
def pixelDiffers (threshold : UInt8) (p c : List UInt8) : Bool :=
  absDiff (p.getD 0 0) (c.getD 0 0) > threshold.toNat ||
    absDiff (p.getD 1 0) (c.getD 1 0) > threshold.toNat ||
    absDiff (p.getD 2 0) (c.getD 2 0) > threshold.toNat

/-- `count_different_pixels_scalar`, with its counter. -/
def countDifferentPixelsScalar (prev curr : List UInt8) (threshold : UInt8) : UInt32 :=
  ((chunksExact 4 prev).zip (chunksExact 4 curr)).foldl
    (fun count (p, c) => if pixelDiffers threshold p c then count + 1 else count) 0

/-! ### The kernels -/

/-- Both kernels, for registers of `width` bytes: whole registers, then the rest. -/
def countByRegisters (width : ℕ)
    (different : (threshold : UInt8) → (prevData currData : Fin width → BitVec 8) → UInt32)
    (prev curr : List UInt8) (threshold : UInt8) : UInt32 :=
  if prev.length < width ∨ curr.length < width then
    countDifferentPixelsScalar prev curr threshold
  else
    let chunks := prev.length / width
    let diffCount := (List.range chunks).foldl (fun diffCount i =>
      let offset := i * width
      diffCount + different threshold (load prev offset) (load curr offset)) 0
    let remainingStart := chunks * width
    if remainingStart < prev.length then
      diffCount + countDifferentPixelsScalar (prev.drop remainingStart) (curr.drop remainingStart)
        threshold
    else diffCount

/-- The body of the AVX2 loop: 8 pixels. -/
def avx2Different (threshold : UInt8) (prevData currData : M256) : UInt32 :=
  let bgrMask := mm256Set1Epi32 0x00FFFFFF
  let thresholdVec := mm256Set1Epi8 threshold.toBitVec
  let zero := mm256SetzeroSi256
  let diff := mm256OrSi256 (mm256SubsEpu8 prevData currData) (mm256SubsEpu8 currData prevData)
  let overThreshold := mm256SubsEpu8 diff thresholdVec
  let overBgr := mm256AndSi256 overThreshold bgrMask
  let unchanged := mm256CmpeqEpi32 overBgr zero
  let unchangedBits := mm256MovemaskPs unchanged
  8 - .ofBitVec unchangedBits.cpop

/-- `count_different_pixels_avx2`. -/
def countDifferentPixelsAvx2 : (prev curr : List UInt8) → (threshold : UInt8) → UInt32 :=
  countByRegisters 32 avx2Different

/-- The body of the NEON loop: 4 pixels. -/
def neonDifferent (threshold : UInt8) (prevData currData : Neon 16 8) : UInt32 :=
  let bgrMask : Neon 16 8 := fun j => if j.val % 4 = 3 then 0x00 else 0xFF
  let thresholdVec := vdupqN threshold.toBitVec
  let zero := vdupqN 0
  let diff := vabdqU8 prevData currData
  let exceeds := vcgtqU diff thresholdVec
  let exceedsBgr := vandqU8 exceeds bgrMask
  let lanes := vreinterpretqU32U8 exceedsBgr
  let changed := vcgtqU lanes zero
  .ofBitVec (vaddvqU32 (vshrqNU32 changed 31))

/-- `count_different_pixels_neon`. -/
def countDifferentPixelsNeon : (prev curr : List UInt8) → (threshold : UInt8) → UInt32 :=
  countByRegisters 16 neonDifferent

/-! ### One register -/

section Registers

variable {n : ℕ} {threshold : UInt8}

/-- B, G and R of pixel `i` of a register. -/
def bgrLane (r : Fin (4 * n) → BitVec 8) (i : Fin n) : UInt8 × UInt8 × UInt8 :=
  (.ofBitVec (r ⟨4 * i, four_mul_lt i⟩), .ofBitVec (r ⟨4 * i + 1, four_mul_add_one_lt i⟩),
    .ofBitVec (r ⟨4 * i + 2, four_mul_add_two_lt i⟩))

/-- The body of a loop counts the pixels of its registers that differ. -/
def CountsPixels (n : ℕ)
    (different : UInt8 → (Fin (4 * n) → BitVec 8) → (Fin (4 * n) → BitVec 8) → UInt32) : Prop :=
  ∀ threshold prevData currData, different threshold prevData currData =
    .ofNat ((List.finRange n).countP fun i =>
      Differs threshold.toNat (bgrLane prevData i) (bgrLane currData i))

/-- A lane whose alpha byte is cleared, and the others are zero exactly if the channel is
within the threshold, is zero exactly if its pixel is. -/
theorem lane32_eq_zero_iff_differs {r p c : Fin (4 * n) → BitVec 8}
    (halpha : ∀ j : Fin (4 * n), j.val % 4 = 3 → r j = 0#8)
    (hbgr : ∀ j : Fin (4 * n), j.val % 4 ≠ 3 →
      (r j = 0#8 ↔ absDiff (.ofBitVec (p j)) (.ofBitVec (c j)) ≤ threshold.toNat)) (i : Fin n) :
    lane32 r i = 0#32 ↔ ¬ Differs threshold.toNat (bgrLane p i) (bgrLane c i) := by
  rw [lane32_eq_zero_iff, hbgr _ (by dsimp only; omega), hbgr _ (by dsimp only; omega),
    hbgr _ (by dsimp only; omega), iff_true_intro (halpha _ (by dsimp only; omega)), and_true]
  simp only [Differs, bgrLane]
  omega

theorem bgrMask_apply (j : Fin 32) :
    mm256Set1Epi32 0x00FFFFFF j = if j.val % 4 = 3 then 0#8 else 0xFF#8 := by
  fin_cases j <;> rfl

/-- The mask keeps B, G and R and clears alpha. -/
theorem and_bgrMask {x : BitVec 8} {j : ℕ} :
    (j % 4 = 3 → x &&& (if j % 4 = 3 then 0#8 else 0xFF#8) = 0#8) ∧
      (j % 4 ≠ 3 → x &&& (if j % 4 = 3 then 0#8 else 0xFF#8) = x) := by
  constructor
  · intro h
    rw [if_pos h, BitVec.and_zero]
  · intro h
    rw [if_neg h]
    exact BitVec.and_allOnes

theorem msb_allOnesIf {w : ℕ} (hw : 0 < w) (c : Prop) [Decidable c] :
    (allOnesIf c : BitVec w).msb = decide c := by
  unfold allOnesIf
  by_cases hc : c
  · rw [if_pos hc, decide_eq_true hc, BitVec.msb_allOnes hw]
  · rw [if_neg hc, decide_eq_false hc]
    exact BitVec.msb_zero

theorem eight_sub_countP (f : Fin 8 → Bool) :
    (8 : UInt32) - .ofNat ((List.finRange 8).countP fun i => !f i)
      = .ofNat ((List.finRange 8).countP f) := by
  have hnot : (List.finRange 8).countP (fun i => !f i)
      = (List.finRange 8).countP (fun i => decide (¬ f i = true)) :=
    List.countP_congr fun i _ => by simp
  have hlength := List.length_eq_countP_add_countP f (l := List.finRange 8)
  rw [List.length_finRange, ← hnot] at hlength
  rw [show (8 : UInt32) = _ from congrArg UInt32.ofNat hlength, UInt32.ofNat_add,
    UInt32.add_sub_cancel]

/-- AVX2: the unchanged lanes are counted, and taken off. -/
theorem avx2_countsPixels : CountsPixels 8 avx2Different := by
  intro threshold p c
  unfold avx2Different
  dsimp only
  rw [cpop_movemask]
  -- a lane is zero where the three colours differ by no more than the threshold
  have hlane : ∀ i : Fin 8, lane32 (n := 8) (mm256AndSi256 (mm256SubsEpu8
        (mm256OrSi256 (mm256SubsEpu8 p c) (mm256SubsEpu8 c p))
        (mm256Set1Epi8 threshold.toBitVec)) (mm256Set1Epi32 0x00FFFFFF)) i = 0#32 ↔
      ¬ Differs threshold.toNat (bgrLane (n := 8) p i) (bgrLane (n := 8) c i) := by
    intro i
    refine lane32_eq_zero_iff_differs (n := 8) ?_ ?_ i
    · intro j hj
      unfold mm256AndSi256
      rw [bgrMask_apply]
      exact and_bgrMask.1 hj
    · intro j hj
      unfold mm256AndSi256
      rw [bgrMask_apply, and_bgrMask.2 hj, ← BitVec.toNat_inj]
      show (subSatU8 (subSatU8 (p j) (c j) ||| subSatU8 (c j) (p j)) threshold.toBitVec).toNat = 0
        ↔ _
      rw [toNat_subSatU8, toNat_subSatU8_or]
      exact Nat.sub_eq_zero_iff_le
  -- the comparison turns such a lane into ones, and any other into zeros
  have hmsb : ∀ i : Fin 8, (lane32 (n := 8) (mm256CmpeqEpi32 (mm256AndSi256 (mm256SubsEpu8
        (mm256OrSi256 (mm256SubsEpu8 p c) (mm256SubsEpu8 c p))
        (mm256Set1Epi8 threshold.toBitVec)) (mm256Set1Epi32 0x00FFFFFF)) mm256SetzeroSi256) i).msb
      = !decide (Differs threshold.toNat (bgrLane (n := 8) p i) (bgrLane (n := 8) c i)) := by
    intro i
    unfold mm256CmpeqEpi32
    rw [lane32_ofLanes32, msb_allOnesIf (by decide), lane32_setzero, decide_eq_decide.mpr (hlane i),
      decide_not]
  simp only [hmsb]
  exact eight_sub_countP fun i => decide (Differs threshold.toNat (bgrLane (n := 8) p i)
    (bgrLane (n := 8) c i))

/-- A lane of ones, shifted, counts one. -/
theorem allOnesIf_shift (c : Prop) [Decidable c] :
    (allOnesIf c : BitVec 32) >>> 31 = if c then 1 else 0 := by
  unfold allOnesIf
  split_ifs <;> rfl

/-- The comparison of a distance with the threshold. -/
theorem allOnesIf_distance (x y : BitVec 8) :
    (allOnesIf (BitVec.ofNat 8 (x.toNat - y.toNat + (y.toNat - x.toNat)) > threshold.toBitVec)
        : BitVec 8) = 0#8 ↔ absDiff (.ofBitVec x) (.ofBitVec y) ≤ threshold.toNat := by
  have hx := x.isLt
  have hy := y.isLt
  have hdistance : (BitVec.ofNat 8 (x.toNat - y.toNat + (y.toNat - x.toNat))).toNat
      = absDiff (.ofBitVec x) (.ofBitVec y) := by
    rw [BitVec.toNat_ofNat, Nat.mod_eq_of_lt (by omega)]
    rfl
  unfold allOnesIf
  split_ifs with h
  · refine iff_of_false (by decide) (Nat.not_le.mpr ?_)
    rw [← hdistance]
    exact BitVec.lt_def.mp h
  · refine iff_of_true rfl (Nat.not_lt.mp ?_)
    rw [← hdistance]
    exact fun hlt => h (BitVec.lt_def.mpr hlt)

/-- NEON: the changed lanes are added up. -/
theorem neon_countsPixels : CountsPixels 4 neonDifferent := by
  intro threshold p c
  have hlane : ∀ i : Fin 4, lane32 (n := 4) (vandqU8 (vcgtqU (vabdqU8 p c)
        (vdupqN threshold.toBitVec)) fun j => if j.val % 4 = 3 then 0x00 else 0xFF) i = 0#32 ↔
      ¬ Differs threshold.toNat (bgrLane (n := 4) p i) (bgrLane (n := 4) c i) := by
    intro i
    refine lane32_eq_zero_iff_differs (n := 4) ?_ ?_ i
    · intro j hj
      exact and_bgrMask.1 hj
    · intro j hj
      show vcgtqU (vabdqU8 p c) (vdupqN threshold.toBitVec) j
        &&& (if j.val % 4 = 3 then 0#8 else 0xFF#8) = 0#8 ↔ _
      rw [and_bgrMask.2 hj]
      exact allOnesIf_distance (p j) (c j)
  have hchanged : ∀ i : Fin 4, vshrqNU32 (vcgtqU (vreinterpretqU32U8 (vandqU8 (vcgtqU
        (vabdqU8 p c) (vdupqN threshold.toBitVec)) fun j => if j.val % 4 = 3 then 0x00 else 0xFF))
        (vdupqN 0)) 31 i
      = if Differs threshold.toNat (bgrLane (n := 4) p i) (bgrLane (n := 4) c i) then 1 else 0 := by
    intro i
    refine (allOnesIf_shift _).trans (if_congr ?_ rfl rfl)
    rw [← not_iff_not, ← hlane i]
    exact BitVec.not_lt.trans BitVec.le_zero_iff
  unfold neonDifferent
  dsimp only
  unfold vaddvqU32
  rw [hchanged, hchanged, hchanged, hchanged]
  -- four bits, whatever they are
  generalize hd : (fun i => decide (Differs threshold.toNat (bgrLane (n := 4) p i)
    (bgrLane (n := 4) c i))) = d
  have hiff : ∀ i, Differs threshold.toNat (bgrLane (n := 4) p i) (bgrLane (n := 4) c i)
      ↔ d i = true := by
    intro i
    rw [← hd, decide_eq_true_eq]
  simp only [hiff]
  rw [show List.finRange 4 = [0, 1, 2, 3] from rfl]
  simp only [List.countP_cons, List.countP_nil]
  cases d 0 <;> cases d 1 <;> cases d 2 <;> cases d 3 <;> rfl

end Registers

/-! ### Whole rows -/

section Rows

variable {n : ℕ} {threshold : UInt8} {prev curr : List UInt8}

/-- Counting up. -/
theorem foldl_count {α : Type} (p : α → Bool) (l : List α) (count : UInt32) :
    l.foldl (fun count a => if p a then count + 1 else count) count
      = count + .ofNat (l.countP p) := by
  induction l generalizing count with
  | nil => exact (UInt32.add_zero count).symm
  | cons a l ih =>
      rw [List.foldl_cons, ih, List.countP_cons]
      split
      · rw [UInt32.ofNat_add, UInt32.add_assoc, UInt32.add_comm 1]
        rfl
      · rfl

/-- Four bytes or more begin with a pixel. -/
theorem exists_first_pixel {row : List UInt8} (h : 4 ≤ row.length) :
    ∃ b g r a rest, row = b :: g :: r :: a :: rest := by
  rcases row with - | ⟨b, - | ⟨g, - | ⟨r, - | ⟨a, rest⟩⟩⟩⟩
  · simp at h
  · simp at h
  · simp at h
  · simp at h
  · exact ⟨b, g, r, a, rest, rfl⟩

/-- The loop over pixels and the recursion over the rows count the same. -/
theorem countDifferentPixelsScalar_eq (prev curr : List UInt8) (threshold : UInt8) :
    countDifferentPixelsScalar prev curr threshold
      = .ofNat (countDifferentPixels threshold prev curr) := by
  unfold countDifferentPixelsScalar
  rw [foldl_count, UInt32.zero_add]
  congr 1
  fun_induction countDifferentPixels threshold prev curr with
  | case1 pb pg pr pa prev cb cg cr ca curr ih =>
      have hp := chunksExact_append (n := 4) (a := [pb, pg, pr, pa]) (by decide) rfl prev
      have hc := chunksExact_append (n := 4) (a := [cb, cg, cr, ca]) (by decide) rfl curr
      simp only [List.cons_append, List.nil_append] at hp hc
      rw [hp, hc, List.zip_cons_cons, List.countP_cons, ih, Nat.add_comm]
      congr 1
      simp only [pixelDiffers, Bool.or_eq_true, decide_eq_true_eq, or_assoc]
      rfl
  | case2 prev curr hshort =>
      -- one of the rows has no whole pixel left
      have hlt : prev.length < 4 ∨ curr.length < 4 := by
        by_contra hlong
        rw [not_or, Nat.not_lt, Nat.not_lt] at hlong
        obtain ⟨pb, pg, pr, pa, prev, rfl⟩ := exists_first_pixel hlong.1
        obtain ⟨cb, cg, cr, ca, curr, rfl⟩ := exists_first_pixel hlong.2
        exact hshort pb pg pr pa prev cb cg cr ca curr rfl rfl
      rcases hlt with hlt | hlt
      · rw [chunksExact_of_short hlt]
        rfl
      · rw [chunksExact_of_short hlt, List.zip_nil_right]
        rfl

/-- Rows are counted pixel by pixel. -/
theorem countDifferentPixels_append {a b : List UInt8} {t : UInt8} (ha : a.length = n * 4)
    (hb : b.length = n * 4) (prev curr : List UInt8) :
    countDifferentPixels t (a ++ prev) (b ++ curr)
      = countDifferentPixels t a b + countDifferentPixels t prev curr := by
  induction n generalizing a b with
  | zero =>
      rw [List.length_eq_zero_iff.mp (ha.trans (Nat.zero_mul 4)),
        List.length_eq_zero_iff.mp (hb.trans (Nat.zero_mul 4))]
      exact (Nat.zero_add _).symm
  | succ n ih =>
      have ha' : 3 < a.length := by omega
      have hb' : 3 < b.length := by omega
      match a, b, ha, hb, ha', hb' with
      | pb :: pg :: pr :: pa :: a, cb :: cg :: cr :: ca :: b, ha, hb, _, _ =>
          simp only [List.length_cons] at ha hb
          simp only [List.cons_append, countDifferentPixels]
          rw [ih (by omega) (by omega), Nat.add_assoc]

/-- A register at an offset holds the pixels there. -/
theorem bgrLane_load (row : List UInt8) (offset : ℕ) (i : Fin n) :
    bgrLane (load row offset) i = bgrOf (slice row offset (4 * n)) i := by
  unfold bgrLane load bgrOf
  rw [getD_slice _ _ _ _ (by omega), getD_slice _ _ _ _ (by omega), getD_slice _ _ _ _ (by omega),
    Nat.mul_comm i.val]

/-- The body of a loop counts the pixels of the slices its registers hold. -/
theorem CountsPixels.slice
    {different : UInt8 → (Fin (4 * n) → BitVec 8) → (Fin (4 * n) → BitVec 8) → UInt32}
    (h : CountsPixels n different) {offset : ℕ} (hp : offset + 4 * n ≤ prev.length)
    (hc : offset + 4 * n ≤ curr.length) :
    different threshold (load prev offset) (load curr offset) = .ofNat (countDifferentPixels
      threshold (slice prev offset (4 * n)) (slice curr offset (4 * n))) := by
  have hlength := Nat.mul_comm 4 n
  rw [h, countDifferentPixels_eq threshold n _ _ ((length_slice _ _ _ hp).trans hlength)
    ((length_slice _ _ _ hc).trans hlength), ← List.map_coe_finRange_eq_range, List.countP_map]
  congr 2
  funext i
  rw [bgrLane_load, bgrLane_load]
  rfl

theorem length_take_registers {row : List UInt8} {m : ℕ} (hm : m * (4 * n) ≤ row.length) :
    (row.take (m * (4 * n))).length = m * n * 4 := by
  rw [List.length_take_of_le hm, Nat.mul_assoc, Nat.mul_comm n]

/-- The loop over registers counts the pixels before its end. -/
theorem foldl_registers
    {different : UInt8 → (Fin (4 * n) → BitVec 8) → (Fin (4 * n) → BitVec 8) → UInt32}
    (h : CountsPixels n different) (heq : prev.length = curr.length) {m : ℕ}
    (hm : m * (4 * n) ≤ prev.length) :
    (List.range m).foldl (fun count i => count + different threshold (load prev (i * (4 * n)))
      (load curr (i * (4 * n)))) 0
      = .ofNat (countDifferentPixels threshold (prev.take (m * (4 * n)))
        (curr.take (m * (4 * n)))) := by
  induction m with
  | zero =>
      rw [Nat.zero_mul, List.take_zero, List.take_zero]
      rfl
  | succ m ih =>
      rw [Nat.succ_mul] at hm
      rw [List.range_succ, List.foldl_append, List.foldl_cons, List.foldl_nil, ih (by omega),
        Nat.succ_mul m (4 * n), List.take_add, List.take_add,
        countDifferentPixels_append (length_take_registers (by omega))
          (length_take_registers (by omega)), UInt32.ofNat_add, h.slice (by omega) (by omega)]
      rfl

/-- **A kernel whose registers count their pixels agrees with the scalar loop**, on rows of
the same length, whatever it is. -/
theorem countByRegisters_eq
    {different : UInt8 → (Fin (4 * n) → BitVec 8) → (Fin (4 * n) → BitVec 8) → UInt32}
    (h : CountsPixels n different) (heq : prev.length = curr.length) (threshold : UInt8) :
    countByRegisters (4 * n) different prev curr threshold
      = countDifferentPixelsScalar prev curr threshold := by
  unfold countByRegisters
  split
  · rfl
  · have hle : prev.length / (4 * n) * (4 * n) ≤ prev.length := Nat.div_mul_le_self _ _
    have hsplit := countDifferentPixels_append (t := threshold) (length_take_registers hle)
      (length_take_registers (hle.trans heq.le)) (prev.drop (prev.length / (4 * n) * (4 * n)))
      (curr.drop (prev.length / (4 * n) * (4 * n)))
    rw [List.take_append_drop, List.take_append_drop] at hsplit
    dsimp only
    rw [foldl_registers h heq hle, countDifferentPixelsScalar_eq, countDifferentPixelsScalar_eq,
      hsplit, UInt32.ofNat_add]
    split
    · rfl
    · next hend =>
        -- nothing is left
        rw [List.drop_of_length_le (Nat.not_lt.mp hend)]
        exact (UInt32.add_zero _).symm

/-- **The vector kernels agree with the scalar loop**, for every threshold and on all rows of
the same length. -/
theorem count_different_pixels_simd_eq_scalar (heq : prev.length = curr.length)
    (threshold : UInt8) :
    countDifferentPixelsAvx2 prev curr threshold
        = countDifferentPixelsScalar prev curr threshold ∧
      countDifferentPixelsNeon prev curr threshold
        = countDifferentPixelsScalar prev curr threshold :=
  ⟨countByRegisters_eq avx2_countsPixels heq threshold,
    countByRegisters_eq neon_countsPixels heq threshold⟩

/-- Nine pixels and a byte, of which the last changed pixel is in the rest. -/
theorem count_different_pixels_nine :
    countDifferentPixelsAvx2 (List.replicate 37 0) (List.replicate 37 200) 4 = 9 ∧
      countDifferentPixelsNeon (List.replicate 37 0) (List.replicate 37 200) 4 = 9 := by
  have heq : (List.replicate 37 (0 : UInt8)).length = (List.replicate 37 (200 : UInt8)).length :=
    rfl
  obtain ⟨havx2, hneon⟩ := count_different_pixels_simd_eq_scalar heq 4
  exact ⟨havx2.trans (by decide), hneon.trans (by decide)⟩

end Rows

end LamcoRdp
