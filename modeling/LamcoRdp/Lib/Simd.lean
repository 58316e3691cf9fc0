/-
LamcoRdp/Lib/Simd.lean

Vector registers and the lane semantics of the x86 (SSE/AVX2) and NEON
intrinsics.

An x86 register is its bytes, the lowest first; an intrinsic that works on
wider elements reads them little endian (`lane16`, `lane32`) and writes them
back (`ofLanes16`, `ofLanes32`).  NEON intrinsics are typed by their lanes, so
their registers are lanes outright.

Memory is a list; `load` and `store` move the bytes of a register.  `Writes`
says that a step writes one stretch of memory, and loops of such steps compose
(`Writes.loop`).
-/
import Mathlib.Data.Fin.VecNotation
import Mathlib.Data.Fintype.Basic
import Mathlib.Data.List.Basic
import Mathlib.Tactic.FinCases
import LamcoRdp.Lib.RowMajor

namespace Simd

/-! ### Elements -/

/-- Signed maximum. -/
def maxS (a b : BitVec 32) : BitVec 32 := if a.toInt < b.toInt then b else a

/-- Signed minimum. -/
def minS (a b : BitVec 32) : BitVec 32 := if a.toInt < b.toInt then a else b

/-- Signed saturation to 16 bits. -/
def satS16 (x : BitVec 32) : BitVec 16 :=
  if x.toInt < -32768 then 0x8000#16 else if 32767 < x.toInt then 0x7fff#16 else x.setWidth 16

/-- Unsigned saturation of a signed 16-bit element to 8 bits. -/
def satU8 (x : BitVec 16) : BitVec 8 :=
  if x.toInt < 0 then 0#8 else if 255 < x.toInt then 255#8 else x.setWidth 8

/-- Unsigned subtraction that stops at zero. -/
def subSatU8 (x y : BitVec 8) : BitVec 8 := .ofNat 8 (x.toNat - y.toNat)

theorem toNat_subSatU8 (x y : BitVec 8) : (subSatU8 x y).toNat = x.toNat - y.toNat := by
  unfold subSatU8
  rw [BitVec.toNat_ofNat]
  omega

/-- The distance of two bytes, by two subtractions that stop at zero. -/
theorem toNat_subSatU8_or (x y : BitVec 8) :
    (subSatU8 x y ||| subSatU8 y x).toNat = (x.toNat - y.toNat) + (y.toNat - x.toNat) := by
  rw [BitVec.toNat_or, toNat_subSatU8, toNat_subSatU8]
  rcases Nat.le_total x.toNat y.toNat with h | h
  · rw [Nat.sub_eq_zero_of_le h, Nat.zero_or, Nat.zero_add]
  · rw [Nat.sub_eq_zero_of_le h, Nat.or_zero, Nat.add_zero]

/-- What a comparison leaves in a lane. -/
def allOnesIf {w : ℕ} (c : Prop) [Decidable c] : BitVec w := if c then .allOnes w else 0

/-- `Ord::clamp` on `i32`. -/
def clampS (x lo hi : BitVec 32) : BitVec 32 :=
  if x.toInt < lo.toInt then lo else if hi.toInt < x.toInt then hi else x

/-- Clamping with vector maximum and minimum. -/
theorem minS_maxS (x : BitVec 32) : minS (maxS x 0#32) 255#32 = clampS x 0#32 255#32 := by
  have h0 : (0#32).toInt = 0 := by decide
  have h255 : (255#32).toInt = 255 := by decide
  unfold minS maxS clampS
  rw [h0, h255]
  by_cases hneg : x.toInt < 0
  · simp only [if_pos hneg, h0]
    rfl
  · rw [if_neg hneg, if_neg hneg]
    by_cases hbig : 255 < x.toInt
    · rw [if_pos hbig, if_neg (by omega)]
    · rw [if_neg hbig]
      by_cases hlt : x.toInt < 255
      · rw [if_pos hlt]
      · rw [if_neg hlt]
        exact BitVec.eq_of_toInt_eq (by omega)

theorem toNat_clampS_le (x : BitVec 32) : (clampS x 0#32 255#32).toNat ≤ 255 := by
  have h0 : (0#32).toInt = 0 := by decide
  have h255 : (255#32).toInt = 255 := by decide
  unfold clampS
  rw [h0, h255]
  split
  · decide
  · next hneg =>
      split
      · decide
      · next hbig =>
          rw [BitVec.toInt_eq_toNat_cond] at hneg hbig
          split at hneg <;> omega

theorem toInt_of_byte {x : BitVec 32} (hx : x.toNat ≤ 255) : x.toInt = x.toNat := by
  rw [BitVec.toInt_eq_toNat_cond, if_pos (by omega)]

/-- Saturation leaves a byte value alone. -/
theorem satU8_of_le {x : BitVec 16} (hx : x.toNat ≤ 255) : satU8 x = x.setWidth 8 := by
  have hi : x.toInt = x.toNat := by
    rw [BitVec.toInt_eq_toNat_cond, if_pos (by omega)]
  unfold satU8
  rw [hi, if_neg (by omega), if_neg (by omega)]

/-- A byte value truncated to 16 bits and saturated to 8 is unchanged. -/
theorem satU8_setWidth {x : BitVec 32} (hx : x.toNat ≤ 255) :
    satU8 (x.setWidth 16) = x.setWidth 8 := by
  have hn : (x.setWidth 16).toNat = x.toNat := by
    rw [BitVec.toNat_setWidth]
    exact Nat.mod_eq_of_lt (by omega)
  rw [satU8_of_le (hn.trans_le hx)]
  apply BitVec.eq_of_toNat_eq
  rw [BitVec.toNat_setWidth, hn, BitVec.toNat_setWidth]

/-- The same with a signed saturation in the place of the truncation. -/
theorem satU8_satS16 {x : BitVec 32} (hx : x.toNat ≤ 255) :
    satU8 (satS16 x) = x.setWidth 8 := by
  have hs : satS16 x = x.setWidth 16 := by
    unfold satS16
    rw [toInt_of_byte hx, if_neg (by omega), if_neg (by omega)]
  rw [hs, satU8_setWidth hx]

/-! ### x86 registers -/

/-- `__m128i`. -/
abbrev M128 := Fin 16 → BitVec 8

/-- `__m256i`. -/
abbrev M256 := Fin 32 → BitVec 8

section Lanes

variable {n : ℕ}

theorem two_mul_lt (i : Fin n) : 2 * i.val < 2 * n := by omega

theorem two_mul_add_one_lt (i : Fin n) : 2 * i.val + 1 < 2 * n := by omega

theorem four_mul_lt (i : Fin n) : 4 * i.val < 4 * n := by omega

theorem four_mul_add_one_lt (i : Fin n) : 4 * i.val + 1 < 4 * n := by omega

theorem four_mul_add_two_lt (i : Fin n) : 4 * i.val + 2 < 4 * n := by omega

theorem four_mul_add_three_lt (i : Fin n) : 4 * i.val + 3 < 4 * n := by omega

/-- The `i`-th 16-bit element. -/
def lane16 (r : Fin (2 * n) → BitVec 8) (i : Fin n) : BitVec 16 :=
  r ⟨2 * i + 1, two_mul_add_one_lt i⟩ ++ r ⟨2 * i, two_mul_lt i⟩

/-- The `i`-th 32-bit element. -/
def lane32 (r : Fin (4 * n) → BitVec 8) (i : Fin n) : BitVec 32 :=
  r ⟨4 * i + 3, four_mul_add_three_lt i⟩ ++ r ⟨4 * i + 2, four_mul_add_two_lt i⟩
    ++ r ⟨4 * i + 1, four_mul_add_one_lt i⟩ ++ r ⟨4 * i, four_mul_lt i⟩

/-- Lanes of 16 bits, read as bytes. -/
def ofLanes16 (f : Fin n → BitVec 16) : Fin (2 * n) → BitVec 8 :=
  fun j => (f ⟨j / 2, by omega⟩).extractLsb' (8 * (j % 2)) 8

/-- Lanes of 32 bits, read as bytes. -/
def ofLanes32 (f : Fin n → BitVec 32) : Fin (4 * n) → BitVec 8 :=
  fun j => (f ⟨j / 4, by omega⟩).extractLsb' (8 * (j % 4)) 8

@[simp] theorem lane16_ofLanes16 (f : Fin n → BitVec 16) (i : Fin n) :
    lane16 (ofLanes16 f) i = f i := by
  have h1 : (2 * (i : ℕ) + 1) / 2 = i := by omega
  have h0 : 2 * (i : ℕ) / 2 = i := by omega
  have m1 : (2 * (i : ℕ) + 1) % 2 = 1 := by omega
  have m0 : 2 * (i : ℕ) % 2 = 0 := by omega
  simp only [lane16, ofLanes16, h1, h0, m1, m0]
  refine BitVec.eq_of_getLsbD_eq fun j hj => ?_
  simp only [BitVec.getLsbD_append, BitVec.getLsbD_extractLsb']
  split
  · next h => simp [h]
  · next h =>
      rw [decide_eq_true (by omega), Bool.true_and]
      congr 1
      omega

@[simp] theorem lane32_ofLanes32 (f : Fin n → BitVec 32) (i : Fin n) :
    lane32 (ofLanes32 f) i = f i := by
  have h3 : (4 * (i : ℕ) + 3) / 4 = i := by omega
  have h2 : (4 * (i : ℕ) + 2) / 4 = i := by omega
  have h1 : (4 * (i : ℕ) + 1) / 4 = i := by omega
  have h0 : 4 * (i : ℕ) / 4 = i := by omega
  have m3 : (4 * (i : ℕ) + 3) % 4 = 3 := by omega
  have m2 : (4 * (i : ℕ) + 2) % 4 = 2 := by omega
  have m1 : (4 * (i : ℕ) + 1) % 4 = 1 := by omega
  have m0 : 4 * (i : ℕ) % 4 = 0 := by omega
  simp only [lane32, ofLanes32, h3, h2, h1, h0, m3, m2, m1, m0]
  refine BitVec.eq_of_getLsbD_eq fun j hj => ?_
  simp only [BitVec.getLsbD_append, BitVec.getLsbD_extractLsb']
  -- one goal for each of the four bytes
  split_ifs
  all_goals
    rw [decide_eq_true (by omega), Bool.true_and]
    congr 1
    omega

end Lanes

/-- A 32-bit element is zero if its bytes are. -/
theorem lane32_eq_zero_iff {n : ℕ} (r : Fin (4 * n) → BitVec 8) (i : Fin n) :
    lane32 r i = 0#32 ↔ r ⟨4 * i, by omega⟩ = 0#8 ∧ r ⟨4 * i + 1, by omega⟩ = 0#8 ∧
      r ⟨4 * i + 2, by omega⟩ = 0#8 ∧ r ⟨4 * i + 3, by omega⟩ = 0#8 := by
  have happend : ∀ {v w : ℕ} (x : BitVec v) (y : BitVec w),
      (x ++ y).toNat = 0 ↔ x.toNat = 0 ∧ y.toNat = 0 := by
    intro v w x y
    rw [BitVec.toNat_append, Nat.or_eq_zero_iff, Nat.shiftLeft_eq_zero_iff]
  unfold lane32
  simp only [← BitVec.toNat_inj, BitVec.toNat_ofNat, Nat.zero_mod, happend]
  tauto

/-! ### x86 intrinsics -/

/-- `_mm_setzero_si128`. -/
def mmSetzeroSi128 : M128 := fun _ => 0#8

/-- `_mm_setr_epi8`. -/
def mmSetrEpi8 (e : Fin 16 → ℤ) : M128 := fun j => BitVec.ofInt 8 (e j)

/-- `_mm_shuffle_epi8`: a mask byte with its top bit set clears the byte. -/
def mmShuffleEpi8 (a mask : M128) : M128 := fun j =>
  if (mask j).msb then 0#8 else a ⟨(mask j).toNat % 16, by omega⟩

/-- `_mm_unpacklo_epi8`. -/
def mmUnpackloEpi8 (a b : M128) : M128 := fun j =>
  if j.val % 2 = 0 then a ⟨j / 2, by omega⟩ else b ⟨j / 2, by omega⟩

/-- `_mm_unpacklo_epi16`. -/
def mmUnpackloEpi16 (a b : M128) : M128 := fun j =>
  if j.val / 2 % 2 = 0 then a ⟨2 * (j / 4) + j % 2, by omega⟩
  else b ⟨2 * (j / 4) + j % 2, by omega⟩

/-- `_mm_unpackhi_epi16`. -/
def mmUnpackhiEpi16 (a b : M128) : M128 := fun j =>
  if j.val / 2 % 2 = 0 then a ⟨8 + 2 * (j / 4) + j % 2, by omega⟩
  else b ⟨8 + 2 * (j / 4) + j % 2, by omega⟩

/-- `_mm_unpacklo_epi32`. -/
def mmUnpackloEpi32 (a b : M128) : M128 := fun j =>
  if j.val / 4 % 2 = 0 then a ⟨4 * (j / 8) + j % 4, by omega⟩
  else b ⟨4 * (j / 8) + j % 4, by omega⟩

/-- The bytes `_mm_storel_epi64` stores. -/
def mmStorelEpi64 (a : M128) : Fin 8 → BitVec 8 := fun j => a ⟨j, by omega⟩

/-- `_mm256_castsi256_si128`: the low half. -/
def mm256Castsi256Si128 (a : M256) : M128 := fun j => a ⟨j, by omega⟩

/-- `_mm256_extracti128_si256`. -/
def mm256Extracti128Si256 (a : M256) (k : Fin 2) : M128 := fun j => a ⟨16 * k + j, by omega⟩

/-- `_mm256_set_m128i`. -/
def mm256SetM128i (hi lo : M128) : M256 := fun j =>
  if h : j.val < 16 then lo ⟨j, h⟩ else hi ⟨j - 16, by omega⟩

/-- `_mm256_setzero_si256`. -/
def mm256SetzeroSi256 : M256 := fun _ => 0#8

/-- `_mm256_set1_epi32`. -/
def mm256Set1Epi32 (x : BitVec 32) : M256 := ofLanes32 (n := 8) fun _ => x

/-- `_mm256_add_epi32`. -/
def mm256AddEpi32 (a b : M256) : M256 := ofLanes32 (n := 8) fun i => lane32 a i + lane32 b i

/-- `_mm256_mullo_epi32`: the low half of each product. -/
def mm256MulloEpi32 (a b : M256) : M256 := ofLanes32 (n := 8) fun i => lane32 a i * lane32 b i

/-- `_mm256_srai_epi32`. -/
def mm256SraiEpi32 (a : M256) (k : ℕ) : M256 :=
  ofLanes32 (n := 8) fun i => (lane32 a i).sshiftRight k

/-- `_mm256_max_epi32`. -/
def mm256MaxEpi32 (a b : M256) : M256 :=
  ofLanes32 (n := 8) fun i => maxS (lane32 a i) (lane32 b i)

/-- `_mm256_min_epi32`. -/
def mm256MinEpi32 (a b : M256) : M256 :=
  ofLanes32 (n := 8) fun i => minS (lane32 a i) (lane32 b i)

/-- `_mm256_packs_epi32`: in each 128-bit half, the four elements of `a`, then
the four of `b`. -/
def mm256PacksEpi32 (a b : M256) : M256 :=
  ofLanes16 (n := 16) fun t =>
    if h : t.val % 8 < 4 then satS16 (lane32 (n := 8) a ⟨4 * (t / 8) + t % 8, by omega⟩)
    else satS16 (lane32 (n := 8) b ⟨4 * (t / 8) + t % 8 - 4, by omega⟩)

/-- `_mm256_packus_epi16`: in each 128-bit half, the eight elements of `a`, then
the eight of `b`. -/
def mm256PackusEpi16 (a b : M256) : M256 := fun j =>
  if h : j.val % 16 < 8 then satU8 (lane16 (n := 16) a ⟨8 * (j / 16) + j % 16, by omega⟩)
  else satU8 (lane16 (n := 16) b ⟨8 * (j / 16) + j % 16 - 8, by omega⟩)

/-- `_mm256_set1_epi8`. -/
def mm256Set1Epi8 (x : BitVec 8) : M256 := fun _ => x

/-- `_mm256_or_si256`. -/
def mm256OrSi256 (a b : M256) : M256 := fun j => a j ||| b j

/-- `_mm256_and_si256`. -/
def mm256AndSi256 (a b : M256) : M256 := fun j => a j &&& b j

/-- `_mm256_subs_epu8`. -/
def mm256SubsEpu8 (a b : M256) : M256 := fun j => subSatU8 (a j) (b j)

/-- `_mm256_cmpeq_epi32`. -/
def mm256CmpeqEpi32 (a b : M256) : M256 :=
  ofLanes32 (n := 8) fun i => allOnesIf (lane32 (n := 8) a i = lane32 (n := 8) b i)

/-- `_mm256_set1_epi16`. -/
def mm256Set1Epi16 (x : BitVec 16) : M256 := ofLanes16 (n := 16) fun _ => x

/-- `_mm256_add_epi16`. -/
def mm256AddEpi16 (a b : M256) : M256 := ofLanes16 (n := 16) fun i => lane16 a i + lane16 b i

/-- `_mm256_srli_epi16`. -/
def mm256SrliEpi16 (a : M256) (k : ℕ) : M256 := ofLanes16 (n := 16) fun i => lane16 a i >>> k

/-- `_mm256_hadd_epi16`: in each 128-bit half, the sums of the four pairs of `a`, then those
of `b`. -/
def mm256HaddEpi16 (a b : M256) : M256 :=
  ofLanes16 (n := 16) fun t =>
    if h : t.val % 8 < 4 then
      lane16 (n := 16) a ⟨8 * (t / 8) + 2 * (t % 8), by omega⟩
        + lane16 (n := 16) a ⟨8 * (t / 8) + 2 * (t % 8) + 1, by omega⟩
    else
      lane16 (n := 16) b ⟨8 * (t / 8) + 2 * (t % 8 - 4), by omega⟩
        + lane16 (n := 16) b ⟨8 * (t / 8) + 2 * (t % 8 - 4) + 1, by omega⟩

/-- `_mm256_unpacklo_epi8`: in each 128-bit half, the low eight bytes of both in turn. -/
def mm256UnpackloEpi8 (a b : M256) : M256 := fun j =>
  if j.val % 2 = 0 then a ⟨16 * (j / 16) + j % 16 / 2, by omega⟩
  else b ⟨16 * (j / 16) + j % 16 / 2, by omega⟩

/-- `_mm256_unpackhi_epi8`: the same with the high eight bytes. -/
def mm256UnpackhiEpi8 (a b : M256) : M256 := fun j =>
  if j.val % 2 = 0 then a ⟨16 * (j / 16) + 8 + j % 16 / 2, by omega⟩
  else b ⟨16 * (j / 16) + 8 + j % 16 / 2, by omega⟩

/-- `_mm256_permute4x64_epi64`: two bits of `imm` for each 64-bit element. -/
def mm256Permute4x64Epi64 (a : M256) (imm : ℕ) : M256 := fun j =>
  a ⟨8 * (imm / 4 ^ (j.val / 8) % 4) + j % 8, by omega⟩

/-- `_mm256_movemask_ps`: the top bits of the eight elements. -/
def mm256MovemaskPs (a : M256) : BitVec 32 :=
  .ofNat 32 ((List.finRange 8).map fun i => if (lane32 (n := 8) a i).msb then 2 ^ i.val else 0).sum

/-- A byte with three zero bytes above it. -/
theorem zero_append_byte (x : BitVec 8) : 0#8 ++ 0#8 ++ 0#8 ++ x = x.setWidth 32 := by
  refine BitVec.eq_of_getLsbD_eq fun j hj => ?_
  simp only [BitVec.getLsbD_append, BitVec.getLsbD_setWidth, BitVec.getLsbD_zero]
  split_ifs
  · simp [hj]
  all_goals
    rw [BitVec.getLsbD_of_ge x j (by omega), Bool.and_false]

/-- The number of top bits set. -/
theorem cpop_movemask (a : M256) : (mm256MovemaskPs a).cpop
    = .ofNat 32 ((List.finRange 8).countP fun i => (lane32 (n := 8) a i).msb) := by
  have hbits : ∀ b0 b1 b2 b3 b4 b5 b6 b7 : Bool,
      (BitVec.ofNat 32 ((List.finRange 8).map fun i =>
          if ![b0, b1, b2, b3, b4, b5, b6, b7] i then 2 ^ i.val else 0).sum).cpop
        = .ofNat 32 ((List.finRange 8).countP ![b0, b1, b2, b3, b4, b5, b6, b7]) := by
    decide +kernel
  have hlanes : ∀ f : Fin 8 → Bool, f = ![f 0, f 1, f 2, f 3, f 4, f 5, f 6, f 7] := by
    intro f
    funext i
    fin_cases i <;> rfl
  unfold mm256MovemaskPs
  generalize hf : (fun i => (lane32 (n := 8) a i).msb) = f
  have hmsb : ∀ i, (lane32 (n := 8) a i).msb = f i := fun i => congrFun hf i
  simp only [hmsb]
  rw [hlanes f]
  exact hbits _ _ _ _ _ _ _ _

/-- A byte with a zero byte above it. -/
theorem zero_append_byte16 (x : BitVec 8) : 0#8 ++ x = x.setWidth 16 := by
  refine BitVec.eq_of_getLsbD_eq fun j hj => ?_
  simp only [BitVec.getLsbD_append, BitVec.getLsbD_setWidth, BitVec.getLsbD_zero]
  split_ifs
  · simp [hj]
  · rw [BitVec.getLsbD_of_ge x j (by omega), Bool.and_false]

section LaneLemmas

variable (a b : M256) (i : Fin 8) (t : Fin 16)

@[simp] theorem lane16_set1 (x : BitVec 16) : lane16 (n := 16) (mm256Set1Epi16 x) t = x :=
  lane16_ofLanes16 _ t

@[simp] theorem lane16_add : lane16 (n := 16) (mm256AddEpi16 a b) t
    = lane16 (n := 16) a t + lane16 (n := 16) b t :=
  lane16_ofLanes16 _ t

@[simp] theorem lane16_srli (k : ℕ) :
    lane16 (n := 16) (mm256SrliEpi16 a k) t = lane16 (n := 16) a t >>> k :=
  lane16_ofLanes16 _ t

/-- The words of a register widened with zeros: low halves. -/
theorem lane16_unpacklo_zero : lane16 (n := 16) (mm256UnpackloEpi8 a mm256SetzeroSi256) t
    = (a ⟨16 * (t / 8) + t % 8, by omega⟩).setWidth 16 := by
  have hdiv : (2 * t.val) / 16 = t / 8 := by omega
  have hmod : 2 * t.val % 16 / 2 = t % 8 := by omega
  rw [← zero_append_byte16]
  unfold lane16 mm256UnpackloEpi8
  rw [if_neg (by dsimp only; omega), if_pos (by dsimp only; omega)]
  simp only [hdiv, hmod]
  rfl

/-- The words of a register widened with zeros: high halves. -/
theorem lane16_unpackhi_zero : lane16 (n := 16) (mm256UnpackhiEpi8 a mm256SetzeroSi256) t
    = (a ⟨16 * (t / 8) + 8 + t % 8, by omega⟩).setWidth 16 := by
  have hdiv : (2 * t.val) / 16 = t / 8 := by omega
  have hmod : 2 * t.val % 16 / 2 = t % 8 := by omega
  rw [← zero_append_byte16]
  unfold lane16 mm256UnpackhiEpi8
  rw [if_neg (by dsimp only; omega), if_pos (by dsimp only; omega)]
  simp only [hdiv, hmod]
  rfl

@[simp] theorem lane32_set1 (x : BitVec 32) : lane32 (n := 8) (mm256Set1Epi32 x) i = x :=
  lane32_ofLanes32 _ i

@[simp] theorem lane32_setzero : lane32 (n := 8) mm256SetzeroSi256 i = 0#32 :=
  zero_append_byte 0#8

@[simp] theorem lane32_add :
    lane32 (n := 8) (mm256AddEpi32 a b) i = lane32 (n := 8) a i + lane32 (n := 8) b i :=
  lane32_ofLanes32 _ i

@[simp] theorem lane32_mullo :
    lane32 (n := 8) (mm256MulloEpi32 a b) i = lane32 (n := 8) a i * lane32 (n := 8) b i :=
  lane32_ofLanes32 _ i

@[simp] theorem lane32_srai (k : ℕ) :
    lane32 (n := 8) (mm256SraiEpi32 a k) i = (lane32 (n := 8) a i).sshiftRight k :=
  lane32_ofLanes32 _ i

@[simp] theorem lane32_max :
    lane32 (n := 8) (mm256MaxEpi32 a b) i = maxS (lane32 (n := 8) a i) (lane32 (n := 8) b i) :=
  lane32_ofLanes32 _ i

@[simp] theorem lane32_min :
    lane32 (n := 8) (mm256MinEpi32 a b) i = minS (lane32 (n := 8) a i) (lane32 (n := 8) b i) :=
  lane32_ofLanes32 _ i

end LaneLemmas

/-! ### NEON intrinsics

Registers of `n` lanes of `w` bits. -/

/-- A NEON register. -/
abbrev Neon (n w : ℕ) := Fin n → BitVec w

/-- `vdupq_n_s32`. -/
def vdupqNS32 (x : BitVec 32) : Neon 4 32 := fun _ => x

/-- `vld4_u8`: de-interleaves 32 bytes into four registers; this is register
`c`. -/
def vld4U8 (mem : Fin 32 → BitVec 8) (c : Fin 4) : Neon 8 8 := fun i => mem ⟨4 * i + c, by omega⟩

/-- `vmovl_u8`. -/
def vmovlU8 (a : Neon 8 8) : Neon 8 16 := fun i => (a i).setWidth 16

/-- `vget_low_u16`. -/
def vgetLowU16 (a : Neon 8 16) : Neon 4 16 := fun i => a ⟨i, by omega⟩

/-- `vget_high_u16`. -/
def vgetHighU16 (a : Neon 8 16) : Neon 4 16 := fun i => a ⟨i + 4, by omega⟩

/-- `vmovl_u16`; `vreinterpretq_s32_u32` changes no bit. -/
def vmovlU16 (a : Neon 4 16) : Neon 4 32 := fun i => (a i).setWidth 32

/-- `vmulq_s32`. -/
def vmulqS32 (a b : Neon 4 32) : Neon 4 32 := fun i => a i * b i

/-- `vmlaq_s32`: multiply and accumulate. -/
def vmlaqS32 (a b c : Neon 4 32) : Neon 4 32 := fun i => a i + b i * c i

/-- `vaddq_s32`. -/
def vaddqS32 (a b : Neon 4 32) : Neon 4 32 := fun i => a i + b i

/-- `vshrq_n_s32`. -/
def vshrqNS32 (a : Neon 4 32) (k : ℕ) : Neon 4 32 := fun i => (a i).sshiftRight k

/-- `vmaxq_s32`. -/
def vmaxqS32 (a b : Neon 4 32) : Neon 4 32 := fun i => maxS (a i) (b i)

/-- `vminq_s32`. -/
def vminqS32 (a b : Neon 4 32) : Neon 4 32 := fun i => minS (a i) (b i)

/-- `vmovn_s32`: keeps the low half of each lane. -/
def vmovnS32 (a : Neon 4 32) : Neon 4 16 := fun i => (a i).setWidth 16

theorem sub_four_lt {i : Fin 8} (h : ¬ i.val < 4) : i.val - 4 < 4 := by omega

/-- `vcombine_s16`. -/
def vcombineS16 (lo hi : Neon 4 16) : Neon 8 16 := fun i =>
  if h : i.val < 4 then lo ⟨i, h⟩ else hi ⟨i - 4, sub_four_lt h⟩

/-- `vqmovun_s16`. -/
def vqmovunS16 (a : Neon 8 16) : Neon 8 8 := fun i => satU8 (a i)

/-- `vget_low_u8`. -/
def vgetLowU8 (a : Neon 16 8) : Neon 8 8 := fun i => a ⟨i, by omega⟩

/-- `vget_high_u8`. -/
def vgetHighU8 (a : Neon 16 8) : Neon 8 8 := fun i => a ⟨i + 8, by omega⟩

/-- `vaddq_u16`. -/
def vaddqU16 (a b : Neon 8 16) : Neon 8 16 := fun i => a i + b i

/-- `vpaddq_u16`: the sums of the pairs of `a`, then those of `b`. -/
def vpaddqU16 (a b : Neon 8 16) : Neon 8 16 := fun i =>
  if h : i.val < 4 then a ⟨2 * i, by omega⟩ + a ⟨2 * i + 1, by omega⟩
  else b ⟨2 * (i - 4), by omega⟩ + b ⟨2 * (i - 4) + 1, by omega⟩

/-- `vshrq_n_u16`. -/
def vshrqNU16 (a : Neon 8 16) (k : ℕ) : Neon 8 16 := fun i => a i >>> k

/-- `vmovn_u16`: keeps the low half of each lane. -/
def vmovnU16 (a : Neon 8 16) : Neon 8 8 := fun i => (a i).setWidth 8

/-- `vdupq_n_u8`, `vdupq_n_u16` and `vdupq_n_u32`. -/
def vdupqN {n w : ℕ} (x : BitVec w) : Neon n w := fun _ => x

/-- `vabdq_u8`: the distance. -/
def vabdqU8 (a b : Neon 16 8) : Neon 16 8 :=
  fun i => .ofNat 8 ((a i).toNat - (b i).toNat + ((b i).toNat - (a i).toNat))

/-- `vcgtq_u8` and `vcgtq_u32`. -/
def vcgtqU {n w : ℕ} (a b : Neon n w) : Neon n w := fun i => allOnesIf (a i > b i)

/-- `vandq_u8`. -/
def vandqU8 (a b : Neon 16 8) : Neon 16 8 := fun i => a i &&& b i

/-- `vreinterpretq_u32_u8`. -/
def vreinterpretqU32U8 (a : Neon 16 8) : Neon 4 32 := fun i => lane32 (n := 4) a i

/-- `vshrq_n_u32`. -/
def vshrqNU32 (a : Neon 4 32) (k : ℕ) : Neon 4 32 := fun i => a i >>> k

/-- A register of four lanes has a first one. -/
theorem neZero_four : NeZero 4 := ⟨by decide⟩

attribute [local instance] neZero_four in
/-- `vaddvq_u32`: the sum of the lanes. -/
def vaddvqU32 (a : Neon 4 32) : BitVec 32 := a 0 + a 1 + a 2 + a 3

/-! ### Memory -/

section Memory

variable {α : Type*} {n : ℕ}

/-- The bytes of a register at an offset. -/
def load (mem : List UInt8) (off : ℕ) : Fin n → BitVec 8 := fun j => (mem.getD (off + j) 0).toBitVec

/-- Write the elements of a register at an offset. -/
def store (mem : List α) (off : ℕ) (r : Fin n → α) : List α :=
  mem.mapIdx fun j x => if h : off ≤ j ∧ j < off + n then r ⟨j - off, by omega⟩ else x

theorem getElem?_store (mem : List α) (off : ℕ) (r : Fin n → α) (j : ℕ) :
    (store mem off r)[j]? = mem[j]?.map fun x =>
      if h : off ≤ j ∧ j < off + n then r ⟨j - off, by omega⟩ else x := by
  rw [store, List.getElem?_mapIdx]

/-- A step that writes `f` to the stretch from `s` to `e`, and leaves the rest alone. -/
def Writes (f : ℕ → α) (s e : ℕ) (step : List α → List α) : Prop :=
  ∀ mem j, (step mem)[j]? = mem[j]?.map fun x => if s ≤ j ∧ j < e then f j else x

section Writes

variable {f : ℕ → α} {a b c : ℕ} {step step' : List α → List α}

theorem writes_id (f : ℕ → α) (a : ℕ) : Writes f a a fun mem => mem := by
  intro mem j
  have hno : ∀ x : α, (if a ≤ j ∧ j < a then f j else x) = x := fun x => if_neg (by omega)
  simp only [hno, Option.map_id']

theorem writes_store {off : ℕ} {r : Fin n → α} (hr : ∀ k : Fin n, r k = f (off + k)) :
    Writes f off (off + n) fun mem => store mem off r := by
  intro mem j
  rw [getElem?_store]
  congr 1
  funext x
  split
  · next h =>
      rw [hr]
      congr 1
      dsimp only
      omega
  · rfl

theorem writes_set (f : ℕ → α) (i : ℕ) : Writes f i (i + 1) fun mem => mem.set i (f i) := by
  intro mem j
  dsimp only
  rw [List.getElem?_set']
  split
  · next h =>
      subst h
      rw [Option.map_eq_map]
      congr 1
      funext x
      rw [if_pos ⟨le_rfl, Nat.lt_succ_self _⟩]
      rfl
  · next h =>
      have hno : ∀ x : α, (if i ≤ j ∧ j < i + 1 then f j else x) = x :=
        fun x => if_neg (by omega)
      simp only [hno, Option.map_id']

/-- One stretch, and the next. -/
theorem Writes.comp (h : Writes f a b step) (h' : Writes f b c step') (hab : a ≤ b)
    (hbc : b ≤ c) : Writes f a c fun mem => step' (step mem) := by
  intro mem j
  rw [h', h, Option.map_map]
  congr 1
  funext x
  show (if b ≤ j ∧ j < c then f j else if a ≤ j ∧ j < b then f j else x) = _
  split_ifs <;> first | rfl | omega

/-- A loop that writes one stretch after another. -/
theorem Writes.loop {g : ℕ → ℕ} {s : ℕ → List α → List α} {m : ℕ}
    (hmono : ∀ i, g i ≤ g (i + 1)) (h : ∀ i < m, Writes f (g i) (g (i + 1)) (s i)) :
    Writes f (g 0) (g m) fun mem => (List.range m).foldl (fun mem i => s i mem) mem := by
  induction m with
  | zero => exact writes_id f (g 0)
  | succ m ih =>
      simp only [List.range_succ, List.foldl_append, List.foldl_cons, List.foldl_nil]
      refine (ih fun i hi => h i (Nat.lt_succ_of_lt hi)).comp (h m (Nat.lt_succ_self m)) ?_
        (hmono m)
      exact monotone_nat_of_le_succ hmono (Nat.zero_le m)

/-- Memory that has been written from its beginning to its end. -/
theorem Writes.eq_map {mem : List α} (h : Writes f 0 mem.length step) :
    step mem = (List.range mem.length).map f := by
  refine List.ext_getElem? fun j => ?_
  rw [h, List.getElem?_map]
  rcases Nat.lt_or_ge j mem.length with hj | hj
  · rw [List.getElem?_eq_getElem hj, List.getElem?_range hj]
    exact congrArg some (if_pos ⟨Nat.zero_le j, hj⟩)
  · rw [List.getElem?_eq_none hj, List.getElem?_eq_none (by rwa [List.length_range])]
    rfl

end Writes

/-- A loop that stores one register after another. -/
theorem getElem?_foldl_store (mem : List α) (hn : 0 < n) (r : ℕ → Fin n → α) (m j : ℕ) :
    ((List.range m).foldl (fun mem i => store mem (i * n) (r i)) mem)[j]?
      = mem[j]?.map fun x => if j < m * n then r (j / n) ⟨j % n, Nat.mod_lt j hn⟩ else x := by
  have hloop := Writes.loop (f := fun j => r (j / n) ⟨j % n, Nat.mod_lt j hn⟩)
    (g := fun i => i * n) (s := fun i mem => store mem (i * n) (r i)) (m := m)
    (fun i => Nat.mul_le_mul_right n (Nat.le_succ i)) (fun i _ => by
      rw [Nat.succ_mul]
      refine writes_store fun k => ?_
      have hdiv : (i * n + k) / n = i := RowMajor.div_index k.isLt i
      have hmod : (i * n + k) % n = k := Nat.mul_add_mod_of_lt k.isLt
      simp only [hdiv, hmod])
  rw [hloop]
  congr 1
  funext x
  rw [Nat.zero_mul]
  exact if_congr (and_iff_right (Nat.zero_le j)) rfl rfl

/-- A loop that sets one element after another. -/
theorem getElem?_foldl_set (mem : List α) (f : ℕ → α) (s k j : ℕ) :
    ((List.range' s k).foldl (fun mem i => mem.set i (f i)) mem)[j]?
      = mem[j]?.map fun x => if s ≤ j ∧ j < s + k then f j else x := by
  rw [List.range'_eq_map_range, List.foldl_map]
  exact Writes.loop (g := fun i => s + i) (s := fun i mem => mem.set (s + i) (f (s + i)))
    (fun i => Nat.le_succ (s + i)) (fun i _ => writes_set f (s + i)) mem j

end Memory

end Simd
