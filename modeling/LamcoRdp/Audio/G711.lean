/-
LamcoRdp/Audio/G711.lean

The G.711 codecs (`audio/codecs/g711.rs`).

A magnitude is coded by an exponent and four bits of mantissa, and decoded as the middle of
its step.  μ-law adds a bias first, so that every magnitude has a leading one; A-law has a
first segment without.  Both decode a sample within the 32nd part of itself, and code what
they decode as it was.

Two code words of μ-law stand for zero, and its negation of the least sample overflows: in a
release build `-32768` comes back as `-16764`.  A-law takes care of that sample.
-/
import LamcoRdp.Lib.Companding
import Mathlib.Data.Fintype.Basic
import Mathlib.Data.Int.Order.Basic

namespace LamcoRdp

open Companding

/-! ### μ-law -/

namespace MulawEncoder

/-- `MULAW_BIAS`. -/
def bias : Int16 := 0x84

/-- `MULAW_CLIP`. -/
def clip : Int16 := 32635

/-- `get_exponent`. -/
def getExponent (sample : Int16) : UInt8 :=
  let sample := sample.toUInt16
  if sample ≤ 0x00FF then 0
  else if sample ≤ 0x01FF then 1
  else if sample ≤ 0x03FF then 2
  else if sample ≤ 0x07FF then 3
  else if sample ≤ 0x0FFF then 4
  else if sample ≤ 0x1FFF then 5
  else if sample ≤ 0x3FFF then 6
  else 7

/-- The magnitude with the bias; the negation wraps around. -/
def biased (sample : Int16) : Int16 :=
  (if sample < 0 then min (-sample) clip else min sample clip) + bias

/-- `encode_sample` of the µ-law encoder: sign, exponent and mantissa, complemented. -/
def encodeSample (sample : Int16) : UInt8 :=
  let sign : UInt8 := if sample < 0 then 0x80 else 0x00
  let sample := biased sample
  let exponent := getExponent sample
  let mantissa := ((sample >>> (exponent + 3).toUInt16.toInt16) &&& 0x0F).toUInt16.toUInt8
  ~~~(sign ||| (exponent <<< 4) ||| mantissa)

/-- `encode` of the µ-law encoder, a byte for each sample. -/
def encode (pcm : List Int16) : List UInt8 := pcm.map encodeSample

/-- `decode_sample` of the µ-law decoder. -/
def decodeSample (ulaw : UInt8) : Int16 :=
  let ulaw := ~~~ulaw
  let sign := ulaw &&& 0x80
  let exponent := ((ulaw >>> 4) &&& 0x07).toUInt16.toInt16
  let mantissa := (ulaw &&& 0x0F).toUInt16.toInt16
  let sample := (((mantissa <<< 3) + bias) <<< exponent) - bias
  if sign ≠ 0 then -sample else sample

/-! ### The magnitudes of μ-law -/

/-- The number that is coded for a sample of this magnitude. -/
def coded (magnitude : ℕ) : ℕ := min magnitude 32635 + 132

/-- The code word of a sign, an exponent and a mantissa. -/
def codeword (negative : Bool) (e : Fin 8) (m : Fin 16) : UInt8 :=
  ~~~((if negative then (0x80 : UInt8) else 0) ||| (e.val.toUInt8 <<< 4) ||| m.val.toUInt8)

/-- A code word is decoded as the middle of its step. -/
theorem toInt_decodeSample : ∀ (negative : Bool) (e : Fin 8) (m : Fin 16),
    (decodeSample (codeword negative e m)).toInt =
      (if negative then -1 else 1) * ((mid 4 (e.val + 3) m : ℤ) - 132) := by
  decide +kernel

variable {sample : Int16}

theorem toInt_min_clip (x : Int16) : (min x clip).toInt = min x.toInt 32635 := by
  have hclip : clip.toInt = 32635 := by decide
  change (if x ≤ clip then x else clip).toInt = min x.toInt 32635
  split
  next hle =>
    rw [Int16.le_iff_toInt_le, hclip] at hle
    omega
  next hle =>
    rw [Int16.le_iff_toInt_le, hclip] at hle
    omega

theorem toInt_neg (h : sample ≠ -32768) : (-sample).toInt = -sample.toInt := by
  have hlow := Int16.minValue_le_toInt sample
  have hne : sample.toInt ≠ -32768 := fun heq => h (Int16.toInt_inj.mp heq)
  have hhigh := Int16.toInt_lt sample
  rw [Int16.toInt_minValue] at hlow
  rw [Int16.toInt_neg, Int.bmod_eq_of_le (by omega) (by omega)]

/-- Only the negation of the least sample overflows. -/
theorem toInt_biased (h : sample ≠ -32768) :
    (biased sample).toInt = coded sample.toInt.natAbs := by
  have hbias : bias.toInt = 132 := by decide
  have hneg : sample < 0 ↔ sample.toInt < 0 := Int16.lt_iff_toInt_lt
  rw [biased, coded, Int16.toInt_add, hbias]
  split
  next hlt =>
    rw [hneg] at hlt
    rw [toInt_min_clip, toInt_neg h, Int.bmod_eq_of_le (by omega) (by omega)]
    omega
  next hlt =>
    rw [hneg] at hlt
    rw [toInt_min_clip, Int.bmod_eq_of_le (by omega) (by omega)]
    omega

theorem msb_of_nonneg {x : Int16} (hx : 0 ≤ x.toInt) : x.toBitVec.msb = false := by
  rw [BitVec.msb_eq_toInt]
  exact decide_eq_false (not_lt.mpr hx)

theorem toNat_toUInt16 {x : Int16} (hx : 0 ≤ x.toInt) : x.toUInt16.toNat = x.toInt.toNat := by
  rw [show x.toInt = x.toBitVec.toNat from BitVec.toInt_eq_toNat_of_msb (msb_of_nonneg hx)]
  rfl

/-- The bits of a magnitude below its leading one. -/
theorem toNat_mantissa {x : Int16} (hx : 0 ≤ x.toInt) (e : Fin 8) :
    ((x >>> (e.val.toUInt8 + 3).toUInt16.toInt16) &&& 0x0F).toUInt16.toUInt8.toNat =
      x.toInt.toNat / 2 ^ (e.val + 3) % 16 := by
  have hmsb := msb_of_nonneg hx
  have hnat : x.toInt.toNat = x.toBitVec.toNat := (toNat_toUInt16 hx).symm
  have hshift : ((e.val.toUInt8 + 3).toUInt16.toInt16.toBitVec.smod 16).toNat = e.val + 3 := by
    revert e
    decide
  have hbits : ((x >>> (e.val.toUInt8 + 3).toUInt16.toInt16) &&& 0x0F).toBitVec.toNat =
      x.toInt.toNat / 2 ^ (e.val + 3) % 16 := by
    rw [Int16.toBitVec_and, Int16.toBitVec_shiftRight, BitVec.sshiftRight', hshift,
      BitVec.sshiftRight_eq_of_msb_false hmsb, BitVec.toNat_and, BitVec.toNat_ushiftRight,
      Nat.shiftRight_eq_div_pow, hnat]
    exact Nat.and_two_pow_sub_one_eq_mod _ 4
  have hbyte : ((x >>> (e.val.toUInt8 + 3).toUInt16.toInt16) &&& 0x0F).toUInt16.toUInt8.toNat =
      ((x >>> (e.val.toUInt8 + 3).toUInt16.toInt16) &&& 0x0F).toBitVec.toNat % 256 := rfl
  rw [hbyte, hbits]
  omega

/-- The exponent, by the power of two below a magnitude. -/
theorem exists_getExponent {x : Int16} (hlow : 132 ≤ x.toInt) :
    ∃ e : Fin 8, getExponent x = e.val.toUInt8 ∧ 2 ^ (4 + (e.val + 3)) ≤ x.toInt.toNat ∧
      x.toInt.toNat < 2 ^ (4 + (e.val + 3) + 1) := by
  have hhigh := Int16.toInt_lt x
  have hle (n : UInt16) : x.toUInt16 ≤ n ↔ x.toInt.toNat ≤ n.toNat := by
    rw [UInt16.le_iff_toNat_le, toNat_toUInt16 (by omega)]
  have hy : 132 ≤ x.toInt.toNat ∧ x.toInt.toNat < 32768 := by omega
  -- the comparisons are those of the magnitude with the ends of the segments
  simp only [getExponent, hle, UInt16.reduceToNat]
  generalize x.toInt.toNat = y at hy
  by_cases h0 : y ≤ 255
  · exact ⟨0, if_pos h0, (by omega : 2 ^ 7 ≤ y), (by omega : y < 2 ^ 8)⟩
  rw [if_neg h0]
  by_cases h1 : y ≤ 511
  · exact ⟨1, if_pos h1, (by omega : 2 ^ 8 ≤ y), (by omega : y < 2 ^ 9)⟩
  rw [if_neg h1]
  by_cases h2 : y ≤ 1023
  · exact ⟨2, if_pos h2, (by omega : 2 ^ 9 ≤ y), (by omega : y < 2 ^ 10)⟩
  rw [if_neg h2]
  by_cases h3 : y ≤ 2047
  · exact ⟨3, if_pos h3, (by omega : 2 ^ 10 ≤ y), (by omega : y < 2 ^ 11)⟩
  rw [if_neg h3]
  by_cases h4 : y ≤ 4095
  · exact ⟨4, if_pos h4, (by omega : 2 ^ 11 ≤ y), (by omega : y < 2 ^ 12)⟩
  rw [if_neg h4]
  by_cases h5 : y ≤ 8191
  · exact ⟨5, if_pos h5, (by omega : 2 ^ 12 ≤ y), (by omega : y < 2 ^ 13)⟩
  rw [if_neg h5]
  by_cases h6 : y ≤ 16383
  · exact ⟨6, if_pos h6, (by omega : 2 ^ 13 ≤ y), (by omega : y < 2 ^ 14)⟩
  rw [if_neg h6]
  exact ⟨7, rfl, (by omega : 2 ^ 14 ≤ y), (by omega : y < 2 ^ 15)⟩

/-- What a sample is coded as. -/
theorem exists_codeword (h : sample ≠ -32768) :
    ∃ (e : Fin 8) (m : Fin 16), encodeSample sample = codeword (decide (sample < 0)) e m ∧
      InStep 4 (e.val + 3) m (coded sample.toInt.natAbs) := by
  have hbiased := toInt_biased h
  have hlow : 132 ≤ (biased sample).toInt := by
    rw [hbiased, coded]
    omega
  obtain ⟨e, he, hge, hlt⟩ := exists_getExponent hlow
  have hm := toNat_mantissa (x := biased sample) (by omega) e
  have hnat : (biased sample).toInt.toNat = coded sample.toInt.natAbs := by
    rw [hbiased]
    rfl
  rw [hnat] at hge hlt hm
  have hstep := inStep_of_le hge hlt
  have hmantissa : ((biased sample >>> (e.val.toUInt8 + 3).toUInt16.toInt16) &&&
      0x0F).toUInt16.toUInt8 = (coded sample.toInt.natAbs / 2 ^ (e.val + 3) % 2 ^ 4).toUInt8 := by
    rw [← UInt8.toNat_inj, hm]
    exact (Nat.mod_eq_of_lt (by omega)).symm
  refine ⟨e, ⟨_, hstep.mantissa⟩, ?_, hstep⟩
  simp only [encodeSample, codeword, he, hmantissa, decide_eq_true_eq]

/-! ### μ-law, decoded -/

/-- The decoded sample is off by the 32nd part of the biased magnitude at most. -/
def Close (sample decoded : Int16) : Prop :=
  32 * (decoded.toInt - sample.toInt).natAbs ≤ sample.toInt.natAbs + 132

/-- The decoded sample, by the step of the sample's magnitude. -/
theorem exists_decoded (h : sample ≠ -32768) :
    ∃ (e : Fin 8) (m : Fin 16), InStep 4 (e.val + 3) m (coded sample.toInt.natAbs) ∧
      (decodeSample (encodeSample sample)).toInt =
        (if sample.toInt < 0 then -1 else 1) * ((mid 4 (e.val + 3) m : ℤ) - 132) := by
  obtain ⟨e, m, henc, hstep⟩ := exists_codeword h
  refine ⟨e, m, hstep, ?_⟩
  rw [henc, toInt_decodeSample]
  simp only [decide_eq_true_eq, Int16.lt_iff_toInt_lt, Int16.toInt_zero]

theorem close_of_ne (h : sample ≠ -32768) : Close sample (decodeSample (encodeSample sample)) := by
  obtain ⟨e, m, hstep, hdec⟩ := exists_decoded h
  have herror := hstep.error
  have hhalf := hstep.half
  have hpow : 2 ^ (e.val + 3) ≤ 2 ^ 10 := Nat.pow_le_pow_right (by decide) (by omega)
  have hlow := Int16.le_toInt sample
  have hhigh := Int16.toInt_lt sample
  rw [Close, hdec]
  rw [coded] at herror hhalf
  -- the magnitude is clipped or it is not
  split <;> omega

/-- The least sample overflows and comes back as about the half of itself. -/
theorem decodeSample_encodeSample_min : decodeSample (encodeSample (-32768)) = -16764 := by decide

theorem close_iff : Close sample (decodeSample (encodeSample sample)) ↔ sample ≠ -32768 := by
  constructor
  · rintro h rfl
    rw [decodeSample_encodeSample_min] at h
    exact absurd h (by rw [Close]; decide)
  · exact close_of_ne

/-- Decoding keeps the order. -/
theorem decodeSample_mono {sample' : Int16} (h : sample ≠ -32768) (h' : sample' ≠ -32768)
    (hle : sample ≤ sample') :
    decodeSample (encodeSample sample) ≤ decodeSample (encodeSample sample') := by
  obtain ⟨e, m, hstep, hdec⟩ := exists_decoded h
  obtain ⟨e', m', hstep', hdec'⟩ := exists_decoded h'
  have hmid (e : Fin 8) (m : Fin 16) : 132 ≤ mid 4 (e.val + 3) m := by
    revert e m
    decide
  have h₁ := hmid e m
  have h₂ := hmid e' m'
  rw [Int16.le_iff_toInt_le] at hle ⊢
  rw [hdec, hdec']
  have hlow := Int16.le_toInt sample
  by_cases hneg : sample.toInt < 0 <;> by_cases hneg' : sample'.toInt < 0
  · -- the greater magnitude is the lesser sample
    have hcoded : coded sample'.toInt.natAbs ≤ coded sample.toInt.natAbs := by
      rw [coded, coded]
      omega
    have hmono := hstep'.mid_le_mid hstep hcoded
    rw [if_pos hneg, if_pos hneg']
    omega
  · rw [if_pos hneg, if_neg hneg']
    omega
  · omega
  · have hcoded : coded sample.toInt.natAbs ≤ coded sample'.toInt.natAbs := by
      rw [coded, coded]
      omega
    have hmono := hstep.mid_le_mid hstep' hcoded
    rw [if_neg hneg, if_neg hneg']
    omega

theorem encodeSample_decodeSample_aux : ∀ c : Fin 256,
    encodeSample (decodeSample c.val.toUInt8) = c.val.toUInt8 ↔ c ≠ 0x7F := by
  decide +kernel

/-- Of the code words only the negative zero is coded anew. -/
theorem encodeSample_decodeSample_iff (c : UInt8) :
    encodeSample (decodeSample c) = c ↔ c ≠ 0x7F := by
  have h := encodeSample_decodeSample_aux ⟨c.toNat, c.toNat_lt⟩
  rw [show (Fin.mk c.toNat c.toNat_lt : Fin 256).val.toUInt8 = c from UInt8.ofNat_toNat] at h
  rw [h, Ne, Ne, Fin.ext_iff, ← UInt8.toNat_inj]
  rfl

end MulawEncoder

/-! ### A-law -/

namespace AlawEncoder

/-- The magnitude of a sample, in `i32`. -/
def magnitude (sample : Int16) : ℕ :=
  if 0 ≤ sample then sample.toInt.toNat
  else if sample = -32768 then 32767 else (-sample).toInt.toNat

/-- Segment and mantissa of a magnitude of thirteen bits. -/
def segment (mag : ℕ) : UInt8 × UInt8 :=
  if mag < 32 then (0, (mag >>> 1).toUInt8)
  else if mag < 64 then (1, ((mag - 32) >>> 1).toUInt8)
  else if mag < 128 then (2, ((mag - 64) >>> 2).toUInt8)
  else if mag < 256 then (3, ((mag - 128) >>> 3).toUInt8)
  else if mag < 512 then (4, ((mag - 256) >>> 4).toUInt8)
  else if mag < 1024 then (5, ((mag - 512) >>> 5).toUInt8)
  else if mag < 2048 then (6, ((mag - 1024) >>> 6).toUInt8)
  else (7, min ((mag - 2048) >>> 7).toUInt8 15)

/-- `encode_sample` of the A-law encoder: sign, segment and mantissa, with every other bit
complemented. -/
def encodeSample (sample : Int16) : UInt8 :=
  let sign : UInt8 := if 0 ≤ sample then 0x00 else 0x80
  let mag := min (magnitude sample >>> 3) 4095
  let (seg, mant) := segment mag
  (sign ||| (seg <<< 4) ||| (mant &&& 0x0F)) ^^^ 0x55

/-- `encode` of the A-law encoder, a byte for each sample. -/
def encode (pcm : List Int16) : List UInt8 := pcm.map encodeSample

/-- The entry of `ALAW_DECODE_TABLE`, in `i32` up to the clamp. -/
def decodeSample (alaw : UInt8) : Int16 :=
  let alaw := alaw ^^^ 0x55
  let sign := alaw &&& 0x80
  let seg := ((alaw >>> 4) &&& 0x07).toNat
  let mant := (alaw &&& 0x0F).toNat
  let linear : ℤ :=
    match seg with
    | 0 => (mant <<< 1) + 1
    | 1 => (mant <<< 1) + 1 + 32
    | _ => (1 <<< (seg + 4)) + (mant <<< 1) * (1 <<< (seg - 1)) + (1 <<< (seg - 1))
  let linear := linear * 8
  let linear := if sign ≠ 0 then -linear else linear
  .ofInt (if 32767 < linear then 32767 else if linear < -32768 then -32768 else linear)

/-! ### The magnitudes of A-law -/

/-- The code word of a sign, a segment and a mantissa. -/
def codeword (negative : Bool) (e : Fin 8) (m : Fin 16) : UInt8 :=
  ((if negative then (0x80 : UInt8) else 0) ||| (e.val.toUInt8 <<< 4) |||
    (m.val.toUInt8 &&& 0x0F)) ^^^ 0x55

/-- The middle of a step; the first segment has steps of two from zero on. -/
def middle (e : Fin 8) (m : Fin 16) : ℕ := if e = 0 then 2 * m.val + 1 else mid 4 e.val m.val

/-- A code word is decoded as the middle of its step. -/
theorem toInt_decodeSample : ∀ (negative : Bool) (e : Fin 8) (m : Fin 16),
    (decodeSample (codeword negative e m)).toInt =
      (if negative then -1 else 1) * (8 * middle e m : ℤ) := by
  decide +kernel

/-- A magnitude of thirteen bits lies in a step of its segment. -/
def InSegment (e : Fin 8) (m : Fin 16) (mag : ℕ) : Prop :=
  (e = 0 ∧ mag / 2 = m.val) ∨ (e ≠ 0 ∧ InStep 4 e.val m.val mag)

theorem exists_segment {mag : ℕ} (h : mag ≤ 4095) :
    ∃ (e : Fin 8) (m : Fin 16), segment mag = (e.val.toUInt8, m.val.toUInt8) ∧
      InSegment e m mag := by
  -- a segment after the first, by the power of two that it begins with
  have hstep (k : Fin 8) (n : ℕ) (hk : k ≠ 0) (hlow : 2 ^ (4 + k.val) ≤ mag)
      (hhigh : mag < 2 ^ (4 + k.val + 1)) (hn : n = mag / 2 ^ k.val % 2 ^ 4) :
      ∃ (e : Fin 8) (m : Fin 16), (k.val.toUInt8, n.toUInt8) = (e.val.toUInt8, m.val.toUInt8) ∧
        InSegment e m mag :=
    ⟨k, ⟨mag / 2 ^ k.val % 2 ^ 4, Nat.mod_lt _ (by decide)⟩, by rw [hn],
      Or.inr ⟨hk, inStep_of_le hlow hhigh⟩⟩
  simp only [segment, Nat.shiftRight_eq_div_pow]
  by_cases h0 : mag < 32
  · rw [if_pos h0]
    exact ⟨0, ⟨mag / 2, by omega⟩, rfl, Or.inl ⟨rfl, rfl⟩⟩
  rw [if_neg h0]
  by_cases h1 : mag < 64
  · rw [if_pos h1]
    exact hstep 1 _ (by decide) (by omega : 2 ^ 5 ≤ mag) (by omega : mag < 2 ^ 6)
      (by omega : (mag - 32) / 2 ^ 1 = mag / 2 ^ 1 % 2 ^ 4)
  rw [if_neg h1]
  by_cases h2 : mag < 128
  · rw [if_pos h2]
    exact hstep 2 _ (by decide) (by omega : 2 ^ 6 ≤ mag) (by omega : mag < 2 ^ 7)
      (by omega : (mag - 64) / 2 ^ 2 = mag / 2 ^ 2 % 2 ^ 4)
  rw [if_neg h2]
  by_cases h3 : mag < 256
  · rw [if_pos h3]
    exact hstep 3 _ (by decide) (by omega : 2 ^ 7 ≤ mag) (by omega : mag < 2 ^ 8)
      (by omega : (mag - 128) / 2 ^ 3 = mag / 2 ^ 3 % 2 ^ 4)
  rw [if_neg h3]
  by_cases h4 : mag < 512
  · rw [if_pos h4]
    exact hstep 4 _ (by decide) (by omega : 2 ^ 8 ≤ mag) (by omega : mag < 2 ^ 9)
      (by omega : (mag - 256) / 2 ^ 4 = mag / 2 ^ 4 % 2 ^ 4)
  rw [if_neg h4]
  by_cases h5 : mag < 1024
  · rw [if_pos h5]
    exact hstep 5 _ (by decide) (by omega : 2 ^ 9 ≤ mag) (by omega : mag < 2 ^ 10)
      (by omega : (mag - 512) / 2 ^ 5 = mag / 2 ^ 5 % 2 ^ 4)
  rw [if_neg h5]
  by_cases h6 : mag < 2048
  · rw [if_pos h6]
    exact hstep 6 _ (by decide) (by omega : 2 ^ 10 ≤ mag) (by omega : mag < 2 ^ 11)
      (by omega : (mag - 1024) / 2 ^ 6 = mag / 2 ^ 6 % 2 ^ 4)
  rw [if_neg h6]
  -- the mantissa of the last segment is not clamped
  have hclamp : min ((mag - 2048) / 2 ^ 7).toUInt8 15 = ((mag - 2048) / 2 ^ 7).toUInt8 := by
    have hlt : (mag - 2048) / 2 ^ 7 < 16 := by omega
    generalize (mag - 2048) / 2 ^ 7 = n at hlt
    revert n
    decide
  rw [hclamp]
  exact hstep 7 _ (by decide) (by omega : 2 ^ 11 ≤ mag) (by omega : mag < 2 ^ 12)
    (by omega : (mag - 2048) / 2 ^ 7 = mag / 2 ^ 7 % 2 ^ 4)

variable {sample : Int16}

theorem magnitude_eq : magnitude sample = min sample.toInt.natAbs 32767 := by
  have hlow := Int16.le_toInt sample
  have hhigh := Int16.toInt_lt sample
  rw [magnitude]
  by_cases hnonneg : 0 ≤ sample
  · rw [if_pos hnonneg]
    rw [Int16.le_iff_toInt_le, Int16.toInt_zero] at hnonneg
    omega
  · rw [if_neg hnonneg]
    rw [Int16.le_iff_toInt_le, Int16.toInt_zero] at hnonneg
    by_cases hmin : sample = -32768
    · rw [if_pos hmin, hmin]
      decide
    · rw [if_neg hmin, MulawEncoder.toInt_neg hmin]
      have hne : sample.toInt ≠ -32768 := fun heq => hmin (Int16.toInt_inj.mp heq)
      omega

/-- What a sample is coded as. -/
theorem exists_codeword (sample : Int16) :
    ∃ (e : Fin 8) (m : Fin 16), encodeSample sample = codeword (!decide (0 ≤ sample)) e m ∧
      InSegment e m (min sample.toInt.natAbs 32767 / 8) := by
  have hmag : min (magnitude sample >>> 3) 4095 = min sample.toInt.natAbs 32767 / 8 := by
    rw [magnitude_eq, Nat.shiftRight_eq_div_pow]
    omega
  have hle : min sample.toInt.natAbs 32767 / 8 ≤ 4095 := by omega
  obtain ⟨e, m, hseg, hin⟩ := exists_segment hle
  refine ⟨e, m, ?_, hin⟩
  simp only [encodeSample, codeword, hmag, hseg]
  by_cases hnonneg : 0 ≤ sample
  · rw [if_pos hnonneg, decide_eq_true hnonneg]
    rfl
  · rw [if_neg hnonneg, decide_eq_false hnonneg]
    rfl

/-! ### A-law, decoded -/

/-- The decoded sample is off by the 32nd part of the magnitude at most, or by 8. -/
def Close (sample decoded : Int16) : Prop :=
  32 * (decoded.toInt - sample.toInt).natAbs ≤ max 256 sample.toInt.natAbs

/-- The decoded sample, by the step of the sample's magnitude. -/
theorem exists_decoded (sample : Int16) :
    ∃ (e : Fin 8) (m : Fin 16), InSegment e m (min sample.toInt.natAbs 32767 / 8) ∧
      (decodeSample (encodeSample sample)).toInt =
        (if sample.toInt < 0 then -1 else 1) * (8 * middle e m : ℤ) := by
  obtain ⟨e, m, henc, hin⟩ := exists_codeword sample
  refine ⟨e, m, hin, ?_⟩
  rw [henc, toInt_decodeSample]
  simp only [Int16.le_iff_toInt_le, Int16.toInt_zero, Bool.not_eq_true', decide_eq_false_iff_not,
    not_le]

theorem close (sample : Int16) : Close sample (decodeSample (encodeSample sample)) := by
  obtain ⟨e, m, hin, hdec⟩ := exists_decoded sample
  have hlow := Int16.le_toInt sample
  have hhigh := Int16.toInt_lt sample
  have hdist : 32 * ((8 * middle e m : ℤ) - sample.toInt.natAbs).natAbs ≤
      max 256 sample.toInt.natAbs := by
    generalize hmag : min sample.toInt.natAbs 32767 / 8 = mag at hin
    rcases hin with ⟨rfl, hm⟩ | ⟨he, hstep⟩
    · rw [middle, if_pos rfl]
      omega
    · rw [middle, if_neg he]
      -- the step is even, and sixteen of them are no more than the magnitude
      obtain ⟨half, hhalf⟩ : ∃ half, 2 ^ e.val = 2 * half := by
        obtain ⟨k, hk⟩ := Nat.exists_eq_succ_of_ne_zero fun h => he (Fin.ext h)
        exact ⟨2 ^ k, by rw [hk, Nat.pow_succ']⟩
      have hpow := hstep.pow_le
      have hle := hstep.low_le
      have hlt := hstep.lt
      rw [mid]
      rw [Nat.pow_add, hhalf] at hpow
      rw [hhalf] at hlt ⊢
      omega
  rw [Close, hdec]
  split <;> omega

theorem middle_le_middle {e e' : Fin 8} {m m' : Fin 16} {mag mag' : ℕ} (h : InSegment e m mag)
    (h' : InSegment e' m' mag') (hle : mag ≤ mag') : middle e m ≤ middle e' m' := by
  rcases h with ⟨rfl, hm⟩ | ⟨he, hstep⟩ <;> rcases h' with ⟨rfl, hm'⟩ | ⟨he', hstep'⟩
  · simp only [middle, if_true]
    omega
  · -- a magnitude of the first segment is below those of the others
    have hpow := Nat.pow_le_pow_right (by decide : 0 < 2) (Nat.one_le_iff_ne_zero.mpr
      fun h0 : e'.val = 0 => he' (Fin.ext h0))
    rw [middle, if_pos rfl, middle, if_neg he', mid, low]
    have hmul := Nat.mul_le_mul (Nat.le_add_right (2 ^ 4) m'.val) hpow
    omega
  · have hpow := hstep.pow_le
    have htwo := Nat.pow_le_pow_right (by decide : 0 < 2)
      (Nat.add_le_add_left (Nat.one_le_iff_ne_zero.mpr fun h0 : e.val = 0 => he (Fin.ext h0)) 4)
    omega
  · rw [middle, if_neg he, middle, if_neg he']
    exact hstep.mid_le_mid hstep' hle

/-- Decoding keeps the order. -/
theorem decodeSample_mono {sample' : Int16} (hle : sample ≤ sample') :
    decodeSample (encodeSample sample) ≤ decodeSample (encodeSample sample') := by
  obtain ⟨e, m, hin, hdec⟩ := exists_decoded sample
  obtain ⟨e', m', hin', hdec'⟩ := exists_decoded sample'
  rw [Int16.le_iff_toInt_le] at hle ⊢
  rw [hdec, hdec']
  by_cases hneg : sample.toInt < 0 <;> by_cases hneg' : sample'.toInt < 0
  · have hmono := middle_le_middle hin' hin (Nat.div_le_div_right (by omega))
    rw [if_pos hneg, if_pos hneg']
    omega
  · rw [if_pos hneg, if_neg hneg']
    omega
  · omega
  · have hmono := middle_le_middle hin hin' (Nat.div_le_div_right (by omega))
    rw [if_neg hneg, if_neg hneg']
    omega

theorem encodeSample_decodeSample_aux : ∀ c : Fin 256,
    encodeSample (decodeSample c.val.toUInt8) = c.val.toUInt8 := by
  decide +kernel

theorem encodeSample_decodeSample (c : UInt8) : encodeSample (decodeSample c) = c := by
  have h := encodeSample_decodeSample_aux ⟨c.toNat, c.toNat_lt⟩
  rwa [show (Fin.mk c.toNat c.toNat_lt : Fin 256).val.toUInt8 = c from UInt8.ofNat_toNat] at h

end AlawEncoder

/-! ### Streams -/

theorem map_eq_self_iff {f : UInt8 → UInt8} {l : List UInt8} :
    l.map f = l ↔ ∀ c ∈ l, f c = c := by
  have h := List.map_inj_left (l := l) (f := f) (g := id)
  rwa [List.map_id] at h

/-- **Streams of samples and of code words** through the codecs: μ-law decodes every sample
of a stream within the 32nd part of its biased magnitude exactly if the least sample is not
among them, and A-law always within the 32nd part of its magnitude or 8; decoding keeps the
order of the samples, in μ-law where the least sample is not among them; and code words that are
decoded are coded as they were, in μ-law exactly if the negative zero is not among them. -/
theorem g711_streams (pcm : List Int16) (codewords : List UInt8) :
    (List.Forall₂ MulawEncoder.Close pcm
      ((MulawEncoder.encode pcm).map MulawEncoder.decodeSample) ↔ -32768 ∉ pcm) ∧
    List.Forall₂ AlawEncoder.Close pcm
      ((AlawEncoder.encode pcm).map AlawEncoder.decodeSample) ∧
    (pcm.Pairwise (· ≤ ·) → ((AlawEncoder.encode pcm).map AlawEncoder.decodeSample).Pairwise (· ≤ ·) ∧
      (-32768 ∉ pcm →
        ((MulawEncoder.encode pcm).map MulawEncoder.decodeSample).Pairwise (· ≤ ·))) ∧
    (MulawEncoder.encode (codewords.map MulawEncoder.decodeSample) = codewords ↔
      0x7F ∉ codewords) ∧
    AlawEncoder.encode (codewords.map AlawEncoder.decodeSample) = codewords := by
  -- all four are read off sample by sample
  refine ⟨?_, ?_, fun hsorted => ⟨?_, fun hmin => ?_⟩, ?_, ?_⟩
  · rw [MulawEncoder.encode, List.map_map, List.forall₂_map_right_iff, List.forall₂_same]
    simp only [Function.comp, MulawEncoder.close_iff]
    exact ⟨fun h hmem => h _ hmem rfl, fun h x hx heq => h (heq ▸ hx)⟩
  · rw [AlawEncoder.encode, List.map_map, List.forall₂_map_right_iff, List.forall₂_same]
    exact fun sample _ => AlawEncoder.close sample
  · rw [AlawEncoder.encode, List.map_map, List.pairwise_map]
    exact hsorted.imp fun hle => AlawEncoder.decodeSample_mono hle
  · -- the order of µ-law needs both samples off the one that is decoded wrong
    rw [MulawEncoder.encode, List.map_map, List.pairwise_map]
    refine hsorted.imp_of_mem fun hs ht hle => MulawEncoder.decodeSample_mono ?_ ?_ hle
    · rintro rfl
      exact hmin hs
    · rintro rfl
      exact hmin ht
  · rw [MulawEncoder.encode, List.map_map, map_eq_self_iff]
    simp only [Function.comp, MulawEncoder.encodeSample_decodeSample_iff]
    exact ⟨fun h hmem => h _ hmem rfl, fun h x hx heq => h (heq ▸ hx)⟩
  · rw [AlawEncoder.encode, List.map_map, map_eq_self_iff]
    exact fun c _ => AlawEncoder.encodeSample_decodeSample c

end LamcoRdp
