/-
LamcoRdp/Audio/AdpcmExact.lean

The arithmetic of the ADPCM codec against IMA ADPCM over the integers
(`audio/codecs/adpcm.rs`).

`ImaState` is the reference: unbounded integers, halving rounded down, and a clamp
only where the predictor is stored.  The codec computes in sixteen bits, and the
last steps of its table leave no room there: near full scale the reconstructed
difference is more than 32767, and the difference -32768 has no absolute value.
With overflows taken as faults, `encode_sample` and `decode_sample` follow the
reference exactly as long as neither happens (`adpcm_exact_iff`).

A level is a nibble without its sign.  Levels are ordered by the differences they
stand for, so the successive approximation finds the greatest one that does not
exceed the difference (`le_imaLevel_iff`).  This is why a difference above 32767,
which the code saturates, still gets its level where the level can be decoded.
-/
import LamcoRdp.Audio.AdpcmLockStep

namespace LamcoRdp

open Checked Signed16 AdpcmChannelState

/-! ### The reference -/

/-- The parts of the step that the bits of a nibble select: all, a half and a quarter of it. -/
def selected (step : ℤ) (nibble : ℕ) : ℤ :=
  (if nibble.testBit 2 then step else 0) + (if nibble.testBit 1 then step / 2 else 0) +
    (if nibble.testBit 0 then step / 4 else 0)

/-- Successive approximation of a magnitude, in three bits. -/
def imaLevel (step magnitude : ℤ) : ℕ :=
  let afterStep := magnitude - (if step ≤ magnitude then step else 0)
  let afterHalf := afterStep - (if step / 2 ≤ afterStep then step / 2 else 0)
  (if step ≤ magnitude then 4 else 0) + (if step / 2 ≤ afterStep then 2 else 0) +
    (if step / 4 ≤ afterHalf then 1 else 0)

/-- The step of an index. -/
def imaStep (stepIndex : ℕ) : ℤ := (stepSize stepIndex).toInt

/-- What the IMA algorithm remembers of a channel, in integers that do not wrap. -/
structure ImaState where
  predictor : ℤ
  stepIndex : ℕ
  deriving DecidableEq, Repr

namespace ImaState

/-- The state at the beginning. -/
def initial : ImaState := ⟨0, 0⟩

/-- What a nibble does to the state, on both sides. -/
def update (r : ImaState) (nibble : ℕ) : ImaState :=
  let step := imaStep r.stepIndex
  let difference := step / 8 + selected step nibble
  let predictor := if nibble.testBit 3 then r.predictor - difference else r.predictor + difference
  { predictor := max (-32768) (min predictor 32767)
    stepIndex := (max 0 (min ((r.stepIndex : ℤ) + indexTable.getD nibble 0) 88)).toNat }

/-- The nibble for a sample, and the state after it. -/
def encode (r : ImaState) (sample : ℤ) : ImaState × ℕ :=
  let difference := sample - r.predictor
  let sign := if difference < 0 then 8 else 0
  let nibble := sign + imaLevel (imaStep r.stepIndex) |difference|
  (r.update nibble, nibble)

/-- The sample of a nibble, and the state after it. -/
def decode (r : ImaState) (nibble : ℕ) : ImaState × ℤ :=
  (r.update nibble, (r.update nibble).predictor)

/-- The greatest level of a step that stands for no more than 32767. -/
def topLevel (r : ImaState) : ℕ :=
  if r.stepIndex ≤ 81 then 7
  else if r.stepIndex = 82 then 6
  else if r.stepIndex ≤ 84 then 5
  else if r.stepIndex ≤ 86 then 4
  else 3

/-- The difference has an absolute value in sixteen bits, and is below what the next level
stands for, if there is one. -/
def EncodeFits (r : ImaState) (sample : ℤ) : Prop :=
  -32768 < sample - r.predictor ∧
    (r.topLevel = 7 ∨
      |sample - r.predictor| < selected (imaStep r.stepIndex) (r.topLevel + 1))

/-- The level of the nibble stands for no more than 32767. -/
def DecodeFits (r : ImaState) (nibble : ℕ) : Prop := nibble % 8 ≤ r.topLevel

instance (r : ImaState) (sample : ℤ) : Decidable (r.EncodeFits sample) :=
  inferInstanceAs (Decidable (_ ∧ _))

instance (r : ImaState) (nibble : ℕ) : Decidable (r.DecodeFits nibble) :=
  inferInstanceAs (Decidable (_ ≤ _))

end ImaState

/-! ### Levels -/

section Levels

variable {step magnitude : ℤ} {level : ℕ}

/-- The successive approximation finds the greatest level that does not exceed the magnitude. -/
theorem le_imaLevel_iff (hstep : 4 ≤ step) (hmagnitude : 0 ≤ magnitude) (hlevel : level < 8) :
    level ≤ imaLevel step magnitude ↔ selected step level ≤ magnitude := by
  unfold imaLevel
  -- by the level: its bits are the comparisons that must succeed
  match level, hlevel with
  | 0, _ => exact iff_of_true (Nat.zero_le _) hmagnitude
  | 1, _ | 2, _ | 3, _ | 4, _ | 5, _ | 6, _ | 7, _ =>
      simp [selected, Nat.testBit]
      split_ifs <;> omega

theorem imaLevel_lt (step magnitude : ℤ) : imaLevel step magnitude < 8 := by
  unfold imaLevel
  dsimp only
  split_ifs <;> decide

/-- The differences the levels stand for, against sixteen bits. -/
theorem le_topLevel_iff {r : ImaState} (hindex : r.stepIndex ≤ 88) (hlevel : level < 8) :
    level ≤ r.topLevel ↔
      imaStep r.stepIndex / 8 + selected (imaStep r.stepIndex) level ≤ 32767 := by
  have htable : ∀ i < 89, ∀ n < 8, n ≤ (⟨0, i⟩ : ImaState).topLevel ↔
      imaStep i / 8 + selected (imaStep i) n ≤ 32767 := by
    decide +kernel
  exact htable r.stepIndex (Nat.lt_succ_of_le hindex) level hlevel

theorem imaStep_bounds {stepIndex : ℕ} (hindex : stepIndex ≤ 88) :
    4 ≤ imaStep stepIndex ∧ imaStep stepIndex ≤ 32767 := by
  have htable : ∀ i < 89, 4 ≤ imaStep i ∧ imaStep i ≤ 32767 := by
    decide +kernel
  exact htable stepIndex (Nat.lt_succ_of_le hindex)

/-- A magnitude cut off at 32767 keeps its level if the level stands for no more than that. -/
theorem imaLevel_min (hstep : 4 ≤ step) (hmagnitude : 0 ≤ magnitude)
    (hfits : step / 8 + selected step (imaLevel step magnitude) ≤ 32767) :
    imaLevel step (min magnitude 32767) = imaLevel step magnitude := by
  have hmin : 0 ≤ min magnitude 32767 := by omega
  have hself := (le_imaLevel_iff hstep hmagnitude (imaLevel_lt _ _)).mp le_rfl
  have hcut := (le_imaLevel_iff hstep hmin (imaLevel_lt _ _)).mp le_rfl
  -- either level is within reach of the other magnitude
  apply Nat.le_antisymm
  · rw [le_imaLevel_iff hstep hmagnitude (imaLevel_lt _ _)]
    omega
  · rw [le_imaLevel_iff hstep hmin (imaLevel_lt _ _)]
    omega

end Levels

/-! ### One sample, in sixteen bits -/

section Sample

variable {s t : AdpcmChannelState} {r : ImaState} {step diff delta c sample : Int16}
  {bit bits nibble sign : UInt8}

theorem addIf_eq_ok : addIf bits diff delta = (.ok c : Checked Int16) ↔
    (-2 ^ 15 ≤ diff.toInt + (if bits ≠ 0 then delta.toInt else 0) ∧
      diff.toInt + (if bits ≠ 0 then delta.toInt else 0) < 2 ^ 15) ∧
      c.toInt = diff.toInt + (if bits ≠ 0 then delta.toInt else 0) := by
  unfold addIf
  by_cases hbits : bits ≠ 0
  · rw [if_pos hbits, if_pos hbits]
    exact add_eq_ok
  · rw [if_neg hbits, if_neg hbits, Int.add_zero, and_iff_right ⟨diff.le_toInt, diff.toInt_lt⟩,
      Int16.toInt_inj, eq_comm (a := c)]
    exact Iff.of_eq (Except.ok.injEq diff c)

/-- A comparison of the successive approximation never overflows. -/
theorem approximate_ok (bit nibble : UInt8) (diff delta : Int16) (hdiff : 0 ≤ diff.toInt)
    (hdelta : 0 ≤ delta.toInt) :
    ∃ d : Int16, (approximate bit nibble diff delta : Checked _)
        = .ok (if delta.toInt ≤ diff.toInt then nibble ||| bit else nibble, d) ∧
      d.toInt = diff.toInt - (if delta.toInt ≤ diff.toInt then delta.toInt else 0) := by
  have hhi := diff.toInt_lt
  unfold approximate
  by_cases hle : delta.toInt ≤ diff.toInt
  · have hsub : (Arith.sub diff delta : Checked Int16) = .ok (.ofInt (diff.toInt - delta.toInt)) :=
      if_pos (by omega)
    rw [if_pos (show diff ≥ delta from Int16.le_iff_toInt_le.mpr hle), hsub, if_pos hle, if_pos hle]
    exact ⟨_, rfl, Int16.toInt_ofInt_of_le (by omega) (by omega)⟩
  · rw [if_neg (show ¬ diff ≥ delta from fun h => hle (Int16.le_iff_toInt_le.mp h)), if_neg hle,
      if_neg hle]
    exact ⟨diff, rfl, (Int.sub_zero _).symm⟩

/-- The successive approximation gives the level of the reference. -/
theorem quantize_ok (step diff : Int16) (hstep : 0 ≤ step.toInt) (hdiff : 0 ≤ diff.toInt) :
    ∃ n : UInt8, quantize step diff = (.ok n : Checked UInt8) ∧
      n.toNat = imaLevel step.toInt diff.toInt := by
  have hhalf : (step >>> 1).toInt = step.toInt / 2 := toInt_shiftRight step 1 rfl
  have hquarter : (step >>> 1 >>> 1).toInt = step.toInt / 4 := by
    rw [show (step >>> 1 >>> 1).toInt = (step >>> 1).toInt / 2 from toInt_shiftRight _ 1 rfl, hhalf]
    omega
  obtain ⟨d1, h1, hd1⟩ := approximate_ok 4 0 diff step hdiff hstep
  obtain ⟨d2, h2, hd2⟩ := approximate_ok 2 (if step.toInt ≤ diff.toInt then 0 ||| 4 else 0)
    d1 (step >>> 1) (by rw [hd1]; split_ifs <;> omega) (by rw [hhalf]; omega)
  unfold quantize
  dsimp only
  rw [h1, ok_bind]
  dsimp only
  rw [h2, ok_bind]
  refine ⟨_, rfl, ?_⟩
  simp only [ge_iff_le, Int16.le_iff_toInt_le, hd2, hd1, hhalf, hquarter, imaLevel]
  split_ifs <;> rfl

/-- The bits of a nibble, tested in both ways. -/
theorem and_ne_zero_iff (nibble : UInt8) :
    (nibble &&& 4 ≠ 0 ↔ nibble.toNat.testBit 2 = true) ∧
      (nibble &&& 2 ≠ 0 ↔ nibble.toNat.testBit 1 = true) ∧
      (nibble &&& 1 ≠ 0 ↔ nibble.toNat.testBit 0 = true) ∧
      (nibble &&& 8 ≠ 0 ↔ nibble.toNat.testBit 3 = true) := by
  have h : ∀ n < 256,
      (UInt8.ofNat n &&& 4 ≠ 0 ↔ n.testBit 2 = true) ∧
        (UInt8.ofNat n &&& 2 ≠ 0 ↔ n.testBit 1 = true) ∧
        (UInt8.ofNat n &&& 1 ≠ 0 ↔ n.testBit 0 = true) ∧
        (UInt8.ofNat n &&& 8 ≠ 0 ↔ n.testBit 3 = true) := by
    decide +kernel
  have hn := h nibble.toNat nibble.toNat_lt
  rwa [UInt8.ofNat_toNat] at hn

/-- The reconstructed difference, as both functions add it up. -/
def reconstruct (step : Int16) (nibble : UInt8) : Checked Int16 := do
  let diff ← addIf (nibble &&& 4) (step >>> 3) step
  let diff ← addIf (nibble &&& 2) diff (step >>> 1)
  addIf (nibble &&& 1) diff (step >>> 2)

/-- It is the difference of the reference, if that fits in sixteen bits. -/
theorem reconstruct_eq_ok (hstep : 0 ≤ step.toInt) : reconstruct step nibble = .ok c ↔
    step.toInt / 8 + selected step.toInt nibble.toNat ≤ 32767 ∧
      c.toInt = step.toInt / 8 + selected step.toInt nibble.toNat := by
  have heighth : (step >>> 3).toInt = step.toInt / 8 := toInt_shiftRight step 3 rfl
  have hhalf : (step >>> 1).toInt = step.toInt / 2 := toInt_shiftRight step 1 rfl
  have hquarter : (step >>> 2).toInt = step.toInt / 4 := toInt_shiftRight step 2 rfl
  obtain ⟨h4, h2, h1, -⟩ := and_ne_zero_iff nibble
  unfold reconstruct selected
  simp only [bind_eq_ok, addIf_eq_ok, heighth, hhalf, hquarter, h4, h2, h1]
  -- the parts are nonnegative, so no partial sum exceeds the whole one
  have hstepPart : 0 ≤ if nibble.toNat.testBit 2 = true then step.toInt else 0 := by
    split_ifs <;> omega
  have hhalfPart : 0 ≤ if nibble.toNat.testBit 1 = true then step.toInt / 2 else 0 := by
    split_ifs <;> omega
  have hquarterPart : 0 ≤ if nibble.toNat.testBit 0 = true then step.toInt / 4 else 0 := by
    split_ifs <;> omega
  constructor
  · rintro ⟨d1, ⟨-, hd1⟩, d2, ⟨-, hd2⟩, ⟨-, hlt⟩, hc⟩
    omega
  · rintro ⟨hle, hc⟩
    obtain ⟨d1, hd1⟩ := exists_toInt_eq (n := step.toInt / 8 +
      if nibble.toNat.testBit 2 = true then step.toInt else 0) (by omega)
    obtain ⟨d2, hd2⟩ := exists_toInt_eq (n := d1.toInt +
      if nibble.toNat.testBit 1 = true then step.toInt / 2 else 0) (by omega)
    exact ⟨d1, ⟨by omega, hd1⟩, d2, ⟨by omega, hd2⟩, by omega, by omega⟩

/-- The predictor after a difference. -/
def moved (negative : Bool) (predictor difference : Int16) : Int16 :=
  max (-32768) (min (if negative then saturatingSub predictor difference
    else saturatingAdd predictor difference) 32767)

theorem toInt_moved (negative : Bool) (predictor difference : Int16) :
    (moved negative predictor difference).toInt =
      max (-32768) (min (if negative then predictor.toInt - difference.toInt
        else predictor.toInt + difference.toInt) 32767) := by
  unfold moved
  rw [clamp_self]
  cases negative with
  | false => exact toInt_saturatingAdd
  | true => exact toInt_saturatingSub

/-- The state of the codec is that of the reference. -/
def Agrees (s : AdpcmChannelState) (r : ImaState) : Prop :=
  s.predictor.toInt = r.predictor ∧ s.stepIndex = r.stepIndex ∧ s.stepIndex ≤ 88

/-- A state of the reference is that of one state of the codec at most. -/
theorem Agrees.unique (hs : Agrees s r) (ht : Agrees t r) : s = t := by
  obtain ⟨hpredictor, hindex, -⟩ := hs
  obtain ⟨hpredictor', hindex', -⟩ := ht
  cases s
  cases t
  rw [AdpcmChannelState.mk.injEq, ← Int16.toInt_inj]
  exact ⟨hpredictor.trans hpredictor'.symm, hindex.trans hindex'.symm⟩

theorem updateState_eq (s : AdpcmChannelState) (sign nibble : UInt8) :
    (updateState s sign nibble : Checked AdpcmChannelState) =
      reconstruct (stepSize s.stepIndex) nibble >>= fun difference =>
        .ok ⟨moved (sign ≠ 0) s.predictor difference, nextIndex s.stepIndex nibble⟩ := by
  unfold updateState reconstruct moved
  simp only [bind_assoc, decide_eq_true_eq]
  rfl

theorem updateState_eq_ok (hagrees : Agrees s r)
    (hsign : sign ≠ 0 ↔ nibble.toNat.testBit 3 = true) :
    (updateState s sign nibble : Checked AdpcmChannelState) = .ok t ↔
      imaStep r.stepIndex / 8 + selected (imaStep r.stepIndex) nibble.toNat ≤ 32767 ∧
        Agrees t (r.update nibble.toNat) := by
  obtain ⟨hpredictor, hindex, hvalid⟩ := hagrees
  have hstep : (stepSize s.stepIndex).toInt = imaStep r.stepIndex := by
    rw [hindex]
    rfl
  have hbounds := imaStep_bounds (hindex ▸ hvalid)
  -- a difference that an `i16` holds moves both states alike
  have hmoved : ∀ d : Int16, d.toInt = imaStep r.stepIndex / 8
        + selected (imaStep r.stepIndex) nibble.toNat →
      Agrees ⟨moved (sign ≠ 0) s.predictor d, nextIndex s.stepIndex nibble⟩
        (r.update nibble.toNat) := by
    intro d hd
    refine ⟨?_, ?_, nextIndex_le _ _⟩
    · rw [toInt_moved]
      simp only [hd, hpredictor, hsign, ImaState.update, decide_eq_true_eq]
    · rw [hindex]
      rfl
  rw [updateState_eq, bind_eq_ok]
  simp only [reconstruct_eq_ok (show 0 ≤ (stepSize s.stepIndex).toInt by omega), hstep,
    Except.ok.injEq]
  constructor
  · rintro ⟨d, ⟨hle, hd⟩, rfl⟩
    exact ⟨hle, hmoved d hd⟩
  · -- the difference is a sum of parts, so it is not negative and there is an `i16` for it
    rintro ⟨hle, ht⟩
    have hnonneg : 0 ≤ selected (imaStep r.stepIndex) nibble.toNat := by
      unfold selected
      split_ifs <;> omega
    obtain ⟨d, hd⟩ := exists_toInt_eq (n := imaStep r.stepIndex / 8
      + selected (imaStep r.stepIndex) nibble.toNat) (by omega)
    exact ⟨d, ⟨hle, hd⟩, (hmoved d hd).unique ht⟩

/-- What the reference stores is within sixteen bits. -/
theorem exists_agrees (r : ImaState) (nibble : ℕ) : ∃ t, Agrees t (r.update nibble) := by
  obtain ⟨c, hc⟩ := exists_toInt_eq (n := (r.update nibble).predictor) (by
    unfold ImaState.update
    dsimp only
    omega)
  refine ⟨⟨c, (r.update nibble).stepIndex⟩, hc, rfl, ?_⟩
  unfold ImaState.update
  dsimp only
  omega

/-- **Decoding.**  One step of the decoder does what the reference does, without overflow,
exactly if the difference of the reference fits in sixteen bits. -/
theorem decodeSample_iff (hagrees : Agrees s r) :
    (∃ t, ∃ c : Int16, decodeSample s nibble = (.ok (t, c) : Checked _) ∧
        c.toInt = (r.decode nibble.toNat).2 ∧ Agrees t (r.decode nibble.toNat).1) ↔
      imaStep r.stepIndex / 8 + selected (imaStep r.stepIndex) nibble.toNat ≤ 32767 := by
  have hdecode : (decodeSample s nibble : Checked _) =
      updateState s (nibble &&& 8) nibble >>= fun t => .ok (t, t.predictor) := by
    unfold decodeSample updateState
    simp only [bind_assoc]
    rfl
  have hupdate := fun t => updateState_eq_ok (t := t) hagrees (and_ne_zero_iff nibble).2.2.2
  rw [hdecode]
  simp only [bind_eq_ok, Except.ok.injEq, Prod.mk.injEq, hupdate]
  constructor
  · rintro ⟨t, c, ⟨u, ⟨hle, -⟩, -⟩, -⟩
    exact hle
  · intro hle
    obtain ⟨t, ht⟩ := exists_agrees r nibble.toNat
    exact ⟨t, t.predictor, ⟨t, ⟨hle, ht⟩, rfl, rfl⟩, ht.1, ht⟩

/-- The sign next to a level. -/
theorem or_sign {level : ℕ} (hlevel : level < 8) (negative : Bool) :
    (UInt8.ofNat level ||| if negative then 8 else 0) &&& 8 = (if negative then 8 else 0) ∧
      (UInt8.ofNat level ||| if negative then 8 else 0).toNat
        = (if negative then 8 else 0) + level := by
  have h : ∀ l < 8, ∀ b : Bool,
      (UInt8.ofNat l ||| if b then 8 else 0) &&& 8 = (if b then 8 else 0) ∧
        (UInt8.ofNat l ||| if b then 8 else 0).toNat = (if b then 8 else 0) + l := by
    decide
  exact h level hlevel negative

/-- The sign does not count for the difference. -/
theorem selected_sign (step : ℤ) {level : ℕ} (hlevel : level < 8) (negative : Prop)
    [Decidable negative] :
    selected step ((if negative then 8 else 0) + level) = selected step level := by
  have h : ∀ l < 8, (8 + l).testBit 2 = l.testBit 2 ∧ (8 + l).testBit 1 = l.testBit 1 ∧
      (8 + l).testBit 0 = l.testBit 0 := by
    decide
  obtain ⟨h2, h1, h0⟩ := h level hlevel
  split_ifs
  · unfold selected
    rw [h2, h1, h0]
  · rw [Nat.zero_add]

/-- The saturated difference is that of the reference, cut off. -/
theorem toInt_difference (hagrees : Agrees s r) (sample : Int16) :
    (saturatingSub sample s.predictor).toInt
      = max (-32768) (min (sample.toInt - r.predictor) 32767) := by
  rw [toInt_saturatingSub, hagrees.1]
  rfl

/-- The difference -32768 has no absolute value. -/
theorem encodeSample_error (hagrees : Agrees s r) (hlow : sample.toInt - r.predictor ≤ -32768) :
    (encodeSample s sample : Checked (AdpcmChannelState × UInt8)) = .error .overflow := by
  have habs : (Arith.abs (saturatingSub sample s.predictor) : Checked Int16)
      = .error .overflow := by
    refine abs_eq_error ?_
    rw [toInt_difference hagrees sample]
    omega
  unfold encodeSample
  dsimp only
  rw [habs]
  rfl

/-- Any other difference gives a nibble, from its magnitude cut off at 32767. -/
theorem encodeSample_eq (hagrees : Agrees s r) (hlow : -32768 < sample.toInt - r.predictor) :
    ∃ n : UInt8,
      n.toNat = (if sample.toInt - r.predictor < 0 then 8 else 0) +
        imaLevel (imaStep r.stepIndex) (min |sample.toInt - r.predictor| 32767) ∧
      (encodeSample s sample : Checked (AdpcmChannelState × UInt8)) =
        updateState s (n &&& 8) n >>= fun t => .ok (t, n) := by
  have hstep : (stepSize s.stepIndex).toInt = imaStep r.stepIndex := by
    rw [hagrees.2.1]
    rfl
  have hbounds := imaStep_bounds (hagrees.2.1 ▸ hagrees.2.2)
  have hdiff := toInt_difference hagrees sample
  -- saturation keeps the sign of the difference, and cuts it only beyond the range
  have hneg : saturatingSub sample s.predictor < 0 ↔ sample.toInt - r.predictor < 0 := by
    rw [Int16.lt_iff_toInt_lt, hdiff, Int16.toInt_zero]
    omega
  have habs : |(saturatingSub sample s.predictor).toInt|
      = min |sample.toInt - r.predictor| 32767 := by
    rw [hdiff, Int.abs_eq_natAbs, Int.abs_eq_natAbs]
    omega
  -- so its magnitude is an `i16`, and the quantizer finds the level of the reference
  obtain ⟨d, hd⟩ := exists_toInt_eq (n := |(saturatingSub sample s.predictor).toInt|)
    (by rw [habs, Int.abs_eq_natAbs]; omega)
  have hok : (Arith.abs (saturatingSub sample s.predictor) : Checked Int16) = .ok d :=
    abs_eq_ok.mpr ⟨by omega, hd⟩
  obtain ⟨q, hq, hlevel⟩ := quantize_ok (stepSize s.stepIndex) d (by omega)
    (by rw [hd]; exact abs_nonneg _)
  rw [hd, habs, hstep] at hlevel
  -- the sign bit is put beside the level, and found there again
  obtain ⟨hand, htoNat⟩ := or_sign (hlevel ▸ imaLevel_lt _ _)
    (decide (sample.toInt - r.predictor < 0))
  simp only [decide_eq_true_eq, ← hneg, UInt8.ofNat_toNat] at hand htoNat
  refine ⟨q ||| if saturatingSub sample s.predictor < 0 then 8 else 0, ?_, ?_⟩
  · rw [htoNat, hlevel]
    simp only [hneg]
  · unfold encodeSample
    dsimp only
    rw [hok, ok_bind, hq, ok_bind, hand]
    rfl

/-- **Encoding.**  One step of the encoder does what the reference does, without overflow,
exactly if the difference has an absolute value and what is reconstructed of it fits. -/
theorem encodeSample_iff (hagrees : Agrees s r) :
    (∃ t, ∃ n : UInt8, encodeSample s sample = (.ok (t, n) : Checked _) ∧
        n.toNat = (r.encode sample.toInt).2 ∧ Agrees t (r.encode sample.toInt).1) ↔
      -32768 < sample.toInt - r.predictor ∧
        imaStep r.stepIndex / 8 + selected (imaStep r.stepIndex)
          (imaLevel (imaStep r.stepIndex) |sample.toInt - r.predictor|) ≤ 32767 := by
  have hbounds := imaStep_bounds (hagrees.2.1 ▸ hagrees.2.2)
  have hselected := selected_sign (imaStep r.stepIndex)
    (imaLevel_lt (imaStep r.stepIndex) |sample.toInt - r.predictor|)
    (sample.toInt - r.predictor < 0)
  by_cases hlow : -32768 < sample.toInt - r.predictor
  · obtain ⟨n, hn, hencode⟩ := encodeSample_eq hagrees hlow
    have hupdate := fun t => updateState_eq_ok (t := t) hagrees (and_ne_zero_iff n).2.2.2
    rw [hencode, and_iff_right hlow]
    simp only [bind_eq_ok, Except.ok.injEq, Prod.mk.injEq, hupdate]
    constructor
    · rintro ⟨t, m, ⟨u, ⟨hle, -⟩, rfl, rfl⟩, hnibble, -⟩
      rw [hnibble] at hle
      exact hselected ▸ hle
    · intro hle
      -- a level that fits is not changed by the saturation of the difference
      have hnibble : n.toNat = (r.encode sample.toInt).2 := by
        rw [hn, imaLevel_min hbounds.1 (abs_nonneg _) hle]
        rfl
      obtain ⟨t, ht⟩ := exists_agrees r n.toNat
      refine ⟨t, n, ⟨t, ⟨?_, ht⟩, rfl, rfl⟩, hnibble, ?_⟩
      · rw [hnibble]
        exact hselected.symm ▸ hle
      · rw [hnibble] at ht
        exact ht
  · rw [encodeSample_error hagrees (by omega)]
    refine iff_of_false ?_ fun h => hlow h.1
    rintro ⟨t, n, h, -⟩
    cases h

end Sample

/-! ### Runs -/

section Runs

variable {r : ImaState}

/-- The bound on the difference, by levels. -/
theorem encodeFits_iff (hindex : r.stepIndex ≤ 88) (sample : ℤ) : r.EncodeFits sample ↔
    -32768 < sample - r.predictor ∧
      imaStep r.stepIndex / 8 + selected (imaStep r.stepIndex)
        (imaLevel (imaStep r.stepIndex) |sample - r.predictor|) ≤ 32767 := by
  have hlt := imaLevel_lt (imaStep r.stepIndex) |sample - r.predictor|
  refine and_congr_right fun _ => ?_
  rw [← le_topLevel_iff hindex hlt]
  by_cases htop : r.topLevel = 7
  · rw [htop]
    exact iff_of_true (.inl rfl) (Nat.le_of_lt_succ hlt)
  · -- the level is too high exactly if the next one is reached
    have hnext : r.topLevel + 1 < 8 := by
      unfold ImaState.topLevel at htop ⊢
      split_ifs at htop ⊢ <;> omega
    rw [or_iff_right htop, ← not_le,
      ← le_imaLevel_iff (imaStep_bounds hindex).1 (abs_nonneg _) hnext]
    omega

theorem decodeFits_iff (hindex : r.stepIndex ≤ 88) {nibble : ℕ} (hnibble : nibble < 16) :
    r.DecodeFits nibble ↔
      imaStep r.stepIndex / 8 + selected (imaStep r.stepIndex) nibble ≤ 32767 := by
  have hsign := selected_sign (imaStep r.stepIndex) (Nat.mod_lt nibble (by decide : 8 > 0))
    (8 ≤ nibble)
  have hnibble : (if 8 ≤ nibble then 8 else 0) + nibble % 8 = nibble := by
    split_ifs <;> omega
  rw [hnibble] at hsign
  rw [hsign]
  exact le_topLevel_iff hindex (Nat.mod_lt _ (by decide))

/-- On these samples the encoder of a channel does not overflow, and its nibbles and its
state after each of them are those of the reference. -/
def EncodesExactly (samples : List Int16) : Prop :=
  Follows encodeSample (fun r x => r.encode x.toInt) Agrees (fun n m => n.toNat = m)
    AdpcmChannelState.new ImaState.initial samples

/-- The same for the decoder and its samples. -/
def DecodesExactly (nibbles : List UInt8) : Prop :=
  Follows decodeSample (fun r n => r.decode n.toNat) Agrees (fun c p => c.toInt = p)
    AdpcmChannelState.new ImaState.initial nibbles

theorem agrees_initial : Agrees .new .initial := ⟨rfl, rfl, Nat.zero_le _⟩

theorem encodesExactly_iff (samples : List Int16) : EncodesExactly samples ↔
    ∀ pre x, pre ++ [x] <+: samples →
      (pre.foldl (fun r x => (r.encode x.toInt).1) ImaState.initial).EncodeFits x.toInt := by
  refine follows_iff (P := fun r (x : Int16) => r.EncodeFits x.toInt) agrees_initial ?_
  intro s r x _ hagrees
  rw [encodeFits_iff (hagrees.2.1 ▸ hagrees.2.2)]
  exact encodeSample_iff hagrees

theorem decodesExactly_iff {nibbles : List UInt8} (hnibbles : ∀ n ∈ nibbles, n < 16) :
    DecodesExactly nibbles ↔ ∀ pre n, pre ++ [n] <+: nibbles →
      (pre.foldl (fun r n => (r.decode n.toNat).1) ImaState.initial).DecodeFits n.toNat := by
  refine follows_iff (P := fun r (n : UInt8) => r.DecodeFits n.toNat) agrees_initial ?_
  intro s r n hn hagrees
  rw [decodeFits_iff (hagrees.2.1 ▸ hagrees.2.2) (UInt8.lt_iff_toNat_lt.mp (hnibbles n hn))]
  exact decodeSample_iff hagrees

/-- **The codec is exact IMA ADPCM as long as the numbers fit.**  The encoder follows the
reference exactly if no difference is -32768 or below, or as great as a level that stands for
more than 32767; the decoder does if there is no such level among its nibbles. -/
theorem adpcm_exact_iff (samples : List Int16) (nibbles : List UInt8)
    (hnibbles : ∀ n ∈ nibbles, n < 16) :
    (EncodesExactly samples ↔ ∀ pre x, pre ++ [x] <+: samples →
        (pre.foldl (fun r x => (r.encode x.toInt).1) ImaState.initial).EncodeFits x.toInt) ∧
      (DecodesExactly nibbles ↔ ∀ pre n, pre ++ [n] <+: nibbles →
        (pre.foldl (fun r n => (r.decode n.toNat).1) ImaState.initial).DecodeFits n.toNat) :=
  ⟨encodesExactly_iff samples, decodesExactly_iff hnibbles⟩

/-- A sample far from zero, and the greatest nibble. -/
theorem adpcm_exact_first_step : EncodesExactly [32767] ∧ DecodesExactly [15] := by
  obtain ⟨hencode, hdecode⟩ :=
    adpcm_exact_iff [32767] [15] (List.forall_mem_singleton.mpr (by decide))
  rw [hencode, hdecode]
  constructor
  · intro pre x hpre
    rcases pre with _ | ⟨y, pre⟩
    · obtain ⟨rfl, -⟩ := List.cons_prefix_cons.mp hpre
      decide
    · exact absurd hpre.length_le (by simp)
  · intro pre n hpre
    rcases pre with _ | ⟨y, pre⟩
    · obtain ⟨rfl, -⟩ := List.cons_prefix_cons.mp hpre
      decide
    · exact absurd hpre.length_le (by simp)

/-- From the initial state the sample -32768 overflows, and so does the twelfth of twelve
nibbles 7.  Where the overflow wraps, the nibble of the sample is 8, not 15. -/
theorem adpcm_overflows :
    encodeSample .new (-32768) = (.error .overflow : Checked (AdpcmChannelState × UInt8)) ∧
      ¬ EncodesExactly [-32768] ∧ ¬ DecodesExactly (List.replicate 12 7) ∧
      (Id.run (encodeSample .new (-32768))).2 = 8 ∧ (ImaState.initial.encode (-32768)).2 = 15 := by
  refine ⟨encodeSample_error agrees_initial (by decide), ?_, ?_, by decide, by decide⟩
  · rw [encodesExactly_iff]
    intro h
    exact absurd (h [] (-32768) List.prefix_rfl).1 (by decide)
  · have hnibbles : ∀ n ∈ List.replicate 12 (7 : UInt8), n < 16 := by
      intro n hn
      rw [List.eq_of_mem_replicate hn]
      decide
    rw [decodesExactly_iff hnibbles]
    intro h
    exact absurd (h (List.replicate 11 7) 7 List.prefix_rfl) (by decide)

end Runs

end LamcoRdp
