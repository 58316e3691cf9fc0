/-
LamcoRdp/Server/FrameRegulator.lean

The frame regulator keeps its rate (`FrameRateRegulator`, `server/display_handler.rs`).

Here time and tokens are exact rationals; with the numbers the code computes with, the
regulator is in `Server/StartPipeline.lean`.  It is a token bucket with room for two tokens
(`toBucket_shouldSendFrame`) as long as its clock does not go back, so what it sends is bounded
from both sides by what the library says about such buckets.
-/
import LamcoRdp.Lib.TokenBucket
import Mathlib.Data.Rat.Cast.Order
import Mathlib.Algebra.Order.Ring.Rat

namespace LamcoRdp

namespace Rational

/-- `FrameRateRegulator`, with rational times and tokens. -/
structure FrameRateRegulator where
  targetFps : UInt32
  frameInterval : ℕ
  lastFrameTime : ℚ
  tokenBudget : ℚ
  maxTokens : ℚ

namespace FrameRateRegulator

/-- `FrameRateRegulator::new`; the interval is in microseconds. -/
def new (targetFps : UInt32) (now : ℚ) : FrameRateRegulator where
  targetFps := targetFps
  frameInterval := 1000000 / targetFps.toNat
  lastFrameTime := now
  tokenBudget := 1
  maxTokens := 2

/-- `should_send_frame`.  A clock that has gone back counts as one that stood still. -/
def shouldSendFrame (r : FrameRateRegulator) (now : ℚ) : FrameRateRegulator × Bool :=
  let elapsed := max (now - r.lastFrameTime) 0
  let tokensEarned := elapsed * r.targetFps.toNat
  let tokenBudget := min (r.tokenBudget + tokensEarned) r.maxTokens
  if 1 ≤ tokenBudget then
    ({ r with lastFrameTime := now, tokenBudget := tokenBudget - 1 }, true)
  else ({ r with lastFrameTime := now, tokenBudget }, false)

/-- The regulator after calls at these times. -/
def run (r : FrameRateRegulator) (times : List ℚ) : FrameRateRegulator :=
  times.foldl (fun r now => (r.shouldSendFrame now).1) r

/-- The times at which a frame is sent. -/
def sent (r : FrameRateRegulator) : List ℚ → List ℚ
  | [] => []
  | now :: times =>
      if (r.shouldSendFrame now).2 then now :: sent (r.shouldSendFrame now).1 times
      else sent (r.shouldSendFrame now).1 times

variable {r : FrameRateRegulator} {now : ℚ} {times : List ℚ}

/-! ### The regulator is a token bucket -/

/-- What of the regulator is a bucket. -/
def toBucket (r : FrameRateRegulator) : TokenBucket ℚ := ⟨r.lastFrameTime, r.tokenBudget⟩

@[simp] theorem shouldSendFrame_targetFps (r : FrameRateRegulator) (now : ℚ) :
    (r.shouldSendFrame now).1.targetFps = r.targetFps := by
  dsimp only [shouldSendFrame]
  split_ifs <;> rfl

@[simp] theorem shouldSendFrame_maxTokens (r : FrameRateRegulator) (now : ℚ) :
    (r.shouldSendFrame now).1.maxTokens = r.maxTokens := by
  dsimp only [shouldSendFrame]
  split_ifs <;> rfl

@[simp] theorem shouldSendFrame_lastFrameTime (r : FrameRateRegulator) (now : ℚ) :
    (r.shouldSendFrame now).1.lastFrameTime = now := by
  dsimp only [shouldSendFrame]
  split_ifs <;> rfl

/-- A call is a call of the bucket, if the clock has not gone back. -/
theorem toBucket_shouldSendFrame (hclock : r.lastFrameTime ≤ now) :
    ((r.shouldSendFrame now).1.toBucket, (r.shouldSendFrame now).2) =
      r.toBucket.call (r.targetFps.toNat : ℚ) r.maxTokens now := by
  have helapsed : max (now - r.lastFrameTime) 0 = now - r.lastFrameTime :=
    max_eq_left (sub_nonneg.mpr hclock)
  dsimp only [shouldSendFrame, TokenBucket.call, toBucket]
  rw [helapsed]
  split_ifs <;> rfl

/-- So are the calls of a run. -/
theorem toBucket_run (hclock : (r.lastFrameTime :: times).Pairwise (· ≤ ·)) :
    (r.run times).toBucket = r.toBucket.run (r.targetFps.toNat : ℚ) r.maxTokens times := by
  induction times generalizing r with
  | nil => rfl
  | cons now times ih =>
      obtain ⟨hnow, hrest⟩ := List.pairwise_cons.mp hclock
      have hcall := congrArg Prod.fst (toBucket_shouldSendFrame (hnow now List.mem_cons_self))
      have htail := ih (r := (r.shouldSendFrame now).1)
        (by rwa [shouldSendFrame_lastFrameTime])
      rw [shouldSendFrame_targetFps, shouldSendFrame_maxTokens] at htail
      show ((r.shouldSendFrame now).1.run times).toBucket =
        TokenBucket.run _ _ (r.toBucket.call _ _ now).1 times
      rw [htail, ← hcall]

/-- The frames sent are the calls that the bucket accepts. -/
theorem sent_eq (hclock : (r.lastFrameTime :: times).Pairwise (· ≤ ·)) :
    r.sent times = r.toBucket.accepted (r.targetFps.toNat : ℚ) r.maxTokens times := by
  induction times generalizing r with
  | nil => rfl
  | cons now times ih =>
      obtain ⟨hnow, hrest⟩ := List.pairwise_cons.mp hclock
      have hcall := toBucket_shouldSendFrame (hnow now List.mem_cons_self)
      have htail := ih (r := (r.shouldSendFrame now).1)
        (by rwa [shouldSendFrame_lastFrameTime])
      rw [shouldSendFrame_targetFps, shouldSendFrame_maxTokens] at htail
      rw [sent, TokenBucket.accepted, ← hcall, htail]

/-! ### The rate -/

variable {targetFps : UInt32} {start : ℚ}

/-- Calls no further apart than a frame takes. -/
theorem dense_of_isChain (hfps : 1 ≤ targetFps.toNat)
    (hdense : times.IsChain fun s t => t - s ≤ 1 / (targetFps.toNat : ℚ)) :
    TokenBucket.Dense (targetFps.toNat : ℚ) times := by
  have hpos : (0 : ℚ) < targetFps.toNat := Nat.cast_pos.mpr hfps
  exact hdense.imp fun s t hst => (le_div_iff₀ hpos).mp hst

/-- **The frame regulator keeps its rate.**  No window of length `T` has more than
`T * target_fps + 2` frames, the budget stays between `0` and `2`, and where calls come at
least every `1 / target_fps` seconds a window that begins with a frame has at least
`T * target_fps - 1`. -/
theorem frame_rate_kept (targetFps : UInt32) (hfps : 1 ≤ targetFps.toNat) (start : ℚ)
    (times : List ℚ) (hclock : (start :: times).Pairwise (· ≤ ·)) :
    (∀ a T : ℚ, 0 ≤ T →
      (TokenBucket.countIn a T ((new targetFps start).sent times) : ℚ) ≤
        T * targetFps.toNat + 2) ∧
    (0 ≤ ((new targetFps start).run times).tokenBudget ∧
      ((new targetFps start).run times).tokenBudget ≤ 2) ∧
    ((times.IsChain fun s t => t - s ≤ 1 / (targetFps.toNat : ℚ)) →
      ∀ a ∈ (new targetFps start).sent times, ∀ T : ℚ, 0 ≤ T →
        (∀ last ∈ times.getLast?, a + T - last ≤ 1 / targetFps.toNat) →
        T * targetFps.toNat - 1 ≤
          TokenBucket.countIn a T ((new targetFps start).sent times)) := by
  have hrate : (0 : ℚ) ≤ targetFps.toNat := Nat.cast_nonneg _
  have hpos : (0 : ℚ) < targetFps.toNat := Nat.cast_pos.mpr hfps
  have hsent := sent_eq (r := new targetFps start) hclock
  refine ⟨fun a T hT => ?_, ?_, fun hdense a ha T hT hend => ?_⟩
  · -- the bucket holds two frames at most
    rw [hsent]
    exact TokenBucket.count_accepted_le hrate zero_le_two hT zero_le_one one_le_two hclock
  · -- the budget is the tokens of the bucket
    have hrun := toBucket_run (r := new targetFps start) hclock
    have hmem := TokenBucket.run_tokens_mem (b := (new targetFps start).toBucket) hrate
      zero_le_two zero_le_one one_le_two hclock
    rw [show ((new targetFps start).run times).tokenBudget =
      (((new targetFps start).run times).toBucket).tokens from rfl, hrun]
    exact hmem
  · -- with a dense clock no token is lost
    rw [hsent] at ha ⊢
    have hmany := TokenBucket.le_count_accepted hrate (le_refl 2) hT
      (List.pairwise_cons.mp hclock).2 (dense_of_isChain hfps hdense)
      (fun last hlast => (le_div_iff₀ hpos).mp (hend last hlast)) ha
    calc T * targetFps.toNat - 1 = T * targetFps.toNat + 1 - 2 := by ring
      _ ≤ _ := hmany

/-- Calls twice a second at one frame a second: at least one in any two seconds. -/
theorem frame_rate_kept_half_seconds :
    (∀ a T : ℚ, 0 ≤ T →
      (TokenBucket.countIn a T ((new 1 0).sent [0, 1 / 2, 1, 3 / 2]) : ℚ) ≤
        T * (1 : UInt32).toNat + 2) ∧
    (0 ≤ ((new 1 0).run [0, 1 / 2, 1, 3 / 2]).tokenBudget ∧
      ((new 1 0).run [0, 1 / 2, 1, 3 / 2]).tokenBudget ≤ 2) ∧
    (2 : ℚ) * (1 : UInt32).toNat - 1 ≤
      TokenBucket.countIn 0 2 ((new 1 0).sent [0, 1 / 2, 1, 3 / 2]) := by
  have hclock : ([0, 0, 1 / 2, 1, 3 / 2] : List ℚ).Pairwise (· ≤ ·) := by
    simp
    norm_num
  have hdense : ([0, 1 / 2, 1, 3 / 2] : List ℚ).IsChain
      fun s t => t - s ≤ 1 / ((1 : UInt32).toNat : ℚ) := by
    simp
    norm_num
  have hfirst : (0 : ℚ) ∈ (new 1 0).sent [0, 1 / 2, 1, 3 / 2] := by decide +kernel
  obtain ⟨hmany, hbudget, hfew⟩ := frame_rate_kept 1 (by decide) 0 _ hclock
  refine ⟨hmany, hbudget, hfew hdense 0 hfirst 2 zero_le_two fun last hlast => ?_⟩
  obtain rfl : 3 / 2 = last := Option.some.inj hlast
  rw [show (1 : UInt32).toNat = 1 from rfl]
  norm_num

end FrameRateRegulator

end Rational

end LamcoRdp
