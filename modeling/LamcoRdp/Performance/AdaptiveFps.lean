/-
LamcoRdp/Performance/AdaptiveFps.lean

The adaptive frame rate (`performance/adaptive_fps.rs`): a controller that reads
damage ratios and settles on a frame rate between the two that are configured.

Its arithmetic is checked: a subtraction below zero, a sum that is no `u32`, a
`clamp` between crossed bounds and a `Duration` from something that is no time
all stop it.  The clock is an input: `should_capture_frame` is told how long ago
the last frame was, in nanoseconds.  Statistics are left out, since nothing reads
them.

`AdaptiveFpsController.neverFaults_iff` says exactly which configurations keep
the controller going whatever ratios it is shown.  Necessity is by two runs: the
first update computes at the highest level, and a controller that sees nothing
that counts as damage comes down to the lowest one after sixteen updates.
-/
import LamcoRdp.Lib.Binary32
import LamcoRdp.Lib.Checked
import Mathlib.Tactic.FieldSimp

/-! ### Binary32 facts -/

namespace Binary32

/-- Half or three quarters of a word, computed in single precision, are no more than the
word. -/
theorem toU32_mul_le {n : ℕ} (hn : n < 2 ^ 32) {m : ℚ} (hlo : 1 / 4 ≤ m) (hhi : m ≤ 3 / 4) :
    ((ofNat n).mul (.fin m)).toU32 ≤ n := by
  rcases Nat.eq_zero_or_pos n with rfl | hpos
  · have hzero : (ofNat 0).mul (.fin m) = .fin 0 := by
      rw [ofNat_zero]
      show round (0 * m) = .fin 0
      rw [zero_mul]
      exact if_pos rfl
    rw [hzero]
    exact toU32_le (by norm_num)
  obtain ⟨r, hr, hnear⟩ := ofNat_near hpos hn
  have hone : (1 : ℚ) ≤ n := by exact_mod_cast hpos
  have hword : (n : ℚ) < 2 ^ 32 := by exact_mod_cast hn
  obtain ⟨hrlo, hrhi⟩ := abs_le.mp hnear
  have hrpos : 1 / 2 ≤ r := by linarith
  have hlow : 1 / 2 * (1 / 4) ≤ r * m := mul_le_mul hrpos hlo (by norm_num) (by linarith)
  have hhigh : r * m ≤ r * (3 / 4) := mul_le_mul_of_nonneg_left hhi (by linarith)
  obtain ⟨s, hs, hscaled⟩ : ∃ s, round (r * m) = .fin s ∧ |s - r * m| ≤ r * m / 2 ^ 24 := by
    refine round_near (le_trans ?_ hlow) (by linarith)
    norm_num
  obtain ⟨-, hshi⟩ := abs_le.mp hscaled
  rw [hr]
  show (round (r * m)).toU32 ≤ n
  rw [hs]
  exact toU32_le (by linarith)

/-- What fits into the mantissa is multiplied by one exactly. -/
theorem toU32_mul_one_le {n : ℕ} (hn : n < 2 ^ 24) :
    ((ofNat n).mul (.fin 1)).toU32 ≤ n := by
  have hof : ofNat n = .fin n := round_natCast hn
  have hmul : (ofNat n).mul (.fin 1) = .fin n := by
    rw [hof]
    show round (n * 1) = .fin n
    rw [mul_one]
    exact round_natCast hn
  rw [hmul]
  exact toU32_le (by linarith)

/-- The inverse of a positive word is a small positive number. -/
theorem one_div_ofNat {n : ℕ} (hpos : 1 ≤ n) (hlt : n < 2 ^ 32) :
    ∃ s, (fin 1).div (ofNat n) = .fin s ∧ 0 ≤ s ∧ s ≤ 4 := by
  obtain ⟨r, hr, hnear⟩ := ofNat_near hpos hlt
  have hone : (1 : ℚ) ≤ n := by exact_mod_cast hpos
  have hword : (n : ℚ) < 2 ^ 32 := by exact_mod_cast hlt
  obtain ⟨hrlo, hrhi⟩ := abs_le.mp hnear
  have hrpos : 1 / 2 ≤ r := by linarith
  have hinvhi : 1 / r ≤ 2 := by
    rw [div_le_iff₀ (by linarith)]
    linarith
  have hinvlo : 1 / 2 ^ 33 ≤ 1 / r := one_div_le_one_div_of_le (by linarith) (by linarith)
  obtain ⟨s, hs, hscaled⟩ : ∃ s, round (1 / r) = .fin s ∧ |s - 1 / r| ≤ 1 / r / 2 ^ 24 := by
    refine round_near (le_trans ?_ hinvlo) (by linarith)
    norm_num
  obtain ⟨hslo, hshi⟩ := abs_le.mp hscaled
  have hinvpos : 0 ≤ 1 / r := by
    rw [one_div]
    exact inv_nonneg.mpr (by linarith)
  refine ⟨s, ?_, by linarith, by linarith⟩
  rw [hr]
  show (if r ≠ 0 then round (1 / r) else _) = .fin s
  rw [if_pos (by linarith : r > 0).ne', hs]

end Binary32

namespace LamcoRdp

open Checked

/-- `Duration::from_secs_f32`, in nanoseconds. -/
def durationFromSecsF32 : Binary32 → Checked ℕ
  | .fin q =>
      if q < 0 ∨ 2 ^ 64 ≤ q then .error .badDuration
      else .ok (Binary32.nearestEven (q * 10 ^ 9)).toNat
  | _ => .error .badDuration

/-! ### Configuration and state -/

/-- `AdaptiveFpsConfig`. -/
structure AdaptiveFpsConfig where
  enabled : Bool
  minFps : UInt32
  maxFps : UInt32
  historySize : ℕ
  highActivityThreshold : Binary32
  mediumActivityThreshold : Binary32
  lowActivityThreshold : Binary32
  rampUpFrames : ℕ
  rampDownFrames : ℕ

/-- `AdaptiveFpsConfig::default`. -/
def AdaptiveFpsConfig.default : AdaptiveFpsConfig where
  enabled := true
  minFps := 5
  maxFps := 30
  historySize := 10
  highActivityThreshold := .round (30 / 100)
  mediumActivityThreshold := .round (10 / 100)
  lowActivityThreshold := .round (1 / 100)
  rampUpFrames := 2
  rampDownFrames := 5

/-- `ActivityLevel`. -/
inductive ActivityLevel
  | static
  | low
  | medium
  | high
  deriving DecidableEq, Repr

/-- The values by which `Ord` compares levels. -/
def ActivityLevel.rank : ActivityLevel → ℕ
  | .static => 0
  | .low => 1
  | .medium => 2
  | .high => 3

/-- `fps_multiplier`. -/
def ActivityLevel.fpsMultiplier : ActivityLevel → Binary32
  | .static => .fin 0
  | .low => .fin (1 / 2)
  | .medium => .round (67 / 100)
  | .high => .fin 1

/-- The level of `apply_ramping` after a level that has been kept for some frames: towards a
higher target one step at once, and all the way after `rampUpFrames`; towards a lower one a step
after `rampDownFrames`. -/
def ActivityLevel.ramp (level : ActivityLevel) (framesAtLevel rampUpFrames rampDownFrames : ℕ)
    (targetLevel : ActivityLevel) : ActivityLevel :=
  if targetLevel.rank > level.rank then
    if framesAtLevel ≥ rampUpFrames then targetLevel
    else
      match level with
      | .static => .low
      | .low => .medium
      | .medium => .high
      | .high => .high
  else if targetLevel.rank < level.rank ∧ framesAtLevel ≥ rampDownFrames then
    match level with
    | .high => .medium
    | .medium => .low
    | .low => .static
    | .static => .static
  else level

/-- The ramp goes up no further than the target, down by one step, and otherwise nowhere. -/
theorem ActivityLevel.ramp_rank (level : ActivityLevel)
    (framesAtLevel rampUpFrames rampDownFrames : ℕ) (target : ActivityLevel) :
    (level.rank < target.rank ∧
      level.rank < (level.ramp framesAtLevel rampUpFrames rampDownFrames target).rank ∧
      (level.ramp framesAtLevel rampUpFrames rampDownFrames target).rank ≤ target.rank) ∨
    (target.rank < level.rank ∧ rampDownFrames ≤ framesAtLevel ∧
      (level.ramp framesAtLevel rampUpFrames rampDownFrames target).rank + 1 = level.rank) ∨
    (target.rank < level.rank ∧ framesAtLevel < rampDownFrames ∧
      level.ramp framesAtLevel rampUpFrames rampDownFrames target = level) ∨
    (target.rank = level.rank ∧
      level.ramp framesAtLevel rampUpFrames rampDownFrames target = level) := by
  unfold ramp
  rcases lt_trichotomy target.rank level.rank with hlt | heq | hgt
  · rw [if_neg (by omega)]
    by_cases hframes : rampDownFrames ≤ framesAtLevel
    · rw [if_pos ⟨hlt, hframes⟩]
      refine .inr (.inl ⟨hlt, hframes, ?_⟩)
      cases level with
      | static => exact absurd hlt (Nat.not_lt_zero _)
      | low => rfl
      | medium => rfl
      | high => rfl
    · rw [if_neg fun h => hframes h.2]
      exact .inr (.inr (.inl ⟨hlt, not_le.mp hframes, rfl⟩))
  · rw [if_neg (by omega), if_neg fun h => absurd h.1 (by omega)]
    exact .inr (.inr (.inr ⟨heq, rfl⟩))
  · rw [if_pos hgt]
    refine .inl ⟨hgt, ?_⟩
    split_ifs with hframes
    · exact ⟨hgt, le_rfl⟩
    · -- one step up is no further than the target
      cases level with
      | static => exact ⟨Nat.zero_lt_one, hgt⟩
      | low => exact ⟨Nat.one_lt_two, hgt⟩
      | medium => exact ⟨Nat.lt_succ_self 2, hgt⟩
      | high => cases target <;> exact absurd hgt (by decide)

/-- `AdaptiveFpsController`, without its statistics and the time of the last frame. -/
structure AdaptiveFpsController where
  config : AdaptiveFpsConfig
  currentFps : ℕ
  activityLevel : ActivityLevel
  damageHistory : List Binary32
  framesAtLevel : ℕ

namespace AdaptiveFpsController

/-- `AdaptiveFpsController::new`. -/
def new (config : AdaptiveFpsConfig) : AdaptiveFpsController where
  config := config
  currentFps := config.maxFps.toNat
  activityLevel := .high
  damageHistory := []
  framesAtLevel := 0

/-- `average_damage`. -/
def averageDamage (c : AdaptiveFpsController) : Binary32 :=
  if c.damageHistory.isEmpty then .fin 0
  else (c.damageHistory.foldl Binary32.add (.fin 0)).div (.ofNat c.damageHistory.length)

/-- The level that the average asks for. -/
def targetLevel (c : AdaptiveFpsController) (avgDamage : Binary32) : ActivityLevel :=
  if c.config.highActivityThreshold.lt avgDamage then .high
  else if c.config.mediumActivityThreshold.lt avgDamage then .medium
  else if c.config.lowActivityThreshold.lt avgDamage then .low
  else .static

/-- `apply_ramping`. -/
def applyRamping (c : AdaptiveFpsController) (targetLevel : ActivityLevel) : ActivityLevel :=
  c.activityLevel.ramp c.framesAtLevel c.config.rampUpFrames c.config.rampDownFrames targetLevel

/-- `calculate_target_fps`. -/
def calculateTargetFps (c : AdaptiveFpsController) : Checked ℕ :=
  let multiplier := c.activityLevel.fpsMultiplier
  if multiplier = .fin 0 then .ok c.config.minFps.toNat
  else do
    let range ← sub c.config.maxFps.toNat c.config.minFps.toNat
    let fps ← add 32 c.config.minFps.toNat ((Binary32.ofNat range).mul multiplier).toU32
    clamp fps c.config.minFps.toNat c.config.maxFps.toNat

/-- `push_back`, and `pop_front` while the history is too long. -/
def record (c : AdaptiveFpsController) (damageRatio : Binary32) : AdaptiveFpsController :=
  let history := c.damageHistory ++ [damageRatio]
  { c with damageHistory := history.drop (history.length - c.config.historySize) }

/-- `update` up to the new frame rate. -/
def moveLevel (c : AdaptiveFpsController) : AdaptiveFpsController :=
  let newLevel := c.applyRamping (c.targetLevel c.averageDamage)
  { c with
    activityLevel := newLevel
    framesAtLevel := (if newLevel ≠ c.activityLevel then 0 else c.framesAtLevel) + 1 }

/-- `update`. -/
def update (c : AdaptiveFpsController) (damageRatio : Binary32) :
    Checked AdaptiveFpsController :=
  if !c.config.enabled then .ok c
  else do
    let c := (c.record damageRatio).moveLevel
    let currentFps ← c.calculateTargetFps
    .ok { c with currentFps }

/-- `should_capture_frame`. -/
def shouldCaptureFrame (c : AdaptiveFpsController) (elapsed : ℕ) : Checked Bool :=
  if !c.config.enabled then do
    let frameInterval ← durationFromSecsF32 ((Binary32.fin 1).div (.ofNat c.config.maxFps.toNat))
    .ok (elapsed ≥ frameInterval)
  else do
    let frameInterval ← durationFromSecsF32 ((Binary32.fin 1).div (.ofNat c.currentFps))
    .ok (elapsed ≥ frameInterval)

end AdaptiveFpsController

/-- What the pipeline asks of the controller. -/
inductive AdaptiveFpsCall
  | update (damageRatio : Binary32)
  | shouldCaptureFrame (elapsed : ℕ)

namespace AdaptiveFpsController

/-- A call of the pipeline, which faults where the code panics. -/
def call (c : AdaptiveFpsController) : AdaptiveFpsCall → Checked AdaptiveFpsController
  | .update damageRatio => c.update damageRatio
  | .shouldCaptureFrame elapsed => do
      let _ ← c.shouldCaptureFrame elapsed
      .ok c

end AdaptiveFpsController

/-! ### Which configurations keep the controller going -/

/-- A frame rate to start from, and, where the rate adapts, a lowest rate, bounds in order
and a range that can be added to the lower one after its way through `f32`. -/
structure AdaptiveFpsConfig.Sound (config : AdaptiveFpsConfig) : Prop where
  maxFps_pos : 1 ≤ config.maxFps.toNat
  minFps_pos : config.enabled = true → 1 ≤ config.minFps.toNat
  le : config.enabled = true → config.minFps.toNat ≤ config.maxFps.toNat
  fits : config.enabled = true → config.minFps.toNat +
    ((Binary32.ofNat (config.maxFps.toNat - config.minFps.toNat)).mul (.fin 1)).toU32 < 2 ^ 32

/-- Rates in order, none of them zero and none above `2 ^ 24`, are sound. -/
theorem AdaptiveFpsConfig.sound_of_small {config : AdaptiveFpsConfig}
    (hpos : 1 ≤ config.minFps.toNat) (hle : config.minFps.toNat ≤ config.maxFps.toNat)
    (hmax : config.maxFps.toNat < 2 ^ 24) : config.Sound := by
  have hrange : config.maxFps.toNat - config.minFps.toNat < 2 ^ 24 := by omega
  refine ⟨hpos.trans hle, fun _ => hpos, fun _ => hle, fun _ => ?_⟩
  have hround := Binary32.toU32_mul_one_le hrange
  omega

namespace AdaptiveFpsController

variable {c : AdaptiveFpsController}

/-- The inverse of a frame rate that is not zero is a time. -/
theorem frameInterval_ok {fps : ℕ} (hpos : 1 ≤ fps) (hlt : fps < 2 ^ 32) :
    ∃ d, durationFromSecsF32 ((Binary32.fin 1).div (.ofNat fps)) = .ok d := by
  obtain ⟨s, hs, hlo, hhi⟩ := Binary32.one_div_ofNat hpos hlt
  rw [hs]
  refine ⟨_, if_neg ?_⟩
  rintro (hneg | hbig)
  · exact absurd hneg (not_lt.mpr hlo)
  · linarith

theorem frameInterval_zero :
    durationFromSecsF32 ((Binary32.fin 1).div (.ofNat 0)) = .error .badDuration := by
  rw [Binary32.ofNat_zero]
  rfl

/-- The two levels between the extremes add no more than the range. -/
theorem between_le {n : ℕ} (hn : n < 2 ^ 32) :
    ((Binary32.ofNat n).mul ActivityLevel.low.fpsMultiplier).toU32 ≤ n ∧
      ((Binary32.ofNat n).mul ActivityLevel.medium.fpsMultiplier).toU32 ≤ n ∧
      ActivityLevel.medium.fpsMultiplier ≠ .fin 0 := by
  obtain ⟨m, hm, hnear⟩ : ∃ m, Binary32.round (67 / 100) = .fin m ∧
      |m - 67 / 100| ≤ 67 / 100 / 2 ^ 24 := Binary32.round_near (by norm_num) (by norm_num)
  obtain ⟨hlo, hhi⟩ := abs_le.mp hnear
  have hmedium : ActivityLevel.medium.fpsMultiplier = .fin m := hm
  refine ⟨Binary32.toU32_mul_le hn (by norm_num) (by norm_num), ?_, ?_⟩
  · rw [hmedium]
    exact Binary32.toU32_mul_le hn (by linarith) (by linarith)
  · rw [hmedium]
    intro hzero
    have hm0 := Binary32.fin.inj hzero
    linarith

/-- A level that is not the lowest one, where its share of the range can be added. -/
theorem calculateTargetFps_of_ne (hne : c.activityLevel.fpsMultiplier ≠ .fin 0)
    (hle : c.config.minFps.toNat ≤ c.config.maxFps.toNat)
    (hadd : c.config.minFps.toNat +
      ((Binary32.ofNat (c.config.maxFps.toNat - c.config.minFps.toNat)).mul
        c.activityLevel.fpsMultiplier).toU32 < 2 ^ 32) :
    ∃ fps, c.calculateTargetFps = .ok fps ∧ c.config.minFps.toNat ≤ fps ∧
      fps ≤ c.config.maxFps.toNat := by
  have hok : c.calculateTargetFps = .ok (max c.config.minFps.toNat (min (c.config.minFps.toNat +
      ((Binary32.ofNat (c.config.maxFps.toNat - c.config.minFps.toNat)).mul
        c.activityLevel.fpsMultiplier).toU32) c.config.maxFps.toNat)) := by
    unfold calculateTargetFps
    dsimp only
    rw [if_neg hne, sub_ok hle, ok_bind, add_ok hadd, ok_bind]
    exact clamp_ok hle
  exact ⟨_, hok, le_max_left _ _, max_le hle (min_le_right _ _)⟩

/-- At every level there is a frame rate between the two that are configured. -/
theorem calculateTargetFps_ok (henabled : c.config.enabled = true) (h : c.config.Sound) :
    ∃ fps, c.calculateTargetFps = .ok fps ∧ c.config.minFps.toNat ≤ fps ∧
      fps ≤ c.config.maxFps.toNat := by
  have hle := h.le henabled
  have hmax := c.config.maxFps.toNat_lt
  obtain ⟨hlow, hmedium, hne⟩ :=
    between_le (n := c.config.maxFps.toNat - c.config.minFps.toNat) (by omega)
  -- the static level has the lowest rate; the others lie between the two
  cases hlevel : c.activityLevel with
  | static =>
      refine ⟨c.config.minFps.toNat, ?_, le_refl _, hle⟩
      unfold calculateTargetFps
      rw [hlevel]
      exact if_pos rfl
  | low =>
      refine calculateTargetFps_of_ne ?_ hle ?_
      · rw [hlevel]
        intro hzero
        have hhalf := Binary32.fin.inj hzero
        norm_num at hhalf
      · rw [hlevel]
        omega
  | medium =>
      refine calculateTargetFps_of_ne ?_ hle ?_
      · rwa [hlevel]
      · rw [hlevel]
        omega
  | high =>
      refine calculateTargetFps_of_ne ?_ hle ?_
      · rw [hlevel]
        intro hzero
        have hone := Binary32.fin.inj hzero
        norm_num at hone
      · rw [hlevel]
        exact h.fits henabled

/-- A controller of this configuration whose frame rate is a rate. -/
structure Going (config : AdaptiveFpsConfig) (c : AdaptiveFpsController) : Prop where
  config_eq : c.config = config
  fps : c.config.enabled = true → 1 ≤ c.currentFps ∧ c.currentFps ≤ c.config.maxFps.toNat

theorem Going.update {config : AdaptiveFpsConfig} (h : Going config c) (hsound : config.Sound)
    (damageRatio : Binary32) :
    ∃ t, c.update damageRatio = .ok t ∧ Going config t := by
  obtain ⟨rfl, hfps⟩ := h
  unfold AdaptiveFpsController.update
  cases henabled : c.config.enabled with
  | false => exact ⟨c, rfl, rfl, hfps⟩
  | true =>
      obtain ⟨fps, hok, hlo, hhi⟩ := calculateTargetFps_ok
        (c := (c.record damageRatio).moveLevel) henabled hsound
      refine ⟨{ (c.record damageRatio).moveLevel with currentFps := fps }, ?_, rfl,
        fun _ => ⟨(hsound.minFps_pos henabled).trans hlo, hhi⟩⟩
      simp only [Bool.not_true, Bool.false_eq_true, if_false, hok, ok_bind]

theorem Going.shouldCaptureFrame {config : AdaptiveFpsConfig} (h : Going config c)
    (hsound : config.Sound) (elapsed : ℕ) :
    ∃ b, c.shouldCaptureFrame elapsed = .ok b := by
  obtain ⟨rfl, hfps⟩ := h
  unfold AdaptiveFpsController.shouldCaptureFrame
  cases henabled : c.config.enabled with
  | false =>
      obtain ⟨d, hd⟩ := frameInterval_ok hsound.maxFps_pos (UInt32.toNat_lt _)
      refine ⟨decide (elapsed ≥ d), ?_⟩
      rw [if_pos (by rfl), hd, ok_bind]
  | true =>
      obtain ⟨hlo, hhi⟩ := hfps henabled
      obtain ⟨d, hd⟩ := frameInterval_ok hlo (hhi.trans_lt (UInt32.toNat_lt _))
      refine ⟨decide (elapsed ≥ d), ?_⟩
      rw [if_neg (by simp), hd, ok_bind]

/-- A sound configuration never stops the controller. -/
theorem neverFaults_of_sound {config : AdaptiveFpsConfig} (hsound : config.Sound) :
    NeverFaults call (new config) := by
  refine NeverFaults.of_invariant (I := Going config) ?_
    ⟨rfl, fun _ => ⟨hsound.maxFps_pos, le_refl _⟩⟩
  · intro c e h
    cases e with
    | update damageRatio => exact h.update hsound damageRatio
    | shouldCaptureFrame elapsed =>
        obtain ⟨b, hb⟩ := h.shouldCaptureFrame hsound elapsed
        refine ⟨c, ?_, h⟩
        show (c.shouldCaptureFrame elapsed >>= fun _ => .ok c) = .ok c
        rw [hb, ok_bind]

/-! ### And only these -/

/-- An update that succeeds leaves the frame rate of the new level. -/
theorem of_update_ok {damageRatio : Binary32} {t : AdaptiveFpsController}
    (henabled : c.config.enabled = true) (h : c.update damageRatio = .ok t) :
    ∃ fps, (c.record damageRatio).moveLevel.calculateTargetFps = .ok fps ∧
      t = { (c.record damageRatio).moveLevel with currentFps := fps } := by
  unfold AdaptiveFpsController.update at h
  simp only [henabled, Bool.not_true, Bool.false_eq_true, if_false] at h
  obtain ⟨fps, hfps, ht⟩ := bind_eq_ok.mp h
  exact ⟨fps, hfps, (Except.ok.inj ht).symm⟩

/-- A history that ends in no number has no average. -/
theorem averageDamage_record_nan (hsize : 1 ≤ c.config.historySize) :
    (c.record .nan).averageDamage = .nan := by
  have hlast : (c.record .nan).damageHistory
      = c.damageHistory.drop ((c.damageHistory ++ [Binary32.nan]).length - c.config.historySize)
        ++ [.nan] := by
    refine List.drop_append_of_le_length ?_
    rw [List.length_append, List.length_singleton]
    omega
  unfold averageDamage
  rw [hlast, if_neg (by simp), List.foldl_append, List.foldl_cons, List.foldl_nil,
    Binary32.add_nan, Binary32.nan_div]

/-- One update of a controller that sees nothing that counts as damage: its level and how
long it has been there. -/
def settle (rampDownFrames : ℕ) (p : ActivityLevel × ℕ) : ActivityLevel × ℕ :=
  if p.1 ≠ .static ∧ p.2 ≥ rampDownFrames then
    (match p.1 with
      | .high => .medium
      | .medium => .low
      | .low => .static
      | .static => .static, 1)
  else (p.1, p.2 + 1)

theorem moveLevel_settles (h : c.averageDamage = .nan) :
    (c.moveLevel.activityLevel, c.moveLevel.framesAtLevel)
      = settle c.config.rampDownFrames (c.activityLevel, c.framesAtLevel) := by
  have htarget : c.targetLevel c.averageDamage = .static := by
    unfold targetLevel
    rw [h, Binary32.lt_nan, Binary32.lt_nan, Binary32.lt_nan]
    rfl
  unfold moveLevel
  rw [htarget]
  unfold applyRamping ActivityLevel.ramp settle
  cases c.activityLevel <;> by_cases hlong : c.framesAtLevel ≥ c.config.rampDownFrames <;>
    simp [ActivityLevel.rank, hlong]

/-- After as many updates that show nothing, a controller that never faults is where
`settle` has brought it. -/
theorem NeverFaults.settled (h : NeverFaults call c) (henabled : c.config.enabled = true)
    (hsize : 1 ≤ c.config.historySize) (n : ℕ) :
    ∃ t, NeverFaults call t ∧ t.config = c.config ∧
      (t.activityLevel, t.framesAtLevel)
        = (settle c.config.rampDownFrames)^[n + 1] (c.activityLevel, c.framesAtLevel) ∧
      t.calculateTargetFps = .ok t.currentFps := by
  have hone : ∀ {c : AdaptiveFpsController}, NeverFaults call c → c.config.enabled = true →
      1 ≤ c.config.historySize → ∃ t, NeverFaults call t ∧ t.config = c.config ∧
        (t.activityLevel, t.framesAtLevel)
          = settle c.config.rampDownFrames (c.activityLevel, c.framesAtLevel) ∧
        t.calculateTargetFps = .ok t.currentFps := by
    intro c h henabled hsize
    obtain ⟨t, ht, hnext⟩ := h.next (.update .nan)
    obtain ⟨fps, hfps, rfl⟩ := of_update_ok henabled ht
    exact ⟨_, hnext, rfl, moveLevel_settles (averageDamage_record_nan hsize), hfps⟩
  induction n with
  | zero => exact hone h henabled hsize
  | succ n ih =>
      obtain ⟨t, hnext, hconfig, hlevel, -⟩ := ih
      obtain ⟨u, hnext', hconfig', hlevel', hfps⟩ :=
        hone hnext (hconfig ▸ henabled) (hconfig ▸ hsize)
      refine ⟨u, hnext', hconfig'.trans hconfig, ?_, hfps⟩
      rw [hlevel', hlevel, hconfig, Function.iterate_succ_apply' _ (n + 1)]

/-- A controller that never faults has a frame rate whenever it is asked. -/
theorem NeverFaults.rate_ne_zero (h : NeverFaults call c) :
    (if c.config.enabled then c.currentFps else c.config.maxFps.toNat) ≠ 0 := by
  intro hzero
  obtain ⟨t, ht, -⟩ := h.next (.shouldCaptureFrame 0)
  obtain ⟨b, hb, -⟩ := bind_eq_ok.mp ht
  unfold AdaptiveFpsController.shouldCaptureFrame at hb
  cases henabled : c.config.enabled with
  | false =>
      rw [henabled, if_neg Bool.false_ne_true] at hzero
      rw [henabled, if_pos (by rfl), hzero, frameInterval_zero] at hb
      cases hb
  | true =>
      rw [henabled, if_pos rfl] at hzero
      rw [henabled, if_neg (by simp), hzero, frameInterval_zero] at hb
      cases hb

section Necessity

variable {config : AdaptiveFpsConfig} (h : NeverFaults call (new config))
  (henabled : config.enabled = true) (hsize : config.historySize = 10)
  (hramp : config.rampDownFrames = 5)

include h henabled hsize hramp

/-- The first update computes at the highest level. -/
theorem NeverFaults.at_high : config.minFps.toNat ≤ config.maxFps.toNat ∧ config.minFps.toNat +
    ((Binary32.ofNat (config.maxFps.toNat - config.minFps.toNat)).mul (.fin 1)).toU32 < 2 ^ 32 := by
  obtain ⟨t, -, hconfig, hlevel, hfps⟩ :=
    NeverFaults.settled h henabled (by show 1 ≤ config.historySize; omega) 0
  have hsettle : (settle config.rampDownFrames)^[0 + 1] (.high, 0) = (.high, 1) := by
    rw [hramp]
    decide
  have hhigh : t.activityLevel = .high := congrArg Prod.fst (hlevel.trans hsettle)
  have hne : ActivityLevel.high.fpsMultiplier ≠ .fin 0 := by
    intro hzero
    have hone := Binary32.fin.inj hzero
    norm_num at hone
  unfold calculateTargetFps at hfps
  rw [hhigh, hconfig, if_neg hne] at hfps
  obtain ⟨range, hrange, hfps⟩ := bind_eq_ok.mp hfps
  obtain ⟨hle, rfl⟩ := sub_eq_ok.mp hrange
  obtain ⟨sum, hsum, -⟩ := bind_eq_ok.mp hfps
  exact ⟨hle, (add_eq_ok.mp hsum).1⟩

/-- The sixteenth update may compute at the lowest level, where the lowest rate is the
rate. -/
theorem NeverFaults.at_static : config.minFps.toNat ≠ 0 := by
  intro hzero
  obtain ⟨t, hnext, hconfig, hlevel, hfps⟩ :=
    NeverFaults.settled h henabled (by show 1 ≤ config.historySize; omega) 15
  have hsettle : (settle config.rampDownFrames)^[15 + 1] (.high, 0) = (.static, 1) := by
    rw [hramp]
    decide
  have hstatic : t.activityLevel = .static := congrArg Prod.fst (hlevel.trans hsettle)
  unfold calculateTargetFps at hfps
  rw [hstatic, hconfig] at hfps
  have hrate : config.minFps.toNat = t.currentFps := Except.ok.inj hfps
  refine NeverFaults.rate_ne_zero hnext ?_
  rw [hconfig]
  show (if config.enabled then t.currentFps else config.maxFps.toNat) = 0
  rw [if_pos henabled, ← hrate, hzero]

end Necessity

/-- **Exactly the sound configurations keep the controller going**, whatever ratios it is
shown and whenever it is asked. -/
theorem neverFaults_iff {config : AdaptiveFpsConfig} (hsize : config.historySize = 10)
    (hramp : config.rampDownFrames = 5) : NeverFaults call (new config) ↔ config.Sound := by
  refine ⟨fun h => ⟨?_, fun henabled => ?_, fun henabled => ?_, fun henabled => ?_⟩,
    fun hsound => neverFaults_of_sound hsound⟩
  · have hrate := NeverFaults.rate_ne_zero h
    change (if config.enabled then config.maxFps.toNat else config.maxFps.toNat) ≠ 0 at hrate
    rw [ite_self] at hrate
    exact Nat.one_le_iff_ne_zero.mpr hrate
  · exact Nat.one_le_iff_ne_zero.mpr (NeverFaults.at_static h henabled hsize hramp)
  · exact (NeverFaults.at_high h henabled hsize hramp).1
  · exact (NeverFaults.at_high h henabled hsize hramp).2

end AdaptiveFpsController

end LamcoRdp
