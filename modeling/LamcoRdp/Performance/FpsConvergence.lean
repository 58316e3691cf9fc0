/-
LamcoRdp/Performance/FpsConvergence.lean

The adaptive frame rate converges (`AdaptiveFpsController::update`,
`performance/adaptive_fps.rs`).

Here damage ratios and thresholds are exact rationals; with the numbers the code compares, the
controller is in `Performance/AdaptiveFps.lean`.  The frame rate of a level is computed as the
code does it, in `f32`, and the sum wraps around.

Once the window holds nothing but `r`, each update brings the level nearer to what the
thresholds give for `r`.  `remaining` counts the updates that it may still take: one for each
step up, and up to `ramp_down_frames + 1` for each step down.
-/
import LamcoRdp.Lib.SlidingWindow
import LamcoRdp.Performance.AdaptiveFps

namespace LamcoRdp

namespace Rational

/-- `AdaptiveFpsConfig`, with rational thresholds. -/
structure AdaptiveFpsConfig where
  enabled : Bool
  minFps : UInt32
  maxFps : UInt32
  historySize : ℕ
  highActivityThreshold : ℚ
  mediumActivityThreshold : ℚ
  lowActivityThreshold : ℚ
  rampUpFrames : ℕ
  rampDownFrames : ℕ

/-- The level that the thresholds give for a ratio. -/
def AdaptiveFpsConfig.targetLevel (config : AdaptiveFpsConfig) (avgDamage : ℚ) : ActivityLevel :=
  if avgDamage > config.highActivityThreshold then .high
  else if avgDamage > config.mediumActivityThreshold then .medium
  else if avgDamage > config.lowActivityThreshold then .low
  else .static

/-- `AdaptiveFpsController`, with rational damage ratios. -/
structure AdaptiveFpsController where
  config : AdaptiveFpsConfig
  currentFps : UInt32
  activityLevel : ActivityLevel
  damageHistory : List ℚ
  framesAtLevel : ℕ

namespace AdaptiveFpsController

/-- `AdaptiveFpsController::new`. -/
def new (config : AdaptiveFpsConfig) : AdaptiveFpsController where
  config := config
  currentFps := config.maxFps
  activityLevel := .high
  damageHistory := []
  framesAtLevel := 0

/-- `average_damage`. -/
def averageDamage (c : AdaptiveFpsController) : ℚ :=
  if c.damageHistory.isEmpty then 0 else c.damageHistory.sum / c.damageHistory.length

/-- `apply_ramping`. -/
def applyRamping (c : AdaptiveFpsController) (targetLevel : ActivityLevel) : ActivityLevel :=
  c.activityLevel.ramp c.framesAtLevel c.config.rampUpFrames c.config.rampDownFrames targetLevel

/-- `calculate_target_fps`. -/
def calculateTargetFps (c : AdaptiveFpsController) : UInt32 :=
  let multiplier := c.activityLevel.fpsMultiplier
  if multiplier = .fin 0 then c.config.minFps
  else
    let range := c.config.maxFps - c.config.minFps
    let fps := c.config.minFps + UInt32.ofNat ((Binary32.ofNat range.toNat).mul multiplier).toU32
    if fps < c.config.minFps then c.config.minFps
    else if c.config.maxFps < fps then c.config.maxFps
    else fps

/-- `push_back`, and `pop_front` while the history is too long. -/
def record (c : AdaptiveFpsController) (damageRatio : ℚ) : AdaptiveFpsController :=
  let history := c.damageHistory ++ [damageRatio]
  { c with damageHistory := history.drop (history.length - c.config.historySize) }

/-- `update` up to the new frame rate. -/
def moveLevel (c : AdaptiveFpsController) : AdaptiveFpsController :=
  let newLevel := c.applyRamping (c.config.targetLevel c.averageDamage)
  { c with
    activityLevel := newLevel
    framesAtLevel := (if newLevel ≠ c.activityLevel then 0 else c.framesAtLevel) + 1 }

/-- `update`. -/
def update (c : AdaptiveFpsController) (damageRatio : ℚ) : AdaptiveFpsController :=
  if !c.config.enabled then c
  else
    let c := (c.record damageRatio).moveLevel
    { c with currentFps := c.calculateTargetFps }

/-- The controller after some updates. -/
def run (c : AdaptiveFpsController) (ratios : List ℚ) : AdaptiveFpsController :=
  ratios.foldl update c

variable {c : AdaptiveFpsController} {config : AdaptiveFpsConfig} {r : ℚ} {ratios : List ℚ}

theorem run_append (c : AdaptiveFpsController) (ratios ratios' : List ℚ) :
    c.run (ratios ++ ratios') = (c.run ratios).run ratios' :=
  List.foldl_append

theorem run_concat (c : AdaptiveFpsController) (ratios : List ℚ) (r : ℚ) :
    c.run (ratios ++ [r]) = (c.run ratios).update r :=
  run_append c ratios [r]

/-! ### One update -/

@[simp] theorem update_config (c : AdaptiveFpsController) (r : ℚ) :
    (c.update r).config = c.config := by
  unfold update
  split_ifs <;> rfl

@[simp] theorem run_config (c : AdaptiveFpsController) (ratios : List ℚ) :
    (c.run ratios).config = c.config := by
  induction ratios using List.reverseRecOn with
  | nil => rfl
  | append_singleton ratios r ih => rw [run_concat, update_config, ih]

/-- What an update does to an enabled controller. -/
theorem update_of_enabled (henabled : c.config.enabled = true) (r : ℚ) :
    c.update r = { (c.record r).moveLevel with
      currentFps := (c.record r).moveLevel.calculateTargetFps } := by
  unfold update
  rw [henabled]
  rfl

theorem update_damageHistory (henabled : c.config.enabled = true) (r : ℚ) :
    (c.update r).damageHistory =
      SlidingWindow.push c.config.historySize c.damageHistory r := by
  rw [update_of_enabled henabled]
  rfl

/-- What `apply_ramping` may do, with the ranks of the levels. -/
theorem applyRamping_rank (c : AdaptiveFpsController) (target : ActivityLevel) :
    (c.activityLevel.rank < target.rank ∧
      c.activityLevel.rank < (c.applyRamping target).rank ∧
      (c.applyRamping target).rank ≤ target.rank) ∨
    (target.rank < c.activityLevel.rank ∧ c.config.rampDownFrames ≤ c.framesAtLevel ∧
      (c.applyRamping target).rank + 1 = c.activityLevel.rank) ∨
    (target.rank < c.activityLevel.rank ∧ c.framesAtLevel < c.config.rampDownFrames ∧
      c.applyRamping target = c.activityLevel) ∨
    (target.rank = c.activityLevel.rank ∧ c.applyRamping target = c.activityLevel) :=
  c.activityLevel.ramp_rank _ _ _ target

/-- The level after an update, with the average that it has computed. -/
theorem update_activityLevel (henabled : c.config.enabled = true) (r : ℚ) :
    (c.update r).activityLevel =
      c.applyRamping (c.config.targetLevel (c.record r).averageDamage) := by
  rw [update_of_enabled henabled]
  rfl

/-- The updates at a level are counted from the one that led to it. -/
theorem update_framesAtLevel (henabled : c.config.enabled = true) (r : ℚ) :
    (c.update r).framesAtLevel =
      (if (c.update r).activityLevel ≠ c.activityLevel then 0 else c.framesAtLevel) + 1 := by
  rw [update_of_enabled henabled]
  rfl

theorem update_framesAtLevel_of_eq (henabled : c.config.enabled = true)
    (heq : (c.update r).activityLevel = c.activityLevel) :
    (c.update r).framesAtLevel = c.framesAtLevel + 1 := by
  rw [update_framesAtLevel henabled, if_neg (not_not.mpr heq)]

/-! ### A window that holds one ratio only -/

/-- The average of one ratio. -/
theorem averageDamage_replicate {n : ℕ} (hpos : 1 ≤ n)
    (h : c.damageHistory = List.replicate n r) : c.averageDamage = r := by
  have hne : (n : ℚ) ≠ 0 := Nat.cast_ne_zero.mpr (Nat.one_le_iff_ne_zero.mp hpos)
  unfold averageDamage
  rw [h, if_neg (by simp; omega), List.sum_replicate, List.length_replicate, nsmul_eq_mul,
    mul_div_cancel_left₀ r hne]

/-- The window holds nothing but `r`. -/
def Filled (r : ℚ) (c : AdaptiveFpsController) : Prop :=
  c.damageHistory = List.replicate c.config.historySize r

theorem Filled.record (h : Filled r c) : Filled r (c.record r) := by
  show SlidingWindow.push c.config.historySize c.damageHistory r = _
  rw [h]
  exact SlidingWindow.push_replicate _ _

theorem Filled.update (henabled : c.config.enabled = true) (h : Filled r c) :
    Filled r (c.update r) := by
  show (c.update r).damageHistory = List.replicate (c.update r).config.historySize r
  rw [update_damageHistory henabled, update_config]
  exact h.record

theorem run_damageHistory (henabled : c.config.enabled = true) (ratios : List ℚ) :
    (c.run ratios).damageHistory =
      SlidingWindow.pushes c.config.historySize c.damageHistory ratios := by
  induction ratios using List.reverseRecOn with
  | nil => rfl
  | append_singleton ratios r ih =>
      rw [run_concat, update_damageHistory (by rwa [run_config]), run_config, ih,
        SlidingWindow.pushes, SlidingWindow.pushes, List.foldl_append]
      rfl

/-- As many updates as the window is long fill it. -/
theorem filled_of_run (henabled : c.config.enabled = true) (hsize : 1 ≤ c.config.historySize)
    (r : ℚ) : Filled r (c.run (List.replicate c.config.historySize r)) := by
  show (c.run _).damageHistory = List.replicate (c.run _).config.historySize r
  rw [run_damageHistory henabled, run_config]
  exact SlidingWindow.pushes_replicate hsize le_rfl _ _

/-- With a filled window the ramp goes towards what the thresholds give for `r`. -/
theorem Filled.activityLevel (henabled : c.config.enabled = true)
    (hsize : 1 ≤ c.config.historySize) (h : Filled r c) :
    (c.update r).activityLevel = c.applyRamping (c.config.targetLevel r) := by
  have hfilled : (c.record r).damageHistory = List.replicate c.config.historySize r := h.record
  rw [update_activityLevel henabled, averageDamage_replicate hsize hfilled]

/-! ### Convergence -/

/-- How many updates it may still take to the level `target`. -/
def remaining (target : ActivityLevel) (c : AdaptiveFpsController) : ℕ :=
  if c.activityLevel.rank ≤ target.rank then target.rank - c.activityLevel.rank
  else (c.activityLevel.rank - target.rank) * (c.config.rampDownFrames + 1) -
    min c.framesAtLevel c.config.rampDownFrames

theorem rank_le (level : ActivityLevel) : level.rank ≤ 3 := by
  cases level <;> decide

theorem eq_of_rank_eq {a b : ActivityLevel} (h : a.rank = b.rank) : a = b := by
  revert h
  cases a <;> cases b <;> decide

theorem remaining_le (target : ActivityLevel) (c : AdaptiveFpsController) :
    remaining target c ≤ 3 * (c.config.rampDownFrames + 1) := by
  have htarget := rank_le target
  have hlevel := rank_le c.activityLevel
  unfold remaining
  split_ifs with hle
  · omega
  · have hmul : (c.activityLevel.rank - target.rank) * (c.config.rampDownFrames + 1) ≤
        3 * (c.config.rampDownFrames + 1) := Nat.mul_le_mul_right _ (by omega)
    omega

/-- A level that is too high is at least one update away from its target. -/
theorem one_le_remaining {target : ActivityLevel} (hlt : target.rank < c.activityLevel.rank) :
    1 ≤ remaining target c := by
  have hmul : 1 * (c.config.rampDownFrames + 1) ≤
      (c.activityLevel.rank - target.rank) * (c.config.rampDownFrames + 1) :=
    Nat.mul_le_mul_right _ (by omega)
  unfold remaining
  rw [if_neg (not_le.mpr hlt)]
  omega

theorem eq_of_remaining {target : ActivityLevel} (h : remaining target c = 0) :
    c.activityLevel = target := by
  rcases le_or_gt c.activityLevel.rank target.rank with hle | hlt
  · rw [remaining, if_pos hle] at h
    exact eq_of_rank_eq (by omega)
  · have hone := one_le_remaining hlt
    omega

/-- An update with a filled window is one of those that remained. -/
theorem Filled.remaining_update (henabled : c.config.enabled = true)
    (hsize : 1 ≤ c.config.historySize) (h : Filled r c) :
    remaining (c.config.targetLevel r) (c.update r) ≤
      remaining (c.config.targetLevel r) c - 1 := by
  have hlevel := h.activityLevel henabled hsize
  generalize c.config.targetLevel r = target at hlevel ⊢
  rcases applyRamping_rank c target with ⟨hlt, hup, hle⟩ | ⟨hlt, hframes, hdown⟩ |
      ⟨hlt, hframes, hsame⟩ | ⟨heq, hsame⟩
  · -- up
    rw [← hlevel] at hup hle
    rw [remaining, remaining, if_pos hle, if_pos hlt.le]
    omega
  · -- one step down: what the wait has taken is what the step is worth
    rw [← hlevel] at hdown
    rcases Nat.lt_or_ge target.rank (c.update r).activityLevel.rank with hmore | hthere
    · obtain ⟨k, hk⟩ := Nat.exists_eq_add_of_lt hmore
      have hbefore : c.activityLevel.rank - target.rank = k + 2 := by omega
      have hafter : (c.update r).activityLevel.rank - target.rank = k + 1 := by omega
      rw [remaining, remaining, if_neg (not_le.mpr hmore), if_neg (not_le.mpr hlt), hbefore, hafter,
        update_config, Nat.add_mul k 2, Nat.add_mul k 1, min_eq_right hframes]
      omega
    · rw [remaining, if_pos hthere]
      omega
  · -- the wait for a step down
    have hstay : (c.update r).activityLevel = c.activityLevel := hlevel.trans hsame
    have hmore : ¬c.activityLevel.rank ≤ target.rank := not_le.mpr hlt
    rw [remaining, remaining, hstay, if_neg hmore, if_neg hmore, update_config,
      update_framesAtLevel_of_eq henabled hstay, min_eq_left hframes, min_eq_left hframes.le]
    omega
  · -- there already
    have hstay : (c.update r).activityLevel = c.activityLevel := hlevel.trans hsame
    rw [remaining, hstay, if_pos heq.ge]
    omega

theorem Filled.remaining_run (henabled : c.config.enabled = true)
    (hsize : 1 ≤ c.config.historySize) (h : Filled r c) (n : ℕ) :
    Filled r (c.run (List.replicate n r)) ∧
      remaining (c.config.targetLevel r) (c.run (List.replicate n r)) ≤
        remaining (c.config.targetLevel r) c - n := by
  induction n with
  | zero => exact ⟨h, le_rfl⟩
  | succ n ih =>
      obtain ⟨hfilled, hle⟩ := ih
      have henabled' : (c.run (List.replicate n r)).config.enabled = true := by rwa [run_config]
      have hstep := hfilled.remaining_update henabled' (by rwa [run_config])
      rw [run_config] at hstep
      rw [List.replicate_succ', run_concat]
      refine ⟨hfilled.update henabled', ?_⟩
      omega

/-- From any state, under one ratio, the level comes to what the thresholds give and stays
there. -/
theorem activityLevel_run (henabled : c.config.enabled = true)
    (hsize : 1 ≤ c.config.historySize) (r : ℚ) {n : ℕ}
    (hn : c.config.historySize + 3 * (c.config.rampDownFrames + 1) ≤ n) :
    (c.run (List.replicate n r)).activityLevel = c.config.targetLevel r := by
  obtain ⟨m, rfl⟩ := Nat.exists_eq_add_of_le hn
  have hfilled := filled_of_run henabled hsize r
  rw [add_assoc, List.replicate_add, run_append]
  refine eq_of_remaining ?_
  obtain ⟨-, hle⟩ := hfilled.remaining_run (by rwa [run_config]) (by rwa [run_config])
    (3 * (c.config.rampDownFrames + 1) + m)
  have hmax := remaining_le (c.config.targetLevel r)
    (c.run (List.replicate c.config.historySize r))
  rw [run_config] at hle hmax
  omega

/-! ### Drops -/

/-- What the counter says about the updates so far: the last `frames_at_level` of them left the
level as it is. -/
structure Counted (config : AdaptiveFpsConfig) (ratios : List ℚ) : Prop where
  le : ((new config).run ratios).framesAtLevel ≤ ratios.length
  same : ∀ n, ratios.length - ((new config).run ratios).framesAtLevel < n → n ≤ ratios.length →
    ((new config).run (ratios.take n)).activityLevel = ((new config).run ratios).activityLevel

theorem counted (henabled : config.enabled = true) (ratios : List ℚ) :
    Counted config ratios := by
  induction ratios using List.reverseRecOn with
  | nil =>
      refine ⟨le_rfl, fun n _ _ => ?_⟩
      rw [List.take_nil]
  | append_singleton ratios r ih =>
      have henabled' : ((new config).run ratios).config.enabled = true := by rwa [run_config]
      have hlen : (ratios ++ [r]).length = ratios.length + 1 := List.length_append
      by_cases hlevel : (((new config).run ratios).update r).activityLevel =
          ((new config).run ratios).activityLevel
      · have hframes := update_framesAtLevel_of_eq henabled' hlevel
        have hcount := ih.le
        rw [← run_concat] at hlevel hframes
        refine ⟨by omega, fun n hlo hhi => ?_⟩
        rcases Nat.lt_or_ge ratios.length n with hlast | hbefore
        · rw [List.take_of_length_le (by omega)]
        · rw [List.take_append_of_le_length hbefore, hlevel]
          exact ih.same n (by omega) hbefore
      · have hframes := update_framesAtLevel henabled' r
        rw [if_pos hlevel, ← run_concat] at hframes
        refine ⟨by omega, fun n hlo hhi => ?_⟩
        rw [List.take_of_length_le (by omega)]

/-- A drop is one step, and there have been enough updates. -/
theorem update_drops (henabled : c.config.enabled = true) (r : ℚ) :
    c.activityLevel.rank ≤ (c.update r).activityLevel.rank + 1 ∧
      ((c.update r).activityLevel.rank < c.activityLevel.rank →
        c.config.rampDownFrames ≤ c.framesAtLevel) := by
  rw [update_activityLevel henabled]
  generalize c.config.targetLevel (c.record r).averageDamage = target
  rcases applyRamping_rank c target with ⟨-, hup, -⟩ | ⟨-, hframes, hdown⟩ |
      ⟨-, -, hsame⟩ | ⟨-, hsame⟩
  · exact ⟨by omega, fun hdrop => absurd hdrop (by omega)⟩
  · exact ⟨hdown.ge, fun _ => hframes⟩
  · rw [hsame]
    exact ⟨Nat.le_succ _, fun hdrop => absurd hdrop (lt_irrefl _)⟩
  · rw [hsame]
    exact ⟨Nat.le_succ _, fun hdrop => absurd hdrop (lt_irrefl _)⟩

/-! ### The frame rate -/

theorem calculateTargetFps_mem (hfps : c.config.minFps ≤ c.config.maxFps) :
    c.config.minFps ≤ c.calculateTargetFps ∧ c.calculateTargetFps ≤ c.config.maxFps := by
  dsimp only [calculateTargetFps]
  split_ifs with hstatic hlow hhigh
  · exact ⟨UInt32.le_refl _, hfps⟩
  · exact ⟨UInt32.le_refl _, hfps⟩
  · exact ⟨hfps, UInt32.le_refl _⟩
  · exact ⟨UInt32.not_lt.mp hlow, UInt32.not_lt.mp hhigh⟩

theorem run_currentFps_mem (hfps : config.minFps ≤ config.maxFps) (ratios : List ℚ) :
    config.minFps ≤ ((new config).run ratios).currentFps ∧
      ((new config).run ratios).currentFps ≤ config.maxFps := by
  induction ratios using List.reverseRecOn with
  | nil => exact ⟨hfps, UInt32.le_refl _⟩
  | append_singleton ratios r ih =>
      rw [run_concat]
      by_cases henabled : ((new config).run ratios).config.enabled = true
      · rw [update_of_enabled henabled]
        have hconfig : (((new config).run ratios).record r).moveLevel.config = config :=
          run_config (new config) ratios
        have hmem := calculateTargetFps_mem
          (c := (((new config).run ratios).record r).moveLevel) (by rwa [hconfig])
        rw [hconfig] at hmem
        exact hmem
      · rw [update, if_pos (by simpa using henabled)]
        exact ih

/-! ### The controller as a whole -/

/-- **The adaptive frame rate converges.**  Under one ratio the level is what the thresholds
give for it after `history_size + 3 * (ramp_down_frames + 1)` updates, from whatever state.  In
a run it drops by one step at a time, after `ramp_down_frames` updates at the level it drops
from, and the frame rate is between the two that are configured. -/
theorem adaptive_fps_converges (config : AdaptiveFpsConfig) (henabled : config.enabled = true)
    (hfps : config.minFps ≤ config.maxFps) (hsize : 1 ≤ config.historySize) :
    (∀ c : AdaptiveFpsController, c.config = config → ∀ (r : ℚ) (n : ℕ),
      config.historySize + 3 * (config.rampDownFrames + 1) ≤ n →
        (c.run (List.replicate n r)).activityLevel = config.targetLevel r) ∧
    (∀ (ratios : List ℚ) (r : ℚ),
      ((new config).run ratios).activityLevel.rank ≤
          ((new config).run (ratios ++ [r])).activityLevel.rank + 1 ∧
        (((new config).run (ratios ++ [r])).activityLevel.rank <
            ((new config).run ratios).activityLevel.rank →
          config.rampDownFrames ≤ ratios.length ∧
            ∀ n, ratios.length - config.rampDownFrames < n → n ≤ ratios.length →
              ((new config).run (ratios.take n)).activityLevel =
                ((new config).run ratios).activityLevel)) ∧
    ∀ ratios : List ℚ, config.minFps ≤ ((new config).run ratios).currentFps ∧
      ((new config).run ratios).currentFps ≤ config.maxFps := by
  refine ⟨?_, fun ratios r => ?_, run_currentFps_mem hfps⟩
  · -- a constant ratio settles the level
    rintro c rfl r n hn
    exact activityLevel_run henabled hsize r hn
  · -- a drop takes one level, after enough frames at it
    obtain ⟨hstep, hframes⟩ := update_drops (c := (new config).run ratios)
      (by rwa [run_config]) r
    rw [run_config] at hframes
    rw [run_concat]
    refine ⟨hstep, fun hdrop => ?_⟩
    have hcounted := counted henabled ratios
    have hle : config.rampDownFrames ≤ ((new config).run ratios).framesAtLevel := hframes hdrop
    exact ⟨hle.trans hcounted.le, fun n hlo hhi => hcounted.same n (by omega) hhi⟩

/-- A configuration like the default one. -/
def plainConfig : AdaptiveFpsConfig where
  enabled := true
  minFps := 5
  maxFps := 30
  historySize := 10
  highActivityThreshold := 3 / 10
  mediumActivityThreshold := 1 / 10
  lowActivityThreshold := 1 / 100
  rampUpFrames := 2
  rampDownFrames := 5

/-- A new controller that sees no damage is at the lowest level after 28 updates. -/
theorem adaptive_fps_converges_idle :
    ((new plainConfig).run (List.replicate 28 0)).activityLevel = plainConfig.targetLevel 0 ∧
      plainConfig.targetLevel 0 = .static :=
  ⟨(adaptive_fps_converges plainConfig rfl (by decide) (by decide)).1 (new plainConfig) rfl 0 28
    (by decide), by decide +kernel⟩

end AdaptiveFpsController

end Rational

end LamcoRdp
