/-
LamcoRdp/Performance/ActivityTimes.lean

The activity times of the adaptive frame rate (`AdaptiveFpsStats`,
`performance/adaptive_fps.rs`).

An update adds the time since the last change of the level to the level that it finds.  It does
so each time, so a period is counted again with every update in it, and the time since the
update before is lost when the level changes.  What the times should be is read from a log: the
reports `(time, level)` of the updates from the first change on that is recorded since the last
reset (`Sojourn.spent`).

The times are right exactly in the runs in which no update can show the difference
(`activity_times_iff`).  The log and the clock belong to the specification; the code has neither.
-/
import LamcoRdp.Lib.Runs
import LamcoRdp.Lib.Sojourn
import LamcoRdp.Performance.AdaptiveFps

namespace LamcoRdp

open Checked Runs

instance : Fintype ActivityLevel where
  elems := {.static, .low, .medium, .high}
  complete level := by cases level <;> decide

/-! ### The statistics -/

/-- Durations and instants are in nanoseconds. -/
structure AdaptiveFpsStats where
  framesProcessed : ℕ
  timeAtStatic : ℕ
  timeAtLow : ℕ
  timeAtMedium : ℕ
  timeAtHigh : ℕ
  lastLevelChange : Option ℕ

namespace AdaptiveFpsStats

/-- `AdaptiveFpsStats::default`. -/
def default : AdaptiveFpsStats where
  framesProcessed := 0
  timeAtStatic := 0
  timeAtLow := 0
  timeAtMedium := 0
  timeAtHigh := 0
  lastLevelChange := none

/-- The time at a level. -/
def timeAt (stats : AdaptiveFpsStats) : ActivityLevel → ℕ
  | .static => stats.timeAtStatic
  | .low => stats.timeAtLow
  | .medium => stats.timeAtMedium
  | .high => stats.timeAtHigh

/-- The time of a level goes up by what has elapsed. -/
def addTime (stats : AdaptiveFpsStats) (elapsed : ℕ) : ActivityLevel → AdaptiveFpsStats
  | .static => { stats with timeAtStatic := stats.timeAtStatic + elapsed }
  | .low => { stats with timeAtLow := stats.timeAtLow + elapsed }
  | .medium => { stats with timeAtMedium := stats.timeAtMedium + elapsed }
  | .high => { stats with timeAtHigh := stats.timeAtHigh + elapsed }

theorem timeAt_addTime (stats : AdaptiveFpsStats) (elapsed : ℕ) (level l : ActivityLevel) :
    (stats.addTime elapsed level).timeAt l =
      stats.timeAt l + if level = l then elapsed else 0 := by
  cases level <;> cases l <;> rfl

/-- A change of the level is recorded. -/
def recordChange (stats : AdaptiveFpsStats) (now : ℕ) (level newLevel : ActivityLevel) :
    AdaptiveFpsStats :=
  if newLevel ≠ level then { stats with lastLevelChange := some now } else stats

/-- The time since the last change goes to a level. -/
def addElapsed (stats : AdaptiveFpsStats) (now : ℕ) (level : ActivityLevel) : AdaptiveFpsStats :=
  match stats.lastLevelChange with
  | some lastChange => stats.addTime (now - lastChange) level
  | none => stats

/-- What an update does to the statistics, told the level it finds and the level it leaves. -/
def update (stats : AdaptiveFpsStats) (now : ℕ) (level newLevel : ActivityLevel) :
    AdaptiveFpsStats :=
  let stats := (stats.recordChange now level newLevel).addElapsed now level
  { stats with framesProcessed := stats.framesProcessed + 1 }

theorem recordChange_lastLevelChange (stats : AdaptiveFpsStats) (now : ℕ)
    (level newLevel : ActivityLevel) : (stats.recordChange now level newLevel).lastLevelChange =
      if newLevel ≠ level then some now else stats.lastLevelChange := by
  unfold recordChange
  split_ifs <;> rfl

theorem timeAt_recordChange (stats : AdaptiveFpsStats) (now : ℕ)
    (level newLevel l : ActivityLevel) :
    (stats.recordChange now level newLevel).timeAt l = stats.timeAt l := by
  unfold recordChange
  split_ifs
  · cases l <;> rfl
  · rfl

theorem addElapsed_lastLevelChange (stats : AdaptiveFpsStats) (now : ℕ) (level : ActivityLevel) :
    (stats.addElapsed now level).lastLevelChange = stats.lastLevelChange := by
  unfold addElapsed
  rcases h : stats.lastLevelChange with - | change
  · exact h
  · cases level <;> exact h

theorem timeAt_addElapsed (stats : AdaptiveFpsStats) (now : ℕ) (level l : ActivityLevel) :
    (stats.addElapsed now level).timeAt l =
      stats.timeAt l + if level = l then stats.lastLevelChange.elim 0 (now - ·) else 0 := by
  unfold addElapsed
  rcases stats.lastLevelChange with - | change
  · exact (congrArg (stats.timeAt l + ·) (ite_self 0)).symm
  · exact timeAt_addTime stats (now - change) level l

/-- The last change after an update. -/
theorem update_lastLevelChange (stats : AdaptiveFpsStats) (now : ℕ)
    (level newLevel : ActivityLevel) : (stats.update now level newLevel).lastLevelChange =
      if newLevel ≠ level then some now else stats.lastLevelChange :=
  (addElapsed_lastLevelChange _ _ _).trans (recordChange_lastLevelChange _ _ _ _)

/-- An update adds the time since the last change, this one included, to the level it finds. -/
theorem timeAt_update (stats : AdaptiveFpsStats) (now : ℕ) (level newLevel l : ActivityLevel) :
    (stats.update now level newLevel).timeAt l = stats.timeAt l +
      if level = l then
        (if newLevel ≠ level then some now else stats.lastLevelChange).elim 0 (now - ·)
      else 0 := by
  have hframes : (stats.update now level newLevel).timeAt l =
      ((stats.recordChange now level newLevel).addElapsed now level).timeAt l := by
    cases l <;> rfl
  rw [hframes, timeAt_addElapsed, timeAt_recordChange, recordChange_lastLevelChange]

end AdaptiveFpsStats

/-! ### The controller with its statistics -/

/-- The controller with its statistics. -/
structure MeteredFpsController where
  controller : AdaptiveFpsController
  stats : AdaptiveFpsStats

namespace MeteredFpsController

/-- `AdaptiveFpsController::new`. -/
def new (config : AdaptiveFpsConfig) : MeteredFpsController := ⟨.new config, .default⟩

/-- The level that an update would leave. -/
def newLevel (m : MeteredFpsController) (damageRatio : Binary32) : ActivityLevel :=
  (m.controller.record damageRatio).moveLevel.activityLevel

/-- `update`, at the time `now`. -/
def update (m : MeteredFpsController) (now : ℕ) (damageRatio : Binary32) :
    Checked MeteredFpsController :=
  if !m.controller.config.enabled then .ok m
  else do
    let stats := m.stats.update now m.controller.activityLevel (m.newLevel damageRatio)
    let controller ← m.controller.update damageRatio
    .ok { controller, stats }

/-- `reset_stats`. -/
def resetStats (m : MeteredFpsController) : MeteredFpsController :=
  { m with stats := .default }

variable {m m' : MeteredFpsController} {now : ℕ} {damageRatio : Binary32}

/-- What an update leaves, if it leaves anything. -/
theorem of_update_ok (henabled : m.controller.config.enabled = true)
    (h : m.update now damageRatio = .ok m') :
    m'.controller.config = m.controller.config ∧
      m'.controller.activityLevel = m.newLevel damageRatio ∧
      m'.stats = m.stats.update now m.controller.activityLevel (m.newLevel damageRatio) := by
  unfold update at h
  rw [if_neg (by simp [henabled])] at h
  obtain ⟨controller, hcontroller, hm'⟩ := bind_eq_ok.mp h
  obtain rfl := Except.ok.inj hm'
  obtain ⟨fps, -, rfl⟩ := AdaptiveFpsController.of_update_ok henabled hcontroller
  exact ⟨rfl, rfl, rfl⟩

end MeteredFpsController

/-! ### What the times should be -/

/-- A call that touches the statistics, at the time `now`. -/
inductive FpsStatsCall
  | update (now : ℕ) (damageRatio : Binary32)
  | resetStats

/-- The controller beside a clock, which is where the last update left it, and the log. -/
structure FpsTimeline where
  meter : MeteredFpsController
  clock : ℕ
  log : List (ℕ × ActivityLevel)

namespace FpsTimeline

/-- A new controller, with no time spent. -/
def start (config : AdaptiveFpsConfig) : FpsTimeline := ⟨.new config, 0, []⟩

/-- The log begins with a change. -/
def report (log : List (ℕ × ActivityLevel)) (now : ℕ) (level newLevel : ActivityLevel) :
    List (ℕ × ActivityLevel) :=
  if log = [] ∧ newLevel = level then [] else log ++ [(now, newLevel)]

/-- A call; there is none that would have the clock go back. -/
def step (s : FpsTimeline) : FpsStatsCall → Option FpsTimeline
  | .update now damageRatio =>
      if s.clock ≤ now then
        match s.meter.update now damageRatio with
        | .ok meter => some
            { meter
              clock := now
              log :=
                if s.meter.controller.config.enabled then
                  report s.log now s.meter.controller.activityLevel meter.controller.activityLevel
                else s.log }
        | .error _ => none
      else none
  | .resetStats => some { s with meter := s.meter.resetStats, log := [] }

/-- The four times are what the log says, and add up to the time since its beginning. -/
def Accurate (s : FpsTimeline) : Prop :=
  s.meter.stats.timeAtStatic + s.meter.stats.timeAtLow + s.meter.stats.timeAtMedium +
      s.meter.stats.timeAtHigh = Sojourn.span s.log ∧
    ∀ level, s.meter.stats.timeAt level = Sojourn.spent level s.log

/-- A call that counts what it should: where a change has been recorded, the level changes with
no time gone since the update before, or stays with none gone between the last change and that
update. -/
def CountsOnce (s : FpsTimeline) : FpsStatsCall → Prop
  | .update now damageRatio => s.meter.controller.config.enabled = true →
      ∀ change ∈ s.meter.stats.lastLevelChange, ∀ before ∈ s.log.getLast?,
        (if s.meter.newLevel damageRatio ≠ s.meter.controller.activityLevel then now
          else change) = before.1
  | .resetStats => True

variable {s t : FpsTimeline} {now : ℕ} {damageRatio : Binary32} {c : FpsStatsCall}
  {log : List (ℕ × ActivityLevel)} {level newLevel : ActivityLevel}

/-- What an update does, if it does anything. -/
theorem step_update (h : s.step (.update now damageRatio) = some t) :
    s.clock ≤ now ∧ t.clock = now ∧
      ((s.meter.controller.config.enabled = false ∧ t.meter = s.meter ∧ t.log = s.log) ∨
        (s.meter.controller.config.enabled = true ∧
          t.meter.controller.activityLevel = s.meter.newLevel damageRatio ∧
          t.meter.stats = s.meter.stats.update now s.meter.controller.activityLevel
            (s.meter.newLevel damageRatio) ∧
          t.log = report s.log now s.meter.controller.activityLevel
            (s.meter.newLevel damageRatio))) := by
  obtain ⟨hclock, h⟩ := Option.ite_none_right_eq_some.mp h
  rcases hupdate : s.meter.update now damageRatio with fault | meter
  · rw [hupdate] at h
    cases h
  · rw [hupdate] at h
    obtain rfl := Option.some.inj h
    refine ⟨hclock, rfl, ?_⟩
    -- a disabled controller is left as it is
    cases henabled : s.meter.controller.config.enabled with
    | false =>
        unfold MeteredFpsController.update at hupdate
        rw [if_pos (by simp [henabled])] at hupdate
        exact .inl ⟨rfl, (Except.ok.inj hupdate).symm, rfl⟩
    -- an enabled one adds the time since the last change
    | true =>
        obtain ⟨-, hlevel, hstats⟩ := MeteredFpsController.of_update_ok henabled hupdate
        refine .inr ⟨rfl, hlevel, hstats, ?_⟩
        rw [← hlevel]
        rfl

/-! ### What every call keeps -/

/-- The log is in order and ends with the level that the controller is at; a change is recorded
from the beginning of the log on. -/
structure Kept (s : FpsTimeline) : Prop where
  sorted : (s.log.map Prod.fst).Pairwise (· ≤ ·)
  clock : ∀ report ∈ s.log, report.1 ≤ s.clock
  nil : s.log = [] → s.meter.stats.lastLevelChange = none
  last : ∀ last ∈ s.log.getLast?, last.2 = s.meter.controller.activityLevel ∧
    ∃ change ≤ last.1, s.meter.stats.lastLevelChange = some change

/-- In order, the sum of the times is right if each of them is. -/
theorem accurate_iff (hsorted : (s.log.map Prod.fst).Pairwise (· ≤ ·)) :
    s.Accurate ↔ ∀ level, s.meter.stats.timeAt level = Sojourn.spent level s.log := by
  refine ⟨And.right, fun h => ⟨?_, h⟩⟩
  have htotal : ∑ level, s.meter.stats.timeAt level = Sojourn.span s.log := by
    rw [← Sojourn.sum_spent hsorted]
    exact Finset.sum_congr rfl fun level _ => h level
  rw [← htotal]
  show _ = s.meter.stats.timeAtStatic + (s.meter.stats.timeAtLow +
    (s.meter.stats.timeAtMedium + (s.meter.stats.timeAtHigh + 0)))
  rw [add_zero, add_assoc, add_assoc]

theorem kept_start (config : AdaptiveFpsConfig) : Kept (start config) where
  sorted := List.Pairwise.nil
  clock := fun _ h => absurd h List.not_mem_nil
  nil := fun _ => rfl
  last := fun _ h => absurd h (by simp [start])

/-- Up to one more report some change has been recorded. -/
theorem Kept.exists_change (h : Kept s) (hclock : s.clock ≤ now)
    (hreport : ¬(s.log = [] ∧ newLevel = level)) :
    ∃ change ≤ now, (if newLevel ≠ level then some now else s.meter.stats.lastLevelChange) =
      some change := by
  by_cases hne : newLevel ≠ level
  · exact ⟨now, le_rfl, if_pos hne⟩
  · have hlog : s.log ≠ [] := fun hnil => hreport ⟨hnil, not_not.mp hne⟩
    have hlast := List.getLast?_eq_some_getLast hlog
    obtain ⟨-, change, hle, hchange⟩ := h.last _ hlast
    have hmem := h.clock _ (List.getLast_mem hlog)
    exact ⟨change, hle.trans (hmem.trans hclock), (if_neg hne).trans hchange⟩

theorem Kept.step (h : Kept s) (hstep : s.step c = some t) : Kept t := by
  cases c with
  | resetStats =>
      obtain rfl := Option.some.inj hstep
      exact ⟨List.Pairwise.nil, fun _ hr => absurd hr List.not_mem_nil, fun _ => rfl,
        fun _ hl => absurd hl (by simp)⟩
  | update now damageRatio =>
      obtain ⟨hclock, rfl, ⟨-, hmeter, hlog⟩ | ⟨-, hlevel, hstats, hlog⟩⟩ := step_update hstep
      · refine ⟨?_, fun report hr => ?_, ?_, ?_⟩
        · rw [hlog]
          exact h.sorted
        · rw [hlog] at hr
          exact (h.clock report hr).trans hclock
        · rw [hlog, hmeter]
          exact h.nil
        · rw [hlog, hmeter]
          exact h.last
      · have hchange := congrArg AdaptiveFpsStats.lastLevelChange hstats
        rw [AdaptiveFpsStats.update_lastLevelChange] at hchange
        by_cases hreport : s.log = [] ∧
            s.meter.newLevel damageRatio = s.meter.controller.activityLevel
        · -- still no change
          rw [report, if_pos hreport] at hlog
          rw [if_neg (not_not.mpr hreport.2), h.nil hreport.1] at hchange
          refine ⟨?_, fun report hr => ?_, fun _ => hchange, fun last hl => ?_⟩
          · rw [hlog]
            exact List.Pairwise.nil
          · rw [hlog] at hr
            exact absurd hr List.not_mem_nil
          · rw [hlog] at hl
            exact absurd hl (by simp)
        · obtain ⟨change, hle, hsome⟩ := h.exists_change hclock hreport
          rw [report, if_neg hreport] at hlog
          refine ⟨?_, fun report hr => ?_, fun hnil => ?_, fun last hl => ?_⟩
          · rw [hlog, List.map_append, List.pairwise_append]
            refine ⟨h.sorted, List.pairwise_singleton _ _, fun a ha b hb => ?_⟩
            obtain ⟨report, hr, rfl⟩ := List.mem_map.mp ha
            obtain rfl := List.mem_singleton.mp hb
            exact (h.clock report hr).trans hclock
          · rw [hlog] at hr
            rcases List.mem_append.mp hr with hr | hr
            · exact (h.clock report hr).trans hclock
            · obtain rfl := List.mem_singleton.mp hr
              exact le_rfl
          · rw [hlog] at hnil
            exact absurd hnil (by simp)
          · rw [hlog, List.getLast?_concat] at hl
            obtain rfl := Option.some.inj hl
            exact ⟨hlevel.symm, change, hle, hchange.trans hsome⟩

/-- The first report counts nothing, and neither does an update before it. -/
theorem first_update (now : ℕ) (level newLevel : ActivityLevel) (stats : AdaptiveFpsStats)
    (hnone : stats.lastLevelChange = none)
    (l : ActivityLevel) : (stats.update now level newLevel).timeAt l = stats.timeAt l ∧
      Sojourn.spent l (report [] now level newLevel) = 0 := by
  have hcounted : (if newLevel ≠ level then some now else none).elim 0 (now - ·) = 0 := by
    split_ifs
    · exact Nat.sub_self now
    · rfl
  constructor
  · rw [AdaptiveFpsStats.timeAt_update, hnone, hcounted, ite_self, Nat.add_zero]
  · unfold report
    split_ifs <;> rfl

/-- The level that a report was at gets what an update counts exactly if that is the time since
the update before. -/
theorem later_update {stats : AdaptiveFpsStats} {change : ℕ} {last : ℕ × ActivityLevel}
    (hchange : stats.lastLevelChange = some change) (hle : change ≤ last.1) (hnow : last.1 ≤ now)
    (hlast : last.2 = level)
    (h : ∀ l, stats.timeAt l = Sojourn.spent l (log ++ [last])) :
    (∀ l, (stats.update now level newLevel).timeAt l =
        Sojourn.spent l (report (log ++ [last]) now level newLevel)) ↔
      (if newLevel ≠ level then now else change) = last.1 := by
  have hreport : report (log ++ [last]) now level newLevel =
      log ++ [last] ++ [(now, newLevel)] := if_neg fun hnil => by simp at hnil
  have hcounted : (if newLevel ≠ level then some now else stats.lastLevelChange).elim 0 (now - ·) =
      now - if newLevel ≠ level then now else change := by
    rw [hchange]
    split_ifs <;> rfl
  have hbound : (if newLevel ≠ level then now else change) ≤ now := by
    split_ifs
    · -- the last change is now, or it is before the last call
      exact le_rfl
    · exact hle.trans hnow
  simp only [AdaptiveFpsStats.timeAt_update, hcounted, hreport, Sojourn.spent_concat, h, hlast]
  generalize (if newLevel ≠ level then now else change) = since at hbound ⊢
  constructor
  · -- the level of the last stay tells whether the time was counted from its start
    intro hall
    have hlevel := hall level
    rw [if_pos rfl, if_pos rfl] at hlevel
    omega
  · intro heq l
    rw [heq]

/-- From times that are right, a call leaves times that are right exactly if it counts what it
should. -/
theorem Kept.accurate_step (h : Kept s) (hs : s.Accurate) (hstep : s.step c = some t) :
    t.Accurate ↔ s.CountsOnce c := by
  have ht := h.step hstep
  rw [accurate_iff ht.sorted]
  cases c with
  -- a reset clears times and log alike
  | resetStats =>
      obtain rfl := Option.some.inj hstep
      exact iff_of_true (fun level => by cases level <;> rfl) trivial
  | update now damageRatio =>
      obtain ⟨hclock, rfl, ⟨hdisabled, hmeter, hlog⟩ | ⟨henabled, -, hstats, hlog⟩⟩ :=
        step_update hstep
      · rw [hmeter, hlog]
        refine iff_of_true hs.2 fun henabled => ?_
        rw [hdisabled] at henabled
        cases henabled
      · rw [hstats, hlog]
        -- the first call counts no time; a later one counts from the last change
        rcases List.eq_nil_or_concat' s.log with hnil | ⟨log, last, hconcat⟩
        · have hnone := h.nil hnil
          refine iff_of_true (fun l => ?_) fun _ change hchange => ?_
          · obtain ⟨hsame, hzero⟩ := first_update t.clock s.meter.controller.activityLevel
              (s.meter.newLevel damageRatio) s.meter.stats hnone l
            rw [hsame, hnil, hzero, hs.2 l, hnil]
            rfl
          · rw [hnone] at hchange
            cases hchange
        · have hlast : s.log.getLast? = some last := by
            rw [hconcat, List.getLast?_concat]
          obtain ⟨hlevel, change, hle, hchange⟩ := h.last last hlast
          have hnow : last.1 ≤ t.clock := (h.clock last (List.mem_of_getLast? hlast)).trans hclock
          have hright : ∀ l, s.meter.stats.timeAt l = Sojourn.spent l (log ++ [last]) := by
            rw [← hconcat]
            exact hs.2
          rw [hconcat, later_update hchange hle hnow hlevel hright, CountsOnce, hchange, hlast]
          simp [henabled]

/-! ### Runs -/

theorem kept_of_run {config : AdaptiveFpsConfig} {calls : List FpsStatsCall}
    (h : Run (StepOf step) (start config) calls s) : Kept s :=
  h.invariant (kept_start config) fun h hstep => h.step hstep

/-- **Activity times add up exactly in the runs in which every update counts what it should.**
Where an update changes the level, no time may have gone since the update before; where one
leaves it, none between the last recorded change and the update before. -/
theorem activity_times_iff (config : AdaptiveFpsConfig) (calls : List FpsStatsCall) :
    (∀ pre s, pre <+: calls → Run (StepOf step) (start config) pre s → s.Accurate) ↔
      ∀ pre c s t, pre ++ [c] <+: calls → Run (StepOf step) (start config) pre s →
        s.step c = some t → s.CountsOnce c :=
  Run.always_iff ⟨rfl, fun level => by cases level <;> rfl⟩
    (fun hr hs hstep => (kept_of_run hr).accurate_step hs hstep) calls

/-- Eight updates without damage, a second apart, with the default configuration: the sixth one
leaves the highest level, and the time since then is three seconds instead of two. -/
theorem activity_times_grow : ∃ s, Run (StepOf step) (start .default)
    ((List.range 8).map fun n => .update (n * 10 ^ 9) (.fin 0)) s ∧ ¬s.Accurate := by
  have hend : (((List.range 8).map fun n => .update (n * 10 ^ 9) (.fin 0)).foldlM step
      (start .default)).map
      (fun s => decide (s.meter.stats.timeAt .medium = Sojourn.spent .medium s.log)) =
        some false := by decide +kernel
  obtain ⟨s, hrun, hs⟩ := Run.exists_of_foldlM _ hend
  exact ⟨s, hrun, fun h => of_decide_eq_false hs (h.2 .medium)⟩

end FpsTimeline

end LamcoRdp
