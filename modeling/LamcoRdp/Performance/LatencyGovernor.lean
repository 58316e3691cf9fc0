/-
LamcoRdp/Performance/LatencyGovernor.lean

The latency governor (`performance/latency_governor.rs`): whether a frame with some damage is
encoded now or its damage is held for later.

It is told the damage ratio of each frame and reads the clock, once when the first damage
comes in and once to see how long that is ago.  A run keeps the damage that is held
(`GovernorRun.held`), which the code does not: it keeps the sum.

Whatever the run, the held damage adds up to less than the threshold of the mode, and none of
it is older, at the time of a frame, than the delay of the mode, up to the rounding of the
clock (`latency_governor_run`).  A keepalive is never decided: it needs damage to have come
in, which interactive mode encodes at once.
-/
import LamcoRdp.Lib.Runs
import LamcoRdp.Performance.AdaptiveFps
import LamcoRdp.Server.Pipeline

/-! ### Binary32 facts -/

namespace Binary32

/-- `Duration::as_secs_f32`, of nanoseconds. -/
def asSecsF32 (ns : ℕ) : Binary32 :=
  (ofNat (ns / 10 ^ 9)).add ((ofNat (ns % 10 ^ 9)).div (ofNat (10 ^ 9)))

theorem ofNat_giga : ofNat (10 ^ 9) = .fin (10 ^ 9) := by
  decide +kernel

/-- Zero, or not too small. -/
def Sized (k : ℕ) (q : ℚ) : Prop := q = 0 ∨ 1 / 2 ^ k ≤ q

theorem Sized.nonneg {k : ℕ} {q : ℚ} (h : Sized k q) : 0 ≤ q := by
  rcases h with rfl | h
  · exact le_rfl
  · exact le_trans (by positivity) h

theorem sized_natCast (n : ℕ) : Sized 0 n := by
  rcases Nat.eq_zero_or_pos n with rfl | hpos
  · exact Or.inl Nat.cast_zero
  · refine Or.inr ?_
    rw [pow_zero, one_div_one]
    exact_mod_cast hpos

theorem Sized.mono {k l : ℕ} {q : ℚ} (h : Sized k q) (hkl : k ≤ l) : Sized l q := by
  refine h.imp_right fun hk => le_trans ?_ hk
  exact one_div_le_one_div_of_le (by positivity) (pow_le_pow_right₀ (by norm_num) hkl)

theorem Sized.add {k : ℕ} {p q : ℚ} (hp : Sized k p) (hq : Sized k q) : Sized k (p + q) := by
  have hp₀ := hp.nonneg
  have hq₀ := hq.nonneg
  rcases hp with rfl | hp
  · rwa [zero_add]
  · exact Or.inr (by linarith)

/-- One rounding takes at most one part in `2 ^ 24` off. -/
theorem round_ge {k : ℕ} {q : ℚ} (hlo : Sized k q) (hk : k ≤ 120) (hhi : q ≤ 2 ^ 127) :
    ∃ r, round q = .fin r ∧ q * (1 - 1 / 2 ^ 24) ≤ r ∧ r ≤ 2 * q ∧ Sized (k + 1) r := by
  rcases hlo with rfl | hlo
  · exact ⟨0, if_pos rfl, by norm_num, by norm_num, Or.inl rfl⟩
  have hsmall : (2 : ℚ) ^ (-126 : ℤ) ≤ 1 / 2 ^ k := by
    have hpow : (1 : ℚ) / 2 ^ 120 ≤ 1 / 2 ^ k :=
      one_div_le_one_div_of_le (by positivity) (pow_le_pow_right₀ (by norm_num) hk)
    exact le_trans (by norm_num) hpow
  obtain ⟨r, hr, hnear⟩ := round_near (hsmall.trans hlo) hhi
  have hpos : (0 : ℚ) < 1 / 2 ^ k := by positivity
  obtain ⟨hge, hle⟩ := abs_le.mp hnear
  refine ⟨r, hr, by linarith, by linarith, Or.inr ?_⟩
  calc (1 : ℚ) / 2 ^ (k + 1) = 1 / 2 ^ k / 2 := by rw [pow_succ, div_div]
    _ ≤ r := by linarith

/-- The milliseconds of a duration, with four roundings. -/
theorem millis_ge (ns : ℕ) (h : ns < 2 ^ 63 * 10 ^ 9) :
    ∃ e, (asSecsF32 ns).mul (.fin 1000) = .fin e ∧
      (ns : ℚ) / 10 ^ 6 * (1 - 1 / 2 ^ 24) ^ 4 ≤ e := by
  obtain ⟨secs, nanos, hsecs, hnanos⟩ : ∃ secs nanos, ns / 10 ^ 9 = secs ∧ ns % 10 ^ 9 = nanos :=
    ⟨_, _, rfl, rfl⟩
  have hsplit : (ns : ℚ) = secs * 10 ^ 9 + nanos := by
    have hdiv := Nat.div_add_mod ns (10 ^ 9)
    rw [hsecs, hnanos] at hdiv
    rw [← hdiv]
    push_cast
    ring
  have hsecsLt : (secs : ℚ) < 2 ^ 63 := by
    have hlt : secs < 2 ^ 63 := by omega
    exact_mod_cast hlt
  have hnanosLt : (nanos : ℚ) < 10 ^ 9 := by
    have hlt : nanos < 10 ^ 9 := by omega
    exact_mod_cast hlt
  -- the seconds and the part of a second as single precision numbers
  obtain ⟨s, hs, hsge, hsle, hsSized⟩ :=
    round_ge (sized_natCast secs) (by norm_num) (by linarith)
  obtain ⟨n, hn, hnge, hnle, hnSized⟩ :=
    round_ge (sized_natCast nanos) (by norm_num) (by linarith)
  have hquot : Sized 31 (n / 10 ^ 9) := by
    rcases hnSized with rfl | hlow
    · exact Or.inl (zero_div _)
    · refine Or.inr (le_trans ?_ (div_le_div_of_nonneg_right hlow (by norm_num)))
      norm_num
  obtain ⟨f, hf, hfge, hfle, hfSized⟩ := round_ge hquot (by norm_num) (by
    rw [div_le_iff₀ (by norm_num)]
    linarith)
  -- their sum, and its thousandfold
  have hsum := (hsSized.mono (by norm_num : 0 + 1 ≤ 32)).add hfSized
  have hfle' : f ≤ 4 := by
    have hquotLe : n / 10 ^ 9 ≤ 2 := by
      rw [div_le_iff₀ (by norm_num)]
      linarith
    linarith
  obtain ⟨c, hc, hcge, hcle, hcSized⟩ := round_ge hsum (by norm_num) (by linarith)
  have hthousand : Sized 33 (c * 1000) := by
    rcases hcSized with rfl | hlow
    · exact Or.inl (zero_mul _)
    · exact Or.inr (by linarith)
  obtain ⟨e, he, hege, -, -⟩ := round_ge hthousand (by norm_num) (by linarith)
  have hdiv : div (.fin n) (.fin (10 ^ 9)) = .fin f := by
    show (if (10 ^ 9 : ℚ) ≠ 0 then round (n / 10 ^ 9) else
      if n = 0 then .nan else .inf (decide (n < 0))) = .fin f
    rw [if_pos (by norm_num), hf]
  refine ⟨e, ?_, ?_⟩
  · unfold asSecsF32
    rw [hsecs, hnanos, ofNat_giga]
    show (add (round secs) (div (round nanos) _)).mul _ = _
    rw [hs, hn, hdiv]
    show (round (s + f)).mul _ = _
    rw [hc]
    exact he
  · -- `w` is what one rounding may leave of a value
    generalize hw : (1 - 1 / 2 ^ 24 : ℚ) = w at hsge hnge hfge hcge hege ⊢
    have hw₀ : 0 ≤ w := hw ▸ by norm_num
    have hw₁ : w ≤ 1 := hw ▸ by norm_num
    have hsecs₂ : secs * w ^ 2 ≤ s := by
      refine le_trans ?_ hsge
      rw [pow_two, ← mul_assoc]
      exact mul_le_of_le_one_right (mul_nonneg (Nat.cast_nonneg _) hw₀) hw₁
    have hnanos₂ : nanos / 10 ^ 9 * w ^ 2 ≤ f := by
      refine le_trans ?_ hfge
      rw [pow_two, ← mul_assoc, div_mul_eq_mul_div]
      exact mul_le_mul_of_nonneg_right (div_le_div_of_nonneg_right hnge (by norm_num)) hw₀
    calc (ns : ℚ) / 10 ^ 6 * w ^ 4
        = (secs * w ^ 2 + nanos / 10 ^ 9 * w ^ 2) * w * 1000 * w := by rw [hsplit]; ring
      _ ≤ (s + f) * w * 1000 * w := by gcongr
      _ ≤ c * 1000 * w := by gcongr
      _ ≤ e := hege

end Binary32

namespace LamcoRdp

open Runs

/-! ### Modes -/

/-- `LatencyMode`. -/
inductive LatencyMode
  | interactive
  | balanced
  | quality
  deriving DecidableEq, Repr

/-- `ModeSettings`. -/
structure ModeSettings where
  maxFrameDelayMs : Binary32
  damageThreshold : Binary32
  useAdaptiveFps : Bool
  encodeTimeoutMs : ℕ

/-- `ModeSettings::for_mode`. -/
def ModeSettings.forMode : LatencyMode → ModeSettings
  | .interactive =>
      { maxFrameDelayMs := .fin 16, damageThreshold := .fin 0, useAdaptiveFps := false,
        encodeTimeoutMs := 10 }
  | .balanced =>
      { maxFrameDelayMs := .fin 33, damageThreshold := .round (2 / 100), useAdaptiveFps := true,
        encodeTimeoutMs := 20 }
  | .quality =>
      { maxFrameDelayMs := .fin 100, damageThreshold := .round (5 / 100), useAdaptiveFps := true,
        encodeTimeoutMs := 50 }

/-! ### The governor -/

/-- `FrameAccumulator`.  Instants are in nanoseconds. -/
structure FrameAccumulator where
  pendingDamage : Binary32
  firstDamageTime : Option ℕ
  frameCount : UInt32

namespace FrameAccumulator

/-- `FrameAccumulator::default`, to which `reset` leads back. -/
def default : FrameAccumulator :=
  { pendingDamage := .fin 0, firstDamageTime := none, frameCount := 0 }

/-- `add_damage`, when the clock shows `now`.  The count of frames wraps around: a still screen
may go on for any number of frames without one that is encoded. -/
def addDamage (acc : FrameAccumulator) (damage : Binary32) (now : ℕ) : FrameAccumulator where
  pendingDamage := acc.pendingDamage.add damage
  firstDamageTime :=
    if acc.firstDamageTime = none ∧ (Binary32.fin 0).lt damage then some now
    else acc.firstDamageTime
  frameCount := acc.frameCount + 1

/-- `elapsed_ms`. -/
def elapsedMs (acc : FrameAccumulator) (now : ℕ) : Binary32 :=
  match acc.firstDamageTime with
  | none => .fin 0
  | some t => (Binary32.asSecsF32 (now - t)).mul (.fin 1000)

end FrameAccumulator

/-- `LatencyMetrics`, the counts. -/
structure LatencyMetrics where
  framesEncoded : ℕ
  framesSkipped : ℕ
  batchesEncoded : ℕ
  deriving DecidableEq, Repr

/-- `LatencyGovernor`. -/
structure LatencyGovernor where
  mode : LatencyMode
  settings : ModeSettings
  accumulator : FrameAccumulator
  metrics : LatencyMetrics

namespace LatencyGovernor

/-- `LatencyGovernor::new`. -/
def new (mode : LatencyMode) : LatencyGovernor where
  mode := mode
  settings := .forMode mode
  accumulator := .default
  metrics := { framesEncoded := 0, framesSkipped := 0, batchesEncoded := 0 }

/-- What `should_encode_frame` decides of a frame, by what has accumulated with it. -/
def decision (mode : LatencyMode) (settings : ModeSettings)
    (damageRatio pending elapsed : Binary32) : EncodingDecision :=
  match mode with
  | .interactive =>
      if settings.damageThreshold.lt damageRatio then .encodeNow
      else if settings.maxFrameDelayMs.lt elapsed then .encodeKeepalive
      else .skip
  | .balanced =>
      if settings.damageThreshold.le pending then .encodeNow
      else if settings.maxFrameDelayMs.lt elapsed then .encodeTimeout
      else .skip
  | .quality =>
      if settings.damageThreshold.le pending then .encodeBatch
      else if settings.maxFrameDelayMs.lt elapsed then .encodeTimeout
      else if (Binary32.fin 0).lt pending then .waitForMore
      else .skip

/-- `record_encode`: a batch is an encode of more than one frame. -/
def recordEncode (g : LatencyGovernor) : LatencyGovernor :=
  { g with
    metrics := { g.metrics with
      framesEncoded := g.metrics.framesEncoded + 1
      batchesEncoded := g.metrics.batchesEncoded + if g.accumulator.frameCount > 1 then 1 else 0 }
    accumulator := .default }

/-- The other branch, which counts the frame as skipped. -/
def recordSkip (g : LatencyGovernor) : LatencyGovernor :=
  { g with metrics := { g.metrics with framesSkipped := g.metrics.framesSkipped + 1 } }

/-- The clock shows `added` when the damage is added and `now` behind that. -/
def shouldEncodeFrame (g : LatencyGovernor) (damageRatio : Binary32) (added now : ℕ) :
    EncodingDecision × LatencyGovernor :=
  let g := { g with accumulator := g.accumulator.addDamage damageRatio added }
  let d := decision g.mode g.settings damageRatio g.accumulator.pendingDamage
    (g.accumulator.elapsedMs now)
  (d, if d.shouldEncode then g.recordEncode else g.recordSkip)

/-- `set_mode`, which throws the held damage away. -/
def setMode (g : LatencyGovernor) (mode : LatencyMode) : LatencyGovernor :=
  if mode ≠ g.mode then
    { g with mode, settings := .forMode mode, accumulator := .default }
  else g

end LatencyGovernor

namespace LatencyGovernor

variable {mode : LatencyMode} {settings : ModeSettings} {d pending elapsed : Binary32}

/-- The damage that the mode looks at does not reach its threshold. -/
def TooLittle (settings : ModeSettings) (d pending : Binary32) : LatencyMode → Prop
  | .interactive => settings.damageThreshold.lt d = false
  | .balanced => settings.damageThreshold.le pending = false
  | .quality => settings.damageThreshold.le pending = false

/-- A frame that is not encoded reaches neither threshold. -/
theorem decision_of_not_encode
    (h : (decision mode settings d pending elapsed).shouldEncode = false) :
    TooLittle settings d pending mode ∧ settings.maxFrameDelayMs.lt elapsed = false := by
  cases mode with
  | interactive =>
      simp only [decision, TooLittle] at h ⊢
      split_ifs at h with hdamage hdelay
      · cases h
      · cases h
      · exact ⟨Bool.eq_false_of_not_eq_true hdamage, Bool.eq_false_of_not_eq_true hdelay⟩
  | balanced =>
      simp only [decision, TooLittle] at h ⊢
      split_ifs at h with hpending hdelay
      · cases h
      · cases h
      · exact ⟨Bool.eq_false_of_not_eq_true hpending, Bool.eq_false_of_not_eq_true hdelay⟩
  | quality =>
      simp only [decision, TooLittle] at h ⊢
      split_ifs at h with hpending hdelay
      · cases h
      · cases h
      all_goals
        exact ⟨Bool.eq_false_of_not_eq_true hpending, Bool.eq_false_of_not_eq_true hdelay⟩

/-- A keepalive needs time to have gone by since the first damage. -/
theorem decision_keepalive (h : decision mode settings d pending elapsed = .encodeKeepalive) :
    mode = .interactive ∧ settings.damageThreshold.lt d = false ∧
      settings.maxFrameDelayMs.lt elapsed = true := by
  cases mode with
  | interactive =>
      simp only [decision] at h
      split_ifs at h with hdamage hdelay
      exact ⟨rfl, Bool.eq_false_of_not_eq_true hdamage, hdelay⟩
  | balanced =>
      simp only [decision] at h
      split_ifs at h
  | quality =>
      simp only [decision] at h
      split_ifs at h

variable {g : LatencyGovernor} {added now : ℕ}

theorem shouldEncodeFrame_of_encode (h : (g.shouldEncodeFrame d added now).1.shouldEncode = true) :
    (g.shouldEncodeFrame d added now).2 =
      { g with accumulator := g.accumulator.addDamage d added }.recordEncode := if_pos h

theorem shouldEncodeFrame_of_not_encode
    (h : (g.shouldEncodeFrame d added now).1.shouldEncode = false) :
    (g.shouldEncodeFrame d added now).2 =
      { g with accumulator := g.accumulator.addDamage d added }.recordSkip :=
  if_neg (ne_true_of_eq_false h)

end LatencyGovernor

/-! ### Runs -/

/-- A governor at work, with what a reader of its answers knows. -/
structure GovernorRun where
  governor : LatencyGovernor
  /-- the clock at the last frame -/
  clock : ℕ
  /-- the damage since the last frame that was encoded, with the times at which it came in -/
  held : List (Binary32 × ℕ)
  decisions : List EncodingDecision

/-- A frame, with the readings of the clock, or a change of the mode. -/
inductive GovernorEvent
  | frame (damageRatio : Binary32) (added now : ℕ)
  | setMode (mode : LatencyMode)
  deriving DecidableEq

namespace GovernorRun

/-- A new governor. -/
def start (mode : LatencyMode) (now : ℕ) : GovernorRun :=
  { governor := .new mode, clock := now, held := [], decisions := [] }

/-- The clock does not go back, and it stays in the range of an `Instant`. -/
def step (s : GovernorRun) : GovernorEvent → Option GovernorRun
  | .frame damageRatio added now =>
      if s.clock ≤ added ∧ added ≤ now ∧ now < 2 ^ 63 * 10 ^ 9 then
        let (d, governor) := s.governor.shouldEncodeFrame damageRatio added now
        some
          { governor, clock := now, decisions := s.decisions ++ [d],
            held := if d.shouldEncode then [] else s.held ++ [(damageRatio, added)] }
      else none
  | .setMode mode =>
      some { s with
        governor := s.governor.setMode mode
        held := if mode ≠ s.governor.mode then [] else s.held }

/-- The sum that the governor keeps of the damage. -/
def total (held : List (Binary32 × ℕ)) : Binary32 :=
  held.foldl (fun sum p => sum.add p.1) (.fin 0)

theorem total_snoc (held : List (Binary32 × ℕ)) (p : Binary32 × ℕ) :
    total (held ++ [p]) = (total held).add p.1 := List.foldl_append

/-- A frame with damage. -/
def damaged (p : Binary32 × ℕ) : Bool := (Binary32.fin 0).lt p.1

/-- What the governor knows of the damage that is held. -/
structure Holds (s : GovernorRun) : Prop where
  settings : s.governor.settings = .forMode s.governor.mode
  pending : s.governor.accumulator.pendingDamage = total s.held
  /-- the time of the first damage is that of the first frame with damage -/
  first : s.governor.accumulator.firstDamageTime =
    (s.held.find? damaged).map Prod.snd
  count : s.governor.accumulator.frameCount = .ofNat s.held.length
  /-- the times go up -/
  times : (s.held.map Prod.snd).Pairwise (· ≤ ·) ∧ ∀ p ∈ s.held, p.2 ≤ s.clock

/-- Interactive mode holds no damage, the other modes less than their threshold. -/
def Below (held : List (Binary32 × ℕ)) : LatencyMode → Prop
  | .interactive => ∀ p ∈ held, damaged p = false
  | mode => held ≠ [] → (ModeSettings.forMode mode).damageThreshold.le (total held) = false

/-- What no decision of the mode leaves behind. -/
structure Fresh (s : GovernorRun) : Prop where
  damage : Below s.held s.governor.mode
  delay : s.governor.settings.maxFrameDelayMs.lt (s.governor.accumulator.elapsedMs s.clock) = false

variable {s t : GovernorRun}

theorem holds_start (mode : LatencyMode) (now : ℕ) : (start mode now).Holds :=
  ⟨rfl, rfl, rfl, rfl, List.Pairwise.nil, nofun⟩

theorem maxFrameDelayMs_lt_zero (mode : LatencyMode) :
    (ModeSettings.forMode mode).maxFrameDelayMs.lt (.fin 0) = false := by
  cases mode <;> decide

/-- Nothing is held behind a frame that was encoded, or behind a change of the mode. -/
theorem fresh_of_reset (hsettings : s.governor.settings = .forMode s.governor.mode)
    (hacc : s.governor.accumulator = .default) (hheld : s.held = []) : s.Fresh where
  damage := by
    rw [hheld]
    cases s.governor.mode with
    | interactive => exact fun p hp => nomatch hp
    | balanced => exact fun h => absurd rfl h
    | quality => exact fun h => absurd rfl h
  delay := by
    rw [hacc, hsettings]
    exact maxFrameDelayMs_lt_zero _

theorem holds_of_reset (hsettings : s.governor.settings = .forMode s.governor.mode)
    (hacc : s.governor.accumulator = .default) (hheld : s.held = []) : s.Holds := by
  refine ⟨hsettings, ?_, ?_, ?_, ?_⟩
  iterate 3
    · rw [hacc, hheld]
      rfl
  · rw [hheld]
    exact ⟨List.Pairwise.nil, nofun⟩

/-- The accumulator with the damage of a frame, and the damage held with it. -/
theorem addDamage_spec (hs : s.Holds) (damage : Binary32) (added : ℕ) :
    (s.governor.accumulator.addDamage damage added).pendingDamage =
        total (s.held ++ [(damage, added)]) ∧
      (s.governor.accumulator.addDamage damage added).firstDamageTime =
        ((s.held ++ [(damage, added)]).find? damaged).map Prod.snd ∧
      (s.governor.accumulator.addDamage damage added).frameCount =
        .ofNat (s.held ++ [(damage, added)]).length := by
  refine ⟨?_, ?_, ?_⟩
  · rw [total_snoc, ← hs.pending]
    rfl
  · rw [List.find?_append]
    unfold FrameAccumulator.addDamage
    rw [hs.first]
    dsimp only
    rcases s.held.find? damaged with - | p
    · rw [Option.none_or, List.find?_singleton]
      by_cases hdamage : (Binary32.fin 0).lt damage = true
      · rw [if_pos (show damaged (damage, added) = true from hdamage)]
        exact if_pos ⟨rfl, hdamage⟩
      · rw [if_neg (show ¬ damaged (damage, added) = true from hdamage)]
        exact if_neg fun h => hdamage h.2
    · exact if_neg fun h => absurd h.1 (Option.some_ne_none _)
  · rw [List.length_append, UInt32.ofNat_add, ← hs.count]
    rfl

/-- What a frame does that is not encoded. -/
theorem inv_of_held (hs : s.Holds) (hf : s.Fresh) {damage : Binary32} {added now : ℕ}
    (hclock : s.clock ≤ added) (hnow : added ≤ now)
    (hskip : (s.governor.shouldEncodeFrame damage added now).1.shouldEncode = false)
    (hgov : t.governor = (s.governor.shouldEncodeFrame damage added now).2) (htime : t.clock = now)
    (hheld : t.held = s.held ++ [(damage, added)]) : t.Holds ∧ t.Fresh := by
  have hgov' := hgov.trans (LatencyGovernor.shouldEncodeFrame_of_not_encode hskip)
  obtain ⟨hpending, hfirst, hcount⟩ := addDamage_spec hs damage added
  obtain ⟨hdamage, hdelay⟩ := LatencyGovernor.decision_of_not_encode hskip
  refine ⟨⟨?_, ?_, ?_, ?_, ?_, ?_⟩, ?_, ?_⟩
  · rw [hgov']
    exact hs.settings
  · rw [hgov', hheld]
    exact hpending
  · rw [hgov', hheld]
    exact hfirst
  · rw [hgov', hheld]
    exact hcount
  · rw [hheld, List.map_append, List.pairwise_append]
    refine ⟨hs.times.1, List.pairwise_singleton _ _, ?_⟩
    intro time htime' later hlater
    obtain ⟨p, hp, rfl⟩ := List.mem_map.mp htime'
    rw [List.mem_singleton.mp hlater]
    exact (hs.times.2 p hp).trans hclock
  · rw [hheld, htime]
    intro p hp
    rcases List.mem_append.mp hp with hp | hp
    · exact ((hs.times.2 p hp).trans hclock).trans hnow
    · rw [List.mem_singleton.mp hp]
      exact hnow
  · have hmode : t.governor.mode = s.governor.mode := by
      rw [hgov']
      rfl
    have hsettings : s.governor.settings = .forMode s.governor.mode := hs.settings
    have hdamage' : LatencyGovernor.TooLittle s.governor.settings damage
        (total (s.held ++ [(damage, added)])) s.governor.mode := hpending ▸ hdamage
    have hold := hf.damage
    rw [hsettings] at hdamage'
    rw [hmode, hheld]
    cases hm : s.governor.mode with
    | interactive =>
        -- interactive mode compares the damage of the frame with zero
        rw [hm] at hdamage' hold
        intro p hp
        rcases List.mem_append.mp hp with hp | hp
        · exact hold p hp
        · rw [List.mem_singleton.mp hp]
          exact hdamage'
    | balanced =>
        rw [hm] at hdamage'
        exact fun _ => hdamage'
    | quality =>
        rw [hm] at hdamage'
        exact fun _ => hdamage'
  · rw [hgov', htime]
    exact hdelay

/-- The counts and the decisions. -/
structure Counted (s : GovernorRun) : Prop where
  encoded : s.governor.metrics.framesEncoded = s.decisions.countP EncodingDecision.shouldEncode
  skipped : s.governor.metrics.framesSkipped = s.decisions.countP fun d => !d.shouldEncode
  noKeepalive : .encodeKeepalive ∉ s.decisions

/-- In interactive mode no damage is held, so no time goes by since the first. -/
theorem no_keepalive (hs : s.Holds) (hf : s.Fresh) (damage : Binary32) (added now : ℕ) :
    (s.governor.shouldEncodeFrame damage added now).1 ≠ .encodeKeepalive := by
  intro h
  obtain ⟨hmode, hdamage, hdelay⟩ := LatencyGovernor.decision_keepalive h
  have hsettings : s.governor.settings = .forMode s.governor.mode := hs.settings
  have hmode' : s.governor.mode = .interactive := hmode
  have hnone : (s.governor.accumulator.addDamage damage added).firstDamageTime = none := by
    rw [(addDamage_spec hs damage added).2.1, Option.map_eq_none_iff, List.find?_eq_none]
    intro p hp
    rcases List.mem_append.mp hp with hp | hp
    · have hold := hf.damage
      rw [hmode'] at hold
      exact ne_true_of_eq_false (hold p hp)
    · rw [List.mem_singleton.mp hp]
      have hdamage' : s.governor.settings.damageThreshold.lt damage = false := hdamage
      rw [hsettings, hmode'] at hdamage'
      exact ne_true_of_eq_false hdamage'
  have hdelay' : s.governor.settings.maxFrameDelayMs.lt
      ((s.governor.accumulator.addDamage damage added).elapsedMs now) = true := hdelay
  rw [FrameAccumulator.elapsedMs, hnone, hsettings, maxFrameDelayMs_lt_zero] at hdelay'
  cases hdelay'

/-- A step keeps all of this. -/
theorem inv_step {e : GovernorEvent} (hs : s.Holds) (hf : s.Fresh) (hc : s.Counted)
    (h : s.step e = some t) : t.Holds ∧ t.Fresh ∧ t.Counted := by
  cases e with
  | frame damage added now =>
      simp only [step] at h
      -- a keepalive is never decided, so the list of decisions stays free of it
      have hkeep : (s.governor.shouldEncodeFrame damage added now).1 ≠ .encodeKeepalive :=
        no_keepalive hs hf damage added now
      have hno : .encodeKeepalive ∉
          s.decisions ++ [(s.governor.shouldEncodeFrame damage added now).1] := by
        intro hmem
        rcases List.mem_append.mp hmem with hmem | hmem
        · exact hc.noKeepalive hmem
        · exact hkeep (List.mem_singleton.mp hmem).symm
      -- the decision encodes: the frames held are sent and the accumulator starts again
      split_ifs at h with hclock hd
      · obtain rfl := Option.some.inj h
        have hgov := LatencyGovernor.shouldEncodeFrame_of_encode hd
        have hsettings : (s.governor.shouldEncodeFrame damage added now).2.settings =
            .forMode (s.governor.shouldEncodeFrame damage added now).2.mode := by
          rw [hgov]
          exact hs.settings
        have hacc : (s.governor.shouldEncodeFrame damage added now).2.accumulator = .default := by
          rw [hgov]
          rfl
        refine ⟨holds_of_reset hsettings hacc rfl, fresh_of_reset hsettings hacc rfl, ?_, ?_, hno⟩
        · dsimp only
          rw [hgov, List.countP_append, List.countP_singleton, if_pos hd]
          exact congrArg (· + 1) hc.encoded
        · dsimp only
          rw [hgov, List.countP_append, List.countP_singleton, hd, if_neg (by decide)]
          exact hc.skipped
      · -- it does not: the frame is held, and counted as skipped
        have ht := Option.some.inj h
        have hd' := Bool.eq_false_of_not_eq_true hd
        have hgov := LatencyGovernor.shouldEncodeFrame_of_not_encode hd'
        obtain ⟨hholds, hfresh⟩ := inv_of_held (t := t) hs hf hclock.1 hclock.2.1 hd'
          (by rw [← ht]) (by rw [← ht]) (by rw [← ht])
        subst ht
        refine ⟨hholds, hfresh, ?_, ?_, hno⟩
        · dsimp only
          rw [hgov, List.countP_append, List.countP_singleton, if_neg hd]
          exact hc.encoded
        · dsimp only
          rw [hgov, List.countP_append, List.countP_singleton, hd', Bool.not_false, if_pos rfl]
          exact congrArg (· + 1) hc.skipped
  | setMode mode =>
      obtain rfl := Option.some.inj h
      -- a new mode empties the accumulator; the same mode changes nothing
      by_cases hmode : mode ≠ s.governor.mode
      · have hgov : s.governor.setMode mode =
            { s.governor with mode, settings := .forMode mode, accumulator := .default } :=
          if_pos hmode
        refine ⟨holds_of_reset ?_ ?_ (if_pos hmode), fresh_of_reset ?_ ?_ (if_pos hmode), ?_⟩
        iterate 2
          · dsimp only
            rw [hgov]
          · dsimp only
            rw [hgov]
        · refine ⟨?_, ?_, hc.noKeepalive⟩
          · dsimp only
            rw [hgov]
            exact hc.encoded
          · dsimp only
            rw [hgov]
            exact hc.skipped
      · have hsame : { s with
            governor := s.governor.setMode mode
            held := if mode ≠ s.governor.mode then [] else s.held } = s := by
          rw [if_neg hmode, LatencyGovernor.setMode, if_neg hmode]
        rw [hsame]
        exact ⟨hs, hf, hc⟩

/-- The delay of a mode, in milliseconds. -/
def delayMs : LatencyMode → ℕ
  | .interactive => 16
  | .balanced => 33
  | .quality => 100

theorem maxFrameDelayMs_eq (mode : LatencyMode) :
    (ModeSettings.forMode mode).maxFrameDelayMs = .fin (delayMs mode) := by
  cases mode <;> rfl

/-- Damage that is held is not older than the delay, at the time of the last frame. -/
theorem held_not_late (hs : s.Holds) (hf : s.Fresh) (hclock : s.clock < 2 ^ 63 * 10 ^ 9)
    {p : Binary32 × ℕ} (hp : p ∈ s.held) (hdamage : damaged p = true) :
    ((s.clock - p.2 : ℕ) : ℚ) * (1 - 1 / 2 ^ 24) ^ 4 ≤ delayMs s.governor.mode * 10 ^ 6 := by
  -- the first damage came in no later
  obtain ⟨first, hfirst⟩ : ∃ first, s.held.find? damaged = some first :=
    Option.isSome_iff_exists.mp (List.find?_isSome.mpr ⟨p, hp, hdamage⟩)
  have hearlier : first.2 ≤ p.2 := by
    obtain ⟨-, before, after, hsplit, hbefore⟩ := List.find?_eq_some_iff_append.mp hfirst
    have htimes := hs.times.1
    rw [hsplit] at hp htimes
    rw [List.map_append, List.map_cons, List.pairwise_append, List.pairwise_cons] at htimes
    rcases List.mem_append.mp hp with hp | hp
    · have hno := hbefore p hp
      rw [hdamage] at hno
      cases hno
    · rcases List.mem_cons.mp hp with rfl | hp
      · exact le_rfl
      · exact htimes.2.1.1 _ (List.mem_map_of_mem hp)
  have hdelay := hf.delay
  rw [FrameAccumulator.elapsedMs, hs.first, hfirst, hs.settings] at hdelay
  obtain ⟨e, he, hge⟩ := Binary32.millis_ge (s.clock - first.2) (by omega)
  have hle : e ≤ delayMs s.governor.mode := by
    have hdelay' : (ModeSettings.forMode s.governor.mode).maxFrameDelayMs.lt (.fin e) = false :=
      he ▸ hdelay
    rw [maxFrameDelayMs_eq] at hdelay'
    exact not_lt.mp (of_decide_eq_false hdelay')
  have hsub : ((s.clock - p.2 : ℕ) : ℚ) ≤ (s.clock - first.2 : ℕ) := by
    exact_mod_cast Nat.sub_le_sub_left hearlier s.clock
  have hpow : (0 : ℚ) ≤ (1 - 1 / 2 ^ 24) ^ 4 := by norm_num
  calc ((s.clock - p.2 : ℕ) : ℚ) * (1 - 1 / 2 ^ 24) ^ 4
      ≤ (s.clock - first.2 : ℕ) * (1 - 1 / 2 ^ 24) ^ 4 := mul_le_mul_of_nonneg_right hsub hpow
    _ = (s.clock - first.2 : ℕ) / 10 ^ 6 * (1 - 1 / 2 ^ 24) ^ 4 * 10 ^ 6 := by ring
    _ ≤ delayMs s.governor.mode * 10 ^ 6 :=
        mul_le_mul_of_nonneg_right (hge.trans hle) (by norm_num)

/-- What a run of the governor holds back.  The damage of the frames since the last that was
encoded adds up to less than the threshold of the mode (interactive mode holds none at all),
and damage that came in at one of them is at the last not older than 16, 33 or 100 ms, up to
four roundings in single precision.  The accumulator counts these frames, as far as a `u32`
does; each decision is counted, and none is a keepalive. -/
theorem latency_governor_run {mode : LatencyMode} {now : ℕ} {es : List GovernorEvent}
    (h : Run (StepOf step) (start mode now) es s)
    (hnow : now < 2 ^ 63 * 10 ^ 9) :
    Below s.held s.governor.mode ∧
      (∀ p ∈ s.held, damaged p = true →
        ((s.clock - p.2 : ℕ) : ℚ) * (1 - 1 / 2 ^ 24) ^ 4 ≤ delayMs s.governor.mode * 10 ^ 6) ∧
      s.governor.accumulator.frameCount = .ofNat s.held.length ∧
      s.governor.metrics.framesEncoded = s.decisions.countP EncodingDecision.shouldEncode ∧
      s.governor.metrics.framesSkipped = s.decisions.countP (fun d => !d.shouldEncode) ∧
      .encodeKeepalive ∉ s.decisions := by
  have hinv : s.Holds ∧ s.Fresh ∧ s.Counted :=
    h.invariant (P := fun s => s.Holds ∧ s.Fresh ∧ s.Counted)
      ⟨holds_start mode now, fresh_of_reset rfl rfl rfl, rfl, rfl, nofun⟩
      fun hs hst => inv_step hs.1 hs.2.1 hs.2.2 hst
  -- the clock stays in range: each frame is checked by the step
  have hclock : s.clock < 2 ^ 63 * 10 ^ 9 := by
    refine h.invariant (P := fun s => s.clock < 2 ^ 63 * 10 ^ 9) hnow fun {s e t} hs hst => ?_
    cases e with
    | frame damage added now =>
        simp only [StepOf, step] at hst
        split_ifs at hst with hguard
        all_goals
          obtain rfl := Option.some.inj hst
          exact hguard.2.2
    | setMode mode =>
        obtain rfl := Option.some.inj hst
        exact hs
  obtain ⟨hs, hf, hc⟩ := hinv
  exact ⟨hf.damage, fun p hp hdamage => held_not_late hs hf hclock hp hdamage, hs.count,
    hc.encoded, hc.skipped, hc.noKeepalive⟩

/-- Balanced mode: a little damage at 1 ms, nothing new at 30 ms, and at 40 ms it is due. -/
def littleDamage : List GovernorEvent :=
  [.frame (.fin (1 / 128)) 1000000 1000100, .frame (.fin 0) 30000000 30000100,
    .frame (.fin 0) 40000000 40000100, .frame (.fin (1 / 256)) 50000000 50000100]

theorem littleDamage_run :
    ∃ s, Run (StepOf step) (start .balanced 0) littleDamage s ∧
      (s.decisions, s.held, s.clock) =
        ([.skip, .skip, .encodeTimeout, .skip], [(.fin (1 / 256), 50000000)], 50000100) :=
  Run.exists_of_foldlM (fun s : GovernorRun => (s.decisions, s.held, s.clock)) (by decide +kernel)

theorem latency_governor_run_littleDamage :
    ∃ s : GovernorRun, s.governor.metrics.framesEncoded = 1 ∧
      ∀ p ∈ s.held, damaged p = true →
        ((50000100 - p.2 : ℕ) : ℚ) * (1 - 1 / 2 ^ 24) ^ 4 ≤ delayMs s.governor.mode * 10 ^ 6 := by
  obtain ⟨s, hrun, hseen⟩ := littleDamage_run
  obtain ⟨hdecisions, hrest⟩ := Prod.mk.inj hseen
  obtain ⟨-, hclock⟩ := Prod.mk.inj hrest
  obtain ⟨-, hdelay, -, hencoded, -⟩ := latency_governor_run hrun (by decide)
  refine ⟨s, ?_, hclock ▸ hdelay⟩
  rw [hencoded, hdecisions]
  rfl

end GovernorRun

end LamcoRdp
