/-
LamcoRdp/Server/StartPipeline.lean

What a configuration does to the video pipeline (`start_pipeline`,
`server/display_handler.rs`).

The task builds its components from the configuration and then calls them: the
adaptive frame rate, the adaptation of the QP, the frame regulator and the damage
detector.  Which service is there, and whether the client has an EGFX channel by
then, is a parameter.  A call may come at any time and in any order, so the runs
here include all that the loop can do.

The components do not share anything, so the pipeline never stops exactly if it
starts and none of them ever does (`VideoPipeline.neverFaults_iff`), and each of
them says itself when that is (`Config.neverStops_iff`).  None of it is looked at
by the validator.
-/
import LamcoRdp.Config.Validate
import LamcoRdp.Damage.Checked

namespace LamcoRdp

open Checked

/-! ### The frame regulator -/

/-- `FrameRateRegulator`, with the numbers of the code. -/
structure FrameRateRegulator where
  targetFps : UInt32
  frameInterval : ℕ
  tokenBudget : Binary32
  maxTokens : Binary32

namespace FrameRateRegulator

/-- `FrameRateRegulator::new`; the interval is in microseconds. -/
def new (targetFps : UInt32) : Checked FrameRateRegulator := do
  let frameInterval ← div 1000000 targetFps.toNat
  .ok { targetFps, frameInterval, tokenBudget := .fin 1, maxTokens := .fin 2 }

/-- `should_send_frame`, told how many seconds ago the last call was. -/
def shouldSendFrame (r : FrameRateRegulator) (elapsed : Binary32) : FrameRateRegulator × Bool :=
  let tokensEarned := elapsed.mul (.ofNat r.targetFps.toNat)
  let tokenBudget := (r.tokenBudget.add tokensEarned).minNum r.maxTokens
  if (Binary32.fin 1).le tokenBudget then
    ({ r with tokenBudget := tokenBudget.sub (.fin 1) }, true)
  else ({ r with tokenBudget }, false)

end FrameRateRegulator

/-! ### The components -/

/-- What the task finds when it starts. -/
structure PipelineEnv where
  serviceSupportsAdaptiveFps : Bool
  egfxSnapshot : Bool

namespace Config

/-- The configuration of the frame rate controller. -/
def adaptiveFpsConfig (config : Config) (env : PipelineEnv) : AdaptiveFpsConfig :=
  { AdaptiveFpsConfig.default with
    enabled := config.performance.adaptiveFps.enabled && env.serviceSupportsAdaptiveFps
    minFps := config.performance.adaptiveFps.minFps
    maxFps := config.performance.adaptiveFps.maxFps
    highActivityThreshold := config.performance.adaptiveFps.highActivityThreshold
    mediumActivityThreshold := config.performance.adaptiveFps.mediumActivityThreshold
    lowActivityThreshold := config.performance.adaptiveFps.lowActivityThreshold }

/-- The configuration of the damage detector. -/
def damageConfig (config : Config) : DamageConfig where
  tileSize := config.damageTracking.tileSize.toNat
  diffThreshold := config.damageTracking.diffThreshold
  pixelThreshold := config.damageTracking.pixelThreshold
  mergeDistance := config.damageTracking.mergeDistance.toNat
  minRegionArea := config.damageTracking.minRegionArea.toNat

end Config

/-- The consumers of the configuration, as the pipeline starts them. -/
structure VideoPipeline where
  adaptiveFps : AdaptiveFpsController
  encodingAdaptation : Option EncodingAdaptation
  frameRegulator : FrameRateRegulator
  damageDetector : Option DamageDetector

/-- A call of a component. -/
inductive PipelineCall
  | adaptiveFps (c : AdaptiveFpsCall)
  | encodingAdaptation (c : AdaptedQpCall)
  | frameRegulator (elapsed : Binary32)
  | damageDetector (c : DetectorCall)

namespace VideoPipeline

/-- The components in the order in which `start_pipeline` builds them. -/
def start (config : Config) (env : PipelineEnv) : Checked VideoPipeline := do
  let adaptiveFps := AdaptiveFpsController.new (config.adaptiveFpsConfig env)
  let encodingAdaptation :=
    if env.egfxSnapshot then some (EncodingAdaptation.new config.egfx.encodingAdaptation)
    else none
  let frameRegulator ← FrameRateRegulator.new config.performance.adaptiveFps.maxFps
  let damageDetector :=
    if config.damageTracking.enabled then some (DamageDetector.new config.damageConfig) else none
  .ok { adaptiveFps, encodingAdaptation, frameRegulator, damageDetector }

/-- A component that is not there is not called. -/
def call (p : VideoPipeline) : PipelineCall → Checked VideoPipeline
  | .adaptiveFps c => do
      let adaptiveFps ← p.adaptiveFps.call c
      .ok { p with adaptiveFps }
  | .encodingAdaptation c =>
      match p.encodingAdaptation with
      | none => .ok p
      | some adapt => do
          let adapt ← adapt.call c
          .ok { p with encodingAdaptation := some adapt }
  | .frameRegulator elapsed =>
      .ok { p with frameRegulator := (p.frameRegulator.shouldSendFrame elapsed).1 }
  | .damageDetector c =>
      match p.damageDetector with
      | none => .ok p
      | some detector => do
          let detector ← detector.call c
          .ok { p with damageDetector := some detector }

/-- The pipeline starts exactly if there is a frame rate to start with. -/
theorem start_eq_ok {config : Config} {env : PipelineEnv} {p : VideoPipeline} :
    start config env = .ok p ↔ config.performance.adaptiveFps.maxFps.toNat ≠ 0 ∧
      p.adaptiveFps = .new (config.adaptiveFpsConfig env) ∧
      p.encodingAdaptation = (if env.egfxSnapshot then
        some (EncodingAdaptation.new config.egfx.encodingAdaptation) else none) ∧
      FrameRateRegulator.new config.performance.adaptiveFps.maxFps = .ok p.frameRegulator ∧
      p.damageDetector = (if config.damageTracking.enabled then
        some (DamageDetector.new config.damageConfig) else none) := by
  unfold start
  constructor
  · intro h
    obtain ⟨regulator, hregulator, h⟩ := bind_eq_ok.mp h
    obtain rfl := Except.ok.inj h
    obtain ⟨interval, hinterval, -⟩ := bind_eq_ok.mp hregulator
    exact ⟨(div_eq_ok.mp hinterval).1, rfl, rfl, hregulator, rfl⟩
  · rintro ⟨-, hfps, hadapt, hregulator, hdetector⟩
    rw [hregulator, ok_bind, ← hfps, ← hadapt, ← hdetector]

/-! ### The pipeline and its components -/

/-- No component ever faults. -/
structure ComponentsGoOn (p : VideoPipeline) : Prop where
  adaptiveFps : NeverFaults AdaptiveFpsController.call p.adaptiveFps
  encodingAdaptation : ∀ adapt ∈ p.encodingAdaptation,
    NeverFaults EncodingAdaptation.call adapt
  damageDetector : ∀ detector ∈ p.damageDetector, NeverFaults DamageDetector.call detector

variable {p : VideoPipeline}

theorem ComponentsGoOn.call (h : p.ComponentsGoOn) (c : PipelineCall) :
    ∃ q, p.call c = .ok q ∧ q.ComponentsGoOn := by
  -- each call goes to its own component, the others stay as they are
  cases c with
  | adaptiveFps c =>
      obtain ⟨next, hok, hnext⟩ := h.adaptiveFps.next c
      refine ⟨{ p with adaptiveFps := next }, ?_, { h with adaptiveFps := hnext }⟩
      rw [VideoPipeline.call, hok, ok_bind]
  | encodingAdaptation c =>
      cases hadapt : p.encodingAdaptation with
      -- a component that was not started is not called
      | none => exact ⟨p, by rw [VideoPipeline.call, hadapt], h⟩
      | some adapt =>
          obtain ⟨next, hok, hnext⟩ := (h.encodingAdaptation adapt hadapt).next c
          refine ⟨{ p with encodingAdaptation := some next }, ?_, { h with
            encodingAdaptation := fun adapt hadapt => ?_ }⟩
          · rw [VideoPipeline.call, hadapt]
            dsimp only
            rw [hok, ok_bind]
          · obtain rfl := Option.some.inj hadapt
            exact hnext
  | frameRegulator elapsed => exact ⟨_, rfl, { h with }⟩
  | damageDetector c =>
      cases hdetector : p.damageDetector with
      | none => exact ⟨p, by rw [VideoPipeline.call, hdetector], h⟩
      | some detector =>
          obtain ⟨next, hok, hnext⟩ := (h.damageDetector detector hdetector).next c
          refine ⟨{ p with damageDetector := some next }, ?_, { h with
            damageDetector := fun detector hdetector => ?_ }⟩
          · rw [VideoPipeline.call, hdetector]
            dsimp only
            rw [hok, ok_bind]
          · obtain rfl := Option.some.inj hdetector
            exact hnext

/-- **A running pipeline goes on exactly if its components do.** -/
theorem neverFaults_iff : NeverFaults call p ↔ p.ComponentsGoOn := by
  constructor
  · intro h
    refine ⟨?_, fun adapt hadapt => ?_, fun detector hdetector => ?_⟩
    · refine h.of_simulates (R := fun p a => p.adaptiveFps = a) (f := .adaptiveFps) ?_ rfl
      rintro p _ q c rfl hq
      obtain ⟨next, hnext, hq⟩ := bind_eq_ok.mp hq
      obtain rfl := Except.ok.inj hq
      exact ⟨next, hnext, rfl⟩
    · refine h.of_simulates (R := fun p a => p.encodingAdaptation = some a)
        (f := .encodingAdaptation) ?_ hadapt
      intro p adapt q c hadapt hq
      rw [VideoPipeline.call, hadapt] at hq
      obtain ⟨next, hnext, hq⟩ := bind_eq_ok.mp hq
      obtain rfl := Except.ok.inj hq
      exact ⟨next, hnext, rfl⟩
    · refine h.of_simulates (R := fun p d => p.damageDetector = some d)
        (f := .damageDetector) ?_ hdetector
      intro p detector q c hdetector hq
      rw [VideoPipeline.call, hdetector] at hq
      obtain ⟨next, hnext, hq⟩ := bind_eq_ok.mp hq
      obtain rfl := Except.ok.inj hq
      exact ⟨next, hnext, rfl⟩
  · exact fun h => NeverFaults.of_invariant (fun c h => ComponentsGoOn.call h c) h

end VideoPipeline

/-! ### Which configurations keep the pipeline going -/

namespace Config

/-- Wherever it starts, the pipeline starts, and no calls stop it. -/
def NeverStops (config : Config) : Prop :=
  ∀ env, ∃ p, VideoPipeline.start config env = .ok p ∧ NeverFaults VideoPipeline.call p

/-- The settings of the components are sound. -/
structure PipelineSafe (config : Config) : Prop where
  adaptiveFps : (config.adaptiveFpsConfig ⟨true, true⟩).Sound
  encodingAdaptation : config.egfx.encodingAdaptation.enabled = true →
    config.egfx.encodingAdaptation.Sound
  damageTracking : config.damageTracking.enabled = true → config.damageConfig.Sound

variable {config : Config}

/-- Without the service the controller asks for less. -/
theorem PipelineSafe.sound (h : config.PipelineSafe) (env : PipelineEnv) :
    (config.adaptiveFpsConfig env).Sound := by
  obtain ⟨hmax, hmin, hle, hfits⟩ := h.adaptiveFps
  have henabled : (config.adaptiveFpsConfig env).enabled = true →
      (config.adaptiveFpsConfig ⟨true, true⟩).enabled = true := by
    intro h
    rw [adaptiveFpsConfig, Bool.and_eq_true] at h
    rw [adaptiveFpsConfig, Bool.and_eq_true]
    exact ⟨h.1, rfl⟩
  exact ⟨hmax, fun h => hmin (henabled h), fun h => hle (henabled h),
    fun h => hfits (henabled h)⟩

/-- **Exactly the sound settings keep the pipeline going.** -/
theorem neverStops_iff : config.NeverStops ↔ config.PipelineSafe := by
  constructor
  · -- start the pipeline with every component, and read each component's condition
    intro h
    obtain ⟨p, hstart, hp⟩ := h ⟨true, true⟩
    obtain ⟨-, hfps, hadapt, -, hdetector⟩ := VideoPipeline.start_eq_ok.mp hstart
    have hgo := VideoPipeline.neverFaults_iff.mp hp
    refine ⟨?_, ?_, fun henabled => ?_⟩
    · exact (AdaptiveFpsController.neverFaults_iff rfl rfl).mp (hfps ▸ hgo.adaptiveFps)
    · exact EncodingAdaptation.neverFaults_iff.mp (hgo.encodingAdaptation _ hadapt)
    · rw [if_pos henabled] at hdetector
      exact DamageDetector.neverFaults_iff.mp (hgo.damageDetector _ hdetector)
  · -- conversely, the rate is not zero, so the pipeline starts
    intro h env
    have hmax : config.performance.adaptiveFps.maxFps.toNat ≠ 0 :=
      Nat.one_le_iff_ne_zero.mp h.adaptiveFps.maxFps_pos
    obtain ⟨regulator, hregulator⟩ :
        ∃ r, FrameRateRegulator.new config.performance.adaptiveFps.maxFps = .ok r := by
      rw [FrameRateRegulator.new, div_ok hmax, ok_bind]
      exact ⟨_, rfl⟩
    obtain ⟨p, hp⟩ : ∃ p, VideoPipeline.start config env = .ok p := by
      rw [VideoPipeline.start, hregulator, ok_bind]
      exact ⟨_, rfl⟩
    obtain ⟨-, hfps, hadapt, -, hdetector⟩ := VideoPipeline.start_eq_ok.mp hp
    -- and each component that was started never faults
    refine ⟨p, hp, VideoPipeline.neverFaults_iff.mpr ⟨?_, fun adapt hmem => ?_,
      fun detector hmem => ?_⟩⟩
    · rw [hfps]
      exact (AdaptiveFpsController.neverFaults_iff rfl rfl).mpr (h.sound env)
    · rw [hadapt] at hmem
      split at hmem
      · obtain rfl := Option.some.inj hmem
        exact EncodingAdaptation.neverFaults_iff.mpr h.encodingAdaptation
      · cases hmem
    · rw [hdetector] at hmem
      split at hmem
      · next henabled =>
          obtain rfl := Option.some.inj hmem
          exact DamageDetector.neverFaults_iff.mpr (h.damageTracking henabled)
      · cases hmem

/-- The default keeps the pipeline going. -/
theorem neverStops_default : Config.default.NeverStops := by
  refine neverStops_iff.mpr ⟨AdaptiveFpsConfig.sound_of_small ?_ ?_ ?_, fun h => ?_,
    fun _ => ⟨?_, ?_⟩⟩
  · decide
  · decide
  · decide
  · cases h
  · decide
  · exact .inl (by decide)

end Config

/-- A configuration that has passed the validator never stops the pipeline, exactly if its
settings for the components are sound. -/
theorem validated_config_never_stops_iff (parsers : Parsers) (config : Config) :
    (config.validate parsers = .ok () → config.NeverStops) ↔
      (config.validate parsers = .ok () → config.PipelineSafe) := by
  rw [Config.neverStops_iff]

/-- Parsers that know the default address only. -/
def defaultAddressOnly : Parsers where
  socketAddr text := if text = "[::]:3389" then none else some "invalid socket address syntax"
  appId _ := some "invalid"
  passwordHash _ := some "invalid"
  isAlphanumeric _ := false

/-- The default with a highest frame rate of zero. -/
def Config.zeroMaxFps : Config :=
  Config.default.withPipeline
    { adaptiveFps := { Config.default.performance.adaptiveFps with maxFps := 0 } }
    Config.default.egfx.encodingAdaptation Config.default.damageTracking

/-- It passes the validator, and the pipeline divides by zero when it starts. -/
theorem validated_config_stops :
    Config.zeroMaxFps.validate defaultAddressOnly = .ok () ∧ ¬ Config.zeroMaxFps.NeverStops ∧
      ∀ env, VideoPipeline.start Config.zeroMaxFps env = .error .divisionByZero := by
  have hstart : ∀ env, VideoPipeline.start Config.zeroMaxFps env = .error .divisionByZero :=
    fun _ => rfl
  refine ⟨?_, fun h => ?_, hstart⟩
  · rw [Config.zeroMaxFps, Config.validate_withPipeline]
    exact Config.validate_default (by simp [defaultAddressOnly])
  · obtain ⟨p, hp, -⟩ := h ⟨true, true⟩
    rw [hstart] at hp
    cases hp

end LamcoRdp
