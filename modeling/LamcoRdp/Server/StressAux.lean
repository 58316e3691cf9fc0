/-
LamcoRdp/Server/StressAux.lean

The auxiliary interval of the AVC444 encoder along a run of the loop with its
stress detector.

The interval is configured when the encoder is made, halved when stress begins,
and set back when it is over.  Halving stops at 5, and a client that advertises
its capabilities anew ends stress without setting the interval back: what is
configured is exceeded, or not come back to, exactly if one of the two happens to
an encoder that the iteration does not make anew (`KeepsAux`).

`AuxBounded` is the property, `Inv` what carries it: under stress, the detector
remembers the configured interval.
-/
import LamcoRdp.Server.Decodability
import LamcoRdp.Server.Stress

namespace LamcoRdp

open Pipeline StressDetector Runs

/-! ### Encoding leaves the interval alone -/

namespace Avc444Encoder

variable (e : Avc444Encoder)

theorem maxAuxInterval_forceDueIdr (now : ℕ) :
    (e.forceDueIdr now).maxAuxInterval = e.maxAuxInterval := by
  obtain ⟨lastIdrTime, heq⟩ := e.forceDueIdr_eq now
  rw [heq]

theorem maxAuxInterval_encodeAux (key : Bool) (currentHash : ℕ) (answer : H264Answer) :
    (e.encodeAux key currentHash answer).1.maxAuxInterval = e.maxAuxInterval := by
  have hforce : ({ e with forceAuxOnNextFrame := false }.forceAuxIdr key).maxAuxInterval
      = e.maxAuxInterval := by
    rw [forceAuxIdr_eq]
  rcases e.encodeAux_cases key currentHash answer with ⟨-, heq⟩ |
    ⟨-, e', rfl, ⟨message, err, -, heq⟩ | ⟨key', -, heq⟩ | ⟨b, bs, key', -, heq⟩⟩
  · rw [heq]
    rfl
  · rw [heq]
    exact hforce
  · rw [heq]
    exact hforce
  · rw [heq]
    exact hforce

theorem maxAuxInterval_encodeViews (c : EncodeCall) (currentHash : ℕ) :
    (e.encodeViews c currentHash).1.maxAuxInterval = e.maxAuxInterval := by
  have hdue := e.maxAuxInterval_forceDueIdr c.now
  unfold encodeViews
  generalize e.forceDueIdr c.now = e₁ at hdue ⊢
  dsimp only
  rcases e₁.encoder.encode c.main with ⟨encoder, message | main⟩
  · exact hdue
  · dsimp only
    have haux := maxAuxInterval_encodeAux { e₁ with encoder := encoder } main.isKeyframe
      currentHash c.aux
    generalize encodeAux { e₁ with encoder := encoder } main.isKeyframe currentHash c.aux = r
      at haux ⊢
    obtain ⟨e₂, err | stream2Data⟩ := r
    · exact haux.trans hdue
    · dsimp only
      split_ifs
      · exact haux.trans hdue
      · exact haux.trans hdue

theorem maxAuxInterval_encodeBgra (platform : Platform) (c : EncodeCall) :
    (e.encodeBgra platform c).1.maxAuxInterval = e.maxAuxInterval := by
  unfold encodeBgra
  rcases c.reject with - | err
  · dsimp only
    rcases bgraToYuv444 platform.target c.bgraData c.width c.height e.colorMatrix with - | yuv444
    · rfl
    · exact e.maxAuxInterval_encodeViews c (platform.hashAux yuv444)
  · rfl

end Avc444Encoder

/-- `aux_max_interval`, if the encoder is an AVC444 encoder. -/
def VideoEncoder.auxMaxInterval : VideoEncoder → Option ℕ
  | .avc420 _ => none
  | .avc444 e => some e.maxAuxInterval

theorem auxMaxInterval_eq (p : Pipeline) :
    auxMaxInterval p = p.videoEncoder.bind VideoEncoder.auxMaxInterval := by
  unfold StressDetector.auxMaxInterval
  rcases p.videoEncoder with - | ⟨e | e⟩
  · rfl
  · rfl
  · rfl

theorem VideoEncoder.auxMaxInterval_encodeBgra (platform : Platform) (enc : VideoEncoder)
    (c : EncodeCall) : (enc.encodeBgra platform c).1.auxMaxInterval = enc.auxMaxInterval := by
  cases enc with
  | avc420 e => rfl
  | avc444 e => exact congrArg some (e.maxAuxInterval_encodeBgra platform c)

/-! ### What an iteration does to the interval -/

/-- Whether encoder and surface have to be set up (again). -/
def Pipeline.needsInit (p : Pipeline) : Bool :=
  !p.egfxGateBypassed && p.egfxNeedsInit || p.needsFullReinit

/-- The iteration keeps the encoder there is: nothing has to be set up, or it is not set up
in the AVC branch or in the Planar branch. -/
def Pipeline.keepsEncoder (p : Pipeline) (i : Iteration) : Bool :=
  !(p.needsInit && !p.egfxGateBypassed &&
    (i.isAvcSupported || i.isEgfxReady .planar && i.isPlanarRequired))

/-- `avc444_max_aux_interval`, as the encoder takes it. -/
def PipelineConfig.auxInterval (cfg : PipelineConfig) : ℕ :=
  Avc444Encoder.clampAuxInterval cfg.avc444MaxAuxInterval

section Iterations

variable (platform : Platform) (cfg : PipelineConfig) (p : Pipeline) (frame : VideoFrame)
  (i : Iteration)

/-- The encoder is there with the interval it had. -/
def SameAux (p q : Pipeline) : Prop := auxMaxInterval q = auxMaxInterval p

theorem SameAux.of_encoder {p q : Pipeline} (h : q.videoEncoder = p.videoEncoder) :
    SameAux p q := by
  rw [SameAux, auxMaxInterval_eq, auxMaxInterval_eq, h]

theorem sameAux_encodeAndSend {enc : VideoEncoder} (henc : p.videoEncoder = some enc)
    (data : List UInt8) (regions : List DamageRegion) :
    SameAux p (encodeAndSend platform cfg p enc frame data regions i).1 := by
  unfold encodeAndSend
  rcases alignFrame frame data with - | out
  · exact rfl
  dsimp only
  have hsame : ∀ q : Pipeline,
      q.videoEncoder = some (enc.encodeBgra platform (encodeCall cfg p frame out i)).1 →
      SameAux p q := by
    intro q hq
    rw [SameAux, auxMaxInterval_eq, auxMaxInterval_eq, hq, henc]
    exact enc.auxMaxInterval_encodeBgra platform _
  generalize enc.encodeBgra platform (encodeCall cfg p frame out i) = r at hsame ⊢
  obtain ⟨enc₁, - | e | - | encoded⟩ := r
  · exact hsame _ rfl
  · exact hsame _ rfl
  · exact hsame _ rfl
  · dsimp only
    rcases encoded.send i.shared i.transport with e | frameId
    · exact hsame _ rfl
    · exact hsame _ rfl

theorem sameAux_avcFrame {enc : VideoEncoder} (henc : p.videoEncoder = some enc) :
    SameAux p (avcFrame platform cfg p enc frame i).1 := by
  unfold avcFrame
  split_ifs
  · exact rfl
  · exact rfl
  rcases frame.buffer with data | -
  · dsimp only
    split_ifs
    · exact rfl
    rcases selectDamage p.damageDetector frame data
      (enc.isPeriodicIdrDue i.now || p.forceFirstFrame) i.shouldLogTelemetry with
      - | ⟨detector, regions⟩
    · exact rfl
    · dsimp only
      unfold processDamage
      split_ifs
      · exact rfl
      · exact rfl
      · exact rfl
      · exact sameAux_encodeAndSend platform cfg
          { p with forceFirstFrame := false, damageDetector := detector } frame i henc data regions
  · exact rfl

theorem encoder_sendDamage (tight : List UInt8) (rowBytes : ℕ) (damage : DamageRegion) :
    (sendDamage p tight rowBytes damage i).1.videoEncoder = p.videoEncoder := by
  unfold sendDamage
  rcases compactBgraRegion tight rowBytes damage with - | compact
  · rfl
  dsimp only
  split_ifs
  · rfl
  · rfl
  generalize sendPlanarFrame i.shared i.transport _ = answer
  rcases answer with - | e | ⟨frameId, pixels⟩
  · rfl
  · rfl
  · rfl

theorem encoder_planarFrame : (planarFrame p frame i).1.videoEncoder = p.videoEncoder := by
  unfold planarFrame
  split_ifs
  · rfl
  -- a stream that was stalled only loses its reference
  all_goals
    rcases frame.buffer with data | -
    · dsimp only
      split_ifs
      · rfl
      generalize planarDamage _ frame _ = damage
      rcases damage with - | ⟨detector, regions⟩
      · rfl
      dsimp only
      rcases boundingDamageRegion regions frame.width frame.height with - | damage
      · rfl
      · exact encoder_sendDamage _ i _ _ damage
    · rfl

theorem sameAux_avcBranch : SameAux p (avcBranch platform cfg p false frame i).1 := by
  unfold avcBranch
  rw [if_neg Bool.false_ne_true]
  dsimp only
  rcases henc : p.videoEncoder with - | enc
  · rcases p.egfxSender with - | -
    · exact rfl
    · exact .of_encoder (uncompressedFrame_encoder p frame i).1
  · rcases p.egfxSender with - | -
    · exact rfl
    · exact sameAux_avcFrame platform cfg p frame i henc

theorem encoder_planarBranch :
    (planarBranch p false frame i).1.videoEncoder = p.videoEncoder := by
  unfold planarBranch
  rw [if_neg Bool.false_ne_true]
  dsimp only
  split_ifs
  · exact encoder_planarFrame p frame i
  · rfl

theorem encoder_fallbackBranch (needsInit : Bool) :
    (fallbackBranch p needsInit frame i).1.videoEncoder = p.videoEncoder := by
  unfold fallbackBranch
  generalize hq : (if (needsInit && i.surfaceCreated) = true then p.surfaceReady else p) = q
  have hsame : q.videoEncoder = p.videoEncoder := by
    subst hq
    split_ifs
    · rfl
    · rfl
  rw [← hsame]
  dsimp only
  split_ifs
  · exact (uncompressedFrame_encoder q frame i).1
  · rfl

/-- A new encoder has the configured interval. -/
theorem auxMaxInterval_createEncoder {interval : ℕ}
    (h : (createEncoder cfg frame i).bind VideoEncoder.auxMaxInterval = some interval) :
    interval = cfg.auxInterval := by
  unfold createEncoder at h
  dsimp only at h
  split_ifs at h
  · exact (Option.some.inj h).symm
  all_goals exact nomatch h

/-- What the branches are given. -/
structure Prepared (p : Pipeline) (i : Iteration) (q : Pipeline) : Prop where
  encoder : q.videoEncoder = (p.applyStress i).videoEncoder
  gate : q.egfxGateBypassed = p.egfxGateBypassed

theorem Prepared.ite {c : Prop} [Decidable c] {q r : Pipeline} (hq : Prepared p i q)
    (hr : Prepared p i r) : Prepared p i (if c then q else r) := by
  split_ifs
  · exact hq
  · exact hr

theorem prepared_prepare :
    Prepared p i (p.prepare i).1 ∧ (p.prepare i).2 = p.needsInit := by
  obtain ⟨enc, henc, -⟩ := applyStress_eq p i
  have hstress : Prepared p i (p.applyStress i) := ⟨rfl, by rw [henc]⟩
  refine ⟨Prepared.ite p i ⟨rfl, hstress.gate⟩ hstress, ?_⟩
  show (!p.egfxGateBypassed && p.egfxNeedsInit || (p.applyStress i).needsFullReinit) = _
  rw [henc]
  rfl

/-- The branches, after what is prepared. -/
theorem dispatch_branches : ∃ q, Prepared p i q ∧
    dispatch platform cfg p frame i =
      if (!p.egfxGateBypassed && i.isAvcSupported) = true then
        avcBranch platform cfg q p.needsInit frame i
      else if (!p.egfxGateBypassed && i.isEgfxReady .planar && i.isPlanarRequired) = true then
        planarBranch q p.needsInit frame i
      else if (!p.egfxGateBypassed && i.isEgfxReady .fallback) = true then
        fallbackBranch q p.needsInit frame i
      else (q, .bitmap) := by
  obtain ⟨hprep, hneeds⟩ := prepared_prepare p i
  have hgate := hprep.gate
  unfold dispatch
  generalize p.prepare i = prepared at hprep hneeds hgate ⊢
  obtain ⟨q, needsInit⟩ := prepared
  dsimp only at hprep hneeds hgate ⊢
  subst hneeds
  generalize hr : (if (p.needsInit && !(!q.egfxGateBypassed && i.isAvcSupported) &&
    !(!q.egfxGateBypassed && i.isEgfxReady .setup)) = true then
      { q with egfxNeedsInit := false } else q) = r
  have hr' : Prepared p i r := hr ▸ Prepared.ite p i ⟨hprep.encoder, hprep.gate⟩ hprep
  refine ⟨r, hr', ?_⟩
  rw [hr'.gate, hgate]

/-- An iteration that keeps the encoder leaves it with the interval the detector has set. -/
theorem dispatch_keeps (hkeep : p.keepsEncoder i = true) :
    SameAux (p.applyStress i) (dispatch platform cfg p frame i).1 := by
  obtain ⟨q, hq, hbranch⟩ := dispatch_branches platform cfg p frame i
  have hsame : SameAux (p.applyStress i) q := .of_encoder hq.encoder
  refine Eq.trans (b := auxMaxInterval q) ?_ hsame
  rw [hbranch]
  unfold keepsEncoder at hkeep
  split_ifs with havc hplanar
  · have hinit : p.needsInit = false := by grind
    rw [hinit]
    exact sameAux_avcBranch platform cfg q frame i
  · have hinit : p.needsInit = false := by grind
    rw [hinit]
    exact SameAux.of_encoder (encoder_planarBranch q frame i)
  · exact SameAux.of_encoder (encoder_fallbackBranch q frame i p.needsInit)
  · rfl

/-- An iteration that makes the encoder anew leaves it with the configured interval, or
there is none. -/
theorem dispatch_renews (hnew : p.keepsEncoder i = false) {interval : ℕ}
    (h : auxMaxInterval (dispatch platform cfg p frame i).1 = some interval) :
    interval = cfg.auxInterval := by
  obtain ⟨q, -, hbranch⟩ := dispatch_branches platform cfg p frame i
  unfold keepsEncoder at hnew
  have hinit : p.needsInit = true := by grind
  rw [hbranch, hinit] at h
  split_ifs at h with havc hplanar hfallback
  · -- the AVC branch with a new encoder is the branch that meets one
    have hnew : auxMaxInterval (avcBranch platform cfg q true frame i).1 =
        auxMaxInterval (initAvc cfg q frame i) :=
      sameAux_avcBranch platform cfg (initAvc cfg q frame i) frame i
    have henc : (initAvc cfg q frame i).videoEncoder = createEncoder cfg frame i := by
      unfold initAvc
      split_ifs
      · rfl
      · rfl
    rw [hnew, auxMaxInterval_eq, henc] at h
    exact auxMaxInterval_createEncoder cfg frame i h
  · have hnone : (planarBranch q true frame i).1.videoEncoder = none := by
      refine (encoder_planarBranch (initPlanar q i) frame i).trans ?_
      unfold initPlanar
      split_ifs
      · rfl
      · rfl
    rw [auxMaxInterval_eq, hnone] at h
    cases h
  all_goals grind

end Iterations

/-! ### What the detector does to the interval -/

/-- The interval the detector sets, if it sets one. -/
theorem auxMaxInterval_applyStress (p : Pipeline) (i : Iteration) :
    auxMaxInterval (p.applyStress i) = (auxMaxInterval p).map fun interval =>
      (i.stressAuxInterval.map Avc444Encoder.clampAuxInterval).getD interval := by
  have hidr : auxMaxInterval (if i.stressTriggers = true then
      { p with videoEncoder := p.videoEncoder.map VideoEncoder.requestIdr } else p)
      = auxMaxInterval p := by
    unfold StressDetector.auxMaxInterval
    split_ifs
    · rcases p.videoEncoder with - | ⟨e | e⟩
      · rfl
      · rfl
      · rfl
    · rfl
  rw [← hidr]
  unfold applyStress
  generalize (if i.stressTriggers = true then
    { p with videoEncoder := p.videoEncoder.map VideoEncoder.requestIdr } else p) = q
  unfold StressDetector.auxMaxInterval
  dsimp only
  rcases hq : q.videoEncoder with - | ⟨e | e⟩
  · simp only [hq, Option.map_none]
  · simp only [hq, Option.map_none]
  · rcases i.stressAuxInterval with - | interval
    · simp only [hq, Option.map_some, Option.map_none, Option.getD_none]
    · rfl

namespace StressDetector

variable (w : StressDetector) (p : Pipeline) (clock : StressClock)

/-- Stress begins with this frame: the window closes, an early IDR is asked for, and there is
an interval to shrink. -/
def startsStress : Bool :=
  w.closes p clock && (w.evaluate p clock).shouldTrigger && !w.active && (auxMaxInterval p).isSome

/-- Stress is over: the window closes without trigger, and there was none for a while. -/
def recovers : Bool :=
  w.closes p clock && !(w.evaluate p clock).shouldTrigger && w.active &&
    decide (elapsedMs w.lastTrigger clock.now > recoveryMs)

variable {w p clock}

theorem observe_starts (h : w.startsStress p clock = true) :
    ∃ prev, auxMaxInterval p = some prev ∧ (w.observe p clock).1.active = true ∧
      (w.observe p clock).1.originalAuxInterval = prev ∧
      (w.observe p clock).2.2 = some (max (prev / 2) 5) ∧ w.active = false := by
  simp only [startsStress, Bool.and_eq_true, Bool.not_eq_true'] at h
  obtain ⟨⟨⟨hcloses, htrigger⟩, hactive⟩, hsome⟩ := h
  obtain ⟨prev, hprev⟩ := Option.isSome_iff_exists.mp hsome
  refine ⟨prev, hprev, ?_⟩
  simp [observe, hcloses, htrigger, adjustAux, hprev, hactive]

theorem observe_recovers (h : w.recovers p clock = true) :
    (w.observe p clock).1.active = false ∧ w.active = true ∧
      (w.observe p clock).2.2 = (auxMaxInterval p).bind fun interval =>
        if w.originalAuxInterval > 0 ∧ interval ≠ w.originalAuxInterval then
          some w.originalAuxInterval
        else none := by
  simp only [recovers, Bool.and_eq_true, Bool.not_eq_true', decide_eq_true_eq] at h
  obtain ⟨⟨⟨hcloses, htrigger⟩, hactive⟩, helapsed⟩ := h
  simp [observe, hcloses, htrigger, adjustAux, hactive, helapsed]

theorem observe_steady (hstart : w.startsStress p clock = false)
    (hrecover : w.recovers p clock = false) :
    (w.observe p clock).1.active = w.active ∧
      (w.observe p clock).1.originalAuxInterval = w.originalAuxInterval ∧
      (w.observe p clock).2.2 = none := by
  unfold observe
  rcases hcloses : w.closes p clock with - | -
  · exact ⟨rfl, rfl, rfl⟩
  rw [if_pos rfl]
  rcases htrigger : (w.evaluate p clock).shouldTrigger with - | -
  · rcases hactive : w.active with - | -
    · simp [adjustAux, hactive]
    · have helapsed : ¬ elapsedMs w.lastTrigger clock.now > recoveryMs := by
        simpa [recovers, hcloses, htrigger, hactive] using hrecover
      simp [adjustAux, hactive, helapsed]
  · rcases hactive : w.active with - | -
    · have hnone : auxMaxInterval p = none := by
        simpa [startsStress, hcloses, htrigger, hactive] using hstart
      simp [adjustAux, hnone]
    · have helapsed : ¬ elapsedMs clock.now clock.now > recoveryMs := by
        simp [elapsedMs]
      simp [adjustAux, helapsed]

end StressDetector

/-! ### The bound -/

theorem PipelineConfig.auxInterval_bounds (cfg : PipelineConfig) :
    1 ≤ cfg.auxInterval ∧ cfg.auxInterval ≤ 120 := by
  unfold PipelineConfig.auxInterval Avc444Encoder.clampAuxInterval
  omega

/-- A detector and an encoder that fit together: under stress the detector remembers the
configured interval, otherwise the encoder has it. -/
structure AuxFits (configured : ℕ) (w : StressDetector) (p : Pipeline) : Prop where
  bounded : ∀ interval, auxMaxInterval p = some interval → interval ≤ configured
  calm : w.active = false → ∀ interval, auxMaxInterval p = some interval → interval = configured
  original : w.active = true → w.originalAuxInterval = configured

/-- The interval after a frame, where the encoder is kept: it is not above the configured
one, and it is the configured one if stress is over. -/
def AuxAfter (configured : ℕ) (w : StressDetector) (p : Pipeline) (clock : StressClock)
    (q : Pipeline) : Prop :=
  ∀ interval, auxMaxInterval q = some interval → interval ≤ configured ∧
    (((w.observe p clock).1.active && !p.needsFullReinit) = false → interval = configured)

/-- What may happen to an encoder that is kept: stress begins only if halving the interval
does not raise it, and a client that advertises its capabilities anew meets the configured
interval. -/
structure StressDetector.KeepsAux (configured : ℕ) (w : StressDetector) (p : Pipeline)
    (clock : StressClock) : Prop where
  begins : w.startsStress p clock = true → 5 ≤ configured
  restartsBeginning : p.needsFullReinit = true → w.startsStress p clock = true → configured = 5
  restartsActive : p.needsFullReinit = true → w.active = true → w.recovers p clock = false →
    ∀ interval, auxMaxInterval p = some interval → interval = configured

section Bound

variable {cfg : PipelineConfig} {w : StressDetector} {p : Pipeline} {i : Iteration}
  {clock : StressClock}

/-- Stress neither begins nor ends: the interval stays. -/
theorem auxMaxInterval_steady (hinput : i.stressAuxInterval = (w.observe p clock).2.2)
    (hstart : w.startsStress p clock = false) (hrecover : w.recovers p clock = false) :
    auxMaxInterval (p.applyStress i) = auxMaxInterval p := by
  obtain ⟨-, -, hnone⟩ := StressDetector.observe_steady hstart hrecover
  rw [auxMaxInterval_applyStress, hinput, hnone]
  exact Option.map_id'

/-- Stress is over: what was remembered is set back. -/
theorem AuxFits.recovered (h : AuxFits cfg.auxInterval w p)
    (hinput : i.stressAuxInterval = (w.observe p clock).2.2)
    (hrecover : w.recovers p clock = true) {interval : ℕ}
    (hinterval : auxMaxInterval (p.applyStress i) = some interval) :
    interval = cfg.auxInterval := by
  obtain ⟨hpos, hle⟩ := cfg.auxInterval_bounds
  obtain ⟨-, hactive, hset⟩ := StressDetector.observe_recovers hrecover
  rw [auxMaxInterval_applyStress, hinput, hset, h.original hactive] at hinterval
  rcases hp : auxMaxInterval p with - | prev
  · rw [hp] at hinterval
    cases hinterval
  · rw [hp] at hinterval
    simp only [Option.map_some, Option.bind_some, Option.some.injEq] at hinterval
    rw [← hinterval]
    split_ifs with hne
    · show Avc444Encoder.clampAuxInterval cfg.auxInterval = cfg.auxInterval
      unfold Avc444Encoder.clampAuxInterval
      omega
    · show prev = cfg.auxInterval
      omega

/-- Stress begins: the configured interval is halved, down to 5. -/
theorem AuxFits.started (h : AuxFits cfg.auxInterval w p)
    (hinput : i.stressAuxInterval = (w.observe p clock).2.2)
    (hstart : w.startsStress p clock = true) :
    auxMaxInterval (p.applyStress i) = some (max (cfg.auxInterval / 2) 5) := by
  obtain ⟨hpos, hle⟩ := cfg.auxInterval_bounds
  obtain ⟨prev, hprev, -, -, hset, hcalm⟩ := StressDetector.observe_starts hstart
  obtain rfl := h.calm hcalm prev hprev
  rw [auxMaxInterval_applyStress, hinput, hset, hprev]
  show some (Avc444Encoder.clampAuxInterval (max (cfg.auxInterval / 2) 5)) = _
  unfold Avc444Encoder.clampAuxInterval
  congr 1
  omega

/-- **One frame**, for an encoder that is kept. -/
theorem AuxFits.after_iff (h : AuxFits cfg.auxInterval w p)
    (hinput : i.stressAuxInterval = (w.observe p clock).2.2) :
    AuxAfter cfg.auxInterval w p clock (p.applyStress i) ↔
      w.KeepsAux cfg.auxInterval p clock := by
  have hpos := cfg.auxInterval_bounds.1
  unfold AuxAfter
  -- no stress begins: the interval stays, unless the window recovers
  rcases hstart : w.startsStress p clock with - | -
  · have hno : ¬ w.startsStress p clock = true := by rw [hstart]; exact Bool.false_ne_true
    rcases hrecover : w.recovers p clock with - | -
    · obtain ⟨hactive, -⟩ := StressDetector.observe_steady hstart hrecover
      rw [auxMaxInterval_steady hinput hstart hrecover, hactive]
      constructor
      · intro hall
        refine ⟨fun hs => absurd hs hno, fun _ hs => absurd hs hno, fun hfull _ _ v hv => ?_⟩
        refine (hall v hv).2 ?_
        rw [hfull, Bool.not_true, Bool.and_false]
      · intro hkeeps v hv
        refine ⟨h.bounded v hv, fun hcalm => ?_⟩
        rcases hw : w.active with - | -
        · exact h.calm hw v hv
        · rw [hw, Bool.true_and, Bool.not_eq_false'] at hcalm
          exact hkeeps.restartsActive hcalm hw hrecover v hv
    · -- a recovery gives the configured interval back
      refine iff_of_true (fun v hv => ?_) ⟨fun hs => absurd hs hno, fun _ hs => absurd hs hno,
        fun _ _ hr => Bool.noConfusion (hrecover.symm.trans hr)⟩
      have hback := h.recovered hinput hrecover hv
      exact ⟨hback.le, fun _ => hback⟩
  · -- stress begins: the interval is half the one before, at least five
    obtain ⟨-, -, hactive, -, -, hcalm⟩ := StressDetector.observe_starts hstart
    rw [h.started hinput hstart, hactive]
    constructor
    · intro hall
      obtain ⟨hbound, hback⟩ := hall _ rfl
      refine ⟨fun _ => by omega, fun hfull _ => ?_,
        fun _ hw => Bool.noConfusion (hcalm.symm.trans hw)⟩
      have hfive := hback (by rw [hfull, Bool.not_true, Bool.and_false])
      omega
    · rintro hkeeps v hv
      obtain rfl := Option.some.inj hv
      have hfive := hkeeps.begins hstart
      refine ⟨by omega, fun hover => ?_⟩
      rw [Bool.true_and, Bool.not_eq_false'] at hover
      have heq := hkeeps.restartsBeginning hover hstart
      omega

/-- Under stress, the configured interval is remembered. -/
theorem AuxFits.original_observe (h : AuxFits cfg.auxInterval w p)
    (hactive : (w.observe p clock).1.active = true) :
    (w.observe p clock).1.originalAuxInterval = cfg.auxInterval := by
  rcases hstart : w.startsStress p clock with - | -
  · rcases hrecover : w.recovers p clock with - | -
    · obtain ⟨hsame, horiginal, -⟩ := StressDetector.observe_steady hstart hrecover
      rw [horiginal]
      exact h.original (hsame.symm.trans hactive)
    · obtain ⟨hover, -⟩ := StressDetector.observe_recovers hrecover
      exact Bool.noConfusion (hover.symm.trans hactive)
  · obtain ⟨prev, hprev, -, horiginal, -, hcalm⟩ := StressDetector.observe_starts hstart
    rw [horiginal]
    exact h.calm hcalm prev hprev

end Bound

/-! ### Runs of the loop -/

/-- The auxiliary interval is at most the configured one, and it is the configured one
while stress is not active. -/
def AuxBounded (cfg : PipelineConfig) (s : StressLoop) : Prop :=
  ∀ interval, auxMaxInterval s.pipe = some interval → interval ≤ cfg.auxInterval ∧
    (s.detector.active = false → interval = cfg.auxInterval)

/-- The event does not take the interval past its bound: at a frame that passes the gate,
the encoder is made anew, or what happens to it may happen to an encoder that is kept. -/
def StressLoop.KeepsAux (cfg : PipelineConfig) (s : StressLoop) : StressEvent → Prop
  | .iterate i clock => ∀ p frame, frontEnd cfg s.pipe i = (p, .ok frame) →
      p.keepsEncoder i = true → s.detector.KeepsAux cfg.auxInterval p clock
  | .connect => True
  | .readvertise => True

theorem acquireFrame_encoder (p : Pipeline) (i : Iteration) :
    (p.acquireFrame i).1.videoEncoder = p.videoEncoder ∨
      (p.acquireFrame i).1.videoEncoder = none := by
  unfold acquireFrame
  -- without a frame the encoder is there still, unless a client has just come
  rcases i.received with - | f
  · dsimp only
    generalize hq : (if (!i.clientActive) = true then { p with wasClientActive := false }
      else if (!p.wasClientActive) = true then p.resetForClient else p) = q
    have hkept : q.videoEncoder = p.videoEncoder ∨ q.videoEncoder = none := by
      subst hq
      split_ifs
      · exact Or.inl rfl
      · exact Or.inr rfl
      · exact Or.inl rfl
    split_ifs
    · rcases q.cachedFrame with - | f
      · exact hkept
      · exact hkept
    · exact hkept
  · -- with one, likewise
    dsimp only
    split_ifs
    · exact Or.inl rfl
    · exact Or.inl rfl
    · exact Or.inr rfl
    · exact Or.inl rfl
    · exact Or.inr rfl
    · exact Or.inl rfl

theorem admitFrame_encoder (cfg : PipelineConfig) (p : Pipeline) (frame : VideoFrame)
    (i : Iteration) : (admitFrame cfg p frame i).1.videoEncoder = p.videoEncoder := by
  unfold admitFrame
  split_ifs
  · rfl
  rcases orient cfg frame with exit | frame'
  · rfl
  · dsimp only
    split_ifs
    · rfl
    · rfl
    · rfl

/-- Up to the gate, the encoder is kept or given up. -/
theorem frontEnd_encoder (cfg : PipelineConfig) (p : Pipeline) (i : Iteration) :
    (frontEnd cfg p i).1.videoEncoder = p.videoEncoder ∨
      (frontEnd cfg p i).1.videoEncoder = none := by
  unfold frontEnd
  rcases i.resize with - | created
  · have hacquire := acquireFrame_encoder p i
    generalize p.acquireFrame i = r at hacquire ⊢
    obtain ⟨q, exit | frame⟩ := r
    · exact hacquire
    · rw [← admitFrame_encoder cfg q frame i] at hacquire
      exact hacquire
  · rcases created with - | -
    · exact Or.inl rfl
    · exact Or.inr rfl

theorem AuxFits.frontEnd {configured : ℕ} {w : StressDetector} {p : Pipeline}
    (h : AuxFits configured w p) (cfg : PipelineConfig) (i : Iteration) :
    AuxFits configured w (frontEnd cfg p i).1 := by
  rcases frontEnd_encoder cfg p i with henc | henc
  · have hsame : auxMaxInterval (Pipeline.frontEnd cfg p i).1 = auxMaxInterval p :=
      SameAux.of_encoder henc
    exact ⟨hsame ▸ h.bounded, hsame ▸ h.calm, h.original⟩
  · have hnone : auxMaxInterval (Pipeline.frontEnd cfg p i).1 = none := by
      rw [auxMaxInterval_eq, henc]
      rfl
    exact ⟨hnone ▸ nofun, fun _ => hnone ▸ nofun, h.original⟩

/-- What carries the bound along a run. -/
def StressLoop.AuxInv (cfg : PipelineConfig) (s : StressLoop) : Prop :=
  AuxFits cfg.auxInterval s.detector s.pipe

section Run

variable (platform : Platform) {cfg : PipelineConfig} {s : StressLoop} {p : Pipeline}
  {frame : VideoFrame} {i : Iteration} {clock : StressClock}

theorem StressLoop.next_ended {exit : Exit} (hfront : frontEnd cfg s.pipe i = (p, .error exit)) :
    (s.next platform cfg i clock).pipe = p ∧
      (s.next platform cfg i clock).detector = s.detector := by
  unfold next
  rw [hfront]
  exact ⟨rfl, rfl⟩

theorem StressLoop.next_passed (hfront : frontEnd cfg s.pipe i = (p, .ok frame)) :
    (s.next platform cfg i clock).pipe
        = (dispatch platform cfg p frame (s.withStress p i clock)).1 ∧
      (s.next platform cfg i clock).detector = if p.needsFullReinit then
        (s.detector.observe p clock).1.restart p clock else (s.detector.observe p clock).1 := by
  have hobserved : ∀ s' : StressLoop, s'.detector = s.detector →
      (s'.observed p clock).detector = (s.detector.observe p clock).1 := by
    intro s' hs'
    unfold observed
    rw [hs']
    split_ifs
    · rfl
    · rfl
  unfold next
  rw [hfront]
  refine ⟨rfl, ?_⟩
  dsimp only
  rw [← hobserved { s with
    processed := s.processed + 1, skewed := s.skewed || s.resetSkews i } rfl]
  unfold restarted
  split_ifs
  · rfl
  · rfl

/-- A frame that passes the gate. -/
theorem StressLoop.AuxInv.passed (h : s.AuxInv cfg)
    (hfront : frontEnd cfg s.pipe i = (p, .ok frame)) :
    (AuxBounded cfg (s.next platform cfg i clock) ↔ s.KeepsAux cfg (.iterate i clock)) ∧
      (AuxBounded cfg (s.next platform cfg i clock) → (s.next platform cfg i clock).AuxInv cfg) := by
  obtain ⟨hpipe, hdetector⟩ : (s.next platform cfg i clock).pipe = _ ∧ _ :=
    next_passed platform hfront
  have hfits : AuxFits cfg.auxInterval s.detector p := by
    have hfits := AuxFits.frontEnd h cfg i
    rw [hfront] at hfits
    exact hfits
  -- a full reinit takes the window back to rest
  have hactive : (s.next platform cfg i clock).detector.active =
      ((s.detector.observe p clock).1.active && !p.needsFullReinit) := by
    rw [hdetector]
    rcases p.needsFullReinit with - | -
    · exact (Bool.and_true _).symm
    · exact (Bool.and_false _).symm
  constructor
  · rcases hkeep : p.keepsEncoder i with - | -
    · -- a new encoder starts with the configured interval
      refine iff_of_true (fun v hv => ?_) fun p' frame' hp hk => ?_
      · rw [hpipe] at hv
        have heq := dispatch_renews platform cfg p frame (s.withStress p i clock) hkeep hv
        exact ⟨heq.le, fun _ => heq⟩
      · obtain ⟨rfl, -⟩ := Prod.mk.inj (hfront.symm.trans hp)
        exact Bool.noConfusion (hkeep.symm.trans hk)
    · -- an old one is judged by what the stress does to it
      have hsame : auxMaxInterval (s.next platform cfg i clock).pipe =
          auxMaxInterval (p.applyStress (s.withStress p i clock)) := by
        rw [hpipe]
        exact dispatch_keeps platform cfg p frame (s.withStress p i clock) hkeep
      have hafter : AuxAfter cfg.auxInterval s.detector p clock
          (p.applyStress (s.withStress p i clock)) ↔ _ := hfits.after_iff rfl
      unfold AuxBounded
      rw [hsame, hactive]
      refine hafter.trans ⟨fun hk p' frame' hp _ => ?_, fun hk => hk p frame hfront hkeep⟩
      obtain ⟨rfl, -⟩ := Prod.mk.inj (hfront.symm.trans hp)
      exact hk
  · -- the invariant after it
    intro hbounded
    refine ⟨fun v hv => (hbounded v hv).1, fun hcalm v hv => (hbounded v hv).2 hcalm, ?_⟩
    intro hon
    rw [hactive, Bool.and_eq_true, Bool.not_eq_true'] at hon
    rw [hdetector, hon.2]
    exact hfits.original_observe hon.1

theorem StressLoop.AuxInv.bounded (h : s.AuxInv cfg) : AuxBounded cfg s :=
  fun v hv => ⟨AuxFits.bounded h v hv, fun hcalm => AuxFits.calm h hcalm v hv⟩

/-- **One event.** -/
theorem StressLoop.AuxInv.step (h : s.AuxInv cfg) (e : StressEvent) :
    (AuxBounded cfg (s.step platform cfg e) ↔ s.KeepsAux cfg e) ∧
      (AuxBounded cfg (s.step platform cfg e) → (s.step platform cfg e).AuxInv cfg) := by
  cases e with
  | iterate i clock =>
      rcases hfront : frontEnd cfg s.pipe i with ⟨p, exit | frame⟩
      · -- the frame, if there is one, ends at the gate
        obtain ⟨hpipe, hdetector⟩ : (s.next platform cfg i clock).pipe = _ ∧ _ :=
          next_ended platform hfront
        have hfits := AuxFits.frontEnd h cfg i
        rw [hfront] at hfits
        have hinv : (s.next platform cfg i clock).AuxInv cfg := by
          unfold AuxInv
          rw [hpipe, hdetector]
          exact hfits
        refine ⟨iff_of_true hinv.bounded fun p' frame' hp _ => ?_, fun _ => hinv⟩
        cases (Prod.mk.inj (hfront.symm.trans hp)).2
      · exact h.passed platform hfront
  | connect =>
      have hinv : (s.step platform cfg .connect).AuxInv cfg := ⟨h.1, h.2, h.3⟩
      exact ⟨iff_of_true hinv.bounded trivial, fun _ => hinv⟩
  | readvertise =>
      have hinv : (s.step platform cfg .readvertise).AuxInv cfg := ⟨h.1, h.2, h.3⟩
      exact ⟨iff_of_true hinv.bounded trivial, fun _ => hinv⟩

end Run

/-- **The auxiliary interval along a run**: it stays at or below the configured one, and at
the configured one while stress is not active, if and only if every iteration that keeps its
encoder starts stress only from an interval of 5 or more, and meets a new advertisement only
with the configured interval. -/
theorem aux_interval_bounded_iff (platform : Platform) (cfg : PipelineConfig)
    (detector : Option DamageDetector) (now lastTrigger : ℕ) (es : List StressEvent) :
    (∀ n, AuxBounded cfg (after (StressLoop.step platform cfg)
        (.init detector now lastTrigger) es n)) ↔
      ∀ n e, es[n]? = some e → StressLoop.KeepsAux cfg (after (StressLoop.step platform cfg)
        (.init detector now lastTrigger) es n) e := by
  have hinit : (StressLoop.init detector now lastTrigger).AuxInv cfg :=
    ⟨nofun, fun _ => nofun, nofun⟩
  exact after_property_iff hinit (fun _ h => h.bounded)
    (fun s e h hkeeps => (h.step platform e).2 ((h.step platform e).1.mpr hkeeps))
    (fun s e h => (h.step platform e).1.mp) es

/-! ### A short interval -/

/-- AVC444, with an auxiliary stream at the latest every second frame. -/
def PipelineConfig.everySecondFrame : PipelineConfig :=
  { PipelineConfig.plain with
    codec := .auto
    avc444Enabled := true
    avc444EnableAuxOmission := true
    avc444MaxAuxInterval := 2 }

/-- The event with a client that takes AVC444, at this second for every reader of the clock. -/
def StressEvent.forAvc444 (second : ℕ) : StressEvent → StressEvent
  | .iterate i clock =>
      .iterate { i with clientSupportsAvc444 := true, now := second * 10 ^ 9 } clock
  | .connect => .connect
  | .readvertise => .readvertise

/-- Ten frames for one client; then another one, with ten frames of which the last five are
dropped, and a frame after a pause. -/
def nextAvc444Client : List StressEvent :=
  List.replicate 9 ((StressEvent.bitmap 100).forAvc444 100) ++
    [(StressEvent.bitmap 101).forAvc444 101, .unseen 101] ++
    List.replicate 5 ((StressEvent.bitmap 101).forAvc444 101) ++
    List.replicate 5 ((StressEvent.throttled 101).forAvc444 101) ++
    [(StressEvent.throttled 104).forAvc444 104]

/-- Stress takes a configured interval of 2 up to 5. -/
theorem aux_interval_lengthened :
    ¬ ∀ (platform : Platform) (cfg : PipelineConfig) (detector : Option DamageDetector)
      (now lastTrigger : ℕ) (es : List StressEvent) (n : ℕ),
      AuxBounded cfg (after (StressLoop.step platform cfg)
        (.init detector now lastTrigger) es n) := by
  intro h
  have hfive : auxMaxInterval (after (StressLoop.step plainPlatform .everySecondFrame)
      (.init none (100 * 10 ^ 9) (40 * 10 ^ 9)) nextAvc444Client 22).pipe = some 5 := by
    decide +kernel
  have hbound := (h plainPlatform .everySecondFrame none (100 * 10 ^ 9) (40 * 10 ^ 9)
    nextAvc444Client 22 5 hfive).1
  revert hbound
  decide

end LamcoRdp
