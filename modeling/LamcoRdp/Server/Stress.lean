/-
LamcoRdp/Server/Stress.lean

The stress detector of the display loop: a window of one second over the
counters `frames_dropped` and `frames_sent`, and an early IDR when more than half
of the frames were dropped.

`StressLoop` is the loop with its detector; what `Pipeline.iterate` takes as an
input (`stressTriggers`, `stressAuxInterval`) is computed here.  It also counts
the frames of the open window itself, not by the counters of the loop, and keeps
a report of every window that was closed.

`frames_sent` counts every frame that is worked on, so that a dropped frame
counts twice in the total.  A window is therefore judged by
`dropped / (dropped + processed)`, which is the drop rate only if it is 0, and
never more than a half.
-/
import LamcoRdp.Server.Screen
import Mathlib.Data.List.Induction
import Mathlib.Data.Rat.Defs
import Mathlib.Algebra.Order.Field.Rat
import Mathlib.Tactic.Linarith
import Mathlib.Tactic.FieldSimp

namespace LamcoRdp

open Pipeline

/-! ### The decision -/

/-- `StressIdrEval`, with an exact rate. -/
structure StressIdrEval where
  shouldTrigger : Bool
  dropRate : ℚ
  deriving DecidableEq, Repr

/-- `evaluate_stress_idr_trigger`. -/
def evaluateStressIdrTrigger (droppedInWindow sentInWindow : ℕ) (dropRateThreshold : ℚ)
    (cooldownElapsedMs cooldownMs msSinceLastIdr minIdrGapMs : ℕ) : StressIdrEval :=
  let totalInWindow := droppedInWindow + sentInWindow
  let dropRate : ℚ := if totalInWindow > 0 then droppedInWindow / totalInWindow else 0
  { shouldTrigger := decide (dropRate > dropRateThreshold) && decide (totalInWindow ≥ 5) &&
      decide (cooldownElapsedMs > cooldownMs) && decide (msSinceLastIdr > minIdrGapMs)
    dropRate := dropRate }

/-! ### The window -/

/-- The `stress_*` variables of the loop; instants in nanoseconds. -/
structure StressDetector where
  windowStart : ℕ
  windowDroppedAtStart : ℕ
  windowSentAtStart : ℕ
  lastTrigger : ℕ
  active : Bool
  originalAuxInterval : ℕ
  deriving DecidableEq, Repr

/-- The clock where the detector and, through `ms_since_last_idr`, the encoder
read it. -/
structure StressClock where
  now : ℕ
  idrNow : ℕ
  /-- read again when the client has advertised its capabilities anew -/
  reinitNow : ℕ
  deriving DecidableEq, Repr

namespace StressDetector

/-- `stress_window_ms`. -/
def windowMs : ℕ := 1000

/-- `stress_drop_rate_threshold`. -/
def dropRateThreshold : ℚ := 1 / 2

/-- `stress_min_idr_gap_ms`. -/
def minIdrGapMs : ℕ := 1500

/-- `stress_cooldown_ms`. -/
def cooldownMs : ℕ := 1000

/-- `stress_recovery_ms`. -/
def recoveryMs : ℕ := 5000

/-- `duration_since(..).as_millis()`. -/
def elapsedMs (since now : ℕ) : ℕ := (now - since) / 1000000

/-- The detector at the start of the loop. -/
def start (now lastTrigger : ℕ) : StressDetector where
  windowStart := now
  windowDroppedAtStart := 0
  windowSentAtStart := 0
  lastTrigger := lastTrigger
  active := false
  originalAuxInterval := 0

/-- The window is over, and there is an encoder to act on. -/
def closes (w : StressDetector) (p : Pipeline) (clock : StressClock) : Bool :=
  p.videoEncoder.isSome && decide (elapsedMs w.windowStart clock.now ≥ windowMs)

/-- `ms_since_last_idr` of the encoder, if there is one. -/
def msSinceLastIdr (p : Pipeline) (clock : StressClock) : ℕ :=
  (p.videoEncoder.map fun enc => enc.msSinceLastIdr clock.idrNow).getD (2 ^ 64 - 1)

/-- The frames dropped since the window began. -/
def droppedInWindow (w : StressDetector) (p : Pipeline) : ℕ :=
  p.framesDropped - w.windowDroppedAtStart

/-- The frames sent since the window began. -/
def sentInWindow (w : StressDetector) (p : Pipeline) : ℕ := p.framesSent - w.windowSentAtStart

/-- The call of `evaluate_stress_idr_trigger` at the end of a window. -/
def evaluate (w : StressDetector) (p : Pipeline) (clock : StressClock) : StressIdrEval :=
  evaluateStressIdrTrigger (w.droppedInWindow p) (w.sentInWindow p) dropRateThreshold
    (elapsedMs w.lastTrigger clock.now) cooldownMs (msSinceLastIdr p clock) minIdrGapMs

/-- `aux_max_interval`, of an AVC444 encoder. -/
def auxMaxInterval (p : Pipeline) : Option ℕ :=
  match p.videoEncoder with
  | some (.avc444 e) => some e.maxAuxInterval
  | _ => none

/-- The auxiliary interval under stress: shrunk by the first trigger, restored
when there was none for a while.  With the interval to set. -/
def adjustAux (w : StressDetector) (p : Pipeline) (clock : StressClock) (triggered : Bool) :
    StressDetector × Option ℕ :=
  match auxMaxInterval p, triggered && !w.active with
  | some prev, true =>
      ({ w with originalAuxInterval := prev, active := true }, some (max (prev / 2) 5))
  | aux, _ =>
      if w.active && decide (elapsedMs w.lastTrigger clock.now > recoveryMs) then
        ({ w with active := false, originalAuxInterval := 0 },
          aux.bind fun interval =>
            if w.originalAuxInterval > 0 ∧ interval ≠ w.originalAuxInterval then
              some w.originalAuxInterval
            else none)
      else (w, none)

/-- The detector at a frame: the detector after it, whether it asks for an IDR,
and the auxiliary interval it sets. -/
def observe (w : StressDetector) (p : Pipeline) (clock : StressClock) :
    StressDetector × Bool × Option ℕ :=
  if w.closes p clock then
    let triggered := (w.evaluate p clock).shouldTrigger
    let w := if triggered then { w with lastTrigger := clock.now } else w
    let (w, interval) := w.adjustAux p clock triggered
    ({ w with
        windowStart := clock.now
        windowDroppedAtStart := p.framesDropped
        windowSentAtStart := p.framesSent }, triggered, interval)
  else (w, false, none)

/-- The client has advertised its capabilities anew: start from here. -/
def restart (w : StressDetector) (p : Pipeline) (clock : StressClock) : StressDetector where
  windowStart := clock.reinitNow
  windowDroppedAtStart := p.framesDropped
  windowSentAtStart := p.framesSent
  lastTrigger := clock.reinitNow
  active := false
  originalAuxInterval := if w.active then 0 else w.originalAuxInterval

end StressDetector

/-! ### What the counters count -/

/-- The frame was given up. -/
def Exit.dropped : Exit → Bool
  | .gated | .backpressured | .throttled | .dmaBuf | .invalidFrame | .governorSkipped
  | .encodeFailed _ | .encodeSkipped | .sendFailed _ => true
  | .panicked | .resizing | .clientInactive | .waiting | .paced | .governorWaits | .noDamage
  | .sent _ _ | .bitmap => false

/-- The iteration works on a frame: there is one, it passes pacing, and it is
turned the right way up. -/
def Pipeline.processes (cfg : PipelineConfig) (p : Pipeline) (i : Iteration) : Bool :=
  i.resize.isNone &&
    match (p.acquireFrame i).2 with
    | .error _ => false
    | .ok frame =>
        i.shouldProcess &&
          match orient cfg frame with
          | .error _ => false
          | .ok _ => true

/-- The iteration resets the counters for a new client. -/
def Pipeline.resetsCounters (p : Pipeline) (i : Iteration) : Bool :=
  i.resize.isNone && i.clientActive && !p.wasClientActive

/-- Neither counter has moved. -/
structure SameCounts (p q : Pipeline) : Prop where
  sent : q.framesSent = p.framesSent
  dropped : q.framesDropped = p.framesDropped

theorem SameCounts.trans {p q r : Pipeline} (h : SameCounts p q) (h' : SameCounts q r) :
    SameCounts p r :=
  ⟨h'.sent.trans h.sent, h'.dropped.trans h.dropped⟩

theorem SameCounts.ite {p q r : Pipeline} {c : Prop} [Decidable c] (hq : SameCounts p q)
    (hr : SameCounts p r) : SameCounts p (if c then q else r) := by
  split_ifs
  · exact hq
  · exact hr

/-- `frames_sent` is left alone, and `frames_dropped` counts the frame if it was
given up. -/
structure CountsDrop (p : Pipeline) (r : Pipeline × Exit) : Prop where
  sent : r.1.framesSent = p.framesSent
  dropped : r.1.framesDropped = p.framesDropped + r.2.dropped.toNat

theorem CountsDrop.of_sameCounts {p q : Pipeline} {r : Pipeline × Exit} (h : SameCounts p q)
    (hr : CountsDrop q r) : CountsDrop p r :=
  ⟨hr.sent.trans h.sent, by rw [hr.dropped, h.dropped]⟩

section Counts

variable (platform : Platform) (cfg : PipelineConfig) (p : Pipeline) (frame : VideoFrame)
  (i : Iteration)

theorem countsDrop_encodeAndSend (enc : VideoEncoder) (data : List UInt8)
    (regions : List DamageRegion) :
    CountsDrop p (encodeAndSend platform cfg p enc frame data regions i) := by
  unfold encodeAndSend
  rcases alignFrame frame data with - | out
  · exact ⟨rfl, rfl⟩
  dsimp only
  rcases enc.encodeBgra platform (encodeCall cfg p frame out i) with ⟨enc₁, - | e | - | encoded⟩
  · exact ⟨rfl, rfl⟩
  · exact ⟨rfl, rfl⟩
  · exact ⟨rfl, rfl⟩
  · dsimp only
    rcases encoded.send i.shared i.transport with e | frameId
    · exact ⟨rfl, rfl⟩
    · exact ⟨rfl, rfl⟩

theorem countsDrop_processDamage (enc : VideoEncoder) (data : List UInt8) (force : Bool)
    (regions : List DamageRegion) :
    CountsDrop p (processDamage platform cfg p enc frame data force regions i) := by
  unfold processDamage
  split_ifs
  · exact ⟨rfl, rfl⟩
  · exact ⟨rfl, rfl⟩
  · exact ⟨rfl, rfl⟩
  · exact countsDrop_encodeAndSend platform cfg p frame i enc data regions

theorem countsDrop_avcFrame (enc : VideoEncoder) :
    CountsDrop p (avcFrame platform cfg p enc frame i) := by
  unfold avcFrame
  split_ifs
  · exact ⟨rfl, rfl⟩
  · exact ⟨rfl, rfl⟩
  rcases frame.buffer with data | -
  · dsimp only
    split_ifs
    · exact ⟨rfl, rfl⟩
    rcases selectDamage p.damageDetector frame data (enc.isPeriodicIdrDue i.now || p.forceFirstFrame)
      i.shouldLogTelemetry with - | ⟨detector, regions⟩
    · exact ⟨rfl, rfl⟩
    · refine CountsDrop.of_sameCounts (p := p) ?_ (countsDrop_processDamage platform cfg
        { p with forceFirstFrame := false, damageDetector := detector } frame i enc data _ regions)
      exact ⟨rfl, rfl⟩
  · exact ⟨rfl, rfl⟩

theorem countsDrop_uncompressedFrame : CountsDrop p (uncompressedFrame p frame i) := by
  unfold uncompressedFrame
  rcases frame.buffer with data | -
  · dsimp only
    rcases sendUncompressedFrame i.shared i.transport with e | frameId
    · exact ⟨rfl, rfl⟩
    · exact ⟨rfl, rfl⟩
  · exact ⟨rfl, rfl⟩

theorem countsDrop_sendDamage (tight : List UInt8) (rowBytes : ℕ) (damage : DamageRegion) :
    CountsDrop p (sendDamage p tight rowBytes damage i) := by
  unfold sendDamage
  rcases compactBgraRegion tight rowBytes damage with - | compact
  · exact ⟨rfl, rfl⟩
  dsimp only
  split_ifs
  · exact ⟨rfl, rfl⟩
  · exact ⟨rfl, rfl⟩
  generalize sendPlanarFrame i.shared i.transport _ = answer
  rcases answer with - | e | ⟨frameId, pixels⟩
  · exact ⟨rfl, rfl⟩
  · exact ⟨rfl, rfl⟩
  · exact ⟨rfl, rfl⟩

theorem countsDrop_planarFrame : CountsDrop p (planarFrame p frame i) := by
  unfold planarFrame
  split_ifs
  · exact ⟨rfl, rfl⟩
  -- a stream that was stalled only loses its reference
  all_goals
    rcases frame.buffer with data | -
    · dsimp only
      split_ifs
      · exact ⟨rfl, rfl⟩
      generalize planarDamage _ frame _ = damage
      rcases damage with - | ⟨detector, regions⟩
      · exact ⟨rfl, rfl⟩
      dsimp only
      rcases boundingDamageRegion regions frame.width frame.height with - | damage
      · exact ⟨rfl, rfl⟩
      · refine CountsDrop.of_sameCounts (p := p) ?_ (countsDrop_sendDamage _ i _ _ damage)
        exact ⟨rfl, rfl⟩
    · exact ⟨rfl, rfl⟩

theorem sameCounts_applyStress : SameCounts p (p.applyStress i) := by
  unfold applyStress
  generalize hq : (if i.stressTriggers = true then
    { p with videoEncoder := p.videoEncoder.map VideoEncoder.requestIdr } else p) = q
  have hsame : SameCounts p q := hq ▸ SameCounts.ite ⟨rfl, rfl⟩ ⟨rfl, rfl⟩
  dsimp only
  split
  · exact hsame.trans ⟨rfl, rfl⟩
  · exact hsame

theorem sameCounts_prepare : SameCounts p (p.prepare i).1 :=
  (sameCounts_applyStress p i).trans (SameCounts.ite ⟨rfl, rfl⟩ ⟨rfl, rfl⟩)

theorem sameCounts_initAvc : SameCounts p (initAvc cfg p frame i) :=
  SameCounts.ite ⟨rfl, rfl⟩ ⟨rfl, rfl⟩

theorem sameCounts_initPlanar : SameCounts p (initPlanar p i) :=
  SameCounts.ite ⟨rfl, rfl⟩ ⟨rfl, rfl⟩

theorem countsDrop_avcBranch (needsInit : Bool) :
    CountsDrop p (avcBranch platform cfg p needsInit frame i) := by
  unfold avcBranch
  generalize hq : (if needsInit = true then initAvc cfg p frame i else p) = q
  have hsame : SameCounts p q :=
    hq ▸ SameCounts.ite (sameCounts_initAvc cfg p frame i) ⟨rfl, rfl⟩
  refine .of_sameCounts hsame ?_
  dsimp only
  rcases q.videoEncoder with - | enc
  · rcases q.egfxSender with - | -
    · exact ⟨rfl, rfl⟩
    · exact countsDrop_uncompressedFrame q frame i
  · rcases q.egfxSender with - | -
    · exact ⟨rfl, rfl⟩
    · exact countsDrop_avcFrame platform cfg q frame i enc

theorem countsDrop_planarBranch (needsInit : Bool) :
    CountsDrop p (planarBranch p needsInit frame i) := by
  unfold planarBranch
  generalize hq : (if needsInit = true then initPlanar p i else p) = q
  have hsame : SameCounts p q := hq ▸ SameCounts.ite (sameCounts_initPlanar p i) ⟨rfl, rfl⟩
  refine .of_sameCounts hsame ?_
  dsimp only
  split_ifs
  · exact countsDrop_planarFrame q frame i
  · exact ⟨rfl, rfl⟩

theorem countsDrop_fallbackBranch (needsInit : Bool) :
    CountsDrop p (fallbackBranch p needsInit frame i) := by
  unfold fallbackBranch
  generalize hq : (if (needsInit && i.surfaceCreated) = true then p.surfaceReady else p) = q
  have hsame : SameCounts p q := hq ▸ SameCounts.ite ⟨rfl, rfl⟩ ⟨rfl, rfl⟩
  refine .of_sameCounts hsame ?_
  dsimp only
  split_ifs
  · exact countsDrop_uncompressedFrame q frame i
  · exact ⟨rfl, rfl⟩

/-- **A frame that has passed the gate** is counted as dropped exactly if it is
given up. -/
theorem countsDrop_dispatch : CountsDrop p (dispatch platform cfg p frame i) := by
  unfold dispatch
  have hprepare := sameCounts_prepare p i
  generalize p.prepare i = prepared at hprepare ⊢
  obtain ⟨q, needsInit⟩ := prepared
  dsimp only
  generalize hr : (if (needsInit && !(!q.egfxGateBypassed && i.isAvcSupported) &&
    !(!q.egfxGateBypassed && i.isEgfxReady .setup)) = true then
      { q with egfxNeedsInit := false } else q) = r
  have hsame : SameCounts p r := hprepare.trans (hr ▸ SameCounts.ite ⟨rfl, rfl⟩ ⟨rfl, rfl⟩)
  refine .of_sameCounts hsame ?_
  split_ifs
  · exact countsDrop_avcBranch platform cfg r frame i needsInit
  · exact countsDrop_planarBranch r frame i needsInit
  · exact countsDrop_fallbackBranch r frame i needsInit
  · exact ⟨rfl, rfl⟩

/-- The counters a new client starts from, or the old ones. -/
structure StartsFrom (fresh : Bool) (p q : Pipeline) : Prop where
  sent : q.framesSent = if fresh then 0 else p.framesSent
  dropped : q.framesDropped = if fresh then 0 else p.framesDropped

theorem acquireFrame_counts :
    StartsFrom (i.clientActive && !p.wasClientActive) p (p.acquireFrame i).1 := by
  unfold acquireFrame
  -- without a frame the loop may fall back on the cached one
  rcases i.received with - | f
  · dsimp only
    generalize hq : (if (!i.clientActive) = true then { p with wasClientActive := false }
      else if (!p.wasClientActive) = true then p.resetForClient else p) = q
    have hstart : StartsFrom (i.clientActive && !p.wasClientActive) p q := by
      subst hq
      -- the counts are reset when the client comes back
      rcases i.clientActive with - | -
      · exact ⟨rfl, rfl⟩
      · rcases hwas : p.wasClientActive with - | -
        · exact ⟨rfl, rfl⟩
        · exact ⟨rfl, rfl⟩
    split_ifs
    · rcases q.cachedFrame with - | f
      · exact hstart
      · exact hstart
    · exact hstart
  · -- with a frame it is cached, and may end a resize
    dsimp only
    generalize hq : (if p.pendingResize = true then
        { p with
          cachedFrame := some f, firstFrameReceived := true
          pendingResize := false, egfxNeedsInit := true }
      else { p with cachedFrame := some f, firstFrameReceived := true }) = q
    have hsame : SameCounts p q := hq ▸ SameCounts.ite ⟨rfl, rfl⟩ ⟨rfl, rfl⟩
    have hwas : q.wasClientActive = p.wasClientActive := by
      subst hq
      split_ifs
      · rfl
      · rfl
    rcases i.clientActive with - | -
    · exact ⟨hsame.sent, hsame.dropped⟩
    · simp only [Bool.not_true, Bool.false_eq_true, if_false, Bool.true_and, hwas]
      rcases p.wasClientActive with - | -
      · exact ⟨rfl, rfl⟩
      · exact ⟨hsame.sent, hsame.dropped⟩

/-- Pacing, orientation and the gate: `frames_sent` counts a frame that gets to
the gate, and `frames_dropped` one that does not get past it. -/
structure CountsFrame (processes : Bool) (p : Pipeline) (r : Pipeline × Except Exit VideoFrame) :
    Prop where
  sent : r.1.framesSent = p.framesSent + processes.toNat
  dropped : r.1.framesDropped = p.framesDropped +
    (match r.2 with
      | .error exit => processes && exit.dropped
      | .ok _ => false).toNat
  passed : ∀ frame, r.2 = .ok frame → processes = true

theorem admitFrame_counts :
    CountsFrame (i.shouldProcess && match orient cfg frame with | .error _ => false | .ok _ => true)
      p (admitFrame cfg p frame i) := by
  unfold admitFrame
  rcases i.shouldProcess with - | -
  · exact ⟨rfl, rfl, fun _ h => nomatch h⟩
  rcases orient cfg frame with exit | frame'
  · exact ⟨rfl, rfl, fun _ h => nomatch h⟩
  dsimp only
  by_cases hgate : (!p.egfxGateBypassed && !i.isEgfxReady .gate) = true
  · by_cases htimeout : (p.firstFrameReceived && i.gateTimedOut) = true
    · rw [if_neg (by decide), if_pos hgate, if_pos htimeout]
      exact ⟨rfl, rfl, fun _ _ => rfl⟩
    · rw [if_neg (by decide), if_pos hgate, if_neg htimeout]
      exact ⟨rfl, rfl, fun _ h => nomatch h⟩
  · rw [if_neg (by decide), if_neg hgate]
    exact ⟨rfl, rfl, fun _ _ => rfl⟩

/-- **Up to the gate.** -/
theorem frontEnd_counts :
    ∃ q, StartsFrom (p.resetsCounters i) p q ∧
      CountsFrame (p.processes cfg i) q (frontEnd cfg p i) := by
  unfold frontEnd processes resetsCounters
  rcases i.resize with - | created
  · have hcounts := acquireFrame_counts p i
    rcases hq : p.acquireFrame i with ⟨q, exit | frame⟩
    all_goals rw [hq] at hcounts
    · exact ⟨q, hcounts, rfl, rfl, fun _ h => nomatch h⟩
    · exact ⟨q, hcounts, admitFrame_counts cfg q frame i⟩
  · rcases created with - | -
    · exact ⟨p, ⟨rfl, rfl⟩, rfl, rfl, fun _ h => nomatch h⟩
    · exact ⟨p, ⟨rfl, rfl⟩, rfl, rfl, fun _ h => nomatch h⟩

end Counts

/-! ### The loop with its detector -/

/-- A window that was closed: what the detector made of it, and what it should
have been judged by. -/
structure WindowReport where
  eval : StressIdrEval
  totalInWindow : ℕ
  cooldownElapsedMs : ℕ
  msSinceLastIdr : ℕ
  /-- frames worked on since the window was opened -/
  processed : ℕ
  /-- frames given up since the window was opened -/
  dropped : ℕ
  /-- the counters were reset in the meantime, and that made a difference -/
  skewed : Bool

/-- The loop with its detector, and what a reader of its counters would know. -/
structure StressLoop where
  pipe : Pipeline
  detector : StressDetector
  processed : ℕ
  dropped : ℕ
  skewed : Bool
  reports : List WindowReport

/-- An iteration of the loop, or what a client does to the connection. -/
inductive StressEvent
  | iterate (i : Iteration) (clock : StressClock)
  /-- another client connects -/
  | connect
  /-- the client advertises its capabilities again -/
  | readvertise

namespace StressLoop

variable (platform : Platform) (cfg : PipelineConfig)

/-- The counters are reset, and not from zero to zero. -/
def resetSkews (s : StressLoop) (i : Iteration) : Bool :=
  s.pipe.resetsCounters i &&
    !(s.pipe.framesSent == 0 && s.pipe.framesDropped == 0 &&
      s.detector.windowSentAtStart == 0 && s.detector.windowDroppedAtStart == 0)

/-- The iteration ends before its frame gets to the detector, if it has one. -/
def endedEarly (s : StressLoop) (i : Iteration) (p : Pipeline) (exit : Exit) : StressLoop :=
  let processes := s.pipe.processes cfg i
  { s with
    pipe := p
    processed := s.processed + processes.toNat
    dropped := s.dropped + (processes && exit.dropped).toNat
    skewed := s.skewed || s.resetSkews i }

/-- The report of the window, if it closes at this frame. -/
def report (s : StressLoop) (p : Pipeline) (clock : StressClock) : WindowReport where
  eval := s.detector.evaluate p clock
  totalInWindow := s.detector.droppedInWindow p + s.detector.sentInWindow p
  cooldownElapsedMs := StressDetector.elapsedMs s.detector.lastTrigger clock.now
  msSinceLastIdr := StressDetector.msSinceLastIdr p clock
  processed := s.processed
  dropped := s.dropped
  skewed := s.skewed

/-- A new window is opened. -/
def reopen (s : StressLoop) : StressLoop :=
  { s with processed := 0, dropped := 0, skewed := false }

/-- The detector at a frame that is worked on, in state `p` of the loop. -/
def observed (s : StressLoop) (p : Pipeline) (clock : StressClock) : StressLoop :=
  let detector := (s.detector.observe p clock).1
  if s.detector.closes p clock then
    { s with detector := detector, reports := s.reports ++ [s.report p clock] }.reopen
  else { s with detector := detector }

/-- The client has advertised its capabilities anew. -/
def restarted (s : StressLoop) (p : Pipeline) (clock : StressClock) : StressLoop :=
  if p.needsFullReinit then { s with detector := s.detector.restart p clock }.reopen else s

/-- The loop takes its inputs from the detector. -/
def withStress (s : StressLoop) (p : Pipeline) (i : Iteration) (clock : StressClock) : Iteration :=
  { i with
    stressTriggers := (s.detector.observe p clock).2.1
    stressAuxInterval := (s.detector.observe p clock).2.2 }

/-- One iteration. -/
def next (s : StressLoop) (i : Iteration) (clock : StressClock) : StressLoop :=
  match frontEnd cfg s.pipe i with
  | (p, .error exit) => s.endedEarly cfg i p exit
  | (p, .ok frame) =>
      let s₁ := { s with
        processed := s.processed + 1
        skewed := s.skewed || s.resetSkews i }
      let r := dispatch platform cfg p frame (s.withStress p i clock)
      let s₂ := (s₁.observed p clock).restarted p clock
      { s₂ with pipe := r.1, dropped := s₂.dropped + r.2.dropped.toNat }

/-- The loop after an event. -/
def step (s : StressLoop) : StressEvent → StressLoop
  | .iterate i clock => s.next platform cfg i clock
  | .connect => { s with pipe.egfxNeedsInit := true }
  | .readvertise => { s with pipe.needsFullReinit := true }

/-- The loop starts. -/
def init (detector : Option DamageDetector) (now lastTrigger : ℕ) : StressLoop where
  pipe := .start detector
  detector := .start now lastTrigger
  processed := 0
  dropped := 0
  skewed := false
  reports := []

/-- `next` is the iteration of the loop, with the inputs the detector computes. -/
theorem next_pipe (s : StressLoop) (i : Iteration) (clock : StressClock) :
    ∃ stressTriggers stressAuxInterval, (s.next platform cfg i clock).pipe
      = (iterate platform cfg s.pipe { i with
          stressTriggers := stressTriggers, stressAuxInterval := stressAuxInterval }).1 := by
  have hfront : ∀ triggers interval, frontEnd cfg s.pipe { i with
      stressTriggers := triggers, stressAuxInterval := interval } = frontEnd cfg s.pipe i :=
    fun _ _ => rfl
  unfold next iterate
  simp only [hfront]
  rcases frontEnd cfg s.pipe i with ⟨p, exit | frame⟩
  · exact ⟨false, none, rfl⟩
  · exact ⟨_, _, rfl⟩

end StressLoop

/-! ### What a window is judged by -/

/-- The detector had the true drop rate, and if nothing else held it back it
asked for an IDR exactly if more than half of the frames were dropped. -/
structure WindowReport.Truthful (r : WindowReport) : Prop where
  dropRate : r.eval.dropRate = r.dropped / r.processed
  triggers : 5 ≤ r.totalInWindow → StressDetector.cooldownMs < r.cooldownElapsedMs →
    StressDetector.minIdrGapMs < r.msSinceLastIdr →
    (r.eval.shouldTrigger = true ↔ r.processed < 2 * r.dropped)

/-- What a report says of its window. -/
structure WindowReport.Judged (r : WindowReport) : Prop where
  /-- without drops, the judgement is right -/
  quiet : r.dropped = 0 → r.Truthful
  /-- otherwise it is wrong, and no IDR is asked for, unless the counters were reset -/
  busy : r.skewed = false → (r.Truthful → r.dropped = 0) ∧ r.eval.shouldTrigger = false

section Judgement

variable {droppedInWindow sentInWindow cooldownElapsedMs msSinceLastIdr : ℕ}

/-- The rate of a window without drops. -/
theorem evaluate_quiet (sentInWindow cooldownElapsedMs cooldownMs msSinceLastIdr minIdrGapMs : ℕ) :
    evaluateStressIdrTrigger 0 sentInWindow StressDetector.dropRateThreshold cooldownElapsedMs
      cooldownMs msSinceLastIdr minIdrGapMs = ⟨false, 0⟩ := by
  have hrate : (if 0 + sentInWindow > 0 then ((0 : ℕ) : ℚ) / ((0 + sentInWindow : ℕ) : ℚ) else 0)
      = 0 := by
    rw [Nat.cast_zero, zero_div, ite_self]
  have hlow : decide ((0 : ℚ) > StressDetector.dropRateThreshold) = false := by
    refine decide_eq_false ?_
    norm_num [StressDetector.dropRateThreshold]
  simp only [evaluateStressIdrTrigger, hrate, hlow, Bool.false_and]

/-- Frames that are counted as processed and, when dropped, once more: the rate
is at most a half. -/
theorem evaluate_le_half (hle : droppedInWindow ≤ sentInWindow)
    (cooldownElapsedMs cooldownMs msSinceLastIdr minIdrGapMs : ℕ) :
    (evaluateStressIdrTrigger droppedInWindow sentInWindow StressDetector.dropRateThreshold
      cooldownElapsedMs cooldownMs msSinceLastIdr minIdrGapMs).shouldTrigger = false := by
  have hrate : (if droppedInWindow + sentInWindow > 0 then
      (droppedInWindow : ℚ) / ((droppedInWindow + sentInWindow : ℕ) : ℚ) else 0) ≤ 1 / 2 := by
    split_ifs with hpos
    · have hcast : (droppedInWindow : ℚ) ≤ sentInWindow := by exact_mod_cast hle
      have hpos' : (0 : ℚ) < ((droppedInWindow + sentInWindow : ℕ) : ℚ) := by exact_mod_cast hpos
      rw [div_le_iff₀ hpos']
      push_cast
      linarith
    · norm_num
  have hlow : decide ((if droppedInWindow + sentInWindow > 0 then
      (droppedInWindow : ℚ) / ((droppedInWindow + sentInWindow : ℕ) : ℚ) else 0)
      > StressDetector.dropRateThreshold) = false :=
    decide_eq_false (not_lt.mpr hrate)
  simp only [evaluateStressIdrTrigger, hlow, Bool.false_and]

/-- Counted so, the rate is the drop rate only if it is 0. -/
theorem rate_ne (hpos : 0 < droppedInWindow) (hle : droppedInWindow ≤ sentInWindow)
    (cooldownElapsedMs cooldownMs msSinceLastIdr minIdrGapMs : ℕ) :
    (evaluateStressIdrTrigger droppedInWindow sentInWindow StressDetector.dropRateThreshold
      cooldownElapsedMs cooldownMs msSinceLastIdr minIdrGapMs).dropRate
      ≠ droppedInWindow / sentInWindow := by
  have hd : (0 : ℚ) < droppedInWindow := by exact_mod_cast hpos
  have hp : (0 : ℚ) < sentInWindow := by exact_mod_cast (lt_of_lt_of_le hpos hle)
  have hrate : (evaluateStressIdrTrigger droppedInWindow sentInWindow
      StressDetector.dropRateThreshold cooldownElapsedMs cooldownMs msSinceLastIdr
      minIdrGapMs).dropRate
      = (droppedInWindow : ℚ) / ((droppedInWindow + sentInWindow : ℕ) : ℚ) :=
    if_pos (Nat.add_pos_left hpos sentInWindow)
  rw [hrate]
  push_cast
  refine ne_of_lt ?_
  exact div_lt_div_of_pos_left hd hp (by linarith)

end Judgement

namespace StressLoop

/-- The counters of the loop in state `p` and the frames of the open window: the
counters never show more drops than there were, and as long as they were not
reset they show what there was since the window was opened. -/
structure Consistent (p : Pipeline) (s : StressLoop) : Prop where
  bounded : p.framesDropped ≤ s.detector.windowDroppedAtStart + s.dropped
  exact : s.skewed = false →
    p.framesDropped = s.detector.windowDroppedAtStart + s.dropped ∧
      p.framesSent = s.detector.windowSentAtStart + s.processed

/-- A window that has just been opened at the counters of the loop. -/
theorem Consistent.opened {p : Pipeline} {s : StressLoop}
    (hdropped : s.detector.windowDroppedAtStart = p.framesDropped)
    (hsent : s.detector.windowSentAtStart = p.framesSent) : Consistent p s.reopen :=
  ⟨hdropped.ge, fun _ => ⟨hdropped.symm, hsent.symm⟩⟩

/-- What the detector says of a window. -/
theorem Consistent.judged {p : Pipeline} {s : StressLoop} (h : Consistent p s)
    (hle : s.dropped ≤ s.processed) (clock : StressClock) : (s.report p clock).Judged := by
  constructor
  · -- a window without drops is not judged a stress
    intro hquiet
    replace hquiet : s.dropped = 0 := hquiet
    have hzero : s.detector.droppedInWindow p = 0 := by
      have hbounded := h.bounded
      unfold StressDetector.droppedInWindow
      omega
    have heval : (s.report p clock).eval = ⟨false, 0⟩ := by
      show s.detector.evaluate p clock = _
      rw [StressDetector.evaluate, hzero]
      exact evaluate_quiet _ _ _ _ _
    have hdropped : (s.report p clock).dropped = 0 := hquiet
    constructor
    · rw [heval, hdropped, Nat.cast_zero, zero_div]
    · intro _ _ _
      rw [heval, hdropped]
      exact ⟨fun hno => Bool.noConfusion hno, fun hno => absurd hno (Nat.not_lt_zero _)⟩
  · -- without skew the counts of the window are the numbers dropped and processed
    intro hskew
    obtain ⟨hd, hp⟩ := h.exact hskew
    have hd' : s.detector.droppedInWindow p = s.dropped := by
      unfold StressDetector.droppedInWindow
      omega
    have hp' : s.detector.sentInWindow p = s.processed := by
      unfold StressDetector.sentInWindow
      omega
    have heval : (s.report p clock).eval = evaluateStressIdrTrigger s.dropped s.processed
        StressDetector.dropRateThreshold (StressDetector.elapsedMs s.detector.lastTrigger clock.now)
        StressDetector.cooldownMs (StressDetector.msSinceLastIdr p clock)
        StressDetector.minIdrGapMs := by
      show s.detector.evaluate p clock = _
      rw [StressDetector.evaluate, hd', hp']
    refine ⟨fun htrue => ?_, ?_⟩
    · -- with drops the two rates differ
      by_contra hbusy
      have hrate := htrue.dropRate
      rw [heval] at hrate
      exact rate_ne (Nat.pos_of_ne_zero hbusy) hle _ _ _ _ hrate
    · rw [heval]
      exact evaluate_le_half hle _ _ _ _

/-- The window the detector has after a frame. -/
theorem observe_window (w : StressDetector) (p : Pipeline) (clock : StressClock) :
    (w.observe p clock).1.windowDroppedAtStart
        = (if w.closes p clock then p.framesDropped else w.windowDroppedAtStart) ∧
      (w.observe p clock).1.windowSentAtStart
        = (if w.closes p clock then p.framesSent else w.windowSentAtStart) := by
  unfold StressDetector.observe
  rcases w.closes p clock with - | -
  · exact ⟨rfl, rfl⟩
  · exact ⟨rfl, rfl⟩

/-- What holds between iterations: a frame counts as processed before it is
dropped, so that a window has at most the drop of the frame at which it was
opened too many. -/
structure Inv (s : StressLoop) : Prop where
  consistent : Consistent s.pipe s
  balance : s.dropped ≤ s.processed + 1
  judged : ∀ r ∈ s.reports, r.Judged

/-- The detector at a frame. -/
theorem observed_inv {p : Pipeline} {s : StressLoop} (h : Consistent p s)
    (hle : s.dropped ≤ s.processed) (hjudged : ∀ r ∈ s.reports, r.Judged) (clock : StressClock) :
    Consistent p (s.observed p clock) ∧
      (s.observed p clock).dropped ≤ (s.observed p clock).processed ∧
      ∀ r ∈ (s.observed p clock).reports, r.Judged := by
  obtain ⟨hwd, hws⟩ := observe_window s.detector p clock
  unfold observed
  rcases hclose : s.detector.closes p clock with - | -
  · rw [hclose] at hwd hws
    refine ⟨⟨?_, fun hskew => ?_⟩, hle, hjudged⟩
    · exact hwd.symm ▸ h.bounded
    · exact ⟨hwd.symm ▸ (h.exact hskew).1, hws.symm ▸ (h.exact hskew).2⟩
  · rw [hclose] at hwd hws
    refine ⟨Consistent.opened hwd hws, Nat.le_refl 0, ?_⟩
    intro r hr
    rcases List.mem_append.mp hr with hr | hr
    · exact hjudged r hr
    · obtain rfl := List.mem_singleton.mp hr
      exact h.judged hle clock

theorem restarted_inv {p : Pipeline} {s : StressLoop} (h : Consistent p s)
    (hle : s.dropped ≤ s.processed) (hjudged : ∀ r ∈ s.reports, r.Judged) (clock : StressClock) :
    Consistent p (s.restarted p clock) ∧
      (s.restarted p clock).dropped ≤ (s.restarted p clock).processed ∧
      ∀ r ∈ (s.restarted p clock).reports, r.Judged := by
  unfold restarted
  rcases p.needsFullReinit with - | -
  · exact ⟨h, hle, hjudged⟩
  · exact ⟨Consistent.opened rfl rfl, Nat.le_refl 0, hjudged⟩

/-- The counters after the reset for a new client, if there is one. -/
theorem Inv.startsFrom {s : StressLoop} (h : s.Inv) (i : Iteration) {q : Pipeline}
    (hq : StartsFrom (s.pipe.resetsCounters i) s.pipe q) :
    Consistent q { s with skewed := s.skewed || s.resetSkews i } := by
  obtain ⟨hbounded, hexact⟩ := h.consistent
  rcases hreset : s.pipe.resetsCounters i with - | -
  · rw [hreset] at hq
    have hsent : q.framesSent = s.pipe.framesSent := hq.sent
    have hdropped : q.framesDropped = s.pipe.framesDropped := hq.dropped
    refine ⟨hdropped.symm ▸ hbounded, fun hskew => ?_⟩
    obtain ⟨hskew, -⟩ := Bool.or_eq_false_iff.mp hskew
    rw [hsent, hdropped]
    exact hexact hskew
  · rw [hreset] at hq
    have hsent : q.framesSent = 0 := hq.sent
    have hdropped : q.framesDropped = 0 := hq.dropped
    refine ⟨hdropped.symm ▸ Nat.zero_le _, fun hskew => ?_⟩
    -- a reset that changes nothing
    obtain ⟨hskew, hzero⟩ := Bool.or_eq_false_iff.mp hskew
    obtain ⟨hd, hs⟩ := hexact hskew
    simp only [resetSkews, hreset, Bool.true_and, Bool.not_eq_false', Bool.and_eq_true,
      beq_iff_eq] at hzero
    obtain ⟨⟨⟨hs₀, hd₀⟩, hws₀⟩, hwd₀⟩ := hzero
    show q.framesDropped = s.detector.windowDroppedAtStart + s.dropped ∧
      q.framesSent = s.detector.windowSentAtStart + s.processed
    omega

variable (platform : Platform) (cfg : PipelineConfig)

theorem next_inv {s : StressLoop} (h : s.Inv) (i : Iteration) (clock : StressClock) :
    (s.next platform cfg i clock).Inv := by
  obtain ⟨q, hstart, hcounts⟩ := frontEnd_counts cfg s.pipe i
  obtain ⟨hbounded, hexact⟩ := h.startsFrom i hstart
  have hbalance := h.balance
  unfold next
  rcases hfront : frontEnd cfg s.pipe i with ⟨p, exit | frame⟩
  · -- the frame, if there is one, ends at the gate
    rw [hfront] at hcounts
    have hsent : p.framesSent = q.framesSent + (s.pipe.processes cfg i).toNat := hcounts.sent
    have hdropped : p.framesDropped = q.framesDropped +
        (s.pipe.processes cfg i && exit.dropped).toNat := hcounts.dropped
    refine ⟨⟨?_, fun hskew => ?_⟩, ?_, h.judged⟩
    · show p.framesDropped ≤ s.detector.windowDroppedAtStart +
        (s.dropped + (s.pipe.processes cfg i && exit.dropped).toNat)
      have hb : q.framesDropped ≤ s.detector.windowDroppedAtStart + s.dropped := hbounded
      omega
    · obtain ⟨hd, hs⟩ := hexact hskew
      show p.framesDropped = s.detector.windowDroppedAtStart +
          (s.dropped + (s.pipe.processes cfg i && exit.dropped).toNat) ∧
        p.framesSent = s.detector.windowSentAtStart +
          (s.processed + (s.pipe.processes cfg i).toNat)
      have hd' : q.framesDropped = s.detector.windowDroppedAtStart + s.dropped := hd
      have hs' : q.framesSent = s.detector.windowSentAtStart + s.processed := hs
      omega
    · show s.dropped + (s.pipe.processes cfg i && exit.dropped).toNat
        ≤ s.processed + (s.pipe.processes cfg i).toNat + 1
      rcases s.pipe.processes cfg i with - | -
      · simpa using hbalance
      · have hle := Bool.toNat_le (true && exit.dropped)
        simp only [Bool.toNat_true]
        omega
  · rw [hfront] at hcounts
    have hproc : s.pipe.processes cfg i = true := hcounts.passed frame rfl
    rw [hproc] at hcounts
    have hsent : p.framesSent = q.framesSent + 1 := hcounts.sent
    have hdropped : p.framesDropped = q.framesDropped := hcounts.dropped
    have hmid : Consistent p { s with
        processed := s.processed + 1, skewed := s.skewed || s.resetSkews i } := by
      refine ⟨hdropped.symm ▸ hbounded, fun hskew => ?_⟩
      obtain ⟨hd, hs⟩ := hexact hskew
      refine ⟨hdropped.trans hd, ?_⟩
      rw [hsent, hs]
      rfl
    obtain ⟨hobs, hobsle, hobsj⟩ := observed_inv hmid hbalance h.judged clock
    obtain ⟨hres, hresle, hresj⟩ := restarted_inv hobs hobsle hobsj clock
    have hdispatch := countsDrop_dispatch platform cfg p frame (s.withStress p i clock)
    dsimp only
    generalize dispatch platform cfg p frame (s.withStress p i clock) = r at hdispatch ⊢
    obtain ⟨hsent', hdropped'⟩ := hdispatch
    refine ⟨⟨?_, fun hskew => ?_⟩, ?_, hresj⟩
    · show r.1.framesDropped ≤ _ + (_ + r.2.dropped.toNat)
      rw [hdropped', ← Nat.add_assoc]
      exact Nat.add_le_add_right hres.bounded _
    · obtain ⟨hd, hs⟩ := hres.exact hskew
      refine ⟨?_, hsent'.trans hs⟩
      show r.1.framesDropped = _ + (_ + r.2.dropped.toNat)
      rw [hdropped', hd, Nat.add_assoc]
    · have hle := Bool.toNat_le r.2.dropped
      show _ + r.2.dropped.toNat ≤ _ + 1
      exact Nat.add_le_add hresle hle

theorem step_inv {s : StressLoop} (h : s.Inv) (e : StressEvent) :
    (s.step platform cfg e).Inv := by
  cases e with
  | iterate i clock => exact next_inv platform cfg h i clock
  | connect => exact ⟨⟨h.consistent.bounded, h.consistent.exact⟩, h.balance, h.judged⟩
  | readvertise => exact ⟨⟨h.consistent.bounded, h.consistent.exact⟩, h.balance, h.judged⟩

theorem inv_init (detector : Option DamageDetector) (now lastTrigger : ℕ) :
    (init detector now lastTrigger).Inv :=
  ⟨⟨Nat.le_refl 0, fun _ => ⟨rfl, rfl⟩⟩, Nat.zero_le _, fun _ hr => nomatch hr⟩

theorem run_inv (detector : Option DamageDetector) (now lastTrigger : ℕ)
    (es : List StressEvent) :
    (es.foldl (step platform cfg) (init detector now lastTrigger)).Inv := by
  induction es using List.reverseRecOn with
  | nil => exact inv_init detector now lastTrigger
  | append_singleton es e ih =>
      rw [List.foldl_append]
      exact step_inv platform cfg ih e

end StressLoop

/-- A frame at this second of the session, which has a surface and is throttled. -/
def StressEvent.throttled (second : ℕ) : StressEvent :=
  .iterate { Iteration.smooth (some (.tight 16 16 [])) with throttle := true }
    ⟨second * 10 ^ 9, second * 10 ^ 9, second * 10 ^ 9⟩

/-- A frame for which no surface can be set up, so that it goes out as a bitmap. -/
def StressEvent.bitmap (second : ℕ) : StressEvent :=
  .iterate { Iteration.smooth (some (.tight 16 16 [])) with surfaceCreated := false }
    ⟨second * 10 ^ 9, second * 10 ^ 9, second * 10 ^ 9⟩

/-- A frame while no client is there. -/
def StressEvent.unseen (second : ℕ) : StressEvent :=
  .iterate { Iteration.smooth (some (.tight 16 16 [])) with clientActive := false }
    ⟨second * 10 ^ 9, second * 10 ^ 9, second * 10 ^ 9⟩

/-- Six of seven frames dropped in one second. -/
def busySecond : List StressEvent :=
  List.replicate 6 (.throttled 100) ++ [.throttled 101]

/-- Ten frames for one client; then another one, with ten frames of which the
last five are dropped. -/
def nextClient : List StressEvent :=
  List.replicate 9 (.bitmap 100) ++ [.bitmap 101, .unseen 101] ++
    List.replicate 5 (.bitmap 101) ++ List.replicate 5 (.throttled 101) ++ [.throttled 102]

end LamcoRdp
