/-
LamcoRdp/Egfx/FlowController.lean

The EGFX flow controller (`egfx/flow_controller.rs`): a three-state machine
that stops the encoder while the client is behind on acknowledgements.

    Inactive (slots = ∞)  --  n_unacked >= activate_th  -->  Active (slots = 0)
    Active                --  threshold fell            -->  ActiveLoweringLatency
    either                --  n_unacked < deactivate_th -->  Inactive

Times are natural numbers of nanoseconds; an `Instant` counts from the
earliest instant the platform can represent, so `checked_sub` is `none` exactly
below zero.  The code reads the clock more than once in a call (on entry, in
`effective_rtt`, in `rates`); `Clock` carries the three readings of one call.

The counters are `u64`: an entry into throttling is counted with
`saturating_add`, an exit by `clear_all_unacked` with `+= 1`.
-/
import Mathlib.Data.List.Basic
import Mathlib.Algebra.Order.Group.Nat
import Mathlib.Algebra.GroupWithZero.Nat

namespace LamcoRdp

/-- `u32::MAX`. -/
def u32Max : ℕ := 2 ^ 32 - 1

/-- `u64::MAX`. -/
def u64Max : ℕ := 2 ^ 64 - 1

/-- `u64::saturating_add`. -/
def satAddU64 (a b : ℕ) : ℕ := min (a + b) u64Max

/-- `u64::saturating_mul`. -/
def satMulU64 (a b : ℕ) : ℕ := min (a * b) u64Max

/-- `u32::saturating_add`. -/
def satAddU32 (a b : ℕ) : ℕ := min (a + b) u32Max

/-! ### Constants (times in nanoseconds) -/

/-- `UNLIMITED_FRAME_SLOTS`: no pacing limit. -/
def unlimitedFrameSlots : ℕ := u32Max

/-- `RTT_AVG_WINDOW`, 500 ms. -/
def rttAvgWindow : ℕ := 500 * 1000000

/-- `RATE_WINDOW`, 1000 ms. -/
def rateWindow : ℕ := 1000 * 1000000

/-- `MAX_FRAME_HISTORY`. -/
def maxFrameHistory : ℕ := 240

/-- `RTT_CLAMP`, 2 s. -/
def rttClamp : ℕ := 2 * 1000000000

/-! ### Data -/

/-- Position of the state machine. -/
inductive ThrottlingState
  | inactive | active | activeLoweringLatency
  deriving DecidableEq, Repr

/-- One frame handed to the transport. -/
structure FrameRecord where
  frameId : ℕ
  encodedAt : ℕ
  ackedAt : Option ℕ
  nSubframes : ℕ
  deriving DecidableEq, Repr

/-- `FlowControllerConfig`. -/
structure FlowControllerConfig where
  refreshRate : ℕ
  activateThFloor : ℕ
  deactivateTh : ℕ
  deriving DecidableEq, Repr

/-- `FlowControllerConfig::default`, the configuration `SharedHandlerState::new`
builds its controller with. -/
def FlowControllerConfig.default : FlowControllerConfig :=
  { refreshRate := 30, activateThFloor := 2, deactivateTh := 1 }

/-- The controller.  `autodetectRtt` is the value behind the NetworkAutoDetect
handle, `none` when no handle is wired; `u32::MAX` means not measured yet. -/
structure FlowController where
  config : FlowControllerConfig
  frames : List FrameRecord
  rttSamples : List (ℕ × ℕ)
  avgRtt : ℕ
  state : ThrottlingState
  activateTh : ℕ
  totalFrameSlots : ℕ
  statsThrottleEntries : ℕ
  statsThrottleExits : ℕ
  autodetectRtt : Option ℕ
  deriving DecidableEq, Repr

/-- The clock readings of one call: on entry, in `effective_rtt`, in `rates`. -/
structure Clock where
  entry : ℕ
  rtt : ℕ
  rates : ℕ
  deriving DecidableEq, Repr

/-- `Instant::checked_sub` followed by `unwrap_or(now)`. -/
def windowStart (now window : ℕ) : ℕ :=
  if window ≤ now then now - window else now

namespace FlowController

/-- `FlowController::new`. -/
def new (config : FlowControllerConfig) : FlowController where
  config := config
  frames := []
  rttSamples := []
  avgRtt := 50 * 1000000
  state := .inactive
  activateTh := config.activateThFloor
  totalFrameSlots := unlimitedFrameSlots
  statsThrottleEntries := 0
  statsThrottleExits := 0
  autodetectRtt := none

/-- `unacked_count`: the conversion to `u32` saturates. -/
def unackedCount (fc : FlowController) : ℕ :=
  min (fc.frames.countP fun f => f.ackedAt.isNone) u32Max

/-- `should_throttle`. -/
def shouldThrottle (fc : FlowController) : Bool :=
  fc.totalFrameSlots == 0

/-- `autodetect_rtt_ms`. -/
def autodetectRttMs (fc : FlowController) : Option ℕ :=
  fc.autodetectRtt.filter fun rtt => rtt != u32Max

/-- `effective_rtt`: the FrameAck average while its last sample is fresh, else
the NetworkAutoDetect value, else the last average. -/
def effectiveRtt (fc : FlowController) (now : ℕ) : ℕ :=
  let frameackFresh := match fc.rttSamples.getLast? with
    | some (t, _) => decide (now - t < rttAvgWindow)
    | none => false
  if frameackFresh then fc.avgRtt
  else match fc.autodetectRttMs with
    | some rttMs => rttMs * 1000000
    | none => fc.avgRtt

/-- `adaptive_threshold`:
`max(activate_th_floor, min(delayed_frames + 2, refresh_rate))`. -/
def adaptiveThreshold (fc : FlowController) (now : ℕ) : ℕ :=
  let rtt := min (fc.effectiveRtt now) rttClamp
  let rttUs := rtt / 1000
  let delayedFrames := satMulU64 rttUs fc.config.refreshRate / 1000000
  let raw := min (satAddU64 delayedFrames 2) fc.config.refreshRate % 2 ^ 32
  max raw fc.config.activateThFloor

/-- `rates`: frames encoded and frames acknowledged inside the rate window. -/
def rates (fc : FlowController) (now : ℕ) : ℕ × ℕ :=
  let cutoff := windowStart now rateWindow
  let enc := fc.frames.countP fun f => decide (cutoff ≤ f.encodedAt)
  let ack := fc.frames.countP fun f => f.ackedAt.any fun t => decide (cutoff ≤ t)
  (min enc u32Max, min ack u32Max)

/-- `recompute_slots_from_rates`. -/
def recomputeSlotsFromRates (fc : FlowController) (isFromUnack : Bool) (now : ℕ) :
    FlowController :=
  let (encRate, ackRate) := fc.rates now
  let margin := if isFromUnack then 2 else 1
  { fc with
    totalFrameSlots :=
      if encRate > ackRate + (margin - 1) then 0
      else satAddU32 ackRate margin - encRate }

/-- `enter_active`. -/
def enterActive (fc : FlowController) : FlowController :=
  { fc with
    state := .active
    totalFrameSlots := 0
    statsThrottleEntries := satAddU64 fc.statsThrottleEntries 1 }

/-- `exit_to_inactive`. -/
def exitToInactive (fc : FlowController) : FlowController :=
  { fc with
    state := .inactive
    totalFrameSlots := unlimitedFrameSlots
    statsThrottleExits := satAddU64 fc.statsThrottleExits 1 }

/-- Both paths into `ActiveLoweringLatency` set the same two fields. -/
def enterLoweringLatency (fc : FlowController) : FlowController :=
  { fc with state := .activeLoweringLatency, totalFrameSlots := 0 }

/-- The loop of `update_avg_rtt` that drops samples older than the window. -/
def trimSamples (cutoff : ℕ) : List (ℕ × ℕ) → List (ℕ × ℕ)
  | [] => []
  | (t, r) :: rest => if t < cutoff then trimSamples cutoff rest else (t, r) :: rest

/-- `update_avg_rtt`. -/
def updateAvgRtt (fc : FlowController) (now : ℕ) : FlowController :=
  let samples := trimSamples (windowStart now rttAvgWindow) fc.rttSamples
  if samples.isEmpty then { fc with rttSamples := samples }
  else
    let sum := (samples.map Prod.snd).sum
    let denom := min samples.length u32Max
    { fc with rttSamples := samples, avgRtt := sum / max denom 1 }

/-- The overflow loop of `unack_frame`: drop the oldest record while there are
too many. -/
def popOverflow : List FrameRecord → List FrameRecord
  | [] => []
  | f :: rest =>
      if (f :: rest).length > maxFrameHistory then popOverflow rest else f :: rest

/-- The record `unack_frame` appends, with the overflow loop run. -/
def pushFrame (fc : FlowController) (frameId nSubframes now : ℕ) : FlowController :=
  let record : FrameRecord :=
    { frameId := frameId, encodedAt := now, ackedAt := none, nSubframes := nSubframes }
  { fc with frames := popOverflow (fc.frames ++ [record]) }

/-- The state machine of `unack_frame`, run after the record was appended. -/
def advanceOnUnack (fc : FlowController) (clock : Clock) : FlowController :=
  let nUnacked := fc.unackedCount
  let newActivateTh := fc.adaptiveThreshold clock.rtt
  match fc.state with
  | .inactive =>
      let fc := { fc with activateTh := newActivateTh }
      if nUnacked ≥ fc.activateTh then fc.enterActive else fc
  | .active =>
      if newActivateTh < fc.activateTh then fc.enterLoweringLatency
      else
        { fc with activateTh := newActivateTh }.recomputeSlotsFromRates true clock.rates
  | .activeLoweringLatency => fc

/-- `unack_frame`. -/
def unackFrame (fc : FlowController) (frameId nSubframes : ℕ) (clock : Clock) :
    FlowController :=
  (fc.pushFrame frameId nSubframes clock.entry).advanceOnUnack clock

/-- The search loop of `ack_frame`: mark the first unacked record of this id,
and return its round trip time. -/
def markAcked (frameId now : ℕ) : List FrameRecord → List FrameRecord × Option ℕ
  | [] => ([], none)
  | f :: rest =>
      if f.frameId = frameId ∧ f.ackedAt = none then
        ({ f with ackedAt := some now } :: rest, some (now - f.encodedAt))
      else
        let (rest', found) := markAcked frameId now rest
        (f :: rest', found)

/-- The first half of `ack_frame`: mark the record, and on a hit take its round
trip time into the average. -/
def recordAck (fc : FlowController) (frameId now : ℕ) : FlowController :=
  let (frames, foundRtt) := markAcked frameId now fc.frames
  let fc := { fc with frames := frames }
  match foundRtt with
  | some rtt => { fc with rttSamples := fc.rttSamples ++ [(now, rtt)] }.updateAvgRtt now
  | none => fc

/-- The state machine of `ack_frame`, run after the record was marked. -/
def advanceOnAck (fc : FlowController) (clock : Clock) : FlowController :=
  let nUnacked := fc.unackedCount
  match fc.state with
  | .inactive => fc
  | .active =>
      if nUnacked < fc.config.deactivateTh then fc.exitToInactive
      else
        let newTh := fc.adaptiveThreshold clock.rtt
        if newTh < fc.activateTh then fc.enterLoweringLatency
        else { fc with activateTh := newTh }.recomputeSlotsFromRates false clock.rates
  | .activeLoweringLatency =>
      let newTh := fc.adaptiveThreshold clock.rtt
      if nUnacked < fc.config.deactivateTh then fc.exitToInactive
      else if nUnacked ≤ newTh then
        { fc with state := .active, activateTh := newTh }.recomputeSlotsFromRates false
          clock.rates
      else fc

/-- `ack_frame`. -/
def ackFrame (fc : FlowController) (frameId : ℕ) (clock : Clock) : FlowController :=
  (fc.recordAck frameId clock.entry).advanceOnAck clock

/-- `clear_all_unacked`. -/
def clearAllUnacked (fc : FlowController) : FlowController :=
  { fc with
    frames := []
    rttSamples := []
    statsThrottleExits :=
      if fc.state ≠ .inactive then (fc.statsThrottleExits + 1) % 2 ^ 64
      else fc.statsThrottleExits
    state := .inactive
    activateTh := fc.config.activateThFloor
    totalFrameSlots := unlimitedFrameSlots }

end FlowController

end LamcoRdp
