/-
LamcoRdp/Health/Monitor.lean

The session health monitor.

A paused stream suspends the input and a stream that comes back restores it, if the reason
for its degradation says so.  The suspension takes the place of what was there before: of
every health but a failure, which it leaves alone (`input_after_pause`).  So the input is
after a pause what it was before if it was healthy or failed, and not if it was degraded
for a reason of its own or not applicable: `pause_keeps_input_iff`.

Every event comes with what `client_active` was when it was handled.
-/
import Mathlib.Data.List.Infix

namespace LamcoRdp

/-! ### States and events -/

/-- `SubsystemHealth`. -/
inductive SubsystemHealth
  | healthy
  | degraded (reason : String)
  | failed (reason : String)
  | notApplicable
deriving DecidableEq

namespace SubsystemHealth

/-- `is_healthy`: a subsystem that is not there counts as healthy. -/
def isHealthy : SubsystemHealth → Bool
  | .healthy | .notApplicable => true
  | .degraded _ | .failed _ => false

/-- `is_failed`. -/
def isFailed : SubsystemHealth → Bool
  | .failed _ => true
  | _ => false

/-- Degraded for a reason with these words in it. -/
def degradedFor (words : String) : SubsystemHealth → Bool
  | .degraded reason => decide (words.toList <:+: reason.toList)
  | _ => false

end SubsystemHealth

/-- `OverallHealth`. -/
inductive OverallHealth
  | healthy
  | degraded
  | invalid
  | recovering
deriving DecidableEq

/-- `SessionHealthState`, without the time of the last change. -/
structure SessionHealthState where
  video : SubsystemHealth
  input : SubsystemHealth
  clipboard : SubsystemHealth
  session : SubsystemHealth
  overall : OverallHealth
deriving DecidableEq

/-- `SessionHealthState::default`. -/
def SessionHealthState.default : SessionHealthState :=
  ⟨.healthy, .healthy, .healthy, .healthy, .healthy⟩

/-- `recompute_overall`. -/
def SessionHealthState.recomputeOverall (s : SessionHealthState) : SessionHealthState :=
  if s.session.isFailed then { s with overall := .invalid }
  else if s.video.isFailed || s.input.isFailed then { s with overall := .invalid }
  else if !s.video.isHealthy || !s.input.isHealthy || !s.clipboard.isHealthy ||
      !s.session.isHealthy then { s with overall := .degraded }
  else { s with overall := .healthy }

/-- `VideoStreamState`. -/
inductive VideoStreamState
  | streaming
  | paused
  | error
deriving DecidableEq

/-- `HealthEvent`. -/
inductive HealthEvent
  | sessionClosed (reason : String)
  | sessionInvalidated (reason : String)
  | videoStreamStateChanged (state : VideoStreamState)
  | videoFrameStalled (stallDurationMs : UInt64)
  | videoFrameNeverStarted (elapsedMs : UInt64)
  | videoFrameResumed
  | inputFailed (reason : String) (permanent : Bool)
  | inputRecovered
  | clipboardFailed (reason : String)
  | clipboardRecovered
  | compositorLost (busName : String)
  | eisStreamEnded (reason : String)
  | eisStreamRecovered
  | subsystemNotAvailable (subsystem : String)
  | egfxChannelClosed (reason : String)
  | egfxChannelReady (version : String)
deriving DecidableEq

/-! ### The monitor -/

/-- What the monitor publishes: the state, and the flag that mirrors it. -/
structure SessionHealthMonitor where
  state : SessionHealthState
  sessionValid : Bool

/-- A stream state, on the subsystems. -/
def handleStreamState (clientActive : Bool) (state : SessionHealthState) :
    VideoStreamState → SessionHealthState
  | .streaming =>
      { state with
        video := .healthy
        input := if state.input.degradedFor "stream paused" then .healthy else state.input }
  | .paused =>
      if !clientActive then
        { state with
          video := .healthy
          input := if state.input.degradedFor "stream paused" then .healthy else state.input }
      else
        { state with
          video := .degraded "PipeWire stream paused"
          input :=
            if !state.input.isFailed then .degraded "stream paused — input suspended"
            else state.input }
  | .error => { state with video := .failed "PipeWire stream error" }

/-- The `match` of `handle_event`. -/
def handleHealthEvent (clientActive : Bool) (state : SessionHealthState) :
    HealthEvent → SessionHealthState
  | .sessionClosed reason =>
      if clientActive then
        { state with
          session := .failed reason
          input := .failed "session closed"
          clipboard := .failed "session closed" }
      else { state with session := .healthy, input := .healthy, clipboard := .healthy }
  | .sessionInvalidated reason =>
      { state with
        session := .failed reason
        input := .failed "session invalidated"
        clipboard := .failed "session invalidated" }
  | .videoStreamStateChanged stream => handleStreamState clientActive state stream
  | .videoFrameStalled _ => state
  | .videoFrameNeverStarted elapsedMs =>
      { state with
        video := .failed ("capture never delivered frames (" ++ toString elapsedMs ++ "ms)") }
  | .videoFrameResumed => state
  | .inputFailed reason permanent =>
      if permanent then { state with input := .failed reason }
      else { state with input := .degraded reason }
  | .inputRecovered =>
      if !state.input.isHealthy then { state with input := .healthy } else state
  | .clipboardFailed reason => { state with clipboard := .failed reason }
  | .clipboardRecovered =>
      if !state.clipboard.isHealthy then { state with clipboard := .healthy } else state
  | .compositorLost busName =>
      { state with
        session := .failed ("compositor lost: " ++ busName)
        input := .failed "compositor lost"
        video := .degraded "compositor may have restarted" }
  | .eisStreamEnded reason => { state with input := .failed reason }
  | .eisStreamRecovered => { state with input := .healthy }
  | .subsystemNotAvailable subsystem =>
      if subsystem = "clipboard" then { state with clipboard := .notApplicable }
      else if subsystem = "input" then { state with input := .notApplicable }
      else state
  | .egfxChannelClosed reason =>
      if clientActive && decide (state.video = .healthy) then
        { state with video := .degraded ("EGFX channel closed: " ++ reason) }
      else state
  | .egfxChannelReady _ =>
      if state.video.degradedFor "EGFX" then { state with video := .healthy } else state

namespace SessionHealthMonitor

/-- `SessionHealthMonitor::new`. -/
def new : SessionHealthMonitor := ⟨.default, true⟩

/-- `handle_event`. -/
def handleEvent (m : SessionHealthMonitor) (e : Bool × HealthEvent) : SessionHealthMonitor :=
  let state := (handleHealthEvent e.1 m.state e.2).recomputeOverall
  ⟨state, decide (state.overall ≠ .invalid)⟩

/-- The monitor after some events. -/
def run (events : List (Bool × HealthEvent)) : SessionHealthMonitor :=
  events.foldl handleEvent new

end SessionHealthMonitor

/-! ### The input -/

/-- An event that is about neither the input, the EIS stream, the session nor the compositor,
and makes no subsystem unavailable; nor does it bring the stream back. -/
def HealthEvent.bystander : HealthEvent → Bool
  | .videoStreamStateChanged state => decide (state ≠ .streaming)
  | .videoFrameStalled _ | .videoFrameNeverStarted _ | .videoFrameResumed | .clipboardFailed _
  | .clipboardRecovered | .egfxChannelClosed _ | .egfxChannelReady _ => true
  | .sessionClosed _ | .sessionInvalidated _ | .inputFailed _ _ | .inputRecovered
  | .compositorLost _ | .eisStreamEnded _ | .eisStreamRecovered | .subsystemNotAvailable _ => false

namespace SessionHealthMonitor

variable {m : SessionHealthMonitor} {active : Bool} {e : HealthEvent}

theorem input_recomputeOverall (s : SessionHealthState) :
    s.recomputeOverall.input = s.input := by
  unfold SessionHealthState.recomputeOverall
  split_ifs <;> rfl

theorem input_handleEvent (m : SessionHealthMonitor) (e : Bool × HealthEvent) :
    (m.handleEvent e).state.input = (handleHealthEvent e.1 m.state e.2).input :=
  input_recomputeOverall _

/-- What the monitor writes when the stream is paused. -/
def suspended : SubsystemHealth := .degraded "stream paused — input suspended"

theorem degradedFor_suspended : suspended.degradedFor "stream paused" = true := by
  decide +kernel

/-- Only a pause changes the input while the stream is away. -/
theorem input_bystander (he : e.bystander = true)
    (hpaused : e ≠ .videoStreamStateChanged .paused) :
    (m.handleEvent (active, e)).state.input = m.state.input := by
  rw [input_handleEvent]
  cases e with
  | videoStreamStateChanged stream =>
      cases stream with
      | streaming => cases he
      | paused => exact absurd rfl hpaused
      | error => rfl
  | clipboardRecovered =>
      show (if _ then _ else _ : SessionHealthState).input = _
      split_ifs <;> rfl
  | egfxChannelClosed reason =>
      show (if _ then _ else _ : SessionHealthState).input = _
      split_ifs <;> rfl
  | egfxChannelReady version =>
      show (if _ then _ else _ : SessionHealthState).input = _
      split_ifs <;> rfl
  | videoFrameStalled stallDurationMs => rfl
  | videoFrameNeverStarted elapsedMs => rfl
  | videoFrameResumed => rfl
  | clipboardFailed reason => rfl
  | _ => cases he

theorem input_paused : (m.handleEvent (true, .videoStreamStateChanged .paused)).state.input =
    if m.state.input.isFailed then m.state.input else suspended := by
  rw [input_handleEvent]
  show (if !m.state.input.isFailed then suspended else m.state.input) = _
  cases m.state.input.isFailed <;> rfl

theorem input_paused_idle :
    (m.handleEvent (false, .videoStreamStateChanged .paused)).state.input =
      if m.state.input.degradedFor "stream paused" then .healthy else m.state.input := by
  rw [input_handleEvent]
  rfl

theorem input_streaming :
    (m.handleEvent (active, .videoStreamStateChanged .streaming)).state.input =
      if m.state.input.degradedFor "stream paused" then .healthy else m.state.input := by
  rw [input_handleEvent]
  rfl

/-- Without a failure, the input is suspended or, after a pause without a client, healthy. -/
def Away (m : SessionHealthMonitor) : Prop :=
  m.state.input = suspended ∨ m.state.input = .healthy

theorem away_bystander (h : m.Away) (he : e.bystander = true) :
    (m.handleEvent (active, e)).Away := by
  by_cases hpaused : e = .videoStreamStateChanged .paused
  · subst hpaused
    cases active with
    | true =>
        refine .inl (input_paused.trans (if_neg ?_))
        rcases h with h | h
        · simp [h, suspended, SubsystemHealth.isFailed]
        · simp [h, SubsystemHealth.isFailed]
    | false =>
        rw [Away, input_paused_idle]
        rcases h with h | h
        · rw [h, degradedFor_suspended]
          exact .inr rfl
        · rw [h]
          exact .inr rfl
  · rw [Away, input_bystander he hpaused]
    exact h

theorem failed_bystander {reason : String} (h : m.state.input = .failed reason)
    (he : e.bystander = true) : (m.handleEvent (active, e)).state.input = .failed reason := by
  by_cases hpaused : e = .videoStreamStateChanged .paused
  · subst hpaused
    cases active with
    | true =>
        rw [input_paused, h]
        rfl
    | false =>
        rw [input_paused_idle, h]
        rfl
  · exact (input_bystander he hpaused).trans h

/-! ### A pause -/

/-- The events of a pause: the stream is away until it comes back. -/
def pause (middle : List (Bool × HealthEvent)) (active : Bool) : List (Bool × HealthEvent) :=
  (true, .videoStreamStateChanged .paused) :: middle
    ++ [(active, .videoStreamStateChanged .streaming)]

variable {middle : List (Bool × HealthEvent)}

theorem away_foldl (h : m.Away) (hmiddle : ∀ e ∈ middle, e.2.bystander = true) :
    (middle.foldl handleEvent m).Away := by
  induction middle generalizing m with
  | nil => exact h
  | cons e middle ih =>
      rw [List.forall_mem_cons] at hmiddle
      exact ih (away_bystander h hmiddle.1) hmiddle.2

theorem failed_foldl {reason : String} (h : m.state.input = .failed reason)
    (hmiddle : ∀ e ∈ middle, e.2.bystander = true) :
    (middle.foldl handleEvent m).state.input = .failed reason := by
  induction middle generalizing m with
  | nil => exact h
  | cons e middle ih =>
      rw [List.forall_mem_cons] at hmiddle
      exact ih (failed_bystander h hmiddle.1) hmiddle.2

/-- After a pause the input has failed, if it had before, and is healthy otherwise. -/
theorem input_after_pause (m : SessionHealthMonitor)
    (hmiddle : ∀ e ∈ middle, e.2.bystander = true) (active : Bool) :
    ((pause middle active).foldl handleEvent m).state.input =
      if m.state.input.isFailed then m.state.input else .healthy := by
  rw [pause, List.cons_append, List.foldl_cons, List.foldl_concat, input_streaming]
  cases hfailed : m.state.input.isFailed with
  | true =>
      cases hinput : m.state.input with
      | failed reason =>
          have hpaused : (m.handleEvent (true, .videoStreamStateChanged .paused)).state.input =
              .failed reason := failed_bystander hinput rfl
          rw [failed_foldl hpaused hmiddle]
          rfl
      | _ => simp [hinput, SubsystemHealth.isFailed] at hfailed
  | false =>
      have hpaused : (m.handleEvent (true, .videoStreamStateChanged .paused)).Away := by
        rw [Away, input_paused, hfailed]
        exact .inl rfl
      rcases away_foldl hpaused hmiddle with h | h
      · rw [h, degradedFor_suspended]
        rfl
      · rw [h]
        rfl

/-- A pause leaves the input as it was exactly if it was healthy or had failed. -/
theorem pause_keeps_input_iff (history : List (Bool × HealthEvent))
    (hmiddle : ∀ e ∈ middle, e.2.bystander = true) (active : Bool) :
    (run (history ++ pause middle active)).state.input = (run history).state.input ↔
      (run history).state.input = .healthy ∨
        ∃ reason, (run history).state.input = .failed reason := by
  rw [run, List.foldl_append, input_after_pause _ hmiddle, ← run]
  cases (run history).state.input with
  | healthy => simp [SubsystemHealth.isFailed]
  | degraded reason => simp [SubsystemHealth.isFailed]
  | failed reason => simp [SubsystemHealth.isFailed]
  | notApplicable => simp [SubsystemHealth.isFailed]

/-- A failure outlasts a pause in which the channel is closed. -/
theorem pause_keeps_failure :
    (run ([(true, .eisStreamEnded "device lost")] ++
        pause [(true, .egfxChannelClosed "reset")] true)).state.input =
      (run [(true, .eisStreamEnded "device lost")]).state.input :=
  (pause_keeps_input_iff _ (by decide) true).mpr (.inr ⟨"device lost", rfl⟩)

/-- A transient failure is cured by a pause, and an input that is not there comes to be
healthy. -/
theorem pause_cures_input :
    (run [(true, .inputFailed "EAGAIN" false)]).state.input = .degraded "EAGAIN" ∧
      (run ([(true, .inputFailed "EAGAIN" false)] ++ pause [] true)).state.input = .healthy ∧
      (run [(true, .subsystemNotAvailable "input")]).state.input = .notApplicable ∧
      (run ([(true, .subsystemNotAvailable "input")] ++ pause [] true)).state.input =
        .healthy := by
  decide +kernel

end SessionHealthMonitor

end LamcoRdp
