/-
LamcoRdp/Health/PortalBridge.lean

The health of a portal-generic session: `set_health_reporter` of
`session/strategies/portal_generic.rs`, and the monitor that it reports to.

The bridge takes the events of the portal backend one by one and reports to the monitor,
which other parts of the server report to as well; a report waits in the channel until the
monitor handles it.  The bridge counts the frames that fail in a row and reports an error of
the stream from the third on.  A frame that is captured ends the series, but reports
nothing, so the session stays invalid until somebody reports a state of the stream.
`portal_session_valid_iff` says, for every interleaving, when the session is valid.

The serials of the EIS frames, the latencies and the counts of formats and bytes are only
traced, and are left out.
-/
import LamcoRdp.Health.DbusBridge
import LamcoRdp.Lib.Runs
import LamcoRdp.Lib.Standing
import Mathlib.Algebra.Group.Nat.Defs
import Mathlib.Data.List.TakeDrop
import Mathlib.Tactic.Tauto

namespace LamcoRdp

open Runs Standing

/-! ### The bridge -/

/-- The states of the capture stream that the portal tells of. -/
inductive CaptureState
  | active
  | paused
  | failed
  deriving DecidableEq

/-- The states of the session that the portal tells of. -/
inductive PortalSessionState
  | closed
  | started
  | init
  deriving DecidableEq

/-- `PortalHealthEvent`.  A protocol is its debug text. -/
inductive PortalHealthEvent
  | frameCaptured
  | frameFailed (reason : String)
  | captureStateChanged (protocol : String) (state : CaptureState)
  | eisFrameReceived
  | eisDeviceStateChanged
  | inputBatch (eventsForwarded eventsFailed : ℕ) (protocol : String)
  | inputDisconnected (reason : String) (recoverable : Bool)
  | clipboardSelectionChanged
  | clipboardTransferResult (success : Bool)
  | sessionStateChanged (state : PortalSessionState)
  deriving DecidableEq

/-- The state of the bridge's task. -/
structure PortalHealthBridge where
  consecutiveFrameFailures : UInt32

namespace PortalHealthBridge

/-- `PortalHealthBridge::new`. -/
def new : PortalHealthBridge := ⟨0⟩

/-- The state of the video stream that a capture state stands for. -/
def streamState : CaptureState → VideoStreamState
  | .active => .streaming
  | .paused => .paused
  | .failed => .error

/-- One round of the task's loop: the event, and what is reported. -/
def handle (b : PortalHealthBridge) : PortalHealthEvent → PortalHealthBridge × List HealthEvent
  | .frameCaptured => (⟨0⟩, [])
  | .frameFailed _ =>
      let failures := b.consecutiveFrameFailures + 1
      (⟨failures⟩, if 3 ≤ failures then [.videoStreamStateChanged .error] else [])
  | .captureStateChanged _ state => (b, [.videoStreamStateChanged (streamState state)])
  | .eisFrameReceived => (b, [])
  | .eisDeviceStateChanged => (b, [])
  | .inputBatch eventsForwarded eventsFailed protocol =>
      (b, if 0 < eventsFailed then
        [.inputFailed (protocol ++ ": " ++ toString eventsFailed ++ " failures in last " ++
          toString eventsForwarded ++ " events") false]
      else [])
  | .inputDisconnected reason recoverable => (b, [.inputFailed reason !recoverable])
  | .clipboardSelectionChanged => (b, [])
  | .clipboardTransferResult success =>
      (b, if !success then [.clipboardFailed "Clipboard transfer failed"] else [])
  | .sessionStateChanged .closed =>
      (b, [.sessionClosed "portal-generic session state changed to closed"])
  | .sessionStateChanged .started => (b, [])
  | .sessionStateChanged .init => (b, [])

end PortalHealthBridge

/-! ### The session -/

/-- A step: the bridge takes an event of the portal, another part of the server reports, or
the monitor handles the next report. -/
inductive PortalHealthAct
  | portal (event : PortalHealthEvent)
  | report (event : HealthEvent)
  | handle (clientActive : Bool)
  deriving DecidableEq

/-- The bridge, the channel of the reports and the monitor. -/
structure PortalHealth where
  bridge : PortalHealthBridge
  eventRx : List HealthEvent
  monitor : SessionHealthMonitor

namespace PortalHealth

/-- Nothing has been reported. -/
def init : PortalHealth := ⟨.new, [], .new⟩

/-- What an act does; `none` where there is nothing to handle. -/
def step (s : PortalHealth) : PortalHealthAct → Option PortalHealth
  | .portal event =>
      let handled := s.bridge.handle event
      some { s with bridge := handled.1, eventRx := s.eventRx ++ handled.2 }
  | .report event => some { s with eventRx := s.eventRx ++ [event] }
  | .handle clientActive =>
      match s.eventRx with
      | [] => none
      | event :: eventRx =>
          some { s with eventRx, monitor := s.monitor.handleEvent (clientActive, event) }

end PortalHealth

/-! ### The reports of a run -/

/-- The bridge after the steps, and all reports made. -/
def tracedReports (acts : List PortalHealthAct) : PortalHealthBridge × List HealthEvent :=
  acts.foldl (fun r act =>
    match act with
    | .portal event => ((r.1.handle event).1, r.2 ++ (r.1.handle event).2)
    | .report event => (r.1, r.2 ++ [event])
    | .handle _ => r) (.new, [])

/-- Whether a client was active, at each report handled. -/
def activities (acts : List PortalHealthAct) : List Bool :=
  acts.filterMap fun act =>
    match act with
    | .handle clientActive => some clientActive
    | _ => none

/-- The events that the monitor has handled. -/
def handledEvents (acts : List PortalHealthAct) : List (Bool × HealthEvent) :=
  (activities acts).zip (tracedReports acts).2

variable {acts : List PortalHealthAct}

theorem tracedReports_concat (acts : List PortalHealthAct) (act : PortalHealthAct) :
    tracedReports (acts ++ [act]) =
      match act with
      | .portal event =>
          (((tracedReports acts).1.handle event).1,
            (tracedReports acts).2 ++ ((tracedReports acts).1.handle event).2)
      | .report event => ((tracedReports acts).1, (tracedReports acts).2 ++ [event])
      | .handle _ => tracedReports acts := by
  rw [tracedReports, List.foldl_concat]
  rfl

theorem activities_concat (acts : List PortalHealthAct) (act : PortalHealthAct) :
    activities (acts ++ [act]) = activities acts ++
      match act with
      | .handle clientActive => [clientActive]
      | _ => [] := by
  rw [activities, List.filterMap_append]
  cases act <;> rfl

/-- What a run has come to: the monitor has handled the first reports, in the order in which
they were made, and the others wait. -/
structure PortalHealth.Traced (acts : List PortalHealthAct) (s : PortalHealth) : Prop where
  bridge : s.bridge = (tracedReports acts).1
  reports : ∃ handled, (activities acts).length = handled.length ∧
    (tracedReports acts).2 = handled ++ s.eventRx ∧
    s.monitor = .run ((activities acts).zip handled)

theorem PortalHealth.Traced.of_run {s : PortalHealth} (h : Run (StepOf step) init acts s) :
    s.Traced acts := by
  refine h.invariant_trace (P := fun acts s => s.Traced acts) ⟨rfl, [], rfl, rfl, rfl⟩ ?_
  rintro acts s act t - ⟨hbridge, handled, hlength, hreports, hmonitor⟩ hst
  cases act with
  -- an event of the portal: the bridge may add reports, none is handled
  | portal event =>
      obtain rfl := Option.some.inj hst
      refine ⟨?_, handled, ?_, ?_, ?_⟩
      · rw [tracedReports_concat, hbridge]
      · rw [activities_concat, List.append_nil, hlength]
      · rw [tracedReports_concat, hreports, hbridge]
        exact List.append_assoc _ _ _
      · rw [activities_concat, List.append_nil, hmonitor]
  -- a direct report is queued as it stands
  | report event =>
      obtain rfl := Option.some.inj hst
      refine ⟨?_, handled, ?_, ?_, ?_⟩
      · rw [tracedReports_concat, hbridge]
      · rw [activities_concat, List.append_nil, hlength]
      · rw [tracedReports_concat, hreports]
        exact List.append_assoc _ _ _
      · rw [activities_concat, List.append_nil, hmonitor]
  -- the monitor takes the first queued report
  | handle clientActive =>
      simp only [StepOf, step] at hst
      split at hst
      · cases hst
      next event eventRx hrx =>
        obtain rfl := Option.some.inj hst
        refine ⟨?_, handled ++ [event], ?_, ?_, ?_⟩
        · rw [tracedReports_concat, hbridge]
        · rw [activities_concat, List.length_append, List.length_append, hlength]
          rfl
        · rw [tracedReports_concat, hreports, hrx, List.append_assoc, List.singleton_append]
        · rw [activities_concat, List.zip_append hlength, hmonitor, SessionHealthMonitor.run,
            SessionHealthMonitor.run, List.foldl_append]
          rfl

/-- With no report waiting the monitor has handled them all. -/
theorem PortalHealth.Traced.at_rest {s : PortalHealth} (h : s.Traced acts)
    (hrest : s.eventRx = []) :
    s.monitor = .run (handledEvents acts) ∧
      (handledEvents acts).map Prod.snd = (tracedReports acts).2 := by
  obtain ⟨handled, hlength, hreports, hmonitor⟩ := h.reports
  rw [hrest, List.append_nil] at hreports
  rw [handledEvents, hreports]
  exact ⟨hmonitor, List.map_snd_zip hlength.ge⟩

/-! ### Verdicts of the events handled -/

/-- The session has failed, or it is well. -/
def sessionVerdict : Bool × HealthEvent → Option Bool
  | (clientActive, .sessionClosed _) => some clientActive
  | (_, .sessionInvalidated _) => some true
  | (_, .compositorLost _) => some true
  | _ => none

/-- The input has failed, or it has not. -/
def inputVerdict : Bool × HealthEvent → Option Bool
  | (clientActive, .sessionClosed _) => some clientActive
  | (_, .sessionInvalidated _) => some true
  | (_, .inputFailed _ permanent) => some permanent
  | (_, .inputRecovered) => some false
  | (_, .compositorLost _) => some true
  | (_, .eisStreamEnded _) => some true
  | (_, .eisStreamRecovered) => some false
  | (_, .subsystemNotAvailable subsystem) => if subsystem = "input" then some false else none
  | _ => none

/-- The video has failed, or it has not. -/
def videoVerdict : HealthEvent → Option Bool
  | .videoStreamStateChanged state => some (decide (state = .error))
  | .videoFrameNeverStarted _ => some true
  | .compositorLost _ => some false
  | _ => none

namespace SessionHealthMonitor

variable {m : SessionHealthMonitor}

theorem session_recomputeOverall (s : SessionHealthState) :
    s.recomputeOverall.session = s.session := by
  unfold SessionHealthState.recomputeOverall
  split_ifs <;> rfl

theorem video_recomputeOverall (s : SessionHealthState) :
    s.recomputeOverall.video = s.video := by
  unfold SessionHealthState.recomputeOverall
  split_ifs <;> rfl

theorem overall_recomputeOverall (s : SessionHealthState) :
    s.recomputeOverall.overall = .invalid ↔
      s.session.isFailed = true ∨ s.input.isFailed = true ∨ s.video.isFailed = true := by
  unfold SessionHealthState.recomputeOverall
  split_ifs with hsession hparts hdegraded
  · exact iff_of_true rfl (Or.inl hsession)
  · rw [Bool.or_eq_true] at hparts
    exact iff_of_true rfl (Or.inr hparts.symm)
  · rw [Bool.or_eq_true, not_or] at hparts
    exact iff_of_false (fun heq => by cases heq) (by tauto)
  · rw [Bool.or_eq_true, not_or] at hparts
    exact iff_of_false (fun heq => by cases heq) (by tauto)

theorem isFailed_session (active : Bool) (s : SessionHealthState) (e : HealthEvent) :
    (handleHealthEvent active s e).session.isFailed =
      (sessionVerdict (active, e)).getD s.session.isFailed := by
  cases e with
  | sessionClosed reason => cases active <;> rfl
  | videoStreamStateChanged state =>
      cases state with
      | paused => cases active <;> rfl
      | _ => rfl
  | inputFailed reason permanent => cases permanent <;> rfl
  | _ =>
      simp only [handleHealthEvent]
      first
      | rfl
      | split_ifs <;> rfl

theorem isFailed_input (active : Bool) (s : SessionHealthState) (e : HealthEvent) :
    (handleHealthEvent active s e).input.isFailed =
      (inputVerdict (active, e)).getD s.input.isFailed := by
  -- a stream that comes back makes the input healthy only if it was degraded
  have hresumed : (if s.input.degradedFor "stream paused" then SubsystemHealth.healthy
      else s.input).isFailed = s.input.isFailed := by
    split_ifs with hdegraded
    · cases hinput : s.input with
      | degraded reason => rfl
      | _ => simp [hinput, SubsystemHealth.degradedFor] at hdegraded
    · rfl
  cases e with
  | sessionClosed reason => cases active <;> rfl
  | videoStreamStateChanged state =>
      cases state with
      | streaming => exact hresumed
      | paused =>
          cases active with
          | true =>
              show (if !s.input.isFailed then _ else s.input : SubsystemHealth).isFailed = _
              cases hfailed : s.input.isFailed with
              | true => exact hfailed
              | false => rfl
          | false => exact hresumed
      | error => rfl
  | inputFailed reason permanent => cases permanent <;> rfl
  | inputRecovered =>
      simp only [handleHealthEvent]
      split_ifs with hhealthy
      · rfl
      · cases hinput : s.input with
        | failed reason => simp [hinput, SubsystemHealth.isHealthy] at hhealthy
        | _ => simp [inputVerdict, SubsystemHealth.isFailed]
  | subsystemNotAvailable subsystem =>
      simp only [handleHealthEvent, inputVerdict]
      split_ifs with hclipboard hinput
      · rw [hclipboard] at hinput
        exact absurd hinput (by decide)
      · rfl
      · rfl
      · rfl
  | _ =>
      simp only [handleHealthEvent]
      first
      | rfl
      | split_ifs <;> rfl

theorem isFailed_video (active : Bool) (s : SessionHealthState) (e : HealthEvent) :
    (handleHealthEvent active s e).video.isFailed =
      (videoVerdict e).getD s.video.isFailed := by
  cases e with
  | sessionClosed reason => cases active <;> rfl
  | videoStreamStateChanged state =>
      cases state with
      | paused => cases active <;> rfl
      | _ => rfl
  | inputFailed reason permanent => cases permanent <;> rfl
  -- a closed channel degrades the video, and a degraded video has not failed
  | egfxChannelClosed reason =>
      simp only [handleHealthEvent]
      split_ifs with hclosed
      · rw [Bool.and_eq_true, decide_eq_true_eq] at hclosed
        rw [hclosed.2]
        rfl
      · rfl
  -- a ready channel repairs only a degradation of its own
  | egfxChannelReady version =>
      simp only [handleHealthEvent]
      split_ifs with hdegraded
      · cases hvideo : s.video with
        | degraded reason => rfl
        | _ => simp [hvideo, SubsystemHealth.degradedFor] at hdegraded
      · rfl
  | _ =>
      simp only [handleHealthEvent]
      first
      | rfl
      | split_ifs <;> rfl

/-- The session is invalid exactly if a failure of the session, the input or the video stands. -/
theorem sessionValid_run_iff (events : List (Bool × HealthEvent)) :
    (run events).sessionValid = false ↔
      Stands (fun _ => sessionVerdict) events ∨ Stands (fun _ => inputVerdict) events ∨
        Stands (fun _ e => videoVerdict e.2) events := by
  have hsession : (run events).state.session.isFailed = true ↔
      Stands (fun _ => sessionVerdict) events :=
    foldl_iff_stands (f := fun m : SessionHealthMonitor => m.state.session.isFailed) rfl
      fun m e => (congrArg _ (session_recomputeOverall _)).trans (isFailed_session _ _ _)
  have hinput : (run events).state.input.isFailed = true ↔
      Stands (fun _ => inputVerdict) events :=
    foldl_iff_stands (f := fun m : SessionHealthMonitor => m.state.input.isFailed) rfl
      fun m e => (congrArg _ (input_recomputeOverall _)).trans (isFailed_input _ _ _)
  have hvideo : (run events).state.video.isFailed = true ↔
      Stands (fun _ e => videoVerdict e.2) events :=
    foldl_iff_stands (f := fun m : SessionHealthMonitor => m.state.video.isFailed) rfl
      fun m e => (congrArg _ (video_recomputeOverall _)).trans (isFailed_video _ _ _)
  have hcons := consistent_run events
  rw [hcons.sessionValid, decide_eq_false_iff_not, not_not, ← hcons.overall,
    overall_recomputeOverall, hsession, hinput, hvideo]

end SessionHealthMonitor

/-! ### The stream -/

/-- A frame that failed. -/
def PortalHealthAct.isFrameFailed : PortalHealthAct → Bool
  | .portal (.frameFailed _) => true
  | _ => false

/-- The frames that failed since one was captured last. -/
def failuresInARow (acts : List PortalHealthAct) : ℕ :=
  (acts.reverse.takeWhile (· ≠ .portal .frameCaptured)).countP (·.isFrameFailed)

/-- What a step says of the video: it has failed with the third frame in a row, or with what is
reported of the stream; a frame that is captured says nothing. -/
def streamVerdict (acts : List PortalHealthAct) : PortalHealthAct → Option Bool
  | .portal (.frameFailed _) => if 3 ≤ (failuresInARow acts + 1) % 2 ^ 32 then some true else none
  | .portal (.captureStateChanged _ state) => some (decide (state = .failed))
  | .portal _ => none
  | .report event => videoVerdict event
  | .handle _ => none

theorem failuresInARow_concat (acts : List PortalHealthAct) (act : PortalHealthAct) :
    failuresInARow (acts ++ [act]) =
      if act = .portal .frameCaptured then 0
      else failuresInARow acts + if act.isFrameFailed then 1 else 0 := by
  rw [failuresInARow, List.reverse_append, List.reverse_singleton, List.singleton_append]
  by_cases hcaptured : act = .portal .frameCaptured
  · rw [if_pos hcaptured, hcaptured]
    rfl
  · rw [if_neg hcaptured, List.takeWhile_cons, if_pos (decide_eq_true hcaptured), List.countP_cons]
    rfl

/-- The bridge counts the failures in a row, in 32 bits. -/
theorem toNat_consecutiveFrameFailures (acts : List PortalHealthAct) :
    (tracedReports acts).1.consecutiveFrameFailures.toNat = failuresInARow acts % 2 ^ 32 := by
  induction acts using List.reverseRecOn with
  | nil => rfl
  | append_singleton acts act ih =>
      rw [tracedReports_concat, failuresInARow_concat]
      cases act with
      | portal event =>
          cases event with
          | frameCaptured => rfl
          | frameFailed reason =>
              show ((tracedReports acts).1.consecutiveFrameFailures + 1).toNat = _
              rw [UInt32.toNat_add, ih, if_neg fun heq => by cases heq]
              exact Nat.mod_add_mod _ _ _
          | sessionStateChanged state => cases state <;> exact ih
          | _ => exact ih
      | report event => exact ih
      | handle clientActive => exact ih

/-- A step adds no report and says nothing of the video, or one report that says of it what
the step does. -/
theorem exists_report (acts : List PortalHealthAct) (act : PortalHealthAct) :
    ∃ out, (tracedReports (acts ++ [act])).2 = (tracedReports acts).2 ++ out ∧
      ((out = [] ∧ streamVerdict acts act = none) ∨
        ∃ event, out = [event] ∧ videoVerdict event = streamVerdict acts act) := by
  rw [tracedReports_concat]
  cases act with
  | portal event =>
      refine ⟨((tracedReports acts).1.handle event).2, rfl, ?_⟩
      cases event with
      -- three failures in a row, counted modulo 2 ^ 32, make the stream failed
      | frameFailed reason =>
          have hcount : 3 ≤ (tracedReports acts).1.consecutiveFrameFailures + 1 ↔
              3 ≤ (failuresInARow acts + 1) % 2 ^ 32 := by
            rw [UInt32.le_iff_toNat_le, UInt32.toNat_add, toNat_consecutiveFrameFailures]
            exact Iff.of_eq (congrArg _ (Nat.mod_add_mod _ _ _))
          by_cases hthree : 3 ≤ (failuresInARow acts + 1) % 2 ^ 32
          · exact Or.inr ⟨_, if_pos (hcount.mpr hthree), (if_pos hthree).symm⟩
          · exact Or.inl ⟨if_neg (mt hcount.mp hthree), if_neg hthree⟩
      | captureStateChanged protocol state => exact Or.inr ⟨_, rfl, by cases state <;> rfl⟩
      -- lost input is reported, and says nothing of the video
      | inputBatch eventsForwarded eventsFailed protocol =>
          by_cases hfailed : 0 < eventsFailed
          · exact Or.inr ⟨_, if_pos hfailed, rfl⟩
          · exact Or.inl ⟨if_neg hfailed, rfl⟩
      | inputDisconnected reason recoverable => exact Or.inr ⟨_, rfl, rfl⟩
      | clipboardTransferResult success =>
          cases success with
          | true => exact Or.inl ⟨rfl, rfl⟩
          | false => exact Or.inr ⟨_, rfl, rfl⟩
      | sessionStateChanged state =>
          cases state with
          | closed => exact Or.inr ⟨_, rfl, rfl⟩
          | started => exact Or.inl ⟨rfl, rfl⟩
          | init => exact Or.inl ⟨rfl, rfl⟩
      | frameCaptured => exact Or.inl ⟨rfl, rfl⟩
      | eisFrameReceived => exact Or.inl ⟨rfl, rfl⟩
      | eisDeviceStateChanged => exact Or.inl ⟨rfl, rfl⟩
      | clipboardSelectionChanged => exact Or.inl ⟨rfl, rfl⟩
  | report event => exact ⟨[event], rfl, Or.inr ⟨event, rfl, rfl⟩⟩
  | handle clientActive => exact ⟨[], (List.append_nil _).symm, Or.inl ⟨rfl, rfl⟩⟩

/-- The failures that stand after the reports are those that stand after the steps. -/
theorem stands_videoVerdict_iff (acts : List PortalHealthAct) :
    Stands (fun _ => videoVerdict) (tracedReports acts).2 ↔ Stands streamVerdict acts := by
  induction acts using List.reverseRecOn with
  | nil => exact iff_of_false not_stands_nil not_stands_nil
  | append_singleton acts act ih =>
      obtain ⟨out, hout, ⟨rfl, hnone⟩ | ⟨event, rfl, hverdict⟩⟩ := exists_report acts act
      · rw [hout, List.append_nil, ih, stands_concat_none hnone]
      · rw [hout]
        cases hsays : streamVerdict acts act with
        | none => rw [stands_concat_none hsays, stands_concat_none (hverdict.trans hsays), ih]
        | some b => rw [stands_concat_some hsays, stands_concat_some (hverdict.trans hsays)]

/-! ### The session at rest -/

/-- **When the session is invalid**, however the events of the portal, the reports of the rest
of the server and the monitor's rounds fall between each other.  With no report waiting, a
failure of the session or of the input stands after what the monitor has handled, or one of
the stream after the steps: the third frame in a row that failed, or an error that was
reported, with no report of a stream in order since.  Frames that are captured do not help. -/
theorem portal_session_valid_iff {s : PortalHealth}
    (h : Run (StepOf PortalHealth.step) .init acts s) (hrest : s.eventRx = []) :
    (s.monitor = .run (handledEvents acts) ∧
      (handledEvents acts).map Prod.snd = (tracedReports acts).2) ∧
    (s.monitor.sessionValid = false ↔
      Stands (fun _ => sessionVerdict) (handledEvents acts) ∨
        Stands (fun _ => inputVerdict) (handledEvents acts) ∨ Stands streamVerdict acts) := by
  have htraced := (PortalHealth.Traced.of_run h).at_rest hrest
  refine ⟨htraced, ?_⟩
  rw [htraced.1, SessionHealthMonitor.sessionValid_run_iff, ← stands_map Prod.snd videoVerdict,
    htraced.2, stands_videoVerdict_iff]

/-- Three frames fail; one that is captured after that leaves the session invalid. -/
theorem portal_session_valid_iff_threeFailures :
    ∃ s, (Run (StepOf PortalHealth.step) .init
        [.portal (.frameFailed "timeout"), .portal (.frameFailed "timeout"),
          .portal (.frameFailed "timeout"), .handle true, .portal .frameCaptured] s ∧
        s.eventRx = []) ∧ s.monitor.sessionValid = false := by
  have hrun : ([.portal (.frameFailed "timeout"), .portal (.frameFailed "timeout"),
      .portal (.frameFailed "timeout"), .handle true, .portal .frameCaptured].foldlM
        PortalHealth.step .init).map PortalHealth.eventRx = some [] := rfl
  obtain ⟨s, hs, hrest⟩ := Run.exists_of_foldlM PortalHealth.eventRx hrun
  have hthird : Stands streamVerdict ([.portal (.frameFailed "timeout"),
      .portal (.frameFailed "timeout")] ++ [.portal (.frameFailed "timeout")] ++ [.handle true] ++
        [.portal .frameCaptured]) :=
    (stands_concat_none rfl).mpr ((stands_concat_none rfl).mpr ((stands_concat_some rfl).mpr rfl))
  exact ⟨s, ⟨hs, hrest⟩, (portal_session_valid_iff hs hrest).2.mpr (Or.inr (Or.inr hthird))⟩

end LamcoRdp
