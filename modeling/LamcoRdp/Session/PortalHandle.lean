/-
LamcoRdp/Session/PortalHandle.lean

The handle of a portal session: `session/strategies/portal_token.rs`, and the monitor that
it reports to.

The input calls of several clients run at the same time.  Each looks at the flags of the
handle before it goes to the portal, and what the portal answers comes in later, when the
session may be gone.  The handle hears of the end of the session from the portal's signal
or from the error of a call that was on its way; it tells the monitor if it has a reporter.

`portal_handle_ends` says, for every interleaving, which steps make the handle invalid,
that it stays so and lets no call through from then on, and when the monitor knows.

A call looks at both flags in one step, and a task that writes a flag and then reports does
both in one step; everything else may come in between.

What a call carries (keys, buttons and coordinates) goes to the portal as it is and is left
out, as are the streams and the file descriptor, which nothing here reads.
-/
import LamcoRdp.Health.PortalBridge

namespace LamcoRdp

open Runs Standing

/-! ### The handle -/

/-- The input calls. -/
inductive PortalInput
  | keyboardKeycode
  | keyboardKeysym
  | pointerMotionAbsolute
  | pointerButton
  | pointerAxis
  deriving DecidableEq

namespace PortalInput

/-- The call's name in the reports and the errors. -/
def operation : PortalInput → String
  | .keyboardKeycode => "keyboard keycode"
  | .keyboardKeysym => "keyboard keysym"
  | .pointerMotionAbsolute => "pointer motion"
  | .pointerButton => "pointer button"
  | .pointerAxis => "pointer axis"

/-- The error of the call on a session that is invalid. -/
def invalidError : PortalInput → String
  | .keyboardKeycode => "Portal session invalid — cannot send keyboard event"
  | .keyboardKeysym => "Portal session invalid — cannot send keysym event"
  | .pointerMotionAbsolute => "Portal session invalid — cannot send pointer motion"
  | .pointerButton => "Portal session invalid — cannot send pointer button"
  | .pointerAxis => "Portal session invalid — cannot send pointer axis"

end PortalInput

/-- `ClipboardSource`, of a portal session. -/
inductive PortalClipboardSource
  | none
  | portal
  deriving DecidableEq

/-- The flags of `PortalSessionHandleImpl`, and whether the reporter is set. -/
structure PortalSessionHandle where
  sessionValid : Bool
  streamActive : Bool
  healthReporter : Bool
  deriving DecidableEq

/-- The error says that the portal has no such session any more. -/
def sessionDestroyed (msg : String) : Bool :=
  ["non-existing session", "non existing session", "Invalid session", "UnknownObject"].any
    fun words => decide (words.toList <:+: msg.toList)

namespace PortalSessionHandle

/-- A handle of a session that is open. -/
def new : PortalSessionHandle := ⟨true, true, false⟩

/-- What every input call looks at before it goes to the portal. -/
def notify (h : PortalSessionHandle) (input : PortalInput) : Except String Unit :=
  if !h.sessionValid then .error input.invalidError
  else if !h.streamActive then .error "Portal stream paused — input suspended"
  else .ok ()

/-- An event for the reporter, if there is one. -/
def report (h : PortalSessionHandle) (event : HealthEvent) : List HealthEvent :=
  if h.healthReporter then [event] else []

/-- `handle_input_error`: the handle, what is reported, and the error of the call. -/
def handleInputError (h : PortalSessionHandle) (msg operation : String) :
    PortalSessionHandle × List HealthEvent × String :=
  if sessionDestroyed msg then
    ({ h with sessionValid := false },
      h.report (.sessionInvalidated ("D-Bus error during " ++ operation ++ ": " ++ msg)),
      "Portal session destroyed: " ++ msg)
  else
    (h, h.report (.inputFailed (operation ++ ": " ++ msg) false),
      "Failed to inject " ++ operation ++ " via Portal: " ++ msg)

/-- The task of `start_closed_listener`, once its stream has given the signal or has come to
its end: the end without a signal counts as closed too.  The task looks for the reporter only
now. -/
def closed (h : PortalSessionHandle) : PortalSessionHandle × List HealthEvent :=
  ({ h with sessionValid := false },
    h.report (.sessionClosed "Portal Closed signal received from compositor"))

/-- `close_portal_session`; whether the portal closes the session makes no difference. -/
def closePortalSession (h : PortalSessionHandle) : PortalSessionHandle :=
  { h with sessionValid := false }

/-- `clipboard_source`. -/
def clipboardSource (h : PortalSessionHandle) : PortalClipboardSource :=
  if !h.sessionValid then .none else .portal

end PortalSessionHandle

/-! ### The session -/

/-- A step: a call is made, the portal answers one, and so on; another part of the server
reports, or the monitor handles the next report. -/
inductive PortalSessionAct
  | notify (input : PortalInput)
  | answered (input : PortalInput) (error : Option String)
  /-- the listener's stream gives the signal, or ends -/
  | closed
  | closePortalSession
  | setStreamActive (active : Bool)
  | setHealthReporter
  | report (event : HealthEvent)
  | handle (clientActive : Bool)
  deriving DecidableEq

/-- The handle with what goes on around it. -/
structure PortalSession where
  handle : PortalSessionHandle
  /-- the calls that went past the flags -/
  letThrough : List PortalInput
  /-- those that have not come back -/
  inFlight : List PortalInput
  /-- the listener waits for the signal, or for the end of its stream -/
  listening : Bool
  eventRx : List HealthEvent
  monitor : SessionHealthMonitor

namespace PortalSession

/-- A new session.  A handle that is for input only has no listener, and a listener may fail
to subscribe. -/
def new (listening : Bool) : PortalSession := ⟨.new, [], [], listening, [], .new⟩

/-- What an act does; `none` where it cannot come about. -/
def step (s : PortalSession) : PortalSessionAct → Option PortalSession
  | .notify input =>
      match s.handle.notify input with
      | .error _ => some s
      | .ok () =>
          some { s with
            letThrough := s.letThrough ++ [input]
            inFlight := s.inFlight ++ [input] }
  | .answered input error =>
      if input ∈ s.inFlight then
        match error with
        | none => some { s with inFlight := s.inFlight.erase input }
        | some msg =>
            let handled := s.handle.handleInputError msg input.operation
            some { s with
              handle := handled.1
              inFlight := s.inFlight.erase input
              eventRx := s.eventRx ++ handled.2.1 }
      else none
  | .closed =>
      if s.listening then
        some { s with
          handle := s.handle.closed.1
          listening := false
          eventRx := s.eventRx ++ s.handle.closed.2 }
      else none
  | .closePortalSession => some { s with handle := s.handle.closePortalSession }
  | .setStreamActive active => some { s with handle := { s.handle with streamActive := active } }
  -- a second reporter is not taken, and the first stays
  | .setHealthReporter => some { s with handle := { s.handle with healthReporter := true } }
  | .report event => some { s with eventRx := s.eventRx ++ [event] }
  | .handle clientActive =>
      match s.eventRx with
      | [] => none
      | event :: eventRx =>
          some { s with eventRx, monitor := s.monitor.handleEvent (clientActive, event) }

end PortalSession

/-! ### What a step does -/

/-- The step ends the session, for the handle. -/
def PortalSessionAct.ends : PortalSessionAct → Bool
  | .answered _ (some msg) => sessionDestroyed msg
  | .closed | .closePortalSession => true
  | _ => false

/-- The event is a failure of the session, for a monitor with a client. -/
def HealthEvent.failsSession (e : HealthEvent) : Bool :=
  decide (sessionVerdict (true, e) = some true)

/-- The step reports a failure of the session. -/
def PortalSessionAct.tells (reporter : Bool) : PortalSessionAct → Bool
  | .answered _ (some msg) => reporter && sessionDestroyed msg
  | .closed => reporter
  | .report event => event.failsSession
  | _ => false

theorem sessionVerdict_active (e : HealthEvent) :
    sessionVerdict (true, e) = if e.failsSession then some true else none := by
  cases e <;> rfl

namespace PortalSessionHandle

theorem exists_mem_report (h : PortalSessionHandle) (e : HealthEvent) :
    (∃ e' ∈ h.report e, e'.failsSession = true) ↔
      (h.healthReporter && e.failsSession) = true := by
  rw [report]
  cases h.healthReporter with
  | true => simp
  | false => simp

variable (h : PortalSessionHandle) (msg operation : String)

theorem sessionValid_handleInputError :
    (h.handleInputError msg operation).1.sessionValid =
      (h.sessionValid && !sessionDestroyed msg) := by
  unfold handleInputError
  split_ifs with hdestroyed
  · rw [hdestroyed]
    exact (Bool.and_false _).symm
  · rw [Bool.not_eq_true] at hdestroyed
    rw [hdestroyed]
    exact (Bool.and_true _).symm

theorem healthReporter_handleInputError :
    (h.handleInputError msg operation).1.healthReporter = h.healthReporter := by
  unfold handleInputError
  split_ifs <;> rfl

/-- The monitor is told of a failure of the session if the error is one. -/
theorem exists_mem_handleInputError :
    (∃ e ∈ (h.handleInputError msg operation).2.1, e.failsSession = true) ↔
      (h.healthReporter && sessionDestroyed msg) = true := by
  unfold handleInputError
  split_ifs with hdestroyed
  · rw [exists_mem_report, hdestroyed]
    rfl
  · rw [Bool.not_eq_true] at hdestroyed
    rw [exists_mem_report, hdestroyed]
    rfl

end PortalSessionHandle

namespace PortalSession

/-- What a step does to the flags, to the calls and to the reports. -/
structure Stepped (s : PortalSession) (act : PortalSessionAct) (t : PortalSession) : Prop where
  sessionValid : t.handle.sessionValid = (s.handle.sessionValid && !act.ends)
  healthReporter :
    t.handle.healthReporter = (s.handle.healthReporter || decide (act = .setHealthReporter))
  letThrough : s.handle.sessionValid = false → t.letThrough = s.letThrough
  reports :
    (∃ active e, act = .handle active ∧ s.eventRx = e :: t.eventRx ∧
      t.monitor = s.monitor.handleEvent (active, e)) ∨
    (t.monitor = s.monitor ∧ ∃ out, t.eventRx = s.eventRx ++ out ∧
      ((∃ e ∈ out, e.failsSession = true) ↔ act.tells s.handle.healthReporter = true))

variable {s t : PortalSession} {act : PortalSessionAct}

/-- A step that leaves the flags and the reports alone. -/
theorem Stepped.of_same (hhandle : t.handle = s.handle) (hends : act.ends = false)
    (hreporter : act ≠ .setHealthReporter)
    (hlet : s.handle.sessionValid = false → t.letThrough = s.letThrough)
    (hmonitor : t.monitor = s.monitor) (hrx : t.eventRx = s.eventRx)
    (htells : act.tells s.handle.healthReporter = false) : Stepped s act t where
  sessionValid := by rw [hhandle, hends, Bool.not_false, Bool.and_true]
  healthReporter := by rw [hhandle, decide_eq_false hreporter, Bool.or_false]
  letThrough := hlet
  reports := Or.inr ⟨hmonitor, [], by rw [hrx, List.append_nil], by simp [htells]⟩

theorem Stepped.of_step (h : s.step act = some t) : Stepped s act t := by
  cases act with
  | notify input =>
      -- refused or sent, a notification reports nothing; only its answer may
      cases hnotify : s.handle.notify input with
      | error e =>
          simp only [step, hnotify, Option.some.injEq] at h
          obtain rfl := h
          exact .of_same rfl rfl (fun heq => by cases heq) (fun _ => rfl) rfl rfl rfl
      | ok u =>
          simp only [step, hnotify, Option.some.injEq] at h
          obtain rfl := h
          -- one that is sent was made on a valid session
          refine .of_same rfl rfl (fun heq => by cases heq) (fun hinvalid => ?_) rfl rfl rfl
          simp [PortalSessionHandle.notify, hinvalid] at hnotify
  | answered input error =>
      simp only [step] at h
      split_ifs at h with hflight
      -- an answer with an error invalidates the session and may report
      cases error with
      | none =>
          obtain rfl := Option.some.inj h
          exact .of_same rfl rfl (fun heq => by cases heq) (fun _ => rfl) rfl rfl rfl
      | some msg =>
          obtain rfl := Option.some.inj h
          exact ⟨PortalSessionHandle.sessionValid_handleInputError _ _ _,
            (PortalSessionHandle.healthReporter_handleInputError _ _ _).trans
              (Bool.or_false _).symm,
            fun _ => rfl,
            Or.inr ⟨rfl, _, rfl, PortalSessionHandle.exists_mem_handleInputError _ _ _⟩⟩
  -- the closed signal invalidates it too
  | closed =>
      simp only [step] at h
      split_ifs at h with hlistening
      obtain rfl := Option.some.inj h
      refine ⟨(Bool.and_false _).symm, (Bool.or_false _).symm, fun _ => rfl,
        Or.inr ⟨rfl, _, rfl, ?_⟩⟩
      rw [PortalSessionHandle.closed, PortalSessionHandle.exists_mem_report]
      exact Iff.of_eq (congrArg (· = true) (Bool.and_true _))
  | closePortalSession =>
      obtain rfl := Option.some.inj h
      exact ⟨(Bool.and_false _).symm, (Bool.or_false _).symm, fun _ => rfl,
        Or.inr ⟨rfl, [], (List.append_nil _).symm, by simp [PortalSessionAct.tells]⟩⟩
  | setStreamActive active =>
      obtain rfl := Option.some.inj h
      exact ⟨(Bool.and_true _).symm, (Bool.or_false _).symm, fun _ => rfl,
        Or.inr ⟨rfl, [], (List.append_nil _).symm, by simp [PortalSessionAct.tells]⟩⟩
  | setHealthReporter =>
      obtain rfl := Option.some.inj h
      exact ⟨(Bool.and_true _).symm, (Bool.or_true _).symm, fun _ => rfl,
        Or.inr ⟨rfl, [], (List.append_nil _).symm, by simp [PortalSessionAct.tells]⟩⟩
  | report event =>
      obtain rfl := Option.some.inj h
      exact ⟨(Bool.and_true _).symm, (Bool.or_false _).symm, fun _ => rfl,
        Or.inr ⟨rfl, [event], rfl, by simp [PortalSessionAct.tells]⟩⟩
  | handle active =>
      cases hrx : s.eventRx with
      | nil =>
          simp only [step, hrx] at h
          cases h
      -- the monitor takes a report off the queue
      | cons e eventRx =>
          simp only [step, hrx, Option.some.injEq] at h
          obtain rfl := h
          exact ⟨(Bool.and_true _).symm, (Bool.or_false _).symm, fun _ => rfl,
            Or.inl ⟨active, e, rfl, hrx, rfl⟩⟩

/-! ### Runs -/

variable {listening : Bool} {acts : List PortalSessionAct}

/-- The handle is invalid once a step has ended the session. -/
theorem sessionValid_of_run (h : Run (StepOf step) (new listening) acts s) :
    s.handle.sessionValid = false ↔ ∃ act ∈ acts, act.ends = true := by
  refine h.invariant_trace
    (P := fun acts s => s.handle.sessionValid = false ↔ ∃ act ∈ acts, act.ends = true) ?_ ?_
  · simp [new, PortalSessionHandle.new]
  · intro acts s act t _ ih hstep
    rw [(Stepped.of_step hstep).sessionValid, Bool.and_eq_false_iff, ih]
    simp [or_and_right, exists_or]

/-- An invalid handle stays invalid and lets nothing through. -/
theorem invalid_of_run {post : List PortalSessionAct} (h : Run (StepOf step) s post t)
    (hinvalid : s.handle.sessionValid = false) :
    t.handle.sessionValid = false ∧ t.letThrough = s.letThrough := by
  refine h.invariant (P := fun t => t.handle.sessionValid = false ∧ t.letThrough = s.letThrough)
    ⟨hinvalid, rfl⟩ ?_
  rintro r act t ⟨hr, hlet⟩ hstep
  have hstepped := Stepped.of_step hstep
  exact ⟨by rw [hstepped.sessionValid, hr, Bool.false_and], (hstepped.letThrough hr).trans hlet⟩

/-- The reporter is there from the step that sets it. -/
theorem healthReporter_of_run (h : Run (StepOf step) (new listening) acts s) :
    s.handle.healthReporter = decide (.setHealthReporter ∈ acts) := by
  refine h.invariant_trace
    (P := fun acts s => s.handle.healthReporter = decide (.setHealthReporter ∈ acts)) rfl ?_
  intro acts s act t _ ih hstep
  rw [(Stepped.of_step hstep).healthReporter, ih, ← Bool.decide_or]
  simp [eq_comm]

/-- A failure of the session was reported. -/
def Told (acts : List PortalSessionAct) : Prop :=
  ∃ pre act post, acts = pre ++ act :: post ∧
    act.tells (decide (.setHealthReporter ∈ pre)) = true

theorem told_concat : Told (acts ++ [act]) ↔
    act.tells (decide (.setHealthReporter ∈ acts)) = true ∨ Told acts :=
  exists_split_concat

/-- With a client there, a failure of the session that is handled stays. -/
theorem isFailed_handleEvent (m : SessionHealthMonitor) (e : HealthEvent) :
    (m.handleEvent (true, e)).state.session.isFailed =
      (e.failsSession || m.state.session.isFailed) := by
  have hfailed : (m.handleEvent (true, e)).state.session.isFailed =
      (sessionVerdict (true, e)).getD m.state.session.isFailed :=
    (congrArg _ (SessionHealthMonitor.session_recomputeOverall _)).trans
      (SessionHealthMonitor.isFailed_session _ _ _)
  rw [hfailed, sessionVerdict_active]
  cases e.failsSession <;> rfl

/-- What was told is waiting in the channel, or the monitor knows it. -/
theorem told_of_run (h : Run (StepOf step) (new listening) acts s)
    (hclient : .handle false ∉ acts) :
    ((∃ e ∈ s.eventRx, e.failsSession = true) ∨ s.monitor.state.session.isFailed = true) ↔
      Told acts := by
  induction h with
  | nil =>
      simp [new, Told, SessionHealthMonitor.new, SessionHealthState.default,
        SubsystemHealth.isFailed]
  | @snoc acts r act t hr hstep ih =>
      rw [List.mem_append, not_or, List.mem_singleton] at hclient
      specialize ih hclient.1
      rw [told_concat, ← healthReporter_of_run hr]
      obtain ⟨active, e, rfl, hrx, hmonitor⟩ | ⟨hmonitor, out, hrx, hout⟩ :=
        (Stepped.of_step hstep).reports
      · have hactive : active = true := by
          cases active with
          | true => rfl
          | false => exact absurd rfl hclient.2
        rw [hmonitor, hactive, isFailed_handleEvent, ← ih, hrx]
        simp [PortalSessionAct.tells, or_assoc, or_left_comm]
      · rw [hmonitor, hrx, ← ih, ← hout]
        simp [or_and_right, exists_or, or_left_comm, or_comm]

end PortalSession

/-! ### The end of a session -/

/-- **The end of a portal session**, however its calls, their answers, the signals and the
monitor's rounds fall between each other.  The handle is invalid exactly if the signal
came, the session was closed, or a call came back with an error that says so.  From then on
no call is let through and there is no clipboard.  With no report waiting, and a client
there whenever one was handled, the monitor knows of a failure exactly if one was told: an
end of which the handle heard when it had its reporter, except that it does not tell when
the server closes the session itself; or what other parts of the server report. -/
theorem portal_handle_ends {listening : Bool} {acts : List PortalSessionAct} {s : PortalSession}
    (h : Run (StepOf PortalSession.step) (.new listening) acts s) :
    (s.handle.sessionValid = false ↔ ∃ act ∈ acts, act.ends = true) ∧
    (s.handle.sessionValid = false → ∀ post t, Run (StepOf PortalSession.step) s post t →
      t.handle.sessionValid = false ∧ t.letThrough = s.letThrough ∧
        t.handle.clipboardSource = .none) ∧
    (s.eventRx = [] → .handle false ∉ acts →
      (s.monitor.state.session.isFailed = true ↔ PortalSession.Told acts)) := by
  refine ⟨PortalSession.sessionValid_of_run h, fun hinvalid post t hpost => ?_,
    fun hrest hclient => ?_⟩
  · obtain ⟨hstays, hlet⟩ := PortalSession.invalid_of_run hpost hinvalid
    exact ⟨hstays, hlet, by rw [PortalSessionHandle.clipboardSource, hstays]; rfl⟩
  · have htold := PortalSession.told_of_run h hclient
    rw [hrest] at htold
    simpa using htold

/-- Two calls are on their way when the session goes.  The first says so; the error of the
second degrades the input again, and the session stays failed. -/
theorem portal_handle_ends_twoCalls :
    ∃ s, Run (StepOf PortalSession.step) (.new true)
        [.setHealthReporter, .notify .keyboardKeycode, .notify .pointerButton,
          .answered .keyboardKeycode (some "Invalid session"),
          .answered .pointerButton (some "timeout"), .handle true, .handle true] s ∧
      s.handle.sessionValid = false ∧ s.monitor.state.session.isFailed = true := by
  have hdestroyed : sessionDestroyed "Invalid session" = true := by decide +kernel
  have hrun : ([.setHealthReporter, .notify .keyboardKeycode, .notify .pointerButton,
      .answered .keyboardKeycode (some "Invalid session"),
      .answered .pointerButton (some "timeout"), .handle true, .handle true].foldlM
        PortalSession.step (.new true)).map PortalSession.eventRx = some [] := by
    decide +kernel
  obtain ⟨s, hs, hrest⟩ := Run.exists_of_foldlM PortalSession.eventRx hrun
  obtain ⟨hvalid, -, hmonitor⟩ := portal_handle_ends hs
  have hinvalid : s.handle.sessionValid = false :=
    hvalid.mpr ⟨.answered .keyboardKeycode (some "Invalid session"), by simp, hdestroyed⟩
  refine ⟨s, hs, hinvalid, (hmonitor hrest (by simp)).mpr ?_⟩
  exact ⟨[.setHealthReporter, .notify .keyboardKeycode, .notify .pointerButton], _, _, rfl,
    by simp [PortalSessionAct.tells, hdestroyed]⟩

end LamcoRdp
