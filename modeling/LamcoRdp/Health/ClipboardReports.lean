/-
LamcoRdp/Health/ClipboardReports.lean

What the clipboard tells the health monitor: the reports in `clipboard/manager/mod.rs`.

A task reports by the health reporter it was given a copy of when it was started.  The event
loop is started in `new`, before a reporter can be set: it counts errors in a row and has
nobody to tell.  A forwarder is started for every provider that is set, and tells how the
provider's listener fares, if a reporter was set by then.

`clipboard_reports` is about every run: the monitor is told exactly what the forwarders say
that were started after the reporter was set, and what other parts of the server report; the
end of a clipboard event tells it nothing, whatever goes wrong.

A task that has ended takes no more steps; a run need not say so.
-/
import LamcoRdp.Health.Monitor
import LamcoRdp.Lib.Histories
import LamcoRdp.Lib.Runs
import LamcoRdp.Lib.Standing

namespace LamcoRdp

open Runs Histories Standing

/-! ### Tasks that report -/

/-- `HealthReporter`: an end of the monitor's channel. -/
structure HealthReporter where
  deriving DecidableEq

/-- A task with this reporter has something to tell. -/
def reportTo (reporter : Option HealthReporter) (channel : List HealthEvent) (e : HealthEvent) :
    List HealthEvent :=
  match reporter with
  | some _ => channel ++ [e]
  | none => channel

/-- How `handle_event` ends. -/
inductive HandlerResult
  | ok
  | error (errMsg : String)
  deriving DecidableEq

/-- The message says that the session is invalid. -/
def isSessionInvalid (errMsg : String) : Bool :=
  decide ("session invalid".toList <:+: errMsg.toList) ||
    decide ("Session invalid".toList <:+: errMsg.toList)

/-- The event loop, with the reporter it was started with. -/
structure ClipboardLoop where
  healthReporter : Option HealthReporter
  consecutiveErrors : UInt32

namespace ClipboardLoop

/-- `start_event_processor`. -/
def start (healthReporter : Option HealthReporter) : ClipboardLoop := ⟨healthReporter, 0⟩

/-- The end of a round: the loop, and the monitor's channel. -/
def round (loop : ClipboardLoop) (channel : List HealthEvent) :
    HandlerResult → ClipboardLoop × List HealthEvent
  | .error errMsg =>
      let errors := loop.consecutiveErrors + 1
      ({ loop with consecutiveErrors := errors },
        if isSessionInvalid errMsg || decide (3 ≤ errors) then
          reportTo loop.healthReporter channel
            (.clipboardFailed (toString errors ++ " consecutive errors: " ++ errMsg))
        else channel)
  | .ok =>
      if 0 < loop.consecutiveErrors then
        ({ loop with consecutiveErrors := 0 },
          if 3 ≤ loop.consecutiveErrors then
            reportTo loop.healthReporter channel .clipboardRecovered
          else channel)
      else (loop, channel)

/-- A loop without a reporter tells nothing. -/
theorem round_silent {loop : ClipboardLoop} (h : loop.healthReporter = none)
    (channel : List HealthEvent) (result : HandlerResult) :
    (loop.round channel result).1.healthReporter = none ∧
      (loop.round channel result).2 = channel := by
  cases result with
  | error errMsg =>
      refine ⟨h, ?_⟩
      show (if _ then reportTo loop.healthReporter channel _ else channel) = channel
      rw [h]
      exact ite_self channel
  | ok =>
      unfold round
      by_cases hpos : 0 < loop.consecutiveErrors
      · rw [if_pos hpos]
        refine ⟨h, ?_⟩
        show (if _ then reportTo loop.healthReporter channel _ else channel) = channel
        rw [h]
        exact ite_self channel
      · rw [if_neg hpos]
        exact ⟨h, rfl⟩

end ClipboardLoop

/-- What a forwarder makes of `ListenerHealth`. -/
def listenerEvent (healthy : Bool) (reason : String) : HealthEvent :=
  if healthy then .clipboardRecovered else .clipboardFailed reason

/-! ### The system -/

/-- The orchestrator as far as it reports, with the monitor and the monitor's channel. -/
structure ClipboardHealth where
  /-- the orchestrator's `health_reporter` -/
  healthReporter : Option HealthReporter
  eventLoop : ClipboardLoop
  /-- the reporters of the forwarders, in the order in which they were started -/
  forwarders : List (Option HealthReporter)
  channel : List HealthEvent
  monitor : SessionHealthMonitor

/-- What may come about around the clipboard manager. -/
inductive ClipboardHealthEvent
  | setHealthReporter (reporter : HealthReporter)
  | setClipboardProvider
  /-- the event loop has handled an event -/
  | handled (result : HandlerResult)
  /-- the listener of a provider tells its forwarder how it fares -/
  | listenerHealth (forwarder : ℕ) (healthy : Bool) (reason : String)
  /-- another part of the server reports -/
  | otherReport (e : HealthEvent)
  /-- the monitor takes the next event from its channel -/
  | monitor (clientActive : Bool)
  deriving DecidableEq

namespace ClipboardHealth

/-- `ClipboardOrchestrator::new`: the loop gets a copy of the reporter, which is none. -/
def new : ClipboardHealth where
  healthReporter := none
  eventLoop := .start none
  forwarders := []
  channel := []
  monitor := .new

/-- One event. -/
def step (s : ClipboardHealth) : ClipboardHealthEvent → Option ClipboardHealth
  | .setHealthReporter reporter => some { s with healthReporter := some reporter }
  | .setClipboardProvider => some { s with forwarders := s.forwarders ++ [s.healthReporter] }
  | .handled result =>
      let (eventLoop, channel) := s.eventLoop.round s.channel result
      some { s with eventLoop := eventLoop, channel := channel }
  | .listenerHealth i healthy reason =>
      match s.forwarders[i]? with
      | none => none
      | some reporter =>
          some { s with channel := reportTo reporter s.channel (listenerEvent healthy reason) }
  | .otherReport e => some { s with channel := s.channel ++ [e] }
  | .monitor clientActive =>
      match s.channel with
      | [] => none
      | e :: channel =>
          some { s with channel := channel, monitor := s.monitor.handleEvent (clientActive, e) }

end ClipboardHealth

/-! ### What the monitor is told -/

/-- A reporter is set. -/
def ClipboardHealthEvent.setsReporter : ClipboardHealthEvent → Bool
  | .setHealthReporter _ => true
  | _ => false

/-- The number of providers that were set before any reporter. -/
def earlyProviders (es : List ClipboardHealthEvent) : ℕ :=
  (es.takeWhile fun e => !e.setsReporter).count .setClipboardProvider

/-- What the monitor is told by an event, after these events. -/
def toldBy (es : List ClipboardHealthEvent) : ClipboardHealthEvent → List HealthEvent
  | .listenerHealth i healthy reason =>
      if earlyProviders es ≤ i then [listenerEvent healthy reason] else []
  | .otherReport e => [e]
  | .setHealthReporter _ | .setClipboardProvider | .handled _ | .monitor _ => []

/-- All that the monitor is told. -/
def told (es : List ClipboardHealthEvent) : List HealthEvent := gather toldBy [] es

/-- What an event that the monitor handles says about the clipboard: that it has failed, or
that it has not. -/
def clipboardVerdict : Bool × HealthEvent → Option Bool
  | (clientActive, .sessionClosed _) => some clientActive
  | (_, .sessionInvalidated _) => some true
  | (_, .clipboardFailed _) => some true
  | (_, .clipboardRecovered) => some false
  | (_, .subsystemNotAvailable subsystem) => if subsystem = "clipboard" then some false else none
  | _ => none

theorem clipboard_handleEvent (m : SessionHealthMonitor) (e : Bool × HealthEvent) :
    (m.handleEvent e).state.clipboard = (handleHealthEvent e.1 m.state e.2).clipboard := by
  show (SessionHealthState.recomputeOverall _).clipboard = _
  rw [SessionHealthState.recomputeOverall]
  split_ifs <;> rfl

/-- The verdict of the last event that has one holds. -/
theorem clipboardFailed_handleEvent (m : SessionHealthMonitor) (e : Bool × HealthEvent) :
    (m.handleEvent e).state.clipboard.isFailed =
      (clipboardVerdict e).getD m.state.clipboard.isFailed := by
  rw [clipboard_handleEvent]
  obtain ⟨active, e⟩ := e
  cases e with
  | sessionClosed reason => cases active <;> rfl
  | clipboardRecovered =>
      show (if !m.state.clipboard.isHealthy then _ else m.state : SessionHealthState).clipboard.isFailed
        = false
      cases hclip : m.state.clipboard with
      | degraded reason => rfl
      | failed reason => rfl
      | _ =>
          -- it was not failed, and stays what it was
          rw [if_neg (by decide), hclip]
          rfl
  | subsystemNotAvailable subsystem =>
      show (if subsystem = "clipboard" then _ else if subsystem = "input" then _ else m.state :
        SessionHealthState).clipboard.isFailed = _
      by_cases hclip : subsystem = "clipboard"
      · rw [if_pos hclip, clipboardVerdict, if_pos hclip]
        rfl
      · rw [if_neg hclip, clipboardVerdict, if_neg hclip]
        split_ifs <;> rfl
  | videoStreamStateChanged state =>
      cases state with
      | paused => cases active <;> rfl
      | _ => rfl
  | egfxChannelClosed reason =>
      show (if _ then _ else m.state : SessionHealthState).clipboard.isFailed = _
      split_ifs <;> rfl
  | egfxChannelReady version =>
      show (if _ then _ else m.state : SessionHealthState).clipboard.isFailed = _
      split_ifs <;> rfl
  | inputFailed reason permanent => cases permanent <;> rfl
  | inputRecovered =>
      show (if _ then _ else m.state : SessionHealthState).clipboard.isFailed = _
      split_ifs <;> rfl
  | _ => rfl

/-! ### Runs -/

/-- The early providers grow until a reporter is set. -/
theorem earlyProviders_snoc (es : List ClipboardHealthEvent) (e : ClipboardHealthEvent) :
    earlyProviders (es ++ [e]) = earlyProviders es +
      if !es.any ClipboardHealthEvent.setsReporter && decide (e = .setClipboardProvider) then 1
      else 0 := by
  unfold earlyProviders
  induction es with
  | nil => cases e <;> rfl
  | cons a es ih =>
      rw [List.cons_append, List.any_cons]
      cases ha : a.setsReporter with
      | true =>
          simp only [List.takeWhile_cons, ha, Bool.not_true, Bool.true_or, Bool.false_and,
            Bool.false_eq_true, if_false]
          rfl
      | false =>
          simp only [List.takeWhile_cons, ha, Bool.not_false, if_true, List.count_cons, Bool.false_or]
          rw [ih, Nat.add_right_comm]

theorem told_snoc (es : List ClipboardHealthEvent) (e : ClipboardHealthEvent) :
    told (es ++ [e]) = told es ++ toldBy es e := by
  rw [told, gather_snoc, List.nil_append, ← told]

namespace ClipboardHealth

/-- What holds after the events: the loop has no reporter; a forwarder has one exactly if it
was not started early; and what was told has been handled or waits in the channel. -/
structure Inv (es : List ClipboardHealthEvent) (s : ClipboardHealth) : Prop where
  loop : s.eventLoop.healthReporter = none
  reporter : s.healthReporter.isSome = es.any ClipboardHealthEvent.setsReporter
  early : earlyProviders es ≤ s.forwarders.length
  unset : s.healthReporter = none → earlyProviders es = s.forwarders.length
  forwarders : ∀ i reporter, s.forwarders[i]? = some reporter →
    reporter.isSome = decide (earlyProviders es ≤ i)
  handled : ∃ handled : List (Bool × HealthEvent),
    handled.map Prod.snd ++ s.channel = told es ∧ s.monitor = SessionHealthMonitor.run handled

/-- An event that sets no reporter and no provider keeps what is known of the tasks. -/
theorem Inv.of_tasks {es : List ClipboardHealthEvent} {s t : ClipboardHealth}
    {e : ClipboardHealthEvent} (h : Inv es s) (hloop : t.eventLoop.healthReporter = none)
    (hreporter : t.healthReporter = s.healthReporter) (hforwarders : t.forwarders = s.forwarders)
    (hsets : e.setsReporter = false) (hprovider : e ≠ .setClipboardProvider)
    (hhandled : ∃ handled : List (Bool × HealthEvent),
      handled.map Prod.snd ++ t.channel = told (es ++ [e]) ∧
        t.monitor = SessionHealthMonitor.run handled) : Inv (es ++ [e]) t := by
  have hearly : earlyProviders (es ++ [e]) = earlyProviders es := by
    rw [earlyProviders_snoc, decide_eq_false hprovider, Bool.and_false, if_neg Bool.false_ne_true,
      Nat.add_zero]
  refine ⟨hloop, ?_, ?_, ?_, ?_, hhandled⟩
  · rw [hreporter, h.reporter, List.any_append, List.any_cons, hsets, List.any_nil, Bool.or_false,
      Bool.or_false]
  · rw [hearly, hforwarders]
    exact h.early
  · rw [hearly, hforwarders, hreporter]
    exact h.unset
  · rw [hearly, hforwarders]
    exact h.forwarders

/-- What is told now comes behind what waits in the channel. -/
theorem Inv.more {es : List ClipboardHealthEvent} {s : ClipboardHealth} (h : Inv es s)
    {e : ClipboardHealthEvent} {new : List HealthEvent} (hnew : toldBy es e = new) :
    ∃ handled : List (Bool × HealthEvent),
      handled.map Prod.snd ++ (s.channel ++ new) = told (es ++ [e]) ∧
        s.monitor = SessionHealthMonitor.run handled := by
  obtain ⟨handled, htold, hmonitor⟩ := h.handled
  refine ⟨handled, ?_, hmonitor⟩
  rw [told_snoc, ← htold, hnew, List.append_assoc]

/-- Nothing is told. -/
theorem Inv.same {es : List ClipboardHealthEvent} {s : ClipboardHealth} (h : Inv es s)
    {e : ClipboardHealthEvent} (hnew : toldBy es e = []) :
    ∃ handled : List (Bool × HealthEvent), handled.map Prod.snd ++ s.channel = told (es ++ [e]) ∧
        s.monitor = SessionHealthMonitor.run handled := by
  obtain ⟨handled, htold, hmonitor⟩ := h.more hnew
  exact ⟨handled, by rw [← htold, List.append_nil], hmonitor⟩

theorem inv_setHealthReporter {es : List ClipboardHealthEvent} {s : ClipboardHealth}
    (h : Inv es s) (reporter : HealthReporter) :
    Inv (es ++ [.setHealthReporter reporter]) { s with healthReporter := some reporter } := by
  have hearly : earlyProviders (es ++ [.setHealthReporter reporter]) = earlyProviders es := by
    rw [earlyProviders_snoc, decide_eq_false (fun heq => by cases heq), Bool.and_false,
      if_neg Bool.false_ne_true, Nat.add_zero]
  refine ⟨h.loop, ?_, ?_, fun hnone => ?_, ?_, h.same rfl⟩
  · rw [List.any_append]
    exact (Bool.or_true _).symm
  · rw [hearly]
    exact h.early
  · cases hnone
  · rw [hearly]
    exact h.forwarders

/-- What is in a list with one more at the end. -/
theorem of_getElem?_concat {α : Type*} {l : List α} {a b : α} {i : ℕ}
    (h : (l ++ [a])[i]? = some b) : i < l.length ∧ l[i]? = some b ∨ i = l.length ∧ b = a := by
  rcases Nat.lt_trichotomy i l.length with hlt | heq | hgt
  · exact Or.inl ⟨hlt, (List.getElem?_append_left hlt).symm.trans h⟩
  · rw [heq, List.getElem?_concat_length] at h
    exact Or.inr ⟨heq, (Option.some.inj h).symm⟩
  · rw [List.getElem?_eq_none (by rw [List.length_append]; exact hgt)] at h
    cases h

/-- The new forwarder is early as long as no reporter is set. -/
theorem inv_setClipboardProvider {es : List ClipboardHealthEvent} {s : ClipboardHealth}
    (h : Inv es s) :
    Inv (es ++ [.setClipboardProvider])
      { s with forwarders := s.forwarders ++ [s.healthReporter] } := by
  have hlength : (s.forwarders ++ [s.healthReporter]).length = s.forwarders.length + 1 := by
    rw [List.length_append, List.length_singleton]
  have hreporter : s.healthReporter.isSome =
      (es ++ [ClipboardHealthEvent.setClipboardProvider]).any
        ClipboardHealthEvent.setsReporter := by
    rw [h.reporter, List.any_append]
    exact (Bool.or_false _).symm
  have hearly := earlyProviders_snoc es ClipboardHealthEvent.setClipboardProvider
  rw [← h.reporter, decide_eq_true rfl, Bool.and_true] at hearly
  have hbefore := h.early
  cases hrep : s.healthReporter with
  | none =>
      have hall := h.unset hrep
      rw [hrep, Option.isSome_none, Bool.not_false, if_pos rfl] at hearly
      rw [hrep] at hlength hreporter
      have hcount : earlyProviders (es ++ [.setClipboardProvider]) =
          (s.forwarders ++ [none]).length := by
        rw [hearly, hlength, hall]
      refine ⟨h.loop, hreporter, hcount.le, fun _ => hcount, fun i reporter hi => ?_, h.same rfl⟩
      -- all forwarders so far are early, the new one too
      rcases of_getElem?_concat hi with ⟨hold, hi⟩ | ⟨hlast, rfl⟩
      · rw [h.forwarders i reporter hi, hearly, decide_eq_false (by omega),
          decide_eq_false (by omega)]
      · rw [hearly, decide_eq_false (by omega)]
        rfl
  | some r =>
      rw [hrep, Option.isSome_some, Bool.not_true, if_neg Bool.false_ne_true, Nat.add_zero] at hearly
      rw [hrep] at hlength hreporter
      refine ⟨h.loop, hreporter, ?_, fun hnone => ?_, fun i reporter hi => ?_, h.same rfl⟩
      · rw [hearly, hlength]
        exact hbefore.trans (Nat.le_succ _)
      · cases hnone
      · rw [hearly]
        rcases of_getElem?_concat hi with ⟨-, hi⟩ | ⟨hlast, rfl⟩
        · exact h.forwarders i reporter hi
        · exact (decide_eq_true (by omega)).symm

/-- **Every step keeps the invariant.** -/
theorem step_inv {es : List ClipboardHealthEvent} {s t : ClipboardHealth}
    {e : ClipboardHealthEvent} (h : Inv es s) (hst : s.step e = some t) : Inv (es ++ [e]) t := by
  cases e with
  | setHealthReporter reporter =>
      obtain rfl := Option.some.inj hst
      exact inv_setHealthReporter h reporter
  | setClipboardProvider =>
      obtain rfl := Option.some.inj hst
      exact inv_setClipboardProvider h
  | handled result =>
      obtain rfl := Option.some.inj hst
      -- nobody is told
      obtain ⟨hloop, hchannel⟩ := ClipboardLoop.round_silent h.loop s.channel result
      refine h.of_tasks hloop rfl rfl rfl (fun heq => by cases heq) ?_
      obtain ⟨handled, htold, hmonitor⟩ := h.same (e := .handled result) rfl
      refine ⟨handled, ?_, hmonitor⟩
      show _ ++ (s.eventLoop.round s.channel result).2 = _
      rw [hchannel, htold]
  | listenerHealth i healthy reason =>
      simp only [step] at hst
      rcases hi : s.forwarders[i]? with - | reporter
      · rw [hi] at hst
        cases hst
      · rw [hi] at hst
        obtain rfl := Option.some.inj hst
        refine h.of_tasks h.loop rfl rfl rfl (fun heq => by cases heq) ?_
        have hwired := h.forwarders i reporter hi
        cases reporter with
        | none =>
            have hlate : ¬ earlyProviders es ≤ i := of_decide_eq_false hwired.symm
            exact h.same (if_neg hlate)
        | some r => exact h.more (if_pos (of_decide_eq_true hwired.symm))
  | otherReport e =>
      obtain rfl := Option.some.inj hst
      exact h.of_tasks h.loop rfl rfl rfl (fun heq => by cases heq) (h.more rfl)
  | monitor clientActive =>
      simp only [step] at hst
      rcases hchannel : s.channel with - | ⟨e, channel⟩
      · rw [hchannel] at hst
        cases hst
      · rw [hchannel] at hst
        obtain rfl := Option.some.inj hst
        obtain ⟨handled, htold, hmonitor⟩ := h.handled
        refine h.of_tasks h.loop rfl rfl rfl (fun heq => by cases heq)
          ⟨handled ++ [(clientActive, e)], ?_, ?_⟩
        · rw [told_snoc, ← htold, hchannel, List.map_append, List.append_assoc]
          exact (List.append_nil _).symm
        · rw [SessionHealthMonitor.run, List.foldl_concat, ← SessionHealthMonitor.run, ← hmonitor]

/-- **The reports of the clipboard.**  In every run the monitor has handled, and finds in its
channel, what it was told, in that order: by the forwarders that were started after a reporter
had been set, and by other parts of the server, and nothing about the handling of clipboard
events, for the event loop has no reporter.  The clipboard counts as failed exactly if the last
event handled that has a verdict on it says so. -/
theorem clipboard_reports {es : List ClipboardHealthEvent} {s : ClipboardHealth}
    (h : Run (StepOf step) new es s) :
    s.eventLoop.healthReporter = none ∧
      ∃ handled : List (Bool × HealthEvent),
        handled.map Prod.snd ++ s.channel = told es ∧
        s.monitor = SessionHealthMonitor.run handled ∧
        (s.monitor.state.clipboard.isFailed = true ↔ Stands (fun _ => clipboardVerdict) handled) := by
  have hnew : Inv [] new := by
    refine ⟨rfl, rfl, Nat.zero_le _, fun _ => rfl, fun i reporter hi => ?_, [], rfl, rfl⟩
    cases hi
  have hinv : Inv es s := Run.invariant_trace (P := Inv) hnew (fun _ h hst => step_inv h hst) h
  obtain ⟨handled, htold, hmonitor⟩ := hinv.handled
  refine ⟨hinv.loop, handled, htold, hmonitor, ?_⟩
  rw [hmonitor]
  exact foldl_iff_stands (f := fun m : SessionHealthMonitor => m.state.clipboard.isFailed) rfl
    clipboardFailed_handleEvent

/-- A provider set too early, one set in time, three failures of the event loop, and a word of
each listener. -/
def oneEarlyProvider : List ClipboardHealthEvent :=
  [.setClipboardProvider, .setHealthReporter ⟨⟩, .setClipboardProvider,
    .handled (.error "timeout"), .handled (.error "timeout"),
    .handled (.error "session invalid"), .listenerHealth 0 false "first listener gone",
    .listenerHealth 1 false "second listener gone", .monitor true]

/-- Only the second listener is heard. -/
theorem clipboard_reports_oneEarlyProvider :
    told oneEarlyProvider = [.clipboardFailed "second listener gone"] ∧
      ∃ s, Run (StepOf step) new oneEarlyProvider s ∧ s.channel = [] ∧
        s.monitor.state.clipboard = .failed "second listener gone" ∧
        ∃ handled : List (Bool × HealthEvent),
          handled.map Prod.snd ++ s.channel = told oneEarlyProvider := by
  have hrun : (oneEarlyProvider.foldlM step new).map
      (fun s => (s.channel, s.monitor.state.clipboard)) =
        some ([], .failed "second listener gone") := by
    decide +kernel
  obtain ⟨s, hs, heq⟩ := Run.exists_of_foldlM
    (fun s : ClipboardHealth => (s.channel, s.monitor.state.clipboard)) hrun
  obtain ⟨hchannel, hclipboard⟩ := Prod.mk.inj heq
  obtain ⟨-, handled, htold, -⟩ := clipboard_reports hs
  exact ⟨by decide, s, hs, hchannel, hclipboard, handled, htold⟩

end ClipboardHealth

end LamcoRdp
