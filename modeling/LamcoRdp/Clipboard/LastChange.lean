/-
LamcoRdp/Clipboard/LastChange.lean

Whether the last change of the clipboard gets through a rate limit (`monitor_klipper_signals`,
`clipboard/cooperation.rs`, and the forwarder of D-Bus events, `clipboard/providers/portal.rs`).

Both loops compare the time with that of the last update they forwarded, and skip what comes
within the interval.  Nothing is kept for later, so the last change of a burst is lost if the
update before it is too recent.  `last_change_iff` says that this is the only way to lose it.

Times are in nanoseconds.  The monitor takes them from the system clock, which may be set back;
the forwarder takes them from a clock that runs on.
-/
import Mathlib.Data.Finset.Basic
import LamcoRdp.Clipboard.Conversion
import LamcoRdp.Lib.Throttle

namespace LamcoRdp

open Throttle

/-! ### Klipper -/

/-- A signal `clipboardHistoryUpdated`, with what the monitor finds when it handles it. -/
structure KlipperSignal where
  /-- when Klipper sends it -/
  arrival : ℕ
  active : Bool
  /-- the system clock, when the signal is handled -/
  clock : ℕ
  /-- the result of `get_clipboard_contents` -/
  contents : Except String String
  /-- when Klipper reads them -/
  readAt : ℕ
  /-- the system clock, when they are there -/
  readClock : ℕ
  /-- whether the channel to the manager is open -/
  sends : Bool
  /-- the system clock, when they have been sent -/
  sentClock : ℕ
  arrival_le : arrival ≤ readAt

/-- What the monitor tells the manager. -/
inductive CooperationEvent
  | klipperContentUpdated (content : String) (timestampMs : ℕ)
  | cooperationFailed (reason : String) (retry : Bool)
  deriving DecidableEq, Repr

/-- The milliseconds since the last sync, as far as the system clock can tell. -/
def sinceSync (lastSync clock : ℕ) : ℕ :=
  if lastSync ≤ clock then (clock - lastSync) / 1000000 % 2 ^ 64 else 999000

/-- `should_sync`. -/
def shouldSync (minIntervalMs : ℕ) (lastSyncTime : Option ℕ) (clock : ℕ) : Bool :=
  match lastSyncTime with
  | some t => !decide (sinceSync t clock < minIntervalMs)
  | none => true

/-- The state of `monitor_klipper_signals`. -/
structure KlipperSignals where
  lastSyncTime : Option ℕ
  running : Bool
  deriving DecidableEq, Repr

/-- A turn of `monitor_klipper_signals`, and what goes to the manager. -/
def KlipperSignals.handle (minIntervalMs : ℕ) (m : KlipperSignals) (signal : KlipperSignal) :
    KlipperSignals × Option CooperationEvent :=
  if !m.running then (m, none)
  else if !signal.active then ({ m with running := false }, none)
  -- a signal that comes too early is not kept for later
  else if !shouldSync minIntervalMs m.lastSyncTime signal.clock then (m, none)
  else
    match signal.contents with
    | .ok content =>
        if signal.sends then
          ({ m with lastSyncTime := some signal.sentClock },
            some (.klipperContentUpdated content (signal.readClock / 1000000 % 2 ^ 64)))
        else ({ m with running := false }, none)
    | .error e =>
        (m, if signal.sends then
          some (.cooperationFailed ("get_clipboard_contents failed: " ++ e) true) else none)

/-- An update for the manager, with the times of its signal. -/
structure KlipperUpdate where
  content : String
  readAt : ℕ
  sentClock : ℕ
  deriving DecidableEq, Repr

/-- The monitor with the last update it sent. -/
structure KlipperRun where
  monitor : KlipperSignals
  last : Option KlipperUpdate
  deriving DecidableEq, Repr

namespace KlipperRun

/-- A turn. -/
def step (minIntervalMs : ℕ) (s : KlipperRun) (signal : KlipperSignal) : KlipperRun :=
  match s.monitor.handle minIntervalMs signal with
  | (monitor, some (.klipperContentUpdated content _)) =>
      { monitor, last := some ⟨content, signal.readAt, signal.sentClock⟩ }
  | (monitor, _) => { s with monitor }

/-- All the turns for some signals. -/
def run (minIntervalMs : ℕ) (signals : List KlipperSignal) : KlipperRun :=
  signals.foldl (step minIntervalMs) ⟨⟨none, true⟩, none⟩

end KlipperRun

/-- Cooperation is on, the read succeeds and the send does. -/
def KlipperSignal.Succeeds (signal : KlipperSignal) : Prop :=
  signal.active = true ∧ signal.contents.isOk = true ∧ signal.sends = true

/-- What was read was read at the signal or later. -/
def KlipperUpdate.Covers (update : KlipperUpdate) (signal : KlipperSignal) : Prop :=
  signal.arrival ≤ update.readAt

/-- The update for a signal that succeeds, behind another update. -/
def syncForward (minIntervalMs : ℕ) (last : Option KlipperUpdate) (signal : KlipperSignal) :
    Option KlipperUpdate :=
  if shouldSync minIntervalMs (last.map KlipperUpdate.sentClock) signal.clock then
    signal.contents.toOption.map fun content => ⟨content, signal.readAt, signal.sentClock⟩
  else none

variable {minIntervalMs : ℕ} {signals : List KlipperSignal} {signal : KlipperSignal}
  {last : Option KlipperUpdate}

/-- What comes of a signal that succeeds. -/
theorem step_of_succeeds (h : signal.Succeeds) :
    KlipperRun.step minIntervalMs ⟨⟨last.map KlipperUpdate.sentClock, true⟩, last⟩ signal =
      ⟨⟨((syncForward minIntervalMs last signal).or last).map KlipperUpdate.sentClock, true⟩,
        (syncForward minIntervalMs last signal).or last⟩ := by
  obtain ⟨hactive, hok, hsends⟩ := h
  rcases hcontents : signal.contents with e | content
  · rw [hcontents] at hok
    cases hok
  · unfold KlipperRun.step KlipperSignals.handle syncForward
    cases hsync : shouldSync minIntervalMs (last.map KlipperUpdate.sentClock) signal.clock with
    | false => simp [hactive]
    | true => simp [hactive, hcontents, hsends, Except.toOption]

/-- The monitor is a throttle, as long as all goes well. -/
theorem run_of_succeeds (h : ∀ s ∈ signals, s.Succeeds) :
    KlipperRun.run minIntervalMs signals =
      ⟨⟨(Throttle.last (syncForward minIntervalMs) signals).map KlipperUpdate.sentClock, true⟩,
        Throttle.last (syncForward minIntervalMs) signals⟩ := by
  induction signals using List.reverseRecOn with
  | nil => rfl
  | append_singleton signals signal ih =>
      -- the time of the last sync is that of the last update
      have hrun := ih fun s hs => h s (List.mem_append_left _ hs)
      have hlast := h signal (List.mem_append_right _ (List.mem_singleton_self _))
      unfold KlipperRun.run at hrun ⊢
      rw [List.foldl_append, List.foldl_cons, List.foldl_nil, hrun, step_of_succeeds hlast,
        Throttle.last_snoc]

/-- An update sent for a signal was read after it. -/
theorem covers_of_syncForward {update : KlipperUpdate}
    (h : syncForward minIntervalMs last signal = some update) : update.Covers signal := by
  obtain ⟨-, h⟩ := Option.ite_none_right_eq_some.mp h
  obtain ⟨content, -, rfl⟩ := Option.map_eq_some_iff.mp h
  exact signal.arrival_le

theorem syncForward_isSome_iff (h : signal.Succeeds) :
    (syncForward minIntervalMs last signal).isSome = true ↔
      shouldSync minIntervalMs (last.map KlipperUpdate.sentClock) signal.clock = true := by
  obtain ⟨-, hok, -⟩ := h
  unfold syncForward
  rcases hcontents : signal.contents with e | content
  · rw [hcontents] at hok
    cases hok
  · cases shouldSync minIntervalMs (last.map KlipperUpdate.sentClock) signal.clock with
    | false => exact Iff.rfl
    | true => exact Iff.rfl

/-- A sync is skipped behind another one, within the interval. -/
theorem of_shouldSync_eq_false {lastSyncTime : Option ℕ} {clock : ℕ}
    (h : shouldSync minIntervalMs lastSyncTime clock = false) :
    ∃ t ∈ lastSyncTime, sinceSync t clock < minIntervalMs := by
  cases lastSyncTime with
  | none => cases h
  | some t =>
      refine ⟨t, rfl, ?_⟩
      unfold shouldSync at h
      rwa [Bool.not_eq_false', decide_eq_true_iff] at h

/-! ### D-Bus -/

/-- An event of the D-Bus clipboard bridge. -/
structure DbusClipboardEvent where
  mimeTypes : List Mime
  contentHash : String
  deriving DecidableEq, Repr

/-- The event `SelectionChanged` of a provider. -/
structure SelectionChanged where
  mimeTypes : List Mime
  force : Bool
  deriving DecidableEq, Repr

/-- An event with what the forwarder finds when it handles it. -/
structure DbusArrival where
  event : DbusClipboardEvent
  /-- the time of the check -/
  now : ℕ
  /-- the keys of `recently_written_hashes` -/
  recentlyWritten : Finset String
  /-- the time that is stored -/
  forwardTime : ℕ
  /-- whether the channel to the manager is open -/
  sends : Bool
  deriving DecidableEq

/-- The event is our own write coming back. -/
def DbusArrival.isSuppressed (a : DbusArrival) : Bool :=
  decide (a.event.contentHash ∈ a.recentlyWritten)

/-- The rate limit holds an event back. -/
def isRateLimited (rateLimitMs : ℕ) (lastForwardTime : Option ℕ) (now : ℕ) : Bool :=
  decide (0 < rateLimitMs) &&
    lastForwardTime.any fun t => decide ((now - t) / 1000000 < rateLimitMs)

/-- The state of the forwarder. -/
structure DbusForwarder where
  lastForwardTime : Option ℕ
  running : Bool
  deriving DecidableEq, Repr

/-- A turn of the forwarder, and what goes to the manager. -/
def DbusForwarder.handle (rateLimitMs : ℕ) (f : DbusForwarder) (a : DbusArrival) :
    DbusForwarder × Option SelectionChanged :=
  if !f.running then (f, none)
  else if isRateLimited rateLimitMs f.lastForwardTime a.now then (f, none)
  else if a.isSuppressed then (f, none)
  else if a.sends then
    ({ f with lastForwardTime := some a.forwardTime }, some ⟨a.event.mimeTypes, true⟩)
  else (⟨some a.forwardTime, false⟩, none)

/-- The forwarder with the last event that it forwarded. -/
structure DbusRun where
  forwarder : DbusForwarder
  last : Option DbusArrival
  deriving DecidableEq

namespace DbusRun

/-- A turn. -/
def step (rateLimitMs : ℕ) (s : DbusRun) (a : DbusArrival) : DbusRun :=
  match s.forwarder.handle rateLimitMs a with
  | (forwarder, some _) => { forwarder, last := some a }
  | (forwarder, none) => { s with forwarder }

/-- All the turns for some events. -/
def run (rateLimitMs : ℕ) (arrivals : List DbusArrival) : DbusRun :=
  arrivals.foldl (step rateLimitMs) ⟨⟨none, true⟩, none⟩

end DbusRun

/-- One event is of the same content as another. -/
def DbusArrival.Shows (a b : DbusArrival) : Prop := a.event = b.event

/-- What is forwarded for an event, behind another one. -/
def dbusForward (rateLimitMs : ℕ) (last : Option DbusArrival) (a : DbusArrival) :
    Option DbusArrival :=
  if isRateLimited rateLimitMs (last.map DbusArrival.forwardTime) a.now || a.isSuppressed then none
  else some a

variable {rateLimitMs : ℕ} {arrivals : List DbusArrival} {a : DbusArrival}
  {lastArrival : Option DbusArrival}

/-- What comes of an event that can be sent. -/
theorem step_of_sends (h : a.sends = true) :
    DbusRun.step rateLimitMs ⟨⟨lastArrival.map DbusArrival.forwardTime, true⟩, lastArrival⟩ a =
      ⟨⟨((dbusForward rateLimitMs lastArrival a).or lastArrival).map DbusArrival.forwardTime,
          true⟩,
        (dbusForward rateLimitMs lastArrival a).or lastArrival⟩ := by
  unfold DbusRun.step DbusForwarder.handle dbusForward
  cases hlimit : isRateLimited rateLimitMs (lastArrival.map DbusArrival.forwardTime) a.now with
  | true => simp
  | false =>
      cases hsuppressed : a.isSuppressed with
      | true => simp
      | false => simp [h]

/-- The forwarder is a throttle, as long as it can send. -/
theorem run_of_sends (h : ∀ a ∈ arrivals, a.sends = true) :
    DbusRun.run rateLimitMs arrivals =
      ⟨⟨(Throttle.last (dbusForward rateLimitMs) arrivals).map DbusArrival.forwardTime, true⟩,
        Throttle.last (dbusForward rateLimitMs) arrivals⟩ := by
  induction arrivals using List.reverseRecOn with
  | nil => rfl
  | append_singleton arrivals a ih =>
      have hrun := ih fun s hs => h s (List.mem_append_left _ hs)
      have hlast := h a (List.mem_append_right _ (List.mem_singleton_self _))
      unfold DbusRun.run at hrun ⊢
      rw [List.foldl_append, List.foldl_cons, List.foldl_nil, hrun, step_of_sends hlast,
        Throttle.last_snoc]

theorem dbusForward_of_suppressed (h : a.isSuppressed = true) (last : Option DbusArrival) :
    dbusForward rateLimitMs last a = none := by
  unfold dbusForward
  rw [h, Bool.or_true]
  rfl

theorem dbusForward_eq_some {b : DbusArrival}
    (h : dbusForward rateLimitMs lastArrival a = some b) : a = b := by
  unfold dbusForward at h
  split at h
  · cases h
  · exact Option.some.inj h

theorem dbusForward_isSome_iff (h : a.isSuppressed = false) :
    (dbusForward rateLimitMs lastArrival a).isSome = true ↔
      isRateLimited rateLimitMs (lastArrival.map DbusArrival.forwardTime) a.now = false := by
  unfold dbusForward
  rw [h, Bool.or_false]
  cases isRateLimited rateLimitMs (lastArrival.map DbusArrival.forwardTime) a.now with
  | false => exact ⟨fun _ => rfl, fun _ => rfl⟩
  | true => exact ⟨fun hsome => absurd hsome Bool.false_ne_true, fun hfalse => by cases hfalse⟩

/-- An event is held back behind another one, within the interval. -/
theorem of_isRateLimited {lastForwardTime : Option ℕ} {now : ℕ}
    (h : isRateLimited rateLimitMs lastForwardTime now = true) :
    ∃ t ∈ lastForwardTime, (now - t) / 1000000 < rateLimitMs := by
  unfold isRateLimited at h
  rw [Bool.and_eq_true] at h
  obtain ⟨t, ht, hlt⟩ := (Option.any_eq_true _ _).mp h.2
  exact ⟨t, ht, of_decide_eq_true hlt⟩

/-! ### Both -/

/-- **The last change** is what the last update shows, unless the rate limit holds it back; then
the update before it is less than the interval ago, and shows it only by chance.  For Klipper the
last change is the last signal, and an update shows it if it was read at the signal or later.
For D-Bus it is the last event that is not suppressed, and an update shows it if it is of the
same content. -/
theorem last_change_iff {minIntervalMs rateLimitMs : ℕ} {signals : List KlipperSignal}
    {signal : KlipperSignal} {arrivals suppressed : List DbusArrival} {change : DbusArrival}
    (hsucceeds : ∀ s ∈ signals ++ [signal], s.Succeeds)
    (hsends : ∀ a ∈ arrivals ++ change :: suppressed, a.sends = true)
    (hchange : change.isSuppressed = false) (hsuppressed : ∀ a ∈ suppressed, a.isSuppressed = true) :
    ((Reflected KlipperUpdate.Covers (KlipperRun.run minIntervalMs (signals ++ [signal])).last
          signal ↔
        shouldSync minIntervalMs (KlipperRun.run minIntervalMs signals).monitor.lastSyncTime
          signal.clock = true ∨
        Reflected KlipperUpdate.Covers (KlipperRun.run minIntervalMs signals).last signal) ∧
      (¬ Reflected KlipperUpdate.Covers
          (KlipperRun.run minIntervalMs (signals ++ [signal])).last signal →
        ∃ update ∈ (KlipperRun.run minIntervalMs (signals ++ [signal])).last,
          sinceSync update.sentClock signal.clock < minIntervalMs)) ∧
    (Reflected DbusArrival.Shows (DbusRun.run rateLimitMs (arrivals ++ change :: suppressed)).last
          change ↔
        isRateLimited rateLimitMs (DbusRun.run rateLimitMs arrivals).forwarder.lastForwardTime
          change.now = false ∨
        Reflected DbusArrival.Shows (DbusRun.run rateLimitMs arrivals).last change) ∧
      (¬ Reflected DbusArrival.Shows
          (DbusRun.run rateLimitMs (arrivals ++ change :: suppressed)).last change →
        ∃ a ∈ (DbusRun.run rateLimitMs (arrivals ++ change :: suppressed)).last,
          (change.now - a.forwardTime) / 1000000 < rateLimitMs) := by
  have hsignal := hsucceeds signal (List.mem_append_right _ (List.mem_singleton_self _))
  have hnone : ∀ j ∈ ([] : List KlipperSignal), ∀ o, syncForward minIntervalMs o j = none :=
    fun j hj => absurd hj List.not_mem_nil
  have hdropped : ∀ a ∈ suppressed, ∀ o, dbusForward rateLimitMs o a = none :=
    fun a ha o => dbusForward_of_suppressed (hsuppressed a ha) o
  have hcovers : ∀ update, syncForward minIntervalMs
      (Throttle.last (syncForward minIntervalMs) signals) signal = some update →
      update.Covers signal := fun _ h => covers_of_syncForward h
  have hshows : ∀ a, dbusForward rateLimitMs
      (Throttle.last (dbusForward rateLimitMs) arrivals) change = some a → a.Shows change := by
    intro a h
    rw [dbusForward_eq_some h]
    rfl
  rw [run_of_succeeds hsucceeds,
    run_of_succeeds fun s hs => hsucceeds s (List.mem_append_left _ hs),
    run_of_sends hsends, run_of_sends fun a ha => hsends a (List.mem_append_left _ ha)]
  -- first the monitor, then the forwarder; each gate is read off the update before
  refine ⟨⟨?_, fun hlost => ?_⟩, ?_, fun hlost => ?_⟩
  · rw [reflected_iff hcovers hnone, syncForward_isSome_iff hsignal]
  · obtain ⟨hskipped, hlast⟩ := last_of_not_reflected hcovers hnone hlost
    have hsync := Option.not_isSome_iff_eq_none.mpr hskipped
    rw [syncForward_isSome_iff hsignal, Bool.not_eq_true] at hsync
    obtain ⟨t, ht, hearly⟩ := of_shouldSync_eq_false hsync
    obtain ⟨update, hupdate, rfl⟩ := Option.map_eq_some_iff.mp ht
    exact ⟨update, hlast.trans hupdate, hearly⟩
  · rw [reflected_iff hshows hdropped, dbusForward_isSome_iff hchange]
  · obtain ⟨hheld, hlast⟩ := last_of_not_reflected hshows hdropped hlost
    have hlimit := Option.not_isSome_iff_eq_none.mpr hheld
    rw [dbusForward_isSome_iff hchange, Bool.not_eq_false] at hlimit
    obtain ⟨t, ht, hearly⟩ := of_isRateLimited hlimit
    obtain ⟨a, ha, rfl⟩ := Option.map_eq_some_iff.mp ht
    exact ⟨a, hlast.trans ha, hearly⟩

/-- Two signals, the second three seconds after the update for the first. -/
def spacedSignals : KlipperSignal × KlipperSignal :=
  (⟨0, true, 0, .ok "a", 1, 1, true, 2, by decide⟩,
    ⟨3000000000, true, 3000000000, .ok "b", 3000000001, 3000000001, true, 3000000002, by decide⟩)

/-- Two events, the second three tenths of a second after the first, and a write of our own. -/
def spacedArrivals : DbusArrival × DbusArrival × DbusArrival :=
  (⟨⟨["text/plain"], "a"⟩, 0, ∅, 1, true⟩, ⟨⟨["text/plain"], "b"⟩, 300000000, ∅, 300000001, true⟩,
    ⟨⟨["text/plain"], "c"⟩, 900000000, {"c"}, 900000001, true⟩)

/-- Behind an update for the change before it, a change that keeps the interval is shown. -/
theorem last_change_spaced :
    (KlipperRun.run 1000 [spacedSignals.1]).last.isSome ∧
      (DbusRun.run 200 [spacedArrivals.1]).last.isSome ∧
      Reflected KlipperUpdate.Covers
        (KlipperRun.run 1000 ([spacedSignals.1] ++ [spacedSignals.2])).last spacedSignals.2 ∧
      Reflected DbusArrival.Shows
        (DbusRun.run 200 ([spacedArrivals.1] ++ spacedArrivals.2.1 :: [spacedArrivals.2.2])).last
        spacedArrivals.2.1 := by
  have hsucceeds : ∀ s ∈ [spacedSignals.1] ++ [spacedSignals.2], s.Succeeds := by
    intro s hs
    rcases List.mem_append.mp hs with hs | hs
    all_goals
      obtain rfl := List.mem_singleton.mp hs
      exact ⟨rfl, rfl, rfl⟩
  have hsends : ∀ a ∈ [spacedArrivals.1] ++ spacedArrivals.2.1 :: [spacedArrivals.2.2],
      a.sends = true := by decide
  have hsuppressed : ∀ a ∈ [spacedArrivals.2.2], a.isSuppressed = true := by decide
  obtain ⟨⟨hsignal, -⟩, hchange, -⟩ := last_change_iff hsucceeds hsends rfl hsuppressed
  exact ⟨rfl, rfl, hsignal.mpr (Or.inl rfl), hchange.mpr (Or.inl rfl)⟩

/-- A second signal a tenth of a second behind the first, and a second event likewise. -/
theorem last_change_lost :
    (∃ first second : KlipperSignal, first.Succeeds ∧ second.Succeeds ∧
      ¬ Reflected KlipperUpdate.Covers (KlipperRun.run 1000 [first, second]).last second) ∧
    ∃ first second : DbusArrival, first.sends = true ∧ second.sends = true ∧
      second.isSuppressed = false ∧
      ¬ Reflected DbusArrival.Shows (DbusRun.run 200 [first, second]).last second := by
  constructor
  · refine ⟨⟨0, true, 0, .ok "a", 1, 1, true, 2, Nat.zero_le 1⟩,
      ⟨100000000, true, 100000000, .ok "b", 100000001, 100000001, true, 100000002,
        Nat.le_succ _⟩, ⟨rfl, rfl, rfl⟩, ⟨rfl, rfl, rfl⟩, ?_⟩
    rintro ⟨update, hupdate, hcovers⟩
    obtain rfl : ⟨"a", 1, 2⟩ = update := Option.some.inj hupdate
    exact absurd (show 100000000 ≤ 1 from hcovers) (by decide)
  · refine ⟨⟨⟨["text/plain"], "a"⟩, 0, ∅, 1, true⟩,
      ⟨⟨["text/plain"], "b"⟩, 100000000, ∅, 100000001, true⟩, rfl, rfl, rfl, ?_⟩
    rintro ⟨update, hupdate, hshows⟩
    obtain rfl : ⟨⟨["text/plain"], "a"⟩, 0, ∅, 1, true⟩ = update := Option.some.inj hupdate
    exact absurd (congrArg DbusClipboardEvent.contentHash hshows) (by decide)

end LamcoRdp
