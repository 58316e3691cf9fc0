/-
LamcoRdp/Session/MutterLifecycle.lean

The compositor sessions of a Mutter handle, one after another.

`establish_for_client` puts a fresh pair of sessions in place of one that is no longer
valid, `release_after_client` stops the pair when the client leaves; the accept loop
calls them one at a time.  Each pair has two tasks that wait for its `Closed` signals:
a task that gets one sets `session_valid` to false, and reports the close as a failure
unless `deliberate_close` is set.

The old tasks are aborted by `start_closed_listeners`, which `establish_for_client`
calls last.  Before that it has put the new pair in place, set `session_valid` and
cleared `deliberate_close`, and awaited `eis.rebind`: a signal of the old pair that
arrives there marks the new pair as invalid, and is reported although the close was
deliberate.  `Timely` rules that out, and then validity is lost only by a release or by
a close of the current pair.
-/
import LamcoRdp.Lib.Runs
import Mathlib.Logic.Function.Basic
import Mathlib.Order.Basic

namespace LamcoRdp

open Runs

/-- The two sessions of a pair. -/
inductive MutterSessionKind
  | screenCast
  | remoteDesktop
  deriving DecidableEq

/-- A session of the compositor: the number of its pair, and which of the two it is. -/
abbrev MutterSessionId := ℕ × MutterSessionKind

/-- The task of `spawn_closed_listener`. -/
inductive ClosedListener
  | notSpawned
  | armed
  /-- the signal is in its stream -/
  | signalled
  | finished
  | aborted
  deriving DecidableEq

/-- The task is still there. -/
def ClosedListener.Live : ClosedListener → Prop
  | .armed => True
  | .signalled => True
  | _ => False

/-- `abort` ends a listener that has not come to its end. -/
def ClosedListener.abort : ClosedListener → ClosedListener
  | .armed => .aborted
  | .signalled => .aborted
  | listener => listener

/-- Where the accept loop is in the calls of the handle, by what it awaits. -/
inductive LifecycleCall
  | idle
  /-- `establish_for_client`: `MutterSession::new` and `create_session` -/
  | creating
  | rebindingClipboard (fresh : ℕ)
  | rebindingEis
  /-- `start_closed_listeners`, with the handles so far; `client` tells whether
  `establish_for_client` has called it -/
  | subscribing (kind : MutterSessionKind) (handles : List MutterSessionId) (client : Bool)
  /-- `release_after_client` -/
  | stopping (kind : MutterSessionKind)
  deriving DecidableEq

/-- The handles that `start_closed_listeners` has not stored yet. -/
def LifecycleCall.handles : LifecycleCall → List MutterSessionId
  | .subscribing _ handles _ => handles
  | _ => []

/-- Between the calls, or with nothing but the old pair in hand. -/
def LifecycleCall.Plain : LifecycleCall → Prop
  | .idle => True
  | .creating => True
  | .stopping _ => True
  | _ => False

/-- The sessions, the listeners, and what the server keeps of them. -/
structure MutterLifecycle where
  /-- the pair in `mutter_handle` -/
  mutterHandle : ℕ
  sessionValid : Bool
  deliberateClose : Bool
  listenerTasks : List MutterSessionId
  /-- the handle has a clipboard -/
  clipboard : Bool
  /-- the feature `libei` -/
  libei : Bool
  call : LifecycleCall
  listeners : MutterSessionId → ClosedListener
  /-- how many pairs the compositor has created -/
  created : ℕ
  /-- stopped, or reaped -/
  closed : MutterSessionId → Bool
  /-- the `SessionClosed` events -/
  reported : List MutterSessionId
  /-- `establish_for_client` has returned `Ok` -/
  established : Bool
  /-- `release_after_client` has been called since -/
  releasedSince : Bool
  closedSince : MutterSessionId → Bool
  /-- `release_after_client` has been called for the pair -/
  released : ℕ → Bool
  /-- the session was closed after that -/
  closedReleased : MutterSessionId → Bool

/-- A call of the server, or a step of the compositor or of a listener. -/
inductive LifecycleEvent
  | establish
  | release
  /-- the call goes on; `ok` is what came of `create_session` or the subscription -/
  | resume (ok : Bool)
  /-- the compositor closes a session -/
  | close (id : MutterSessionId)
  /-- and emits `Closed` -/
  | emit (id : MutterSessionId)
  /-- the task with the signal runs -/
  | listen (id : MutterSessionId)
  deriving DecidableEq

namespace MutterLifecycle

/-- `create_session` of the strategy has made the handle. -/
def initial (clipboard libei : Bool) : MutterLifecycle where
  mutterHandle := 0
  sessionValid := true
  deliberateClose := false
  listenerTasks := []
  clipboard := clipboard
  libei := libei
  call := .subscribing .screenCast [] false
  listeners := fun _ => .notSpawned
  created := 1
  closed := fun _ => false
  reported := []
  established := false
  releasedSince := false
  closedSince := fun _ => false
  released := fun _ => false
  closedReleased := fun _ => false

/-- `establish_for_client` returns `Ok`. -/
def returnOk (s : MutterLifecycle) : MutterLifecycle :=
  { s with call := .idle, established := true, releasedSince := false,
           closedSince := fun _ => false }

/-- `start_closed_listeners`, up to its first await point. -/
def startClosedListeners (s : MutterLifecycle) (client : Bool) : MutterLifecycle :=
  { s with
    listeners := fun id =>
      if id ∈ s.listenerTasks then (s.listeners id).abort else s.listeners id
    listenerTasks := []
    call := .subscribing .screenCast [] client }

/-- `spawn_closed_listener` for a session of the current pair. -/
def spawnClosedListener (s : MutterLifecycle) (kind : MutterSessionKind) : MutterLifecycle :=
  { s with listeners := Function.update s.listeners (s.mutterHandle, kind) .armed }

/-- The compositor has created a pair. -/
def create (s : MutterLifecycle) : MutterLifecycle :=
  { s with created := s.created + 1, call := .rebindingClipboard s.created }

/-- The live session is swapped in, and marked valid. -/
def swap (s : MutterLifecycle) (fresh : ℕ) : MutterLifecycle :=
  { s with mutterHandle := fresh, sessionValid := true, deliberateClose := false,
           call := .rebindingEis }

/-- `establish_for_client` from the swap on; without `libei` there is nothing to await
before the listeners. -/
def rearm (s : MutterLifecycle) (fresh : ℕ) : MutterLifecycle :=
  if s.libei then s.swap fresh else (s.swap fresh).startClosedListeners true

/-- The call goes on. -/
def resume? (s : MutterLifecycle) (ok : Bool) : Option MutterLifecycle :=
  match s.call with
  | .idle => none
  | .creating =>
      some (if ok then
          if s.clipboard then s.create else s.create.rearm s.created
        else { s with call := .idle })
  -- a clipboard that cannot be rebound is logged
  | .rebindingClipboard fresh => some (s.rearm fresh)
  | .rebindingEis => some (s.startClosedListeners true)
  | .subscribing .screenCast handles client =>
      some (if ok then
          { s.spawnClosedListener .screenCast with
            call := .subscribing .remoteDesktop
              (handles ++ [(s.mutterHandle, .screenCast)]) client }
        else { s with call := .subscribing .remoteDesktop handles client })
  | .subscribing .remoteDesktop handles client =>
      let armed :=
        if ok then
          { s.spawnClosedListener .remoteDesktop with
            call := .idle
            listenerTasks := handles ++ [(s.mutterHandle, .remoteDesktop)] }
        else { s with call := .idle, listenerTasks := handles }
      some (if client then armed.returnOk else armed)
  | .stopping .screenCast => some { s with call := .stopping .remoteDesktop }
  | .stopping .remoteDesktop => some { s with call := .idle }

/-- One event, `none` where it cannot happen. -/
def step? (s : MutterLifecycle) : LifecycleEvent → Option MutterLifecycle
  | .establish =>
      if s.call = .idle then
        some (if s.sessionValid then s.returnOk else { s with call := .creating })
      else none
  | .release =>
      if s.call = .idle then
        some { s with
          deliberateClose := true
          sessionValid := false
          call := .stopping .screenCast
          releasedSince := true
          released := Function.update s.released s.mutterHandle true }
      else none
  | .resume ok => s.resume? ok
  | .close id =>
      if id.1 < s.created ∧ s.closed id = false then
        some { s with
          closed := Function.update s.closed id true
          closedSince := Function.update s.closedSince id true
          closedReleased := Function.update s.closedReleased id (s.released id.1) }
      else none
  | .emit id =>
      if s.closed id = true then
        some (if s.listeners id = .armed then
          { s with listeners := Function.update s.listeners id .signalled } else s)
      else none
  | .listen id =>
      if s.listeners id = .signalled then
        some { s with
          sessionValid := false
          listeners := Function.update s.listeners id .finished
          reported := if s.deliberateClose then s.reported else s.reported ++ [id] }
      else none

/-! ### What must hold -/

/-- After `establish_for_client` has returned `Ok`, the session is invalid only if it has
been released since, or the compositor has closed one of the current pair since. -/
def ValidSince (s : MutterLifecycle) : Prop :=
  s.established = true → s.sessionValid = false →
    s.releasedSince = true ∨ ∃ kind, s.closedSince (s.mutterHandle, kind) = true

/-- No close that followed a deliberate release is reported. -/
def ReportsUnexpected (s : MutterLifecycle) : Prop :=
  ∀ id ∈ s.reported, s.closedReleased id = false

/-- None of the current pair is closed. -/
def CurrentOpen (s : MutterLifecycle) : Prop :=
  s.closed (s.mutterHandle, .screenCast) = false ∧
    s.closed (s.mutterHandle, .remoteDesktop) = false

/-- No task gets its signal while `establish_for_client` awaits `eis.rebind`, and that
call does not return `Ok` for a pair that the compositor has already closed. -/
def Timely (s : MutterLifecycle) : LifecycleEvent → Prop
  | .listen _ => s.call ≠ .rebindingEis
  | .establish => s.sessionValid = true → s.CurrentOpen
  | .resume _ =>
      match s.call with
      | .subscribing .remoteDesktop _ true => s.CurrentOpen
      | _ => True
  | _ => True

/-! ### The invariant -/

/-- What holds in every run. -/
structure Sound (s : MutterLifecycle) : Prop where
  valid : s.ValidSince
  /-- the pair put in place is valid until one of it is closed -/
  opened : s.call = .rebindingEis ∨ (∃ kind handles, s.call = .subscribing kind handles true) →
    s.sessionValid = false → ∃ kind, s.closed (s.mutterHandle, kind) = true
  count : (∀ fresh, s.call ≠ .rebindingClipboard fresh) → s.created = s.mutterHandle + 1
  pending : ∀ fresh, s.call = .rebindingClipboard fresh →
    fresh = s.mutterHandle + 1 ∧ s.created = s.mutterHandle + 2
  unborn : ∀ id, s.created ≤ id.1 → s.closed id = false
  unreleased : ∀ pair, s.mutterHandle < pair → s.released pair = false
  since : s.established = true → ∀ id, s.mutterHandle ≤ id.1 → s.closed id = true →
    s.closedSince id = true
  marked : s.released s.mutterHandle = true → s.deliberateClose = true
  tracked : ∀ id, (s.listeners id).Live → id ∈ s.listenerTasks ++ s.call.handles
  current : s.call ≠ .rebindingEis → ∀ id, (s.listeners id).Live → id.1 = s.mutterHandle
  drained : ∀ kind handles client, s.call = .subscribing kind handles client →
    s.listenerTasks = []
  signalled : ∀ id, s.listeners id = .signalled → s.closed id = true
  released : ∀ id, s.closedReleased id = true → s.released id.1 = true
  reports : ∀ id ∈ s.reported, s.closed id = true ∧ s.closedReleased id = false

variable {s t : MutterLifecycle}

theorem sound_initial (clipboard libei : Bool) : (initial clipboard libei).Sound where
  valid := nofun
  opened := nofun
  count := fun _ => rfl
  pending := nofun
  unborn := fun _ _ => rfl
  unreleased := fun _ _ => rfl
  since := nofun
  marked := nofun
  tracked := fun _ hlive => hlive.elim
  current := fun _ _ hlive => hlive.elim
  drained := fun _ _ _ _ => rfl
  signalled := nofun
  released := nofun
  reports := fun _ hmem => absurd hmem List.not_mem_nil

theorem closed_of_currentOpen (h : s.CurrentOpen)
    (hclosed : ∃ kind, s.closed (s.mutterHandle, kind) = true) : False := by
  obtain ⟨kind, hclosed⟩ := hclosed
  cases kind
  · exact absurd hclosed (Bool.eq_false_iff.mp h.1)
  · exact absurd hclosed (Bool.eq_false_iff.mp h.2)

/-! ### The call goes on -/

/-- The call goes on without touching anything. -/
theorem Sound.goto (h : s.Sound) (call : LifecycleCall) (hbefore : s.call.Plain)
    (hafter : call.Plain) : { s with call }.Sound := by
  refine { h with
    opened := ?_, count := fun _ => ?_, pending := ?_, tracked := ?_, current := fun _ => ?_,
    drained := ?_ }
  · rintro (rfl | ⟨kind, handles, rfl⟩) <;> exact hafter.elim
  · refine h.count fun fresh hnow => ?_
    rw [hnow] at hbefore
    exact hbefore
  · rintro fresh rfl
    exact hafter.elim
  · intro id hlive
    have htracked := h.tracked id hlive
    rcases s with ⟨_, _, _, _, _, _, now⟩
    cases now <;> first | exact hbefore.elim | cases call <;> first | exact hafter.elim | exact htracked
  · refine h.current fun hnow => ?_
    rw [hnow] at hbefore
    exact hbefore
  · rintro kind handles client rfl
    exact hafter.elim

theorem Sound.create (h : s.Sound) (hcall : s.call = .creating) : s.create.Sound := by
  have hcount : s.created = s.mutterHandle + 1 := h.count fun fresh => by rw [hcall]; nofun
  refine { h with
    opened := ?_, count := ?_, pending := ?_, unborn := ?_, tracked := ?_, current := ?_,
    drained := nofun }
  · rintro (hnow | ⟨kind, handles, hnow⟩) <;> cases hnow
  · exact fun hne => absurd rfl (hne s.created)
  · intro fresh hnow
    cases hnow
    exact ⟨hcount, congrArg (· + 1) hcount⟩
  · exact fun id hid => h.unborn id (Nat.le_of_succ_le hid)
  · intro id hlive
    have htracked := h.tracked id hlive
    rwa [hcall] at htracked
  · exact fun _ id hlive => h.current (by rw [hcall]; nofun) id hlive

theorem Sound.swap (h : s.Sound) {fresh : ℕ} (hcall : s.call = .rebindingClipboard fresh) :
    (s.swap fresh).Sound := by
  obtain ⟨rfl, hcreated⟩ := h.pending fresh hcall
  refine { h with
    valid := nofun, opened := nofun, count := fun _ => hcreated, pending := nofun,
    unreleased := ?_, since := ?_, marked := ?_, tracked := ?_, current := ?_,
    drained := nofun }
  · exact fun pair hpair => h.unreleased pair (Nat.lt_of_succ_lt hpair)
  · exact fun hestablished id hid => h.since hestablished id (Nat.le_of_succ_le hid)
  · intro hreleased
    have hnot := h.unreleased (s.mutterHandle + 1) (Nat.lt_succ_self _)
    exact absurd hreleased (Bool.eq_false_iff.mp hnot)
  · intro id hlive
    have htracked := h.tracked id hlive
    rwa [hcall] at htracked
  · exact fun hne => absurd rfl hne

/-- All tasks of the old pair are aborted. -/
theorem Sound.startClosedListeners (h : s.Sound) (hcall : s.call = .rebindingEis) :
    (s.startClosedListeners true).Sound := by
  have hnone : ∀ id, ¬ ((s.startClosedListeners true).listeners id).Live := by
    intro id hlive
    simp only [MutterLifecycle.startClosedListeners] at hlive
    split at hlive
    · cases hl : s.listeners id <;> rw [hl] at hlive <;> exact hlive
    case isFalse hnot =>
      have htracked := h.tracked id hlive
      rw [hcall] at htracked
      exact hnot (List.append_nil s.listenerTasks ▸ htracked)
  refine { h with
    opened := fun _ => h.opened (.inl hcall), count := fun _ => ?_, pending := nofun,
    tracked := fun id hlive => absurd hlive (hnone id),
    current := fun _ id hlive => absurd hlive (hnone id),
    drained := fun _ _ _ _ => rfl, signalled := fun id hsignalled => ?_ }
  · exact h.count fun fresh => by rw [hcall]; nofun
  · refine absurd ?_ (hnone id)
    rw [hsignalled]
    trivial

theorem Sound.rearm (h : s.Sound) {fresh : ℕ} (hcall : s.call = .rebindingClipboard fresh) :
    (s.rearm fresh).Sound := by
  rw [MutterLifecycle.rearm]
  split
  · exact h.swap hcall
  · exact (h.swap hcall).startClosedListeners rfl

/-- A task is spawned for a session of the current pair. -/
theorem Sound.spawn (h : s.Sound) {kind : MutterSessionKind} {handles : List MutterSessionId}
    {client : Bool} (hcall : s.call = .subscribing kind handles client)
    (spawned next : MutterSessionKind) :
    { s.spawnClosedListener spawned with
      call := .subscribing next (handles ++ [(s.mutterHandle, spawned)]) client }.Sound := by
  refine { h with
    opened := ?_, count := fun _ => ?_, pending := nofun, tracked := ?_, current := ?_,
    drained := fun _ _ _ _ => h.drained _ _ _ hcall, signalled := ?_ }
  · rintro (hnow | ⟨_, _, hnow⟩)
    · cases hnow
    · cases hnow
      exact h.opened (.inr ⟨_, _, hcall⟩)
  · exact h.count fun fresh => by rw [hcall]; nofun
  · -- the new listener is among the handles
    refine (Function.forall_update_iff s.listeners (p := fun id l => l.Live →
      id ∈ s.listenerTasks ++ (handles ++ [(s.mutterHandle, spawned)]))).mpr ⟨?_, ?_⟩
    · exact fun _ => List.mem_append_right _ (List.mem_append_right _ (List.mem_singleton_self _))
    · intro id _ hlive
      have htracked := h.tracked id hlive
      rw [hcall] at htracked
      rw [← List.append_assoc]
      exact List.mem_append_left _ htracked
  · -- it listens to the current session
    intro _
    refine (Function.forall_update_iff s.listeners
      (p := fun id l => l.Live → id.1 = s.mutterHandle)).mpr ⟨fun _ => rfl, fun id _ => ?_⟩
    exact h.current (by rw [hcall]; nofun) id
  · exact (Function.forall_update_iff s.listeners
      (p := fun id l => l = .signalled → s.closed id = true)).mpr
        ⟨nofun, fun id _ => h.signalled id⟩

/-- A subscription failed. -/
theorem Sound.skip (h : s.Sound) {kind : MutterSessionKind} {handles : List MutterSessionId}
    {client : Bool} (hcall : s.call = .subscribing kind handles client)
    (next : MutterSessionKind) :
    { s with call := .subscribing next handles client }.Sound := by
  refine { h with
    opened := ?_, count := fun _ => ?_, pending := nofun, tracked := ?_, current := ?_,
    drained := fun _ _ _ _ => h.drained _ _ _ hcall }
  · rintro (hnow | ⟨_, _, hnow⟩)
    · cases hnow
    · cases hnow
      exact h.opened (.inr ⟨_, _, hcall⟩)
  · exact h.count fun fresh => by rw [hcall]; nofun
  · intro id hlive
    have htracked := h.tracked id hlive
    rwa [hcall] at htracked
  · exact fun _ => h.current (by rw [hcall]; nofun)

/-- The handles are stored. -/
theorem Sound.store (h : s.Sound) {kind : MutterSessionKind} {handles : List MutterSessionId}
    {client : Bool} (hcall : s.call = .subscribing kind handles client) :
    { s with call := .idle, listenerTasks := handles }.Sound := by
  refine { h with
    opened := ?_, count := fun _ => ?_, pending := nofun, tracked := ?_, current := ?_,
    drained := nofun }
  · rintro (hnow | ⟨_, _, hnow⟩) <;> cases hnow
  · exact h.count fun fresh => by rw [hcall]; nofun
  · intro id hlive
    have htracked := h.tracked id hlive
    rw [hcall, h.drained _ _ _ hcall] at htracked
    rw [List.nil_append] at htracked
    exact List.mem_append_left _ htracked
  · exact fun _ => h.current (by rw [hcall]; nofun)

theorem Sound.returnOk (h : s.Sound) (hcall : s.call = .idle) (hvalid : s.sessionValid = true)
    (hopen : s.CurrentOpen) : s.returnOk.Sound := by
  have hcount : s.created = s.mutterHandle + 1 := h.count fun fresh => by rw [hcall]; nofun
  refine { h with
    valid := fun _ hnot => absurd hvalid (Bool.eq_false_iff.mp hnot), opened := ?_,
    count := fun _ => hcount, pending := nofun, since := ?_, tracked := ?_, current := ?_,
    drained := nofun }
  · rintro (hnow | ⟨_, _, hnow⟩) <;> cases hnow
  · -- nothing that exists has been closed
    rintro - ⟨pair, kind⟩ hpair hclosed
    rcases Nat.eq_or_lt_of_le hpair with rfl | hlater
    · exact (closed_of_currentOpen hopen ⟨kind, hclosed⟩).elim
    · exact absurd hclosed (Bool.eq_false_iff.mp (h.unborn _ (hcount ▸ hlater)))
  · intro id hlive
    have htracked := h.tracked id hlive
    rwa [hcall] at htracked
  · exact fun _ => h.current (by rw [hcall]; nofun)

theorem Sound.resume? (h : s.Sound) {ok : Bool} (hok : s.Timely (.resume ok))
    (hst : s.resume? ok = some t) : t.Sound := by
  simp only [Timely] at hok
  unfold MutterLifecycle.resume? at hst
  split at hst
  case h_1 => cases hst
  case h_2 hcall =>
    obtain rfl := Option.some.inj hst
    split
    · split
      · exact h.create hcall
      · exact (h.create hcall).rearm rfl
    · exact h.goto _ (by rw [hcall]; trivial) trivial
  case h_3 fresh hcall =>
    obtain rfl := Option.some.inj hst
    exact h.rearm hcall
  case h_4 hcall =>
    obtain rfl := Option.some.inj hst
    exact h.startClosedListeners hcall
  case h_5 handles client hcall =>
    obtain rfl := Option.some.inj hst
    split
    · exact h.spawn hcall .screenCast .remoteDesktop
    · exact h.skip hcall .remoteDesktop
  case h_6 handles client hcall =>
    have hstored := (h.store hcall)
    have hspawned := (h.spawn hcall .remoteDesktop .remoteDesktop).store rfl
    obtain rfl := Option.some.inj hst
    cases client with
    | false => cases ok <;> assumption
    | true =>
        rw [hcall] at hok
        -- a session that is open was not invalidated
        have hvalid : s.sessionValid = true := by
          by_contra hnot
          exact closed_of_currentOpen hok
            (h.opened (.inr ⟨_, _, hcall⟩) (Bool.eq_false_iff.mpr hnot))
        cases ok
        · exact hstored.returnOk rfl hvalid hok
        · exact hspawned.returnOk rfl hvalid hok
  case h_7 hcall =>
    obtain rfl := Option.some.inj hst
    exact h.goto _ (by rw [hcall]; trivial) trivial
  case h_8 hcall =>
    obtain rfl := Option.some.inj hst
    exact h.goto _ (by rw [hcall]; trivial) trivial

/-! ### The other events -/

theorem Sound.release (h : s.Sound) (hcall : s.call = .idle) :
    { s with
      deliberateClose := true
      sessionValid := false
      call := .stopping .screenCast
      releasedSince := true
      released := Function.update s.released s.mutterHandle true }.Sound := by
  have hstop := h.goto (.stopping .screenCast) (by rw [hcall]; trivial) trivial
  refine { hstop with
    valid := fun _ _ => .inl rfl, opened := ?_, unreleased := ?_, marked := fun _ => rfl,
    released := ?_ }
  · rintro (hnow | ⟨_, _, hnow⟩) <;> cases hnow
  · intro pair hpair
    show Function.update s.released s.mutterHandle true pair = false
    rw [Function.update_of_ne (Nat.ne_of_gt hpair)]
    exact h.unreleased pair hpair
  · intro id hclosed
    show Function.update s.released s.mutterHandle true id.1 = true
    rcases eq_or_ne id.1 s.mutterHandle with heq | hne
    · rw [heq, Function.update_self]
    · rw [Function.update_of_ne hne]
      exact h.released id hclosed

theorem update_of_true {f : MutterSessionId → Bool} {id : MutterSessionId}
    (id' : MutterSessionId) (hid : f id' = true) : Function.update f id true id' = true :=
  (Function.forall_update_iff f (p := fun id' b => f id' = true → b = true)).mpr
    ⟨fun _ => rfl, fun _ _ hold => hold⟩ id' hid

theorem Sound.close (h : s.Sound) {id : MutterSessionId} (hid : id.1 < s.created)
    (hopen : s.closed id = false) :
    { s with
      closed := Function.update s.closed id true
      closedSince := Function.update s.closedSince id true
      closedReleased := Function.update s.closedReleased id (s.released id.1) }.Sound := by
  refine { h with
    valid := ?_, opened := ?_, unborn := ?_, since := ?_, signalled := ?_, released := ?_,
    reports := ?_ }
  · -- what was closed before is closed still
    intro hestablished hvalid
    obtain hreleased | ⟨kind, hclosed⟩ := h.valid hestablished hvalid
    · exact .inl hreleased
    · exact .inr ⟨kind, update_of_true _ hclosed⟩
  · intro hcall hvalid
    obtain ⟨kind, hclosed⟩ := h.opened hcall hvalid
    exact ⟨kind, update_of_true _ hclosed⟩
  · -- a session that is not created yet is another one
    intro id' hid'
    have hne : id' ≠ id := by
      rintro rfl
      exact absurd hid (Nat.not_lt.mpr hid')
    show Function.update s.closed id true id' = false
    rw [Function.update_of_ne hne]
    exact h.unborn id' hid'
  · intro hestablished id' hid' hclosed
    show Function.update s.closedSince id true id' = true
    rcases eq_or_ne id' id with rfl | hne
    · exact Function.update_self ..
    · rw [Function.update_of_ne hne]
      refine h.since hestablished id' hid' ?_
      have hsame : Function.update s.closed id true id' = s.closed id' :=
        Function.update_of_ne hne ..
      exact hsame ▸ hclosed
  · exact fun id' hsignalled => update_of_true id' (h.signalled id' hsignalled)
  · exact (Function.forall_update_iff s.closedReleased
      (p := fun id' b => b = true → s.released id'.1 = true)).mpr
        ⟨fun hreleased => hreleased, fun id' _ => h.released id'⟩
  · -- a reported session had been closed, so it is not the one that closes now
    intro id' hmem
    obtain ⟨hclosed, hreleased⟩ := h.reports id' hmem
    have hne : id' ≠ id := by
      rintro rfl
      rw [hclosed] at hopen
      cases hopen
    refine ⟨update_of_true id' hclosed, ?_⟩
    show Function.update s.closedReleased id (s.released id.1) id' = false
    rwa [Function.update_of_ne hne]

theorem Sound.emit (h : s.Sound) {id : MutterSessionId} (hclosed : s.closed id = true)
    (harmed : s.listeners id = .armed) :
    { s with listeners := Function.update s.listeners id .signalled }.Sound := by
  have hlive : (s.listeners id).Live := by rw [harmed]; trivial
  refine { h with tracked := ?_, current := fun hcall => ?_, signalled := ?_ }
  · exact (Function.forall_update_iff s.listeners
      (p := fun id l => l.Live → id ∈ s.listenerTasks ++ s.call.handles)).mpr
        ⟨fun _ => h.tracked id hlive, fun id' _ => h.tracked id'⟩
  · exact (Function.forall_update_iff s.listeners
      (p := fun id l => l.Live → id.1 = s.mutterHandle)).mpr
        ⟨fun _ => h.current hcall id hlive, fun id' _ => h.current hcall id'⟩
  · exact (Function.forall_update_iff s.listeners
      (p := fun id l => l = .signalled → s.closed id = true)).mpr
        ⟨fun _ => hclosed, fun id' _ => h.signalled id'⟩

/-- A task that gets its signal in time is one of the current pair. -/
theorem Sound.listen (h : s.Sound) {id : MutterSessionId} (htimely : s.call ≠ .rebindingEis)
    (hsignalled : s.listeners id = .signalled) :
    { s with
      sessionValid := false
      listeners := Function.update s.listeners id .finished
      reported := if s.deliberateClose then s.reported else s.reported ++ [id] }.Sound := by
  -- a listener with a signal belongs to the current session
  have hcurrent : id.1 = s.mutterHandle := h.current htimely id (by rw [hsignalled]; trivial)
  have hclosed := h.signalled id hsignalled
  have hid : (s.mutterHandle, id.2) = id := by rw [← hcurrent]
  refine { h with
    valid := ?_, opened := fun _ _ => ⟨id.2, hid ▸ hclosed⟩, tracked := ?_,
    current := fun _ => ?_, signalled := ?_, reports := ?_ }
  · intro hestablished _
    exact .inr ⟨id.2, hid ▸ h.since hestablished id (Nat.le_of_eq hcurrent.symm) hclosed⟩
  · exact (Function.forall_update_iff s.listeners
      (p := fun id l => l.Live → id ∈ s.listenerTasks ++ s.call.handles)).mpr
        ⟨False.elim, fun id' _ => h.tracked id'⟩
  · exact (Function.forall_update_iff s.listeners
      (p := fun id l => l.Live → id.1 = s.mutterHandle)).mpr
        ⟨False.elim, fun id' _ => h.current htimely id'⟩
  · exact (Function.forall_update_iff s.listeners
      (p := fun id l => l = .signalled → s.closed id = true)).mpr
        ⟨nofun, fun id' _ => h.signalled id'⟩
  · -- after a deliberate close the signal is not reported
    intro id' hmem
    by_cases hmarked : s.deliberateClose = true
    · rw [if_pos hmarked] at hmem
      exact h.reports id' hmem
    · rw [if_neg hmarked] at hmem
      rcases List.mem_append.mp hmem with hold | hnew
      · exact h.reports id' hold
      · obtain rfl := List.mem_singleton.mp hnew
        -- a released session was marked so
        refine ⟨hclosed, Bool.eq_false_iff.mpr fun hreleased => hmarked (h.marked ?_)⟩
        rw [← hcurrent]
        exact h.released id' hreleased

theorem Sound.step {e : LifecycleEvent} (h : s.Sound) (hok : s.Timely e)
    (hst : s.step? e = some t) : t.Sound := by
  unfold step? at hst
  split at hst
  · obtain ⟨hcall, hst⟩ := Option.ite_none_right_eq_some.mp hst
    obtain rfl := Option.some.inj hst
    split
    case isTrue hvalid => exact h.returnOk hcall hvalid (hok hvalid)
    case isFalse => exact h.goto _ (by rw [hcall]; trivial) trivial
  · obtain ⟨hcall, hst⟩ := Option.ite_none_right_eq_some.mp hst
    obtain rfl := Option.some.inj hst
    exact h.release hcall
  · exact h.resume? hok hst
  · obtain ⟨⟨hid, hopen⟩, hst⟩ := Option.ite_none_right_eq_some.mp hst
    obtain rfl := Option.some.inj hst
    exact h.close hid hopen
  · obtain ⟨hclosed, hst⟩ := Option.ite_none_right_eq_some.mp hst
    obtain rfl := Option.some.inj hst
    split
    case isTrue harmed => exact h.emit hclosed harmed
    case isFalse => exact h
  · obtain ⟨hsignalled, hst⟩ := Option.ite_none_right_eq_some.mp hst
    obtain rfl := Option.some.inj hst
    exact h.listen hok hsignalled

end MutterLifecycle

open MutterLifecycle

variable {clipboard libei : Bool} {es : List LifecycleEvent} {s : MutterLifecycle}

/-- In a timely run validity is lost only by a release or a close of the current pair
since `establish_for_client` returned, and no close that followed a deliberate release is
reported. -/
theorem closed_signals_spare_successor
    (h : Run (Guarded (StepOf step?) Timely) (initial clipboard libei) es s) :
    s.ValidSince ∧ s.ReportsUnexpected := by
  have hsound : s.Sound :=
    h.invariant (sound_initial clipboard libei) fun hs hst => hs.step hst.2 hst.1
  exact ⟨hsound.valid, fun id hmem => (hsound.reports id hmem).2⟩

/-! ### Two runs -/

namespace MutterLifecycle

/-- A client that leaves, up to the `Closed` signal of its ScreenCast session. -/
def leaveRun : List LifecycleEvent :=
  [.resume true, .resume true, .establish, .release, .close (0, .screenCast),
    .resume true, .resume true, .emit (0, .screenCast)]

/-- The task gets the signal before the next client comes. -/
def promptRun : List LifecycleEvent :=
  leaveRun ++ [.listen (0, .screenCast), .establish, .resume true, .resume true, .resume true,
    .resume true, .resume true]

/-- It gets the signal while `eis.rebind` is awaited. -/
def lateRun : List LifecycleEvent :=
  leaveRun ++ [.establish, .resume true, .resume true, .listen (0, .screenCast), .resume true,
    .resume true, .resume true]

instance (s : MutterLifecycle) : Decidable s.CurrentOpen :=
  inferInstanceAs (Decidable (_ ∧ _))

instance (s : MutterLifecycle) : (e : LifecycleEvent) → Decidable (s.Timely e)
  | .listen _ => inferInstanceAs (Decidable (s.call ≠ .rebindingEis))
  | .establish => inferInstanceAs (Decidable (s.sessionValid = true → s.CurrentOpen))
  | .resume _ =>
      match h : s.call with
      | .subscribing .remoteDesktop _ true =>
          decidable_of_iff s.CurrentOpen (by simp only [Timely, h])
      | .idle | .creating | .rebindingClipboard _ | .rebindingEis | .stopping _
      | .subscribing .screenCast _ _ | .subscribing .remoteDesktop _ false =>
          .isTrue (by simp only [Timely, h])
  | .release | .close _ | .emit _ => .isTrue trivial

end MutterLifecycle

theorem closed_signal_spares_successor :
    ∃ s, Run (StepOf step?) (initial true true) promptRun s ∧ s.mutterHandle = 1 ∧
      s.sessionValid = true ∧ s.ValidSince ∧ s.ReportsUnexpected := by
  obtain ⟨s, hrun, hs⟩ : ∃ s, Run (Guarded (StepOf step?) Timely) (initial true true) promptRun s ∧
      (s.mutterHandle, s.sessionValid) = (1, true) :=
    Run.exists_guarded_of_foldlM (fun s : MutterLifecycle => (s.mutterHandle, s.sessionValid))
      (by rfl)
  obtain ⟨hhandle, hvalid⟩ := Prod.mk.inj hs
  exact ⟨s, hrun.unguard, hhandle, hvalid, closed_signals_spare_successor hrun⟩

/-- A late signal of the old pair: the new one is marked as invalid, though nobody has
released it or closed it, and the deliberate close is reported. -/
theorem closed_signal_hits_successor :
    ∃ s, Run (StepOf step?) (initial true true) lateRun s ∧
      s.mutterHandle = 1 ∧ s.reported = [(0, .screenCast)] ∧
      ¬ s.ValidSince ∧ ¬ s.ReportsUnexpected := by
  obtain ⟨s, hrun, hs⟩ : ∃ s, Run (StepOf step?) (initial true true) lateRun s ∧
      (s.mutterHandle, s.established, s.sessionValid, s.releasedSince,
        s.closedSince (1, .screenCast), s.closedSince (1, .remoteDesktop), s.reported,
        s.closedReleased (0, .screenCast)) =
      (1, true, false, false, false, false, [(0, .screenCast)], true) :=
    Run.exists_of_foldlM (fun s : MutterLifecycle => (s.mutterHandle, s.established, s.sessionValid,
      s.releasedSince, s.closedSince (1, .screenCast), s.closedSince (1, .remoteDesktop),
      s.reported, s.closedReleased (0, .screenCast))) (by rfl)
  simp only [Prod.mk.injEq] at hs
  obtain ⟨hhandle, hestablished, hvalid, hreleased, hcast, hdesktop, hreported, hclose⟩ := hs
  refine ⟨s, hrun, hhandle, hreported, fun hall => ?_, fun hall => ?_⟩
  · -- the session is invalid, though neither released nor closed
    obtain hnow | ⟨kind, hnow⟩ := hall hestablished hvalid
    · rw [hreleased] at hnow
      cases hnow
    · rw [hhandle] at hnow
      cases kind
      · rw [hcast] at hnow
        cases hnow
      · rw [hdesktop] at hnow
        cases hnow
  · -- and the report is of a session that had been released
    have hnow := hall (0, .screenCast) (by rw [hreported]; exact List.mem_singleton_self _)
    rw [hclose] at hnow
    cases hnow

end LamcoRdp
