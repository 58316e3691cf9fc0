/-
LamcoRdp/Transport/Dispatcher.lean

The accept loop: `AcceptDispatcher::run` and `LamcoConnectionHandler`.

A connection that is accepted is announced with `ClientConnected`; then its session is
established and the client is remembered; when the connection has ended the remembered
client is announced as disconnected, and the loop stops.  Two ways out skip the second
announcement: a session that cannot be established (the loop goes on to the next
connection), and the shutdown signal while a connection is served (the loop returns at
once).  In a run that returns, the announcements are pairs exactly if neither happens
(`client_events_pair_up_iff`).

An event carries the time at which it happens; the clock never goes back.  Of the
connection itself only its credential check and its end are seen here.
-/
import LamcoRdp.Lib.Pairing
import LamcoRdp.Lib.Runs
import LamcoRdp.Security.RateLimit

namespace LamcoRdp

open Runs Pairing

/-! ### Peers and events -/

/-- An address with a port. -/
structure SocketAddr where
  ip : IpAddr
  port : ℕ
  deriving DecidableEq, Repr

/-- `PeerAddr`. -/
inductive PeerAddr
  | tcp (addr : SocketAddr)
  | unix (path : String)
  | vsock (cid port : ℕ)
  | webSocket (peer : SocketAddr) (origin : Option String)
  deriving DecidableEq, Repr

/-- The address that rate limiting goes by, if the transport has one. -/
def PeerAddr.ip : PeerAddr → Option IpAddr
  | .tcp addr => some addr.ip
  | .webSocket peer _ => some peer.ip
  | .unix _ => none
  | .vsock _ _ => none

/-- `ServerEvent`, those that the handler sends. -/
inductive ServerEvent
  | statusChanged (old new message : String)
  | clientConnected (clientId : String) (peerAddress : PeerAddr) (timestamp : ℕ)
  | clientDisconnected (clientId reason : String) (durationSeconds : ℕ)
  deriving DecidableEq, Repr

/-- What an event says about who is connected. -/
def ServerEvent.mark : ServerEvent → Option (Mark String)
  | .clientConnected clientId _ _ => some (.opened clientId)
  | .clientDisconnected clientId _ _ => some (.closed clientId)
  | .statusChanged _ _ _ => none

/-! ### The handler -/

/-- `AuthMethod`. -/
inductive AuthMethod
  | pam
  | password
  | none
  deriving DecidableEq, Repr

/-- What a deployment brings along: the authentication method and its backend. -/
structure Deployment where
  name : String
  /-- how many listeners were bound -/
  listeners : ℕ
  auth : AuthMethod
  isAlphanumeric : Char → Bool
  doPamAuth : Credentials → BackendOutcome
  passwordHashes : String → Option String
  verifyPassword : String → String → Option Bool

/-- The client that is connected. -/
structure ClientState where
  clientId : String
  start : ℕ
  deriving DecidableEq, Repr

/-- `PostConnectionAction`. -/
inductive PostConnectionAction
  | continue
  | stop
  deriving DecidableEq, Repr

/-- `LamcoConnectionHandler`, with what it has sent. -/
structure LamcoConnectionHandler where
  pamValidator : Option Validator
  staticPasswordValidator : Option Validator
  currentClient : Option ClientState
  /-- what was sent to `event_tx` -/
  events : List ServerEvent
  /-- the server-wide shutdown was signalled -/
  shutdownSent : Bool

namespace LamcoConnectionHandler

/-- The handler with the validator of the method, freshly built. -/
def new (d : Deployment) : LamcoConnectionHandler where
  pamValidator := if d.auth = .pam then some .new else none
  staticPasswordValidator := if d.auth = .password then some .new else none
  currentClient := none
  events := []
  shutdownSent := false

/-- An event is sent. -/
def send (h : LamcoConnectionHandler) (e : ServerEvent) : LamcoConnectionHandler :=
  { h with events := h.events ++ [e] }

/-- `set_peer_ip` of the validators, which a peer without an IP skips. -/
def setPeerIp (h : LamcoConnectionHandler) (peer : PeerAddr) : LamcoConnectionHandler :=
  match peer.ip with
  | some ip =>
      { h with
        pamValidator := h.pamValidator.map (·.setPeerIp ip)
        staticPasswordValidator := h.staticPasswordValidator.map (·.setPeerIp ip) }
  | none => h

/-- `on_accept_async`; `established` is the answer of `on_connect`. -/
def onAcceptAsync (h : LamcoConnectionHandler) (peer : PeerAddr) (clientId : String)
    (start timestamp : ℕ) (established : Bool) : Bool × LamcoConnectionHandler :=
  let h := (h.setPeerIp peer).send (.clientConnected clientId peer timestamp)
  if !established then (false, h)
  else (true, { h with currentClient := some { clientId, start } })

/-- A connection that failed within a second did not use the session. -/
def served (duration : ℕ) (error : Bool) : Bool :=
  !(error && decide (duration < Duration.fromSecs 1))

/-- `on_disconnected_async`; `portalAlive` is the answer of `on_disconnect`. -/
def onDisconnectedAsync (h : LamcoConnectionHandler) (now duration : ℕ) (error : Bool)
    (portalAlive : Bool) : PostConnectionAction × LamcoConnectionHandler :=
  let state := h.currentClient
  let h := { h with currentClient := none }
  let h : LamcoConnectionHandler := match state with
    | some client =>
        h.send (.clientDisconnected client.clientId "Connection ended"
          ((now - client.start) / Duration.fromSecs 1))
    | none => h
  let h := { h with
    pamValidator := h.pamValidator.map (Validator.pruneStaleEntries · now)
    staticPasswordValidator := h.staticPasswordValidator.map (Validator.pruneStaleEntries · now) }
  if !portalAlive then
    let h := h.send (.statusChanged "running" "stopped" "Session invalidated by compositor")
    (.stop, { h with shutdownSent := true })
  else
    let message := if served duration error then "Client disconnected" else "Client probe ended"
    let h := h.send (.statusChanged "running" "stopped" message)
    (.stop, { h with shutdownSent := true })

/-- The credential check of the connection, by the validator that is attached to the
RDP server. -/
def validate (d : Deployment) (h : LamcoConnectionHandler) (credentials : Credentials)
    (now : ℕ) : Option (Validation × LamcoConnectionHandler) :=
  match d.auth with
  | .pam => h.pamValidator.map fun v =>
      let (validation, v) := PamValidator.validate d.isAlphanumeric d.doPamAuth v credentials now
      (validation, { h with pamValidator := some v })
  | .password => h.staticPasswordValidator.map fun v =>
      let (validation, v) := StaticPasswordValidator.validate d.isAlphanumeric d.passwordHashes
        d.verifyPassword v credentials now
      (validation, { h with staticPasswordValidator := some v })
  | .none => none

end LamcoConnectionHandler

/-! ### The loop -/

/-- Where the loop stands. -/
inductive DispatcherPhase
  | accepting
  /-- the connection of `peer` runs, and whether its credentials were checked -/
  | serving (peer : PeerAddr) (start : ℕ) (validated : Bool)
  | returned (error : Option String)
  deriving DecidableEq, Repr

/-- A validation, with the address and the time of the connection. -/
structure ValidationRecord where
  ip : Option IpAddr
  time : ℕ
  validation : Validation
  deriving DecidableEq

/-- The dispatcher, with its clock and a record of the validations. -/
structure AcceptDispatcher where
  handler : LamcoConnectionHandler
  phase : DispatcherPhase
  clock : ℕ
  /-- the validations of this run -/
  validations : List ValidationRecord

/-- What the loop meets. -/
inductive DispatchEvent
  /-- the shutdown signal wins the race that the loop is in -/
  | shutdown
  /-- a listener returns a connection; `on_connect` takes its time -/
  | accepted (peer : PeerAddr) (clientId : String) (timestamp took : ℕ) (established : Bool)
  | listenerClosed
  | acceptFailed
  /-- the connection presents its credentials -/
  | validate (credentials : Credentials)
  | connectionEnded (error portalAlive : Bool)
  deriving DecidableEq, Repr

namespace AcceptDispatcher

/-- The loop as it starts. -/
def start (d : Deployment) (now : ℕ) : AcceptDispatcher where
  handler := .new d
  phase :=
    if d.listeners = 0 then
      .returned (some ("AcceptDispatcher (" ++ d.name ++ "): no listeners configured"))
    else .accepting
  clock := now
  validations := []

/-- One event at a time, `none` where it cannot happen. -/
def step (d : Deployment) (s : AcceptDispatcher) (e : ℕ × DispatchEvent) :
    Option AcceptDispatcher :=
  let (now, event) := e
  if now < s.clock then none
  else
    let s := { s with clock := now }
    match s.phase, event with
    | .accepting, .shutdown => some { s with phase := .returned none }
    | .accepting, .accepted peer clientId timestamp took established =>
        let (ok, handler) := s.handler.onAcceptAsync peer clientId now timestamp established
        some { s with
          handler, clock := now + took
          phase := if ok then .serving peer (now + took) false else .accepting }
    | .accepting, .listenerClosed => some { s with phase := .returned none }
    | .accepting, .acceptFailed => some s
    | .serving _ _ _, .shutdown => some { s with phase := .returned none }
    | .serving peer began false, .validate credentials =>
        (s.handler.validate d credentials now).map fun (validation, handler) =>
          { s with
            handler, phase := .serving peer began true
            validations := s.validations ++ [⟨peer.ip, now, validation⟩] }
    | .serving _ began _, .connectionEnded error portalAlive =>
        let (action, handler) :=
          s.handler.onDisconnectedAsync now (now - began) error portalAlive
        some { s with
          handler, phase := if action = .stop then .returned none else .accepting }
    | _, _ => none

end AcceptDispatcher

/-! ### What an event does -/

/-- Who was announced as connected and as disconnected. -/
def marks (events : List ServerEvent) : List (Mark String) := events.filterMap ServerEvent.mark

theorem marks_append (xs ys : List ServerEvent) : marks (xs ++ ys) = marks xs ++ marks ys :=
  List.filterMap_append

namespace LamcoConnectionHandler

variable {d : Deployment} {h : LamcoConnectionHandler}

@[simp] theorem setPeerIp_events (peer : PeerAddr) : (h.setPeerIp peer).events = h.events := by
  unfold setPeerIp
  split <;> rfl

@[simp] theorem setPeerIp_currentClient (peer : PeerAddr) :
    (h.setPeerIp peer).currentClient = h.currentClient := by
  unfold setPeerIp
  split <;> rfl

/-- An accepted connection is announced, whether its session is established or not. -/
theorem onAcceptAsync_marks (peer : PeerAddr) (clientId : String) (start timestamp : ℕ)
    (established : Bool) :
    marks (h.onAcceptAsync peer clientId start timestamp established).2.events
      = marks h.events ++ [.opened clientId] := by
  have hsend : marks ((h.setPeerIp peer).send (.clientConnected clientId peer timestamp)).events
      = marks h.events ++ [.opened clientId] := by
    show marks ((h.setPeerIp peer).events ++ _) = _
    rw [marks_append, setPeerIp_events]
    rfl
  cases established
  · exact hsend
  · exact hsend

theorem onAcceptAsync_fst (peer : PeerAddr) (clientId : String) (start timestamp : ℕ)
    (established : Bool) :
    (h.onAcceptAsync peer clientId start timestamp established).1 = established := by
  cases established <;> rfl

/-- The client is remembered if its session is established. -/
theorem onAcceptAsync_currentClient (peer : PeerAddr) (clientId : String)
    (start timestamp : ℕ) (established : Bool) :
    (h.onAcceptAsync peer clientId start timestamp established).2.currentClient
      = if established then some { clientId, start } else h.currentClient := by
  cases established
  · exact setPeerIp_currentClient peer
  · rfl

variable {now duration : ℕ} {error portalAlive : Bool}

/-- Whatever ended the connection, the loop is told to stop. -/
theorem onDisconnectedAsync_fst :
    (h.onDisconnectedAsync now duration error portalAlive).1 = .stop := by
  cases portalAlive <;> rfl

/-- The client that was remembered is announced as disconnected. -/
theorem onDisconnectedAsync_marks :
    marks (h.onDisconnectedAsync now duration error portalAlive).2.events
      = marks h.events ++ (h.currentClient.map fun client => .closed client.clientId).toList := by
  rcases hc : h.currentClient with - | client
  all_goals
    cases portalAlive <;> simp [onDisconnectedAsync, hc, send, marks, ServerEvent.mark]

/-- A validation announces nothing. -/
theorem validate_frame {credentials : Credentials} {validation : Validation}
    {h' : LamcoConnectionHandler} (hv : h.validate d credentials now = some (validation, h')) :
    h'.events = h.events ∧ h'.currentClient = h.currentClient := by
  unfold validate at hv
  split at hv
  · obtain ⟨v, -, hv⟩ := Option.map_eq_some_iff.mp hv
    obtain rfl := (Prod.mk.inj hv).2
    exact ⟨rfl, rfl⟩
  · obtain ⟨v, -, hv⟩ := Option.map_eq_some_iff.mp hv
    obtain rfl := (Prod.mk.inj hv).2
    exact ⟨rfl, rfl⟩
  · cases hv

end LamcoConnectionHandler

namespace AcceptDispatcher

variable {d : Deployment} {s t : AcceptDispatcher}

/-- The steps of the loop, one by one. -/
inductive Dispatched (d : Deployment) (s : AcceptDispatcher) (now : ℕ) :
    DispatchEvent → AcceptDispatcher → Prop
  | stopped {e : DispatchEvent} (hphase : s.phase = .accepting)
      (he : e = .shutdown ∨ e = .listenerClosed) :
      Dispatched d s now e { s with clock := now, phase := .returned none }
  | acceptFailed (hphase : s.phase = .accepting) :
      Dispatched d s now .acceptFailed { s with clock := now }
  | accepted (hphase : s.phase = .accepting) (peer : PeerAddr) (clientId : String)
      (timestamp took : ℕ) (established : Bool) :
      Dispatched d s now (.accepted peer clientId timestamp took established)
        { s with
          handler := (s.handler.onAcceptAsync peer clientId now timestamp established).2
          clock := now + took
          phase := if established then .serving peer (now + took) false else .accepting }
  | cancelled {peer : PeerAddr} {began : ℕ} {checked : Bool}
      (hphase : s.phase = .serving peer began checked) :
      Dispatched d s now .shutdown { s with clock := now, phase := .returned none }
  | validated {peer : PeerAddr} {began : ℕ} {credentials : Credentials}
      {validation : Validation} {handler : LamcoConnectionHandler}
      (hphase : s.phase = .serving peer began false)
      (hv : s.handler.validate d credentials now = some (validation, handler)) :
      Dispatched d s now (.validate credentials)
        { s with
          handler, clock := now, phase := .serving peer began true
          validations := s.validations ++ [⟨peer.ip, now, validation⟩] }
  | ended {peer : PeerAddr} {began : ℕ} {checked : Bool}
      (hphase : s.phase = .serving peer began checked) (error portalAlive : Bool) :
      Dispatched d s now (.connectionEnded error portalAlive)
        { s with
          handler := (s.handler.onDisconnectedAsync now (now - began) error portalAlive).2
          clock := now, phase := .returned none }

theorem dispatched_of_step {now : ℕ} {e : DispatchEvent} (h : step d s (now, e) = some t) :
    Dispatched d s now e t := by
  unfold step at h
  dsimp only at h
  split at h
  · cases h
  rcases hphase : s.phase with - | ⟨peer, began, checked⟩ | error
  · -- accepting: a connection is served, and a failure to accept is passed over
    rw [hphase] at h
    cases e with
    | shutdown =>
        obtain rfl := Option.some.inj h
        exact .stopped hphase (Or.inl rfl)
    | accepted peer clientId timestamp took established =>
        simp only [LamcoConnectionHandler.onAcceptAsync_fst, Option.some.injEq] at h
        subst h
        exact .accepted hphase peer clientId timestamp took established
    | listenerClosed =>
        obtain rfl := Option.some.inj h
        exact .stopped hphase (Or.inr rfl)
    | acceptFailed =>
        obtain rfl := Option.some.inj h
        have hfailed := @Dispatched.acceptFailed d s now hphase
        rw [hphase] at hfailed
        exact hfailed
    | validate credentials => cases h
    | connectionEnded error portalAlive => cases h
  · -- serving: the credentials are checked once
    rw [hphase] at h
    cases e with
    | shutdown =>
        obtain rfl := Option.some.inj h
        exact .cancelled hphase
    | validate credentials =>
        cases checked with
        | true => cases h
        | false =>
            obtain ⟨⟨validation, handler⟩, hv, rfl⟩ := Option.map_eq_some_iff.mp h
            exact .validated hphase hv
    | connectionEnded error portalAlive =>
        simp only [LamcoConnectionHandler.onDisconnectedAsync_fst, Option.some.injEq] at h
        subst h
        exact .ended hphase error portalAlive
    | _ => cases h
  · rw [hphase] at h
    cases h

/-! ### Who is connected -/

/-- The client whose connection is served. -/
def connected (s : AcceptDispatcher) : Option String :=
  match s.phase with
  | .serving _ _ _ => s.handler.currentClient.map ClientState.clientId
  | _ => none

/-- The announcements are pairs, apart from the client that is served. -/
def PairedUp (s : AcceptDispatcher) : Prop := scan (marks s.handler.events) = some s.connected

/-- What is known of the handler in every run: between connections nobody is remembered,
and while a connection is served its client is remembered and somebody is open. -/
structure Tracked (s : AcceptDispatcher) : Prop where
  idle : s.phase = .accepting → s.handler.currentClient = none
  busy : ∀ {peer began checked}, s.phase = .serving peer began checked →
    s.handler.currentClient.isSome ∧ scan (marks s.handler.events) ≠ some none

theorem tracked_start (d : Deployment) (now : ℕ) : Tracked (start d now) where
  idle _ := rfl
  busy h := by
    unfold start at h
    dsimp only at h
    split at h <;> cases h

theorem tracked_step {now : ℕ} {e : DispatchEvent} (hs : Tracked s)
    (h : Dispatched d s now e t) : Tracked t := by
  cases h with
  | stopped hphase he => exact ⟨nofun, nofun⟩
  | acceptFailed hphase => exact ⟨hs.idle, hs.busy⟩
  | accepted hphase peer clientId timestamp took established =>
      cases established with
      | false =>
          -- no session, so nobody is remembered
          refine ⟨fun _ => ?_, nofun⟩
          exact (LamcoConnectionHandler.onAcceptAsync_currentClient _ _ _ _ _).trans
            (hs.idle hphase)
      | true =>
          refine ⟨nofun, fun _ => ⟨rfl, ?_⟩⟩
          rw [LamcoConnectionHandler.onAcceptAsync_marks, scan_snoc]
          rcases scan (marks s.handler.events) with - | - | client
          · exact nofun
          · exact nofun
          · exact nofun
  | cancelled hphase => exact ⟨nofun, nofun⟩
  | validated hphase hv =>
      obtain ⟨hevents, hclient⟩ := LamcoConnectionHandler.validate_frame hv
      refine ⟨nofun, fun _ => ?_⟩
      rw [hevents, hclient]
      exact hs.busy hphase
  | ended hphase error portalAlive => exact ⟨nofun, nofun⟩

theorem tracked_of_run {now : ℕ} {es : List (ℕ × DispatchEvent)}
    (h : Run (StepOf (step d)) (start d now) es s) : Tracked s :=
  h.invariant (tracked_start d now) fun hs hst => tracked_step hs (dispatched_of_step hst)

/-- The events that do not part an announcement from its counterpart: the session of
an accepted connection is established, and no shutdown cancels a connection. -/
def Undisturbed (s : AcceptDispatcher) (e : ℕ × DispatchEvent) : Prop :=
  match s.phase, e.2 with
  | _, .accepted _ _ _ _ established => established = true
  | .serving _ _ _, .shutdown => False
  | _, _ => True

/-- An event keeps the announcements paired up exactly if it is undisturbed, and none
mends them. -/
theorem pairedUp_step {now : ℕ} {e : DispatchEvent} (hs : Tracked s)
    (h : Dispatched d s now e t) : PairedUp t ↔ PairedUp s ∧ Undisturbed s (now, e) := by
  unfold PairedUp
  cases h with
  | stopped hphase he =>
      have hnone : s.connected = none := by rw [connected, hphase]
      have hok : Undisturbed s (now, e) := by
        rcases he with rfl | rfl
        · rw [Undisturbed, hphase]
          trivial
        · rw [Undisturbed, hphase]
          trivial
      rw [hnone]
      exact (and_iff_left hok).symm
  | acceptFailed hphase =>
      have hok : Undisturbed s (now, .acceptFailed) := by
        rw [Undisturbed, hphase]
        trivial
      exact (and_iff_left hok).symm
  | accepted hphase peer clientId timestamp took established =>
      have hnone : s.connected = none := by rw [connected, hphase]
      have hok : Undisturbed s (now, .accepted peer clientId timestamp took established)
          ↔ established = true := by rw [Undisturbed, hphase]
      rw [hnone, hok, LamcoConnectionHandler.onAcceptAsync_marks, scan_snoc]
      cases established with
      | false =>
          -- the client was announced and is not served
          show advance _ (Mark.opened clientId) = some none ↔ _ ∧ false = true
          rcases scan (marks s.handler.events) with - | - | client <;> simp
      | true =>
          show advance _ (Mark.opened clientId) = some (some clientId) ↔ _ ∧ true = true
          rcases scan (marks s.handler.events) with - | - | client <;> simp
  | cancelled hphase =>
      -- somebody is still announced as connected
      have hok : ¬ Undisturbed s (now, .shutdown) := by
        rw [Undisturbed, hphase]
        exact not_false
      exact iff_of_false (hs.busy hphase).2 fun h => hok h.2
  | @validated peer began credentials validation handler hphase hv =>
      obtain ⟨hevents, hclient⟩ := LamcoConnectionHandler.validate_frame hv
      have hok : Undisturbed s (now, .validate credentials) := by
        rw [Undisturbed, hphase]
        trivial
      have hsame : s.connected = s.handler.currentClient.map ClientState.clientId := by
        rw [connected, hphase]
      rw [hsame, hevents, ← hclient]
      exact (and_iff_left hok).symm
  | ended hphase error portalAlive =>
      have hok : Undisturbed s (now, .connectionEnded error portalAlive) := by
        rw [Undisturbed, hphase]
        trivial
      obtain ⟨client, hclient⟩ := Option.isSome_iff_exists.mp (hs.busy hphase).1
      have hsame : s.connected = some client.clientId := by
        rw [connected, hphase]
        exact congrArg (Option.map ClientState.clientId) hclient
      rw [hsame, LamcoConnectionHandler.onDisconnectedAsync_marks, hclient]
      show scan (_ ++ [Mark.closed client.clientId]) = some none ↔ _
      rw [scan_snoc]
      refine Iff.trans ?_ (and_iff_left hok).symm
      rcases scan (marks s.handler.events) with - | current
      · simp
      · simp

end AcceptDispatcher

/-- Connect and disconnect events pair up in a run that returns exactly if no event parts
them; and as long as none does, only the client that is served is open. -/
theorem client_events_pair_up_iff (d : Deployment) (now : ℕ) {es : List (ℕ × DispatchEvent)}
    {s : AcceptDispatcher}
    (h : Run (StepOf (AcceptDispatcher.step d)) (.start d now) es s) :
    ((∃ error, s.phase = .returned error) →
      ((∃ ids, marks s.handler.events = pairs ids) ↔
        Run (Guarded (StepOf (AcceptDispatcher.step d)) AcceptDispatcher.Undisturbed)
          (.start d now) es s)) ∧
    (Run (Guarded (StepOf (AcceptDispatcher.step d)) AcceptDispatcher.Undisturbed)
        (.start d now) es s →
      ∃ ids, marks s.handler.events
        = pairs ids ++ (s.connected.map Mark.opened).toList) := by
  have hstart : (AcceptDispatcher.start d now).PairedUp := by
    unfold AcceptDispatcher.PairedUp AcceptDispatcher.connected AcceptDispatcher.start
    dsimp only
    split_ifs <;> rfl
  have hiff : s.PairedUp ↔ Run (Guarded (StepOf (AcceptDispatcher.step d))
      AcceptDispatcher.Undisturbed) (.start d now) es s :=
    h.iff_guarded hstart fun hr hst =>
      AcceptDispatcher.pairedUp_step (AcceptDispatcher.tracked_of_run hr)
        (AcceptDispatcher.dispatched_of_step hst)
  refine ⟨?_, fun hg => log_of_scan (hiff.mpr hg)⟩
  rintro ⟨error, hphase⟩
  rw [← hiff, ← scan_eq_closed, AcceptDispatcher.PairedUp, AcceptDispatcher.connected, hphase]

/-- One listener, one static password that nobody has. -/
def passwordDeployment : Deployment where
  name := "wlr-direct"
  listeners := 1
  auth := .password
  isAlphanumeric := Char.isAlphanum
  doPamAuth _ := .refused
  passwordHashes _ := none
  verifyPassword _ _ := none

/-- A peer in the local network. -/
def lanPeer : PeerAddr := .tcp { ip := .v4 0xC0A80007, port := 50000 }

/-- A connection that is served and ends. -/
theorem client_events_pair_up_served :
    ∃ s, Run (Guarded (StepOf (AcceptDispatcher.step passwordDeployment))
        AcceptDispatcher.Undisturbed) (.start passwordDeployment 0)
      [(1, .accepted lanPeer "rdp-1" 0 0 true), (2, .connectionEnded false true)] s := by
  obtain ⟨s, hrun, hs⟩ : ∃ s, Run (StepOf (AcceptDispatcher.step passwordDeployment))
        (.start passwordDeployment 0)
        [(1, .accepted lanPeer "rdp-1" 0 0 true), (2, .connectionEnded false true)] s ∧
      (s.phase, marks s.handler.events)
        = (.returned none, [.opened "rdp-1", .closed "rdp-1"]) :=
    Run.exists_of_foldlM (fun s : AcceptDispatcher => (s.phase, marks s.handler.events))
      (by decide)
  obtain ⟨hphase, hmarks⟩ := Prod.mk.inj hs
  exact ⟨s, ((client_events_pair_up_iff passwordDeployment 0 hrun).1 ⟨none, hphase⟩).mp
    ⟨["rdp-1"], hmarks⟩⟩

/-- A session that cannot be established leaves a client that never disconnects. -/
theorem client_events_unpaired :
    ∃ (d : Deployment) (now : ℕ) (es : List (ℕ × DispatchEvent)) (s : AcceptDispatcher),
      Run (StepOf (AcceptDispatcher.step d)) (.start d now) es s ∧ s.phase = .returned none ∧
        ¬ ∃ ids, marks s.handler.events = pairs ids := by
  obtain ⟨s, hrun, hs⟩ : ∃ s, Run (StepOf (AcceptDispatcher.step passwordDeployment))
        (.start passwordDeployment 0)
        [(1, .accepted lanPeer "rdp-1" 0 0 false), (2, .shutdown)] s ∧
      (s.phase, marks s.handler.events) = (.returned none, [.opened "rdp-1"]) :=
    Run.exists_of_foldlM (fun s : AcceptDispatcher => (s.phase, marks s.handler.events))
      (by decide)
  obtain ⟨hphase, hmarks⟩ := Prod.mk.inj hs
  refine ⟨_, _, _, s, hrun, hphase, fun hpairs => ?_⟩
  have hscan := scan_eq_closed.mpr hpairs
  rw [hmarks] at hscan
  cases hscan

end LamcoRdp
