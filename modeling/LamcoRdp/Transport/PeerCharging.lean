/-
LamcoRdp/Transport/PeerCharging.lean

Who a failed login is charged to.

`on_accept_async` tells the validator the address of a TCP or WebSocket peer.  A peer on a
Unix socket or over vsock has none, and the address of an earlier connection, one whose
session could not be established, stays in place; without any, `0.0.0.0` is charged.  What
the limiter counts is then not the peer's own.  Every other connection is charged to its
own address, so that the limiter counts right exactly in those runs in which no login
fails on a connection without an address (`failed_logins_own_peer_iff`).
-/
import LamcoRdp.Transport.Lockout

namespace LamcoRdp

open Runs

/-! ### The validator in use -/

namespace LamcoConnectionHandler

variable {d : Deployment} {h h' : LamcoConnectionHandler}

/-- The validator that the deployment uses. -/
def validator (d : Deployment) (h : LamcoConnectionHandler) : Option Validator :=
  match d.auth with
  | .pam => h.pamValidator
  | .password => h.staticPasswordValidator
  | .none => none

end LamcoConnectionHandler

/-- What the backend in use says. -/
def Deployment.backend (d : Deployment) (credentials : Credentials) : BackendOutcome :=
  match d.auth with
  | .pam => d.doPamAuth credentials
  | _ => StaticPasswordValidator.backend d.passwordHashes d.verifyPassword credentials

/-- The name is well formed, and the backend refuses the login or breaks down over it. -/
def Deployment.loginFails (d : Deployment) (credentials : Credentials) : Bool :=
  (validateUsername d.isAlphanumeric credentials.username).isNone &&
    match d.backend credentials with
    | .refused | .failed _ => true
    | .authenticated | .lost _ => false

namespace LamcoConnectionHandler

variable {d : Deployment} {h h' : LamcoConnectionHandler}

theorem validator_new (d : Deployment) : ∀ v ∈ (new d).validator d, v = .new := by
  intro v hv
  unfold validator new at hv
  cases hauth : d.auth <;> simp_all

theorem validator_setPeerIp (peer : PeerAddr) : (h.setPeerIp peer).validator d =
    match peer.ip with
    | some ip => (h.validator d).map (·.setPeerIp ip)
    | none => h.validator d := by
  unfold setPeerIp validator
  cases peer.ip with
  | none => rfl
  | some ip => cases d.auth <;> rfl

/-- The limiter stays as it is, and a peer with an address is known by it. -/
theorem mem_validator_setPeerIp {peer : PeerAddr} {v : Validator}
    (hv : v ∈ (h.setPeerIp peer).validator d) :
    ∃ w ∈ h.validator d, v.rateLimiter = w.rateLimiter ∧ ∀ ip ∈ peer.ip, v.peerIp = some ip := by
  rw [validator_setPeerIp] at hv
  cases hip : peer.ip with
  | none =>
      rw [hip] at hv
      exact ⟨v, hv, rfl, fun ip h => by cases h⟩
  | some ip =>
      rw [hip] at hv
      obtain ⟨w, hw, rfl⟩ := Option.map_eq_some_iff.mp hv
      refine ⟨w, hw, rfl, ?_⟩
      rintro ip ⟨⟩
      rfl

theorem validator_onAcceptAsync (peer : PeerAddr) (clientId : String) (start timestamp : ℕ)
    (established : Bool) :
    (h.onAcceptAsync peer clientId start timestamp established).2.validator d =
      (h.setPeerIp peer).validator d := by
  cases established with
  | false => rfl
  | true => rfl

theorem validator_onDisconnectedAsync (now duration : ℕ) (error portalAlive : Bool) :
    (h.onDisconnectedAsync now duration error portalAlive).2.validator d =
      (h.validator d).map (Validator.pruneStaleEntries · now) := by
  unfold onDisconnectedAsync validator
  cases d.auth <;> cases h.currentClient <;> cases portalAlive <;> rfl

/-- A validation is that of the validator in use, which is replaced by its result. -/
theorem validator_validate {credentials : Credentials} {validation : Validation} {now : ℕ}
    (hv : h.validate d credentials now = some (validation, h')) :
    ∃ v ∈ h.validator d, h'.validator d =
      some (v.validateWith d.isAlphanumeric d.backend credentials now).2 := by
  unfold validate at hv
  unfold validator Deployment.backend
  cases hauth : d.auth with
  | pam =>
      rw [hauth] at hv
      obtain ⟨v, hmem, hv⟩ := Option.map_eq_some_iff.mp hv
      exact ⟨v, hmem, congrArg pamValidator (Prod.mk.inj hv).2.symm⟩
  | password =>
      rw [hauth] at hv
      obtain ⟨v, hmem, hv⟩ := Option.map_eq_some_iff.mp hv
      exact ⟨v, hmem, congrArg staticPasswordValidator (Prod.mk.inj hv).2.symm⟩
  | none =>
      rw [hauth] at hv
      cases hv

end LamcoConnectionHandler

namespace AcceptDispatcher

variable {d : Deployment} {s t : AcceptDispatcher}

/-! ### Charges -/

/-- What the limiter in use has about an address. -/
def entry (d : Deployment) (s : AcceptDispatcher) (ip : IpAddr) : Option RateLimitEntry :=
  (s.handler.validator d).bind (·.rateLimiter.entries ip)

/-- The limiter in use turns a validation away. -/
def TurnsAway (d : Deployment) (s : AcceptDispatcher) (credentials : Credentials) (now : ℕ) :
    Prop :=
  validateUsername d.isAlphanumeric credentials.username = none ∧
    ∃ v ∈ s.handler.validator d, v.rateLimiter.check v.ip now ≠ none

/-- A step changes entries, and turns a validation away, only on account of the peer itself. -/
structure OwnPeer (d : Deployment) (s : AcceptDispatcher) (e : ℕ × DispatchEvent)
    (t : AcceptDispatcher) : Prop where
  /-- an entry changes by a validation of its own address, or is pruned after 120 seconds -/
  charged : ∀ ip, t.entry d ip ≠ s.entry d ip →
    (∃ peer began credentials, s.phase = .serving peer began false ∧
      e.2 = .validate credentials ∧ peer.ip = some ip) ∨
    (t.entry d ip = none ∧
      ∃ old ∈ s.entry d ip, Duration.fromSecs 120 ≤ e.1 - old.lastAttempt)
  /-- and a validation is turned away after failures of its own peer -/
  turnedAway : ∀ peer began credentials, s.phase = .serving peer began false →
    e.2 = .validate credentials → s.TurnsAway d credentials e.1 →
    peer.ip ≠ none ∧ ∃ r ∈ s.validations, r.ip = peer.ip ∧ r.validation.accepted = false

/-- No login fails on a connection without an address. -/
def Attributable (d : Deployment) (s : AcceptDispatcher) (e : ℕ × DispatchEvent) : Prop :=
  ∀ peer began credentials, s.phase = .serving peer began false →
    e.2 = .validate credentials → peer.ip = none → d.loginFails credentials = false

/-- A property of every step of a run. -/
def EveryStep (d : Deployment) (now : ℕ) (es : List (ℕ × DispatchEvent))
    (P : AcceptDispatcher → ℕ × DispatchEvent → AcceptDispatcher → Prop) : Prop :=
  ∀ pre e s t, pre ++ [e] <+: es → Run (StepOf (step d)) (start d now) pre s →
    s.step d e = some t → P s e t

/-! ### The limiter before the validation -/

/-- Until the credentials of a connection are checked, nothing has been counted, and a peer
with an address is known by it. -/
structure Addressed (d : Deployment) (s : AcceptDispatcher) : Prop where
  accepting : s.phase = .accepting → ∀ v ∈ s.handler.validator d, v.rateLimiter = .new
  serving : ∀ peer began, s.phase = .serving peer began false →
    ∀ v ∈ s.handler.validator d, v.rateLimiter = .new ∧ ∀ ip ∈ peer.ip, v.peerIp = some ip

theorem addressed_start (d : Deployment) (now : ℕ) : Addressed d (start d now) where
  accepting _ v hv := by
    rw [LamcoConnectionHandler.validator_new d v hv]
    rfl
  serving peer began h := by
    unfold start at h
    dsimp only at h
    split at h <;> cases h

theorem addressed_step {now : ℕ} {e : DispatchEvent} (hs : Addressed d s)
    (h : Dispatched d s now e t) : Addressed d t := by
  cases h with
  | stopped hphase he => exact ⟨fun h => (by cases h), fun _ _ h => (by cases h)⟩
  | acceptFailed hphase => exact ⟨hs.accepting, hs.serving⟩
  | accepted hphase peer clientId timestamp took established =>
      have hnew : ∀ v ∈ (s.handler.onAcceptAsync peer clientId now timestamp
          established).2.validator d,
            v.rateLimiter = .new ∧ ∀ ip ∈ peer.ip, v.peerIp = some ip := by
        intro v hv
        rw [LamcoConnectionHandler.validator_onAcceptAsync] at hv
        obtain ⟨w, hw, hlimiter, hpeer⟩ := LamcoConnectionHandler.mem_validator_setPeerIp hv
        exact ⟨hlimiter.trans (hs.accepting hphase w hw), hpeer⟩
      refine ⟨fun _ v hv => (hnew v hv).1, fun peer' began h => ?_⟩
      cases established with
      | false => cases h
      | true =>
          cases h
          exact hnew
  | cancelled hphase => exact ⟨fun h => (by cases h), fun _ _ h => (by cases h)⟩
  | validated hphase hv => exact ⟨fun h => (by cases h), fun _ _ h => (by cases h)⟩
  | ended hphase error portalAlive => exact ⟨fun h => (by cases h), fun _ _ h => (by cases h)⟩

theorem addressed_of_run {now : ℕ} {es : List (ℕ × DispatchEvent)}
    (h : Run (StepOf (step d)) (start d now) es s) : Addressed d s :=
  h.invariant (addressed_start d now) fun hs hst => addressed_step hs (dispatched_of_step hst)

/-! ### Steps -/

theorem entries_clear_new {v : Validator} (hnew : v.rateLimiter = .new) (ip : IpAddr) :
    (v.rateLimiter.clear v.ip).entries ip = none := by
  rw [hnew]
  exact congrFun (Function.update_eq_self v.ip (RateLimiter.new.entries)) ip

theorem entries_recordFailure_new {v : Validator} (hnew : v.rateLimiter = .new) (now : ℕ)
    (ip : IpAddr) : (v.rateLimiter.recordFailure v.ip now).entries ip =
      if ip = v.ip then some ⟨1, now⟩ else none := by
  rw [hnew]
  exact Function.update_apply (RateLimiter.new.entries) v.ip _ ip

/-- What a validation leaves in a limiter that has counted nothing. -/
theorem entries_validateWith_new {v : Validator} (hnew : v.rateLimiter = .new)
    (credentials : Credentials) (now : ℕ) (ip : IpAddr) :
    (v.validateWith d.isAlphanumeric d.backend credentials now).2.rateLimiter.entries ip =
      if d.loginFails credentials = true ∧ ip = v.ip then some ⟨1, now⟩ else none := by
  have hcheck : v.rateLimiter.check v.ip now = none := by
    rw [hnew]
    rfl
  have hnone : v.rateLimiter.entries ip = none := by
    rw [hnew]
    rfl
  unfold Validator.validateWith Deployment.loginFails
  cases hname : validateUsername d.isAlphanumeric credentials.username with
  | some complaint => simp [hnone]
  | none =>
      simp only [hcheck]
      cases d.backend credentials with
      | authenticated => simpa using entries_clear_new hnew ip
      | refused => simpa using entries_recordFailure_new hnew now ip
      | failed e => simpa using entries_recordFailure_new hnew now ip
      | lost e => simpa using hnone

/-- Only pruning takes entries away when a connection has ended. -/
theorem filter_ne_self {o : Option RateLimitEntry} {p : RateLimitEntry → Bool}
    (h : o.filter p ≠ o) : o.filter p = none ∧ ∃ old ∈ o, p old = false := by
  cases o with
  | none => exact absurd rfl h
  | some old =>
      cases hp : p old with
      | false => exact ⟨by simp [hp], old, rfl, hp⟩
      | true => exact absurd (by simp [hp]) h

theorem ownPeer_iff_of_not_validate {now : ℕ} {e : DispatchEvent}
    (he : ∀ credentials, e ≠ .validate credentials)
    (hentry : ∀ ip, t.entry d ip ≠ s.entry d ip → t.entry d ip = none ∧
      ∃ old ∈ s.entry d ip, Duration.fromSecs 120 ≤ now - old.lastAttempt) :
    OwnPeer d s (now, e) t ↔ Attributable d s (now, e) := by
  refine iff_of_true ⟨fun ip h => .inr (hentry ip h), ?_⟩ ?_
  · intro peer began credentials _ h
    exact absurd h (he credentials)
  · intro peer began credentials _ h
    exact absurd h (he credentials)

theorem ownPeer_step_iff {now : ℕ} {e : DispatchEvent} (hs : Addressed d s)
    (h : Dispatched d s now e t) : OwnPeer d s (now, e) t ↔ Attributable d s (now, e) := by
  cases h with
  | stopped hphase he =>
      refine ownPeer_iff_of_not_validate ?_ fun ip h => absurd rfl h
      rintro credentials rfl
      rcases he with he | he <;> cases he
  | acceptFailed hphase =>
      exact ownPeer_iff_of_not_validate (fun _ h => by cases h) fun ip h => absurd rfl h
  | accepted hphase peer clientId timestamp took established =>
      refine ownPeer_iff_of_not_validate (fun _ h => by cases h) fun ip h => absurd ?_ h
      show (LamcoConnectionHandler.validator d _).bind _ = (s.handler.validator d).bind _
      rw [LamcoConnectionHandler.validator_onAcceptAsync,
        LamcoConnectionHandler.validator_setPeerIp]
      cases peer.ip with
      | none => rfl
      | some ip => exact Option.bind_map ..
  | cancelled hphase =>
      exact ownPeer_iff_of_not_validate (fun _ h => by cases h) fun ip h => absurd rfl h
  | @validated peer began credentials validation handler hphase hv =>
      obtain ⟨v, hmem, hafter⟩ := LamcoConnectionHandler.validator_validate hv
      obtain ⟨hnew, hpeer⟩ := hs.serving peer began hphase v hmem
      have hbefore (ip : IpAddr) : s.entry d ip = none := by
        rw [entry, Option.mem_def.mp hmem, Option.bind_some, hnew]
        rfl
      have hentry (ip : IpAddr) : (handler.validator d).bind (·.rateLimiter.entries ip) =
          if d.loginFails credentials = true ∧ ip = v.ip then some ⟨1, now⟩ else none := by
        rw [hafter, Option.bind_some, entries_validateWith_new hnew]
      constructor
      · intro hown peer' began' credentials' hphase' he hip
        rw [hphase] at hphase'
        cases hphase'
        cases he
        rw [Bool.eq_false_iff]
        intro hfails
        -- the entry that the failure has made is not of this peer
        have hmade := (hentry v.ip).trans (if_pos ⟨hfails, rfl⟩)
        rcases hown.charged v.ip (by rw [hbefore, entry, hmade]; exact Option.some_ne_none _) with
          ⟨peer', began', credentials', hphase', -, hip'⟩ | ⟨hgone, -⟩
        · rw [hphase] at hphase'
          cases hphase'
          rw [hip] at hip'
          cases hip'
        · rw [entry, hmade] at hgone
          cases hgone
      · intro hok
        refine ⟨fun ip hchanged => .inl ⟨peer, began, credentials, hphase, rfl, ?_⟩, ?_⟩
        · have hmade : d.loginFails credentials = true ∧ ip = v.ip := by
            by_contra hnot
            rw [hbefore, entry, hentry ip, if_neg hnot] at hchanged
            exact hchanged rfl
          cases hip : peer.ip with
          | none =>
              have hfails := hok peer began credentials hphase rfl hip
              exact absurd hmade.1 (by simp [hfails])
          | some own => rw [hmade.2, Validator.ip, hpeer own hip, Option.getD_some]
        · rintro peer' began' credentials' - - ⟨-, v', hv', hcheck⟩
          cases hmem.symm.trans hv'
          rw [hnew] at hcheck
          exact absurd rfl hcheck
  | @ended peer began checked hphase error portalAlive =>
      refine ownPeer_iff_of_not_validate (fun _ h => by cases h) fun ip h => ?_
      have hpruned : AcceptDispatcher.entry d { s with
            handler := (s.handler.onDisconnectedAsync now (now - began) error portalAlive).2
            clock := now, phase := .returned none } ip =
          (s.entry d ip).filter fun old =>
            decide (now - old.lastAttempt < Duration.fromSecs 120) := by
        rw [entry, LamcoConnectionHandler.validator_onDisconnectedAsync, entry]
        cases s.handler.validator d <;> rfl
      rw [hpruned] at h ⊢
      obtain ⟨hgone, old, hold, hstale⟩ := filter_ne_self h
      exact ⟨hgone, old, hold, not_lt.mp (of_decide_eq_false hstale)⟩

end AcceptDispatcher

/-- Failed logins are charged to the peer that made them exactly in those runs in which no login
fails on a connection without an address. -/
theorem failed_logins_own_peer_iff (d : Deployment) (now : ℕ) (es : List (ℕ × DispatchEvent)) :
    AcceptDispatcher.EveryStep d now es (AcceptDispatcher.OwnPeer d) ↔
      AcceptDispatcher.EveryStep d now es fun s e _ => AcceptDispatcher.Attributable d s e := by
  have hstep {pre e s t} (hrun : Run (StepOf (AcceptDispatcher.step d)) (.start d now) pre s)
      (hst : s.step d e = some t) :
      AcceptDispatcher.OwnPeer d s e t ↔ AcceptDispatcher.Attributable d s e :=
    AcceptDispatcher.ownPeer_step_iff (AcceptDispatcher.addressed_of_run hrun)
      (AcceptDispatcher.dispatched_of_step hst)
  constructor
  · intro h pre e s t hpre hrun hst
    exact (hstep hrun hst).mp (h pre e s t hpre hrun hst)
  · intro h pre e s t hpre hrun hst
    exact (hstep hrun hst).mpr (h pre e s t hpre hrun hst)

/-- A peer over TCP whose session cannot be established, and one on a Unix socket. -/
def unixAfterTcp : List (ℕ × DispatchEvent) :=
  [(1, .accepted lanPeer "rdp-1" 0 0 false), (2, .accepted (.unix "/run/rdp") "rdp-2" 0 0 true)]

/-- The login that fails on the Unix socket is charged to the TCP peer. -/
theorem stale_address_charged :
    ¬ AcceptDispatcher.EveryStep passwordDeployment 0
      (unixAfterTcp ++ [(3, .validate ActivatedServer.anyone)])
      (AcceptDispatcher.OwnPeer passwordDeployment) := by
  intro h
  obtain ⟨s, hrun, hs⟩ : ∃ s, Run (StepOf (AcceptDispatcher.step passwordDeployment))
        (.start passwordDeployment 0) unixAfterTcp s ∧
      (s.phase, s.entry passwordDeployment (.v4 0xC0A80007),
        (s.step passwordDeployment (3, .validate ActivatedServer.anyone)).map
          (·.entry passwordDeployment (.v4 0xC0A80007))) =
        (.serving (.unix "/run/rdp") 2 false, none, some (some ⟨1, 3⟩)) :=
    Run.exists_of_foldlM _ (by decide)
  obtain ⟨hphase, hs⟩ := Prod.mk.inj hs
  obtain ⟨hbefore, hstep⟩ := Prod.mk.inj hs
  obtain ⟨t, ht, hafter⟩ := Option.map_eq_some_iff.mp hstep
  have hown := h unixAfterTcp _ s t (List.prefix_refl _) hrun ht
  rcases hown.charged (.v4 0xC0A80007) (by rw [hbefore, hafter]; exact Option.some_ne_none _) with
    ⟨peer, began, credentials, hphase', -, hip⟩ | ⟨hgone, -⟩
  · rw [hphase] at hphase'
    cases hphase'
    cases hip
  · rw [hafter] at hgone
    cases hgone

end LamcoRdp
