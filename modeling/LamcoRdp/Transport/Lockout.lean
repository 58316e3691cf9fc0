/-
LamcoRdp/Transport/Lockout.lean

How long a lockout lasts: the server as the runs of the accept loop, one after the
other.

A run that has returned is started again by the socket activation, with a handler and
validators that are freshly built.  As every connection that was served ends its run
(`onDisconnectedAsync_fst`), the validators of a run see one connection at most, and a
connection whose credentials have not been checked yet finds its limiter empty
(`fresh_of_run`).  So the lockout of an address is over with the connection that
incurred it: however many validations failed and however recently, the next one asks
the backend (`lockout_never_carries_over`).
-/
import LamcoRdp.Transport.Dispatcher

namespace LamcoRdp

open Runs

/-! ### The server -/

/-- The runs so far: what the earlier ones validated, and the current one. -/
structure ActivatedServer where
  past : List ValidationRecord
  run : AcceptDispatcher

/-- A step of the server, or a new run of it. -/
inductive ServerStep
  /-- the socket activation starts a new run -/
  | activate
  | dispatch (event : DispatchEvent)
  deriving DecidableEq, Repr

namespace ActivatedServer

/-- The first run. -/
def init (d : Deployment) (now : ℕ) : ActivatedServer := { past := [], run := .start d now }

/-- All validations, in their order. -/
def history (s : ActivatedServer) : List ValidationRecord := s.past ++ s.run.validations

/-- A step at a time that is no earlier than the last. -/
def step (d : Deployment) (s : ActivatedServer) (e : ℕ × ServerStep) : Option ActivatedServer :=
  let (now, event) := e
  match event with
  | .activate =>
      match s.run.phase with
      | .returned _ =>
          if now < s.run.clock then none
          else some { past := s.history, run := .start d now }
      | _ => none
  | .dispatch event => (s.run.step d (now, event)).map fun run => { s with run }

end ActivatedServer

/-! ### The lockout across connections -/

/-- The last `k` validations of an address all failed, and the latest of them was less
than the lockout of `k` failures ago. -/
structure LockedOut (history : List ValidationRecord) (ip : IpAddr) (k now : ℕ) : Prop where
  streak : ∃ records latest limit,
    records ++ [latest] <:+ history.filter (fun r => r.ip = some ip) ∧
      records.length + 1 = k ∧
      (∀ r ∈ records ++ [latest], r.validation.accepted = false) ∧
      RateLimiter.lockout k = some limit ∧ now - latest.time < limit

namespace ActivatedServer

variable {d : Deployment} {s t : ActivatedServer}

/-- Whatever the credentials, the next validation is a rejection without the backend. -/
def RejectsUnasked (d : Deployment) (s : ActivatedServer) (now : ℕ) : Prop :=
  ∀ credentials t, s.step d (now, .dispatch (.validate credentials)) = some t →
    ∃ r, t.history = s.history ++ [r] ∧ r.validation.RejectedUnasked

/-- A connection from the address is served, and its credentials are to be checked next. -/
def Awaits (s : ActivatedServer) (ip : IpAddr) : Prop :=
  ∃ peer began, peer.ip = some ip ∧ s.run.phase = .serving peer began false

/-- The validator in use has counted nothing yet. -/
def Fresh (d : Deployment) (h : LamcoConnectionHandler) : Prop :=
  match d.auth with
  | .pam => ∃ peerIp, h.pamValidator = some ⟨.new, peerIp⟩
  | .password => ∃ peerIp, h.staticPasswordValidator = some ⟨.new, peerIp⟩
  | .none => True

theorem fresh_new (d : Deployment) : Fresh d (.new d) := by
  unfold Fresh LamcoConnectionHandler.new
  rcases d.auth
  · exact ⟨none, rfl⟩
  · exact ⟨none, rfl⟩
  · trivial

theorem Fresh.setPeerIp {h : LamcoConnectionHandler} (hf : Fresh d h) (peer : PeerAddr) :
    Fresh d (h.setPeerIp peer) := by
  unfold LamcoConnectionHandler.setPeerIp
  rcases peer.ip with - | ip
  · exact hf
  · revert hf
    unfold Fresh
    rcases d.auth
    · rintro ⟨peerIp, hv⟩
      exact ⟨some ip, congrArg (Option.map (Validator.setPeerIp · ip)) hv⟩
    · rintro ⟨peerIp, hv⟩
      exact ⟨some ip, congrArg (Option.map (Validator.setPeerIp · ip)) hv⟩
    · exact id

/-- What holds in every run: nothing is counted before the connection's check, and
without a validator nothing is validated. -/
structure Inv (d : Deployment) (s : ActivatedServer) : Prop where
  accepting : s.run.phase = .accepting → Fresh d s.run.handler
  unchecked : ∀ {peer began}, s.run.phase = .serving peer began false → Fresh d s.run.handler
  method : s.history ≠ [] → d.auth ≠ .none

theorem inv_start (d : Deployment) (now : ℕ) {past : List ValidationRecord}
    (hpast : past ≠ [] → d.auth ≠ .none) : Inv d { past, run := .start d now } where
  accepting _ := fresh_new d
  unchecked _ := fresh_new d
  method h := hpast (by rwa [history, AcceptDispatcher.start, List.append_nil] at h)

theorem validate_none {h : LamcoConnectionHandler} {credentials : Credentials} {now : ℕ}
    (hauth : d.auth = .none) : h.validate d credentials now = none := by
  rw [LamcoConnectionHandler.validate, hauth]

theorem inv_dispatch {now : ℕ} {e : DispatchEvent} {run : AcceptDispatcher} (hs : Inv d s)
    (h : AcceptDispatcher.Dispatched d s.run now e run) : Inv d { s with run } := by
  cases h with
  | stopped hphase he => exact ⟨nofun, nofun, hs.method⟩
  | acceptFailed hphase => exact ⟨hs.accepting, hs.unchecked, hs.method⟩
  | accepted hphase peer clientId timestamp took established =>
      have hfresh : Fresh d (s.run.handler.onAcceptAsync peer clientId now timestamp
          established).2 := by
        cases established
        · exact (hs.accepting hphase).setPeerIp peer
        · exact (hs.accepting hphase).setPeerIp peer
      exact ⟨fun _ => hfresh, fun _ => hfresh, hs.method⟩
  | cancelled hphase => exact ⟨nofun, nofun, hs.method⟩
  | validated hphase hv =>
      refine ⟨nofun, nofun, fun _ hauth => ?_⟩
      rw [validate_none hauth] at hv
      cases hv
  | ended hphase error portalAlive => exact ⟨nofun, nofun, hs.method⟩

theorem inv_step {e : ℕ × ServerStep} (hs : Inv d s) (h : s.step d e = some t) : Inv d t := by
  obtain ⟨now, - | event⟩ := e
  · unfold step at h
    dsimp only at h
    split at h
    · obtain ⟨-, h⟩ := Option.ite_none_left_eq_some.mp h
      obtain rfl := Option.some.inj h
      exact inv_start d now hs.method
    · cases h
  · obtain ⟨run, hrun, rfl⟩ := Option.map_eq_some_iff.mp h
    exact inv_dispatch hs (AcceptDispatcher.dispatched_of_step hrun)

/-- The limiter of a connection that is not checked yet is empty. -/
theorem fresh_of_run {now : ℕ} {es : List (ℕ × ServerStep)}
    (h : Run (StepOf (step d)) (init d now) es s) : Inv d s :=
  h.invariant (inv_start d now fun h => absurd rfl h) inv_step

/-- A name that every validator takes for well formed. -/
def anyone : Credentials := { username := "_", password := "", domain := none }

theorem validateUsername_anyone (isAlphanumeric : Char → Bool) :
    validateUsername isAlphanumeric anyone.username = none := by
  have hall : (anyone.username.toList.all fun c =>
      isAlphanumeric c || c == '_' || c == '-' || c == '.' || c == '\\' || c == '@') = true := by
    have hlist : anyone.username.toList = ['_'] := by decide
    rw [hlist]
    simp
  have hempty : anyone.username.isEmpty = false := by decide
  have hsize : ¬ 32 < anyone.username.utf8ByteSize := by decide
  rw [validateUsername, if_neg (by rw [hempty]; decide), if_neg hsize, hall]
  rfl

/-- On a fresh validator a well-formed name is looked up. -/
theorem validate_fresh {h : LamcoConnectionHandler} (hf : Fresh d h) (hauth : d.auth ≠ .none)
    (now : ℕ) : ∃ v h', h.validate d anyone now = some (v, h') ∧ v.consulted = true := by
  unfold Fresh at hf
  unfold LamcoConnectionHandler.validate
  revert hf hauth
  rcases d.auth
  · rintro ⟨peerIp, hv⟩ -
    dsimp only
    rw [hv]
    exact ⟨_, _, rfl, Validator.validateWith_consulted (validateUsername_anyone _) rfl⟩
  · rintro ⟨peerIp, hv⟩ -
    dsimp only
    rw [hv]
    exact ⟨_, _, rfl, Validator.validateWith_consulted (validateUsername_anyone _) rfl⟩
  · intro _ hne
    exact absurd rfl hne

end ActivatedServer

/-- **The lockout never carries over to the next connection.**  In every history in which
an address is locked out, its next connection can have credentials looked up by the
backend. -/
theorem lockout_never_carries_over (d : Deployment) (start : ℕ)
    {es : List (ℕ × ServerStep)} {s : ActivatedServer} {ip : IpAddr} {k now : ℕ}
    (h : Run (StepOf (ActivatedServer.step d)) (.init d start) es s)
    (hlocked : LockedOut s.history ip k now) (hnext : s.Awaits ip) (hnow : s.run.clock ≤ now) :
    ¬ s.RejectsUnasked d now := by
  obtain ⟨peer, began, -, hphase⟩ := hnext
  intro hrejects
  have hinv := ActivatedServer.fresh_of_run h
  have hauth : d.auth ≠ .none := by
    obtain ⟨records, latest, limit, hsuffix, -⟩ := hlocked.streak
    have hmem : latest ∈ s.history :=
      (List.mem_filter.mp (hsuffix.subset (List.mem_append_right _ List.mem_cons_self))).1
    exact hinv.method (List.ne_nil_of_mem hmem)
  obtain ⟨v, handler, hv, hasked⟩ :=
    ActivatedServer.validate_fresh (hinv.unchecked hphase) hauth now
  have hstep : s.step d (now, .dispatch (.validate ActivatedServer.anyone)) = some
      { s with run := { s.run with
          handler, clock := now, phase := .serving peer began true
          validations := s.run.validations ++ [⟨peer.ip, now, v⟩] } } := by
    unfold ActivatedServer.step AcceptDispatcher.step
    dsimp only
    rw [if_neg (not_lt.mpr hnow), hphase]
    dsimp only
    rw [hv]
    rfl
  obtain ⟨r, hr, hunasked⟩ := hrejects _ _ hstep
  -- the record that was added is the one of this validation
  rw [ActivatedServer.history, ActivatedServer.history, ← List.append_assoc] at hr
  obtain rfl := (List.cons.inj (List.append_cancel_left hr)).1
  exact absurd hunasked.2 (by rw [hasked]; decide)

/-- A connection whose credentials are refused, and the next activation, all at once. -/
def refusedConnection (now : ℕ) : List (ℕ × ServerStep) :=
  [(now, .dispatch (.accepted lanPeer "rdp-1" 0 0 true)),
    (now, .dispatch (.validate ActivatedServer.anyone)),
    (now, .dispatch (.connectionEnded false true)), (now, .activate)]

/-- Four connections that are refused, a second apart, and a fifth that is accepted. -/
def fiveConnections : List (ℕ × ServerStep) :=
  [1, 2, 3, 4].flatMap (fun n => refusedConnection (Duration.fromSecs n))
    ++ [(Duration.fromSecs 5, .dispatch (.accepted lanPeer "rdp-5" 0 0 true))]

/-- A login refused `n` seconds after the start. -/
def refusedRecord (n : ℕ) : ValidationRecord :=
  { ip := some (.v4 0xC0A80007), time := Duration.fromSecs n
    validation := ⟨.ok .reject, true⟩ }

theorem lockedOut_four :
    LockedOut ([1, 2, 3, 4].map refusedRecord) (.v4 0xC0A80007) 4 (Duration.fromSecs 5) where
  streak := ⟨[1, 2, 3].map refusedRecord, refusedRecord 4, Duration.fromSecs 5,
    by decide, rfl, by decide, rfl, by decide⟩

theorem fiveConnections_run :
    ∃ s, Run (StepOf (ActivatedServer.step passwordDeployment)) (.init passwordDeployment 0)
        fiveConnections s ∧
      (s.history, s.run.phase, s.run.clock,
        (s.step passwordDeployment
            (Duration.fromSecs 5, .dispatch (.validate ActivatedServer.anyone))).map
          (·.history.map (·.validation.consulted)))
        = ([1, 2, 3, 4].map refusedRecord, .serving lanPeer (Duration.fromSecs 5) false,
          Duration.fromSecs 5, some [true, true, true, true, true]) :=
  Run.exists_of_foldlM _ (by decide)

/-- The fifth connection is served although its address is locked out. -/
theorem lockout_never_carries_over_fifth :
    ∃ s, Run (StepOf (ActivatedServer.step passwordDeployment)) (.init passwordDeployment 0)
        fiveConnections s ∧
      LockedOut s.history (.v4 0xC0A80007) 4 (Duration.fromSecs 5) ∧
      ¬ s.RejectsUnasked passwordDeployment (Duration.fromSecs 5) := by
  obtain ⟨s, hrun, hs⟩ := fiveConnections_run
  obtain ⟨hhistory, hs⟩ := Prod.mk.inj hs
  obtain ⟨hphase, hs⟩ := Prod.mk.inj hs
  obtain ⟨hclock, -⟩ := Prod.mk.inj hs
  have hlocked : LockedOut s.history (.v4 0xC0A80007) 4 (Duration.fromSecs 5) := by
    rw [hhistory]
    exact lockedOut_four
  exact ⟨s, hrun, hlocked, lockout_never_carries_over passwordDeployment 0 hrun hlocked
    ⟨lanPeer, _, rfl, hphase⟩ hclock.le⟩

/-- Four failures in the last four seconds, and the backend is asked again. -/
theorem lockout_forgotten :
    ∃ (d : Deployment) (start : ℕ) (es : List (ℕ × ServerStep)) (s : ActivatedServer)
      (ip : IpAddr) (k now : ℕ),
      Run (StepOf (ActivatedServer.step d)) (.init d start) es s ∧
        LockedOut s.history ip k now ∧ s.Awaits ip ∧ s.run.clock ≤ now ∧
        ¬ s.RejectsUnasked d now := by
  obtain ⟨s, hrun, hs⟩ := fiveConnections_run
  obtain ⟨hhistory, hs⟩ := Prod.mk.inj hs
  obtain ⟨hphase, hs⟩ := Prod.mk.inj hs
  obtain ⟨hclock, hnext⟩ := Prod.mk.inj hs
  refine ⟨passwordDeployment, 0, fiveConnections, s, .v4 0xC0A80007, 4, Duration.fromSecs 5, hrun,
    hhistory ▸ lockedOut_four, ⟨lanPeer, _, rfl, hphase⟩, hclock.le, fun hrejects => ?_⟩
  obtain ⟨t, ht, hasked⟩ := Option.map_eq_some_iff.mp hnext
  obtain ⟨r, hr, hunasked⟩ := hrejects _ t ht
  rw [hr, hhistory, List.map_append] at hasked
  have hlast : r.validation.consulted = true :=
    (List.cons.inj (@List.append_cancel_left _ [true, true, true, true] _ _ hasked)).1
  exact absurd hunasked.2 (by rw [hlast]; decide)

end LamcoRdp
