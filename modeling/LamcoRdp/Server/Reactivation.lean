/-
LamcoRdp/Server/Reactivation.lean

`updates()` within one connection.

The server calls `updates()` when a client connects, and again for every
Deactivation-Reactivation of the same client.  It takes the receiver of the update
channel; if that is gone it makes a new one and resets the state shared with the
graphics channel, as for a new client.  The handler of the channel is the old one
in a reactivation and will not copy its flags again, so that the shared flags stay
down: `reactivation_keeps_flags_iff`.
-/
import LamcoRdp.Egfx.Negotiation

namespace LamcoRdp

open Runs

/-! ### The system -/

/-- `LamcoDisplayHandler`, what `updates()` and the readiness check look at. -/
structure LamcoDisplayHandler where
  /-- `update_receiver.is_some()` -/
  updateReceiver : Bool
  /-- `server_event_tx.is_some()` -/
  serverEventTx : Bool
  /-- `gfx_server_handle.is_some()` -/
  gfxServerHandle : Bool
  egfxNeedsInit : Bool
  clientActive : Bool
  sawRealDisconnect : Bool
  /-- how often the clipboard was told of a disconnect -/
  clipboardDisconnects : ℕ
  deriving DecidableEq, Repr

/-- One connection: the display handler and the channel of the client, with the
shared state between them. -/
structure Connection where
  display : LamcoDisplayHandler
  channel : Channel

/-- What the client and the server do on a connection. -/
inductive ConnectionEvent
  | negotiate (exchange : CapabilityExchange)
  | surfaceCreated (surfaceId : ℕ)
  | surfaceDeleted (surfaceId : ℕ)
  | frameAck (frameId queueDepth totalFramesDecoded : ℕ) (clock : Clock)
  /-- the display loop takes the flag of a re-advertise down -/
  | frame
  /-- the client is activated, or activated again -/
  | updates

namespace Connection

/-- `updates()`. -/
def updates (s : Connection) : Connection :=
  let s :=
    if s.display.updateReceiver then s
    else
      { s with
        channel.shared := s.channel.shared.reset
        display.egfxNeedsInit := true
        display.sawRealDisconnect := false
        display.clipboardDisconnects :=
          s.display.clipboardDisconnects + s.display.sawRealDisconnect.toNat }
  { s with display.clientActive := true, display.updateReceiver := false }

/-- `is_egfx_ready`. -/
def isEgfxReady (s : Connection) : Bool :=
  s.display.serverEventTx && s.display.gfxServerHandle && s.channel.shared.isReady

/-- The connection after an event. -/
def step (s : Connection) : ConnectionEvent → Connection
  | .negotiate exchange => { s with channel := s.channel.step (.negotiate exchange) }
  | .surfaceCreated surfaceId => { s with channel := s.channel.step (.surfaceCreated surfaceId) }
  | .surfaceDeleted surfaceId => { s with channel := s.channel.step (.surfaceDeleted surfaceId) }
  | .frameAck frameId queueDepth totalFramesDecoded clock =>
      { s with channel := s.channel.step (.frameAck frameId queueDepth totalFramesDecoded clock) }
  | .frame => { s with channel.shared.needsFullReinit := false }
  | .updates => s.updates

/-- The negotiated flags are shared. -/
structure SharesFlags (c : Channel) : Prop where
  isReady : c.shared.isReady = c.handler.ready
  clientSupportsAvc420 : c.shared.clientSupportsAvc420 = c.handler.avc420Enabled
  clientRequiresPlanar : c.shared.clientRequiresPlanar = c.handler.advertisedAvcDisabled
  isAvc444Enabled : c.shared.isAvc444Enabled = c.handler.avc444Enabled

/-- The flags of the handler are shared, and the channel is ready as soon as
there is a way to send. -/
structure KeepsFlags (s : Connection) : Prop where
  flags : SharesFlags s.channel
  egfxReady : s.isEgfxReady = (s.display.serverEventTx && s.display.gfxServerHandle)

/-- What a capability exchange leaves: a ready handler whose flags are shared,
until `updates()` finds the receiver gone. -/
structure Negotiated (s : Connection) : Prop where
  ready : s.channel.handler.ready = true
  shares : s.display.updateReceiver = true → SharesFlags s.channel

theorem SharesFlags.of_synced {c : Channel} (h : Channel.Synced c.handler c.shared) :
    SharesFlags c :=
  ⟨h.isReady, h.clientSupportsAvc420, h.clientRequiresPlanar, h.isAvc444Enabled⟩

theorem SharesFlags.keeps {s : Connection} (h : SharesFlags s.channel)
    (hready : s.channel.handler.ready = true) : s.KeepsFlags := by
  refine ⟨h, ?_⟩
  rw [isEgfxReady, h.isReady, hready, Bool.and_true]

/-- The exchange makes the handler ready and copies its flags. -/
theorem negotiated_negotiate (s : Connection) (exchange : CapabilityExchange) :
    (s.step (.negotiate exchange)).Negotiated := by
  refine ⟨rfl, fun _ => SharesFlags.of_synced ?_⟩
  exact Channel.synced_syncSharedState _ _

/-- Nothing in a connection undoes the exchange, short of the reset. -/
theorem Negotiated.step {s : Connection} (h : s.Negotiated) (e : ConnectionEvent) :
    (s.step e).Negotiated := by
  cases e with
  | negotiate exchange => exact negotiated_negotiate s exchange
  | surfaceCreated surfaceId =>
      by_cases hs : s.channel.handler.hasSurface = true
      · -- there was a surface: the handler changes nothing
        have hcall : s.channel.handler.onSurfaceCreated surfaceId = (s.channel.handler, id) :=
          if_pos hs
        refine ⟨?_, fun hreceiver => ?_⟩
        · show (s.channel.handler.onSurfaceCreated surfaceId).1.ready = true
          rw [hcall]
          exact h.ready
        · obtain ⟨hr, h420, hpl, h444⟩ := h.shares hreceiver
          simp only [Connection.step, Channel.step, Channel.called, hcall]
          exact ⟨hr, h420, hpl, h444⟩
      · -- the first surface writes all shared flags anew
        have hcall : s.channel.handler.onSurfaceCreated surfaceId = _ := if_neg hs
        simp only [Connection.step, Channel.step, Channel.called, hcall]
        exact ⟨h.ready, fun _ => ⟨rfl, rfl, rfl, rfl⟩⟩
  | surfaceDeleted surfaceId =>
      -- the primary surface goes, and the flags are written anew
      by_cases hs : s.channel.handler.hasSurface = true ∧
          s.channel.handler.primarySurfaceId = surfaceId
      · have hcall : s.channel.handler.onSurfaceDeleted surfaceId = _ := if_pos hs
        simp only [Connection.step, Channel.step, Channel.called, hcall]
        exact ⟨h.ready, fun _ => ⟨rfl, rfl, rfl, rfl⟩⟩
      · have hcall : s.channel.handler.onSurfaceDeleted surfaceId = (s.channel.handler, id) :=
          if_neg hs
        simp only [Connection.step, Channel.step, Channel.called, hcall]
        refine ⟨h.ready, fun hreceiver => ?_⟩
        obtain ⟨hr, h420, hpl, h444⟩ := h.shares hreceiver
        exact ⟨hr, h420, hpl, h444⟩
  -- an acknowledgement or a frame leaves the flags alone
  | frameAck frameId queueDepth totalFramesDecoded clock =>
      refine ⟨h.ready, fun hreceiver => ?_⟩
      obtain ⟨hr, h420, hpl, h444⟩ := h.shares hreceiver
      exact ⟨hr, h420, hpl, h444⟩
  | frame =>
      refine ⟨h.ready, fun hreceiver => ?_⟩
      obtain ⟨hr, h420, hpl, h444⟩ := h.shares hreceiver
      exact ⟨hr, h420, hpl, h444⟩
  | updates =>
      -- a new stream of updates takes the receiver
      refine ⟨?_, fun hreceiver => Bool.noConfusion hreceiver⟩
      show s.updates.channel.handler.ready = true
      unfold updates
      rcases s.display.updateReceiver with - | -
      · exact h.ready
      · exact h.ready

/-- **`updates()` after the exchange** keeps the flags exactly if the receiver was
still there. -/
theorem Negotiated.updates_iff {s : Connection} (h : s.Negotiated) :
    (s.step .updates).KeepsFlags ↔ s.display.updateReceiver = true := by
  have hready := (h.step .updates).ready
  rcases hreceiver : s.display.updateReceiver with - | -
  · refine ⟨fun hkeeps => ?_, fun hno => Bool.noConfusion hno⟩
    -- the reset takes the flag down
    have hdown : (s.step .updates).channel.shared.isReady = false := by
      show s.updates.channel.shared.isReady = false
      unfold updates
      rw [hreceiver]
      rfl
    exact absurd (hdown.symm.trans (hkeeps.flags.isReady.trans hready)) Bool.false_ne_true
  · refine ⟨fun _ => rfl, fun _ => ?_⟩
    have hsame : (s.step .updates).channel = s.channel := by
      show s.updates.channel = s.channel
      unfold updates
      rw [hreceiver]
      rfl
    refine SharesFlags.keeps ?_ hready
    rw [hsame]
    exact h.shares hreceiver

/-- Among the first `n` events there is a capability exchange. -/
def NegotiatedBefore (es : List ConnectionEvent) (n : ℕ) : Prop :=
  ∃ m < n, ∃ exchange, es[m]? = some (.negotiate exchange)

/-- After the first exchange the connection stays negotiated. -/
theorem negotiated_after (s₀ : Connection) {es : List ConnectionEvent} {n : ℕ}
    (h : NegotiatedBefore es n) : (after step s₀ es n).Negotiated := by
  induction n with
  | zero =>
      obtain ⟨m, hm, -⟩ := h
      exact absurd hm (Nat.not_lt_zero m)
  | succ n ih =>
      obtain ⟨m, hm, exchange, he⟩ := h
      rcases hn : es[n]? with - | e
      · -- the run is over
        have hsame : after step s₀ es (n + 1) = after step s₀ es n := by
          rw [after, List.take_add_one, hn, Option.toList_none, List.append_nil]
          rfl
        rw [hsame]
        refine ih ⟨m, ?_, exchange, he⟩
        rcases Nat.lt_succ_iff_lt_or_eq.mp hm with hlt | rfl
        · exact hlt
        · exact absurd (hn.symm.trans he) (by simp)
      · rw [after_succ step s₀ hn]
        rcases Nat.lt_succ_iff_lt_or_eq.mp hm with hlt | rfl
        · exact (ih ⟨m, hlt, exchange, he⟩).step e
        · obtain rfl := Option.some.inj (hn.symm.trans he)
          exact negotiated_negotiate _ exchange

end Connection

/-- **Reactivation.**  In every run of a connection, each `updates()` after the
capability exchange keeps the negotiated flags, exactly if each of them finds the
receiver of the update channel in its place. -/
theorem reactivation_keeps_flags_iff (s₀ : Connection) (es : List ConnectionEvent) :
    (∀ n, es[n]? = some .updates → Connection.NegotiatedBefore es n →
        (after Connection.step s₀ es (n + 1)).KeepsFlags) ↔
      ∀ n, es[n]? = some .updates → Connection.NegotiatedBefore es n →
        (after Connection.step s₀ es n).display.updateReceiver = true := by
  refine forall_congr' fun n => forall_congr' fun he => forall_congr' fun hneg => ?_
  rw [after_succ Connection.step s₀ he]
  exact (Connection.negotiated_after s₀ hneg).updates_iff

/-- A client connects to a server that has just started. -/
def Connection.first : Connection where
  display :=
    { updateReceiver := true
      serverEventTx := true
      gfxServerHandle := true
      egfxNeedsInit := true
      clientActive := false
      sawRealDisconnect := false
      clipboardDisconnects := 0 }
  channel := .attach false 3 .new

/-- Activation, exchange, surface, reactivation: the channel is negotiated and not
ready. -/
theorem reactivation_takes_flags_down :
    (after Connection.step .first
        [.updates, .negotiate avc444Exchange, .surfaceCreated 1, .updates] 4).channel.handler.ready
        = true ∧
      (after Connection.step .first
        [.updates, .negotiate avc444Exchange, .surfaceCreated 1, .updates] 4).isEgfxReady
        = false ∧
      ¬ (after Connection.step .first
        [.updates, .negotiate avc444Exchange, .surfaceCreated 1, .updates] 4).KeepsFlags :=
  ⟨rfl, rfl, fun h => Bool.noConfusion h.egfxReady⟩

end LamcoRdp
