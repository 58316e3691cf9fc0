/-
LamcoRdp/Egfx/Negotiation.lean

What the display loop can rely on in the shared state, over every sequence of
channel callbacks.

The system is a handler with its shared state.  The surfaces that live, those
created since the client last started over and not deleted since, are recorded
beside it.  `on_close` takes down AVC420 but not AVC444; it is the only callback
that can break `Consistent`, and it does so exactly if AVC444 was negotiated.
-/
import LamcoRdp.Egfx.Handler
import LamcoRdp.Lib.Runs

namespace LamcoRdp

open Runs

/-! ### The system -/

/-- A capability exchange: what is advertised, and the set of it that is
confirmed. -/
structure CapabilityExchange where
  pdu : List (Option CapabilitySet)
  negotiated : CapabilitySet
  advertised : some negotiated ∈ pdu

/-- What the client does on the graphics channel. -/
inductive ChannelEvent
  /-- `capabilities_advertise`, answered with `on_ready` -/
  | negotiate (exchange : CapabilityExchange)
  | surfaceCreated (surfaceId : ℕ)
  | surfaceDeleted (surfaceId : ℕ)
  | frameAck (frameId queueDepth totalFramesDecoded : ℕ) (clock : Clock)
  | close

/-- The handler, the state that it shares with the server, and the surfaces of the client. -/
structure Channel where
  handler : LamcoGraphicsHandler
  shared : SharedHandlerState
  /-- the surfaces created since the last re-advertise or close, and not deleted -/
  live : List ℕ

namespace Channel

/-- The callback and its stores. -/
def called (s : Channel) (r : LamcoGraphicsHandler × LamcoGraphicsHandler.Stores) : Channel :=
  { s with handler := r.1, shared := r.2 s.shared }

/-- The channel after an event. -/
def step (s : Channel) : ChannelEvent → Channel
  | .negotiate exchange =>
      let advertised := s.called (s.handler.capabilitiesAdvertise exchange.pdu)
      { advertised.called (advertised.handler.onReady exchange.negotiated) with
        live := if s.handler.ready then [] else s.live }
  | .surfaceCreated surfaceId =>
      { s.called (s.handler.onSurfaceCreated surfaceId) with live := surfaceId :: s.live }
  | .surfaceDeleted surfaceId =>
      { s.called (s.handler.onSurfaceDeleted surfaceId) with
        live := s.live.filter (· ≠ surfaceId) }
  | .frameAck frameId queueDepth totalFramesDecoded clock =>
      s.called (s.handler.onFrameAck frameId queueDepth totalFramesDecoded clock)
  | .close => { s.called s.handler.onClose with live := [] }

/-- A fresh handler, attached to a shared state. -/
def attach (forceAvc420Only : Bool) (maxFramesInFlight : ℕ) (shared : SharedHandlerState) :
    Channel :=
  ⟨.withConfig forceAvc420Only maxFramesInFlight, shared, []⟩

/-! ### The invariant -/

/-- The shared flags are the handler's own. -/
structure Synced (h : LamcoGraphicsHandler) (shared : SharedHandlerState) : Prop where
  isReady : shared.isReady = h.ready
  clientSupportsAvc420 : shared.clientSupportsAvc420 = h.avc420Enabled
  isAvc444Enabled : shared.isAvc444Enabled = h.avc444Enabled
  clientRequiresPlanar : shared.clientRequiresPlanar = h.advertisedAvcDisabled
  hasSurface : shared.hasSurface = h.hasSurface
  primarySurfaceId : shared.hasSurface = true → shared.primarySurfaceId = h.primarySurfaceId

/-- What the display loop relies on. -/
structure Consistent (s : Channel) : Prop where
  synced : Synced s.handler s.shared
  /-- AVC444 comes with AVC420 -/
  avc444 : s.shared.isAvc444Enabled = true → s.shared.clientSupportsAvc420 = true
  /-- a client that needs Planar gets no AVC -/
  planar : s.shared.isReady = true → s.shared.clientRequiresPlanar = true →
    s.shared.clientSupportsAvc420 = false ∧ s.shared.isAvc444Enabled = false
  /-- the platform quirk -/
  forced : s.handler.forceAvc420Only = true → s.shared.isAvc444Enabled = false
  /-- frames go to a surface the client has -/
  surface : s.shared.hasSurface = true → s.shared.primarySurfaceId ∈ s.live

/-- The event does not close the channel while AVC444 is on. -/
def ClosesWithoutAvc444 (s : Channel) : ChannelEvent → Prop
  | .close => s.handler.avc444Enabled = false
  | _ => True

theorem synced_syncSharedState (h : LamcoGraphicsHandler) (shared : SharedHandlerState) :
    Synced h (h.syncSharedState shared) :=
  ⟨rfl, rfl, rfl, rfl, rfl, fun _ => rfl⟩

/-- What `on_ready` enables. -/
theorem onReady_support (h : LamcoGraphicsHandler) (negotiated : CapabilitySet) :
    ((h.onReady negotiated).1.avc444Enabled = true → (h.onReady negotiated).1.avc420Enabled = true) ∧
      (h.advertisedAvcDisabled = true → (h.onReady negotiated).1.avc420Enabled = false ∧
        (h.onReady negotiated).1.avc444Enabled = false) ∧
      (h.forceAvc420Only = true → (h.onReady negotiated).1.avc444Enabled = false) := by
  -- every version that has AVC444 has AVC420
  have hboth : negotiated.avcSupport.2 = true → negotiated.avcSupport.1 = true := by
    cases negotiated <;> simp [CapabilitySet.avcSupport]
  unfold LamcoGraphicsHandler.onReady
  generalize negotiated.avcSupport = support at hboth ⊢
  obtain ⟨avc420, avc444⟩ := support
  rcases h.advertisedAvcDisabled with - | -
  · refine ⟨?_, fun hno => Bool.noConfusion hno, ?_⟩
    · rcases avc444 with - | -
      · simp
      · exact fun _ => hboth rfl
    · intro hforce
      simp [hforce]
  · exact ⟨by simp, by simp, by simp⟩

/-- What the loop relies on, after a callback that copies the handler's flags. -/
theorem Consistent.of_sync {s : Channel} {h : LamcoGraphicsHandler} {live : List ℕ}
    (h444 : h.avc444Enabled = true → h.avc420Enabled = true)
    (hplanar : h.ready = true → h.advertisedAvcDisabled = true →
      h.avc420Enabled = false ∧ h.avc444Enabled = false)
    (hforced : h.forceAvc420Only = true → h.avc444Enabled = false)
    (hsurface : h.hasSurface = true → h.primarySurfaceId ∈ live) :
    Consistent { s.called (h, h.syncSharedState) with live := live } :=
  ⟨synced_syncSharedState h s.shared, h444, hplanar, hforced, hsurface⟩

/-- The flags the handler has are as consistent as those it shares. -/
theorem Consistent.handler {s : Channel} (h : s.Consistent) :
    (s.handler.avc444Enabled = true → s.handler.avc420Enabled = true) ∧
      (s.handler.ready = true → s.handler.advertisedAvcDisabled = true →
        s.handler.avc420Enabled = false ∧ s.handler.avc444Enabled = false) ∧
      (s.handler.forceAvc420Only = true → s.handler.avc444Enabled = false) ∧
      (s.handler.hasSurface = true → s.handler.primarySurfaceId ∈ s.live) := by
  obtain ⟨⟨hready, h420, h444, hplanar, hsurf, hprim⟩, hc444, hcplanar, hcforced, hcsurface⟩ := h
  rw [h444, h420] at hc444
  rw [hready, hplanar, h420, h444] at hcplanar
  rw [h444] at hcforced
  refine ⟨hc444, hcplanar, hcforced, fun hs => ?_⟩
  have hs' : s.shared.hasSurface = true := hsurf.trans hs
  rw [← hprim hs']
  exact hcsurface hs'

/-- The exchange starts over: whatever there was, the handler ends consistent. -/
theorem consistent_negotiate {s : Channel} (h : s.Consistent) (exchange : CapabilityExchange) :
    (s.step (.negotiate exchange)).Consistent := by
  obtain ⟨-, -, -, hsurface⟩ := h.handler
  have hadv : ∃ h' : LamcoGraphicsHandler,
      (s.handler.capabilitiesAdvertise exchange.pdu).1 = h' ∧
      (h'.hasSurface = true →
        h'.primarySurfaceId ∈ if s.handler.ready then [] else s.live) := by
    refine ⟨_, rfl, ?_⟩
    unfold LamcoGraphicsHandler.capabilitiesAdvertise
    rcases s.handler.ready with - | -
    · exact hsurface
    · exact fun hno => Bool.noConfusion hno
  obtain ⟨h', hh', hlive⟩ := hadv
  obtain ⟨h444, hplanar, hforced⟩ := onReady_support h' exchange.negotiated
  have hstep : s.step (.negotiate exchange)
      = { (s.called (s.handler.capabilitiesAdvertise exchange.pdu)).called
            ((h'.onReady exchange.negotiated).1,
              (h'.onReady exchange.negotiated).1.syncSharedState) with
          live := if s.handler.ready then [] else s.live } := by
    subst hh'
    rfl
  rw [hstep]
  exact .of_sync h444 (fun _ => hplanar) hforced hlive

theorem consistent_surfaceCreated {s : Channel} (h : s.Consistent) (surfaceId : ℕ) :
    (s.step (.surfaceCreated surfaceId)).Consistent := by
  obtain ⟨h444, hplanar, hforced, hsurface⟩ := h.handler
  by_cases hs : s.handler.hasSurface = true
  · -- it is not the first: nothing changes
    have hstep : s.step (.surfaceCreated surfaceId) = { s with live := surfaceId :: s.live } := by
      simp only [step, LamcoGraphicsHandler.onSurfaceCreated, hs, if_true]
      rfl
    rw [hstep]
    exact ⟨h.synced, h.avc444, h.planar, h.forced,
      fun hshown => List.mem_cons_of_mem _ (h.surface hshown)⟩
  · have hstep : s.step (.surfaceCreated surfaceId)
        = { s.called ({ s.handler with primarySurfaceId := surfaceId, hasSurface := true },
              { s.handler with
                primarySurfaceId := surfaceId, hasSurface := true }.syncSharedState) with
            live := surfaceId :: s.live } := by
      simp only [step, LamcoGraphicsHandler.onSurfaceCreated, if_neg hs]
    rw [hstep]
    exact .of_sync h444 hplanar hforced fun _ => List.mem_cons_self

theorem consistent_surfaceDeleted {s : Channel} (h : s.Consistent) (surfaceId : ℕ) :
    (s.step (.surfaceDeleted surfaceId)).Consistent := by
  obtain ⟨h444, hplanar, hforced, hsurface⟩ := h.handler
  by_cases hs : s.handler.hasSurface = true ∧ s.handler.primarySurfaceId = surfaceId
  · have hstep : s.step (.surfaceDeleted surfaceId)
        = { s.called ({ s.handler with hasSurface := false },
              { s.handler with hasSurface := false }.syncSharedState) with
            live := s.live.filter (· ≠ surfaceId) } := by
      simp only [step, LamcoGraphicsHandler.onSurfaceDeleted, if_pos hs]
    rw [hstep]
    exact .of_sync h444 hplanar hforced fun hno => Bool.noConfusion hno
  · have hstep : s.step (.surfaceDeleted surfaceId)
        = { s with live := s.live.filter (· ≠ surfaceId) } := by
      simp only [step, LamcoGraphicsHandler.onSurfaceDeleted, if_neg hs]
      rfl
    rw [hstep]
    refine ⟨h.synced, h.avc444, h.planar, h.forced, fun hshown => ?_⟩
    -- the primary surface is another one
    have hprim := h.synced.primarySurfaceId hshown
    refine List.mem_filter.mpr ⟨h.surface hshown, decide_eq_true ?_⟩
    intro heq
    exact hs ⟨h.synced.hasSurface.symm.trans hshown, hprim.symm.trans heq⟩

/-- Closing the channel: AVC444 stays on without AVC420. -/
theorem consistent_close_iff {s : Channel} (h : s.Consistent) :
    (s.step .close).Consistent ↔ s.handler.avc444Enabled = false := by
  obtain ⟨-, -, hforced, -⟩ := h.handler
  constructor
  · intro hclosed
    have h444 := hclosed.avc444
    by_contra hon
    exact Bool.noConfusion (h444 (Bool.eq_true_of_not_eq_false hon))
  · intro hoff
    have h444 : s.handler.avc444Enabled = true → false = true :=
      fun hon => absurd (hoff.symm.trans hon) Bool.false_ne_true
    exact .of_sync h444 (fun hno => Bool.noConfusion hno) hforced fun hno => Bool.noConfusion hno

/-- **One callback** keeps the shared state consistent, unless it closes a channel
with AVC444. -/
theorem step_consistent_iff {s : Channel} (h : s.Consistent) (e : ChannelEvent) :
    (s.step e).Consistent ↔ s.ClosesWithoutAvc444 e := by
  cases e with
  | negotiate exchange => exact iff_of_true (consistent_negotiate h exchange) trivial
  | surfaceCreated surfaceId => exact iff_of_true (consistent_surfaceCreated h surfaceId) trivial
  | surfaceDeleted surfaceId => exact iff_of_true (consistent_surfaceDeleted h surfaceId) trivial
  | frameAck frameId queueDepth totalFramesDecoded clock =>
      refine iff_of_true ?_ trivial
      obtain ⟨⟨hready, h420, h444, hplanar, hsurf, hprim⟩, hrest⟩ := h
      exact ⟨⟨hready, h420, h444, hplanar, hsurf, hprim⟩, ‹_›, ‹_›, ‹_›, ‹_›⟩
  | close => exact consistent_close_iff h

end Channel

/-- **The negotiated state is consistent** after every callback of a run exactly if
the channel is never closed with AVC444 on. -/
theorem negotiation_consistent_iff (forceAvc420Only : Bool) (maxFramesInFlight : ℕ)
    (shared : SharedHandlerState) (es : List ChannelEvent)
    (hfresh : Channel.Synced (.withConfig forceAvc420Only maxFramesInFlight) shared) :
    (∀ n, (after Channel.step (.attach forceAvc420Only maxFramesInFlight shared)
        es n).Consistent) ↔
      ∀ n e, es[n]? = some e → (after Channel.step
        (.attach forceAvc420Only maxFramesInFlight shared) es n).ClosesWithoutAvc444 e := by
  refine after_invariant_iff (P := Channel.Consistent) ?_
    (fun s e h => Channel.step_consistent_iff h e) es
  have h444 : shared.isAvc444Enabled = false := hfresh.isAvc444Enabled
  have hready : shared.isReady = false := hfresh.isReady
  have hsurface : shared.hasSurface = false := hfresh.hasSurface
  refine ⟨hfresh, fun hon => ?_, fun hon => ?_, fun _ => h444, fun hon => ?_⟩
  · exact absurd (h444.symm.trans hon) Bool.false_ne_true
  · exact absurd (hready.symm.trans hon) Bool.false_ne_true
  · exact absurd (hsurface.symm.trans hon) Bool.false_ne_true

/-- A client that takes AVC444. -/
def avc444Exchange : CapabilityExchange := ⟨[some (.v10_7 false)], .v10_7 false, by decide⟩

/-- A client that takes AVC420 only. -/
def avc420Exchange : CapabilityExchange := ⟨[some (.v8_1 true)], .v8_1 true, by decide⟩

/-- Negotiate AVC444, then close: AVC444 is left on, AVC420 off. -/
theorem close_leaves_avc444 :
    (after Channel.step (.attach false 3 .new) [.negotiate avc444Exchange, .close]
        2).shared.isAvc444Enabled = true ∧
      (after Channel.step (.attach false 3 .new) [.negotiate avc444Exchange, .close]
        2).shared.clientSupportsAvc420 = false ∧
      ¬ (after Channel.step (.attach false 3 .new) [.negotiate avc444Exchange, .close]
        2).Consistent := by
  refine ⟨rfl, rfl, fun h => ?_⟩
  exact Bool.noConfusion (h.avc444 rfl)

/-- With AVC420 alone, a session is consistent to its end. -/
theorem negotiation_consistent_iff_avc420 :
    Channel.Synced (.withConfig false 3) .new ∧
      ∀ n, (after Channel.step (.attach false 3 .new)
        [.negotiate avc420Exchange, .surfaceCreated 1, .close] n).Consistent := by
  have hfresh : Channel.Synced (.withConfig false 3) .new :=
    ⟨rfl, rfl, rfl, rfl, rfl, fun _ => rfl⟩
  refine ⟨hfresh, (negotiation_consistent_iff false 3 .new _ hfresh).mpr ?_⟩
  intro n e he
  match n, he with
  | 0, he => exact (Option.some.inj he) ▸ trivial
  | 1, he => exact (Option.some.inj he) ▸ trivial
  | 2, he => exact (Option.some.inj he) ▸ rfl
  | _ + 3, he => cases he

end LamcoRdp
