/-
LamcoRdp/Egfx/Handler.lean

The EGFX channel callbacks (`egfx/handler.rs`) and the state they share with
the display loop (`server/gfx_factory.rs`).

`LamcoGraphicsHandler` keeps its own copy of the negotiated state and copies it
to the shared atomics.  A callback is modelled as the new local state together
with the stores it makes to the shared state, a function
`SharedHandlerState → SharedHandlerState`; a handler without a shared state
attached drops the stores.  Flags of a capability set are reduced to the one bit
the callbacks read.
-/
import LamcoRdp.Egfx.FlowController

namespace LamcoRdp

/-! ### Capability sets -/

/-- `CapabilitySet`: the versions the callbacks tell apart.  `avcDisabled` and
`avc420Enabled` are the `AVC_DISABLED` and `AVC420_ENABLED` bits. -/
inductive CapabilitySet
  | v8
  | v8_1 (avc420Enabled : Bool)
  | v10 (avcDisabled : Bool)
  | v10_1
  | v10_2 (avcDisabled : Bool)
  | v10_3 (avcDisabled : Bool)
  | v10_4 (avcDisabled : Bool)
  | v10_5 (avcDisabled : Bool)
  | v10_6 (avcDisabled : Bool)
  | v10_7 (avcDisabled : Bool)
  | unknown
  deriving DecidableEq, Repr

/-- The capability explicitly disables AVC (the `match` of
`capabilities_advertise`). -/
def CapabilitySet.avcDisabled : CapabilitySet → Bool
  | .v10 d | .v10_2 d | .v10_3 d | .v10_4 d | .v10_5 d | .v10_6 d | .v10_7 d => d
  | .v8 | .v8_1 _ | .v10_1 | .unknown => false

/-- The pair `(avc420, avc444)` of `on_ready`. -/
def CapabilitySet.avcSupport : CapabilitySet → Bool × Bool
  | .v8_1 enabled => (enabled, false)
  | .v10 d | .v10_2 d | .v10_3 d | .v10_4 d | .v10_5 d | .v10_6 d | .v10_7 d => (!d, !d)
  | .v10_1 => (true, true)
  | .v8 | .unknown => (false, false)

/-! ### Shared state -/

/-- `SharedHandlerState`: the atomics and the flow controller behind its mutex. -/
structure SharedHandlerState where
  isReady : Bool
  clientSupportsAvc420 : Bool
  clientRequiresPlanar : Bool
  isAvc444Enabled : Bool
  hasSurface : Bool
  primarySurfaceId : ℕ
  needsFullReinit : Bool
  lastTotalFramesDecoded : ℕ
  lastClientQueueDepth : ℕ
  flowController : FlowController
  deriving DecidableEq, Repr

/-- `SharedHandlerState::new`. -/
def SharedHandlerState.new : SharedHandlerState where
  isReady := false
  clientSupportsAvc420 := false
  clientRequiresPlanar := false
  isAvc444Enabled := false
  hasSurface := false
  primarySurfaceId := 0
  needsFullReinit := false
  lastTotalFramesDecoded := 0
  lastClientQueueDepth := 0
  flowController := .new .default

/-- `SharedHandlerState::reset`. -/
def SharedHandlerState.reset (shared : SharedHandlerState) : SharedHandlerState where
  isReady := false
  clientSupportsAvc420 := false
  clientRequiresPlanar := false
  isAvc444Enabled := false
  hasSurface := false
  primarySurfaceId := 0
  needsFullReinit := false
  lastTotalFramesDecoded := 0
  lastClientQueueDepth := 0
  flowController := shared.flowController.clearAllUnacked

/-! ### The handler -/

/-- `LamcoGraphicsHandler`, the fields its callbacks read and write. -/
structure LamcoGraphicsHandler where
  avc420Enabled : Bool
  avc444Enabled : Bool
  ready : Bool
  hasSurface : Bool
  advertisedAvcDisabled : Bool
  primarySurfaceId : ℕ
  negotiatedCaps : Option CapabilitySet
  forceAvc420Only : Bool
  maxFramesInFlight : ℕ
  deriving DecidableEq, Repr

namespace LamcoGraphicsHandler

/-- `LamcoGraphicsHandler::with_config`. -/
def withConfig (forceAvc420Only : Bool) (maxFramesInFlight : ℕ) : LamcoGraphicsHandler where
  avc420Enabled := false
  avc444Enabled := false
  ready := false
  hasSurface := false
  advertisedAvcDisabled := false
  primarySurfaceId := 0
  negotiatedCaps := none
  forceAvc420Only := forceAvc420Only
  maxFramesInFlight := maxFramesInFlight

/-- The stores of one callback to the shared state. -/
abbrev Stores := SharedHandlerState → SharedHandlerState

/-- `sync_shared_state`. -/
def syncSharedState (h : LamcoGraphicsHandler) : Stores := fun shared =>
  { shared with
    isReady := h.ready
    clientSupportsAvc420 := h.avc420Enabled
    clientRequiresPlanar := h.advertisedAvcDisabled
    isAvc444Enabled := h.avc444Enabled
    hasSurface := h.hasSurface
    primarySurfaceId := h.primarySurfaceId }

/-- `capabilities_advertise`.  An entry of the PDU that does not parse, or
parses to no known set, is `none`. -/
def capabilitiesAdvertise (h : LamcoGraphicsHandler) (pdu : List (Option CapabilitySet)) :
    LamcoGraphicsHandler × Stores :=
  let avcDisabled := (pdu.filterMap id).any CapabilitySet.avcDisabled
  let h := { h with advertisedAvcDisabled := avcDisabled }
  if h.ready then
    -- decoder recovery: forget the surface and ask the display loop to re-init
    ({ h with hasSurface := false, primarySurfaceId := 0 },
      fun shared =>
        { shared with needsFullReinit := true, hasSurface := false, primarySurfaceId := 0 })
  else (h, id)

/-- `on_ready`. -/
def onReady (h : LamcoGraphicsHandler) (negotiated : CapabilitySet) :
    LamcoGraphicsHandler × Stores :=
  let (avc420, avc444) :=
    if h.advertisedAvcDisabled then (false, false) else negotiated.avcSupport
  let effectiveAvc444 := if h.forceAvc420Only && avc444 then false else avc444
  let h := { h with
    negotiatedCaps := some negotiated
    avc420Enabled := avc420
    avc444Enabled := effectiveAvc444
    ready := true }
  (h, h.syncSharedState)

/-- `on_frame_ack`. -/
def onFrameAck (h : LamcoGraphicsHandler) (frameId queueDepth totalFramesDecoded : ℕ)
    (clock : Clock) : LamcoGraphicsHandler × Stores :=
  (h, fun shared =>
    { shared with
      lastTotalFramesDecoded := totalFramesDecoded
      lastClientQueueDepth := queueDepth
      flowController := shared.flowController.ackFrame frameId clock })

/-- `on_surface_created`: the first surface becomes the primary one. -/
def onSurfaceCreated (h : LamcoGraphicsHandler) (surfaceId : ℕ) :
    LamcoGraphicsHandler × Stores :=
  if h.hasSurface then (h, id)
  else
    let h := { h with primarySurfaceId := surfaceId, hasSurface := true }
    (h, h.syncSharedState)

/-- `on_surface_deleted`. -/
def onSurfaceDeleted (h : LamcoGraphicsHandler) (surfaceId : ℕ) :
    LamcoGraphicsHandler × Stores :=
  if h.hasSurface ∧ h.primarySurfaceId = surfaceId then
    let h := { h with hasSurface := false }
    (h, h.syncSharedState)
  else (h, id)

/-- `on_close`.  `avc444_enabled` is left as it was. -/
def onClose (h : LamcoGraphicsHandler) : LamcoGraphicsHandler × Stores :=
  let h := { h with ready := false, avc420Enabled := false, hasSurface := false }
  (h, h.syncSharedState)

end LamcoGraphicsHandler

/-! ### Callbacks as one type -/

/-- The callbacks of the channel, apart from the acknowledgement. -/
inductive Callback
  | capabilitiesAdvertise (pdu : List (Option CapabilitySet))
  | onReady (negotiated : CapabilitySet)
  | onSurfaceCreated (surfaceId : ℕ)
  | onSurfaceDeleted (surfaceId : ℕ)
  | onClose
  deriving DecidableEq, Repr

/-- A callback of the graphics channel, with what it stores in the shared state. -/
def LamcoGraphicsHandler.call (h : LamcoGraphicsHandler) :
    Callback → LamcoGraphicsHandler × LamcoGraphicsHandler.Stores
  | .capabilitiesAdvertise pdu => h.capabilitiesAdvertise pdu
  | .onReady negotiated => h.onReady negotiated
  | .onSurfaceCreated surfaceId => h.onSurfaceCreated surfaceId
  | .onSurfaceDeleted surfaceId => h.onSurfaceDeleted surfaceId
  | .onClose => h.onClose

/-- A second capability exchange on a ready channel. -/
def Callback.readvertises (h : LamcoGraphicsHandler) : Callback → Bool
  | .capabilitiesAdvertise _ => h.ready
  | _ => false

/-- No callback but the acknowledgement touches the flow controller. -/
theorem LamcoGraphicsHandler.call_flowController (h : LamcoGraphicsHandler) (cb : Callback)
    (shared : SharedHandlerState) :
    ((h.call cb).2 shared).flowController = shared.flowController := by
  cases cb with
  | capabilitiesAdvertise pdu =>
      simp only [call, capabilitiesAdvertise]
      split <;> rfl
  | onReady negotiated => rfl
  | onSurfaceCreated surfaceId =>
      simp only [call, onSurfaceCreated]
      split <;> rfl
  | onSurfaceDeleted surfaceId =>
      simp only [call, onSurfaceDeleted]
      split <;> rfl
  | onClose => rfl

/-- The re-init flag is raised by a re-advertise and by nothing else. -/
theorem LamcoGraphicsHandler.call_needsFullReinit (h : LamcoGraphicsHandler) (cb : Callback)
    (shared : SharedHandlerState) :
    ((h.call cb).2 shared).needsFullReinit
      = (cb.readvertises h || shared.needsFullReinit) := by
  cases cb with
  | capabilitiesAdvertise pdu =>
      simp only [call, capabilitiesAdvertise, Callback.readvertises]
      cases hr : h.ready <;> simp
  | onReady negotiated => rfl
  | onSurfaceCreated surfaceId =>
      simp only [call, onSurfaceCreated]
      split <;> rfl
  | onSurfaceDeleted surfaceId =>
      simp only [call, onSurfaceDeleted]
      split <;> rfl
  | onClose => rfl

end LamcoRdp
