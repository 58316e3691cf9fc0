/-
LamcoRdp/Server/Pipeline.lean

One iteration of the display loop (`start_pipeline` in
`server/display_handler.rs`, with `server/pipeline_decisions.rs`).

`Pipeline` holds the variables of the loop that decide what becomes of a frame,
and the two flags other threads raise (`egfxNeedsInit`, `needsFullReinit`).
`Iteration` holds everything one iteration reads or is answered: the frame from
capture, the channel state at each point where it is read, the decisions that
depend on time or on floating point (pacing, the gate timeout, the stress
detector, the latency governor), and what encoder and transport answer.

`iterate` gives the state after the iteration and where it ended, its `Exit`.
Logging, health reports and statistics are left out; a frame that no graphics
path takes is left to the FastPath bitmap path (`Exit.bitmap`).
-/
import LamcoRdp.Server.EgfxSender

namespace LamcoRdp

/-! ### Decisions -/

/-- `EncodingDecision`. -/
inductive EncodingDecision
  | encodeNow | encodeKeepalive | encodeBatch | encodeTimeout | skip | waitForMore
  deriving DecidableEq, Repr

/-- `should_encode`. -/
def EncodingDecision.shouldEncode : EncodingDecision → Bool
  | .encodeNow | .encodeKeepalive | .encodeBatch | .encodeTimeout => true
  | .skip | .waitForMore => false

/-- `[egfx] codec`, lower case; anything unknown counts as `auto`. -/
inductive CodecPreference
  | auto | avc420 | avc444
  deriving DecidableEq, Repr

/-- `resolve_avc444_enabled`, less the text it logs. -/
def resolveAvc444Enabled (codecPref : CodecPreference)
    (clientSupportsAvc444 configAvc444Enabled : Bool) : Bool :=
  match codecPref with
  | .avc420 => false
  | .avc444 => clientSupportsAvc444 && configAvc444Enabled
  | .auto => configAvc444Enabled && clientSupportsAvc444

/-- `compute_timestamp_ms`. -/
def computeTimestampMs (pts framesSent targetFps : ℕ) : ℕ :=
  if pts > 0 then pts / 1000000
  else framesSent * (1000 / max targetFps 1)

/-! ### State, inputs, exits -/

/-- The configuration, as far as the loop reads it. -/
structure PipelineConfig where
  frameTransform : FrameTransformConfig
  targetFps : ℕ
  codec : CodecPreference
  avc444Enabled : Bool
  avc444EnableAuxOmission : Bool
  avc444MaxAuxInterval : ℕ
  avc444ForceAuxIdrOnReturn : Bool
  periodicIdrInterval : ℕ
  /-- the matrix of `ColorSpaceConfig::from_config` for the aligned sides -/
  colorMatrix : ℕ → ℕ → ColorMatrix

/-- The variables of the loop. -/
structure Pipeline where
  framesSent : ℕ
  framesDropped : ℕ
  framesPaced : ℕ
  egfxFramesSent : ℕ
  framesSkippedDamage : ℕ
  videoEncoder : Option VideoEncoder
  /-- `egfx_sender.is_some()` -/
  egfxSender : Bool
  /-- `planar_encoder.is_some()` -/
  planarEncoder : Bool
  forceFirstFrame : Bool
  cachedFrame : Option VideoFrame
  /-- `damage_detector_opt`: present when damage tracking is enabled -/
  damageDetector : Option DamageDetector
  firstFrameReceived : Bool
  egfxGateBypassed : Bool
  wasClientActive : Bool
  pendingResize : Bool
  /-- how many surfaces have been set up so far -/
  surfacesCreated : ℕ
  /-- shared: set for a new client, cleared when the surface is set up -/
  egfxNeedsInit : Bool
  /-- shared: set when the client advertises its capabilities again -/
  needsFullReinit : Bool

/-- The points of an iteration at which `is_egfx_ready` is asked. -/
inductive EgfxCheck
  | replay | gate | setup | planar | fallback
  deriving DecidableEq, Repr

/-- What an iteration of the loop finds. -/
structure Iteration where
  /-- a resize request was waiting; whether the stream was created anew for it -/
  resize : Option Bool
  /-- `try_recv_frame` -/
  received : Option VideoFrame
  clientActive : Bool
  isEgfxReady : EgfxCheck → Bool
  /-- `should_capture_frame` or `should_send_frame` -/
  shouldProcess : Bool
  /-- more than `egfx_timeout` since the session start -/
  gateTimedOut : Bool
  /-- the stress detector asks for an IDR -/
  stressTriggers : Bool
  /-- the auxiliary interval the stress detector sets -/
  stressAuxInterval : Option ℕ
  isAvcSupported : Bool
  isPlanarRequired : Bool
  clientSupportsAvc444 : Bool
  /-- `Avc444Encoder::new` and `Avc420Encoder::new` succeed -/
  avc444Created : Bool
  avc420Created : Bool
  /-- `setup_egfx_surface` returns a sender -/
  surfaceCreated : Bool
  /-- nanoseconds of the monotonic clock -/
  now : ℕ
  backpressured : Bool
  /-- `recover_stale_planar_acknowledgements` -/
  recovered : ℕ
  throttle : Bool
  shouldLogTelemetry : Bool
  encodingDecision : EncodingDecision
  main : H264Answer
  aux : H264Answer
  /-- the negotiated state when the send reads it -/
  shared : SharedHandlerState
  transport : Transport

/-- What a frame changes on the client: inside the regions the pixels of a
picture that lies at `left`, `top` and whose rows start `stride` bytes apart. -/
structure ScreenUpdate where
  regions : List DamageRegion
  left : ℕ
  top : ℕ
  stride : ℕ
  pixels : List UInt8
  deriving DecidableEq, Repr

/-- Where an iteration ended. -/
inductive Exit
  | panicked
  | resizing
  | clientInactive
  /-- no frame, and none to replay -/
  | waiting
  | paced
  /-- a DMA-BUF frame, which the software paths skip -/
  | dmaBuf
  | gated
  | backpressured
  | throttled
  | invalidFrame
  | governorSkipped
  | governorWaits
  | noDamage
  | encodeFailed (e : EncoderError)
  | encodeSkipped
  | sendFailed (e : SendError)
  | sent (frameId : ℕ) (update : ScreenUpdate)
  /-- left to the FastPath bitmap path -/
  | bitmap
  deriving DecidableEq, Repr

namespace Pipeline

/-- The variables at the start of the task. -/
def start (detector : Option DamageDetector) : Pipeline where
  framesSent := 0
  framesDropped := 0
  framesPaced := 0
  egfxFramesSent := 0
  framesSkippedDamage := 0
  videoEncoder := none
  egfxSender := false
  planarEncoder := false
  forceFirstFrame := false
  cachedFrame := none
  damageDetector := detector
  firstFrameReceived := false
  egfxGateBypassed := false
  wasClientActive := false
  pendingResize := false
  surfacesCreated := 0
  egfxNeedsInit := true
  needsFullReinit := false

/-- A surface has been set up for the client. -/
def surfaceReady (p : Pipeline) : Pipeline :=
  { p with
    egfxSender := true
    egfxNeedsInit := false
    forceFirstFrame := true
    surfacesCreated := p.surfacesCreated + 1 }

/-- A frame is dropped and counted. -/
def dropFrame (p : Pipeline) : Pipeline := { p with framesDropped := p.framesDropped + 1 }

/-- `detector.invalidate()`, where there is a detector. -/
def invalidateDetector (p : Pipeline) : Pipeline :=
  { p with damageDetector := p.damageDetector.map DamageDetector.invalidate }

/-- The stream was created anew for a resize. -/
def resizeStream (p : Pipeline) : Pipeline :=
  { p with
    pendingResize := true
    videoEncoder := none
    egfxSender := false
    planarEncoder := false
    forceFirstFrame := false }.invalidateDetector

/-- The per-connection state, reset when a client is first seen. -/
def resetForClient (p : Pipeline) : Pipeline :=
  { p with
    wasClientActive := true
    egfxGateBypassed := false
    firstFrameReceived := false
    framesSent := 0
    framesDropped := 0
    framesPaced := 0
    egfxFramesSent := 0
    videoEncoder := none
    egfxSender := false
    planarEncoder := false
    egfxNeedsInit := true }

/-- The frame this iteration works on: the one from capture, or the cached one
while the graphics channel waits for its first. -/
def acquireFrame (p : Pipeline) (i : Iteration) : Pipeline × Except Exit VideoFrame :=
  match i.received with
  | some f =>
      let p := { p with cachedFrame := some f, firstFrameReceived := true }
      -- a deferred resize is finished with the sides of the first frame
      let p := if p.pendingResize then { p with pendingResize := false, egfxNeedsInit := true }
        else p
      if !i.clientActive then ({ p with wasClientActive := false }, .error .clientInactive)
      else (if !p.wasClientActive then p.resetForClient else p, .ok f)
  | none =>
      let p :=
        if !i.clientActive then { p with wasClientActive := false }
        else if !p.wasClientActive then p.resetForClient else p
      if i.clientActive && p.egfxNeedsInit && i.isEgfxReady .replay then
        match p.cachedFrame with
        | some f => (p, .ok f)
        | none => (p, .error .waiting)
      else (p, .error .waiting)

/-- The orientation step. -/
def orient (cfg : PipelineConfig) (frame : VideoFrame) : Except Exit VideoFrame :=
  let transformValue := frame.transformValue cfg.frameTransform
  if transformValue = 0 then .ok frame
  else
    match frame.buffer with
    | .dmaBuf => .error .dmaBuf
    | .memory data =>
        match applyFrameTransform data frame.width frame.height frame.stride transformValue 4 with
        | none => .error .panicked
        | some (data, width, height, stride) =>
            .ok { frame with
              buffer := .memory data, width := width, height := height, stride := stride }

/-- The stress detector's effect on the encoder. -/
def applyStress (p : Pipeline) (i : Iteration) : Pipeline :=
  let p := if i.stressTriggers then
      { p with videoEncoder := p.videoEncoder.map VideoEncoder.requestIdr } else p
  match p.videoEncoder, i.stressAuxInterval with
  | some (.avc444 e), some interval =>
      { p with videoEncoder := some (.avc444 (e.setAuxMaxInterval interval).1) }
  | _, _ => p

/-! ### The AVC branch -/

/-- The encoder made for a fresh client. -/
def createEncoder (cfg : PipelineConfig) (frame : VideoFrame) (i : Iteration) :
    Option VideoEncoder :=
  let avc420 :=
    if i.avc420Created then
      some (.avc420 ((Avc420Encoder.new i.now).configurePeriodicIdr cfg.periodicIdrInterval i.now))
    else none
  if resolveAvc444Enabled cfg.codec i.clientSupportsAvc444 cfg.avc444Enabled then
    if i.avc444Created then
      let matrix := cfg.colorMatrix (alignTo16 frame.width % 2 ^ 16)
        (alignTo16 frame.height % 2 ^ 16)
      some (.avc444 (((Avc444Encoder.new matrix i.now).configureAuxOmission
        cfg.avc444EnableAuxOmission cfg.avc444MaxAuxInterval
        cfg.avc444ForceAuxIdrOnReturn).configurePeriodicIdr cfg.periodicIdrInterval i.now))
    else avc420
  else avc420

/-- Fresh encoder and surface. -/
def initAvc (cfg : PipelineConfig) (p : Pipeline) (frame : VideoFrame) (i : Iteration) :
    Pipeline :=
  let p := { p with
    videoEncoder := createEncoder cfg frame i
    egfxSender := false
    planarEncoder := false }.invalidateDetector
  if i.surfaceCreated then p.surfaceReady else p

/-- The damage of a frame, and the detector after finding it; `none` is the
failed length assertion. -/
def selectDamage (detector : Option DamageDetector) (frame : VideoFrame)
    (pixelData : List UInt8) (forceFullFrame shouldLogTelemetry : Bool) :
    Option (Option DamageDetector × List DamageRegion) :=
  if forceFullFrame then
    some (detector, [DamageRegion.fullFrame frame.width frame.height])
  else if frame.damageRegions ≠ [] then
    match detector with
    | none => some (none, frame.damageRegions)
    | some d =>
        if shouldLogTelemetry then
          (d.detect pixelData frame.width frame.height).map fun r =>
            (some r.1, frame.damageRegions)
        else some (some (d.updateReference pixelData), frame.damageRegions)
  else
    match detector with
    | none => some (none, [DamageRegion.fullFrame frame.width frame.height])
    | some d =>
        (d.detect pixelData frame.width frame.height).map fun r => (some r.1, r.2)

/-- The frame as the encoder gets it, with sides that are multiples of 16. -/
def alignFrame (frame : VideoFrame) (pixelData : List UInt8) : Option (List UInt8) :=
  let alignedWidth := alignTo16 frame.width
  let alignedHeight := alignTo16 frame.height
  if alignedWidth ≠ frame.width ∨ alignedHeight ≠ frame.height then
    padFrameToAligned pixelData frame.width frame.height alignedWidth alignedHeight
  else some pixelData

/-- The encode call for a frame. -/
def encodeCall (cfg : PipelineConfig) (p : Pipeline) (frame : VideoFrame)
    (frameData : List UInt8) (i : Iteration) : EncodeCall where
  bgraData := frameData
  width := alignTo16 frame.width
  height := alignTo16 frame.height
  timestampMs := computeTimestampMs frame.pts p.framesSent cfg.targetFps
  now := i.now
  main := i.main
  aux := i.aux

/-- Encode and send. -/
def encodeAndSend (platform : Platform) (cfg : PipelineConfig) (p : Pipeline)
    (enc : VideoEncoder) (frame : VideoFrame) (pixelData : List UInt8)
    (damageRegions : List DamageRegion) (i : Iteration) : Pipeline × Exit :=
  match alignFrame frame pixelData with
  | none => (p, .panicked)
  | some frameData =>
      let (enc, result) := enc.encodeBgra platform (encodeCall cfg p frame frameData i)
      let p := { p with videoEncoder := some enc }
      match result with
      | .panicked => (p, .panicked)
      | .err e => (p.dropFrame, .encodeFailed e)
      | .skipped => (p.dropFrame, .encodeSkipped)
      | .frame encoded =>
          match encoded.send i.shared i.transport with
          | .error e => (p.dropFrame, .sendFailed e)
          | .ok frameId =>
              ({ p with egfxFramesSent := p.egfxFramesSent + 1 },
                .sent frameId
                  { regions := damageRegions
                    left := 0
                    top := 0
                    stride := alignTo16 frame.width * 4
                    pixels := frameData })

/-- A frame whose damage is known: the latency governor and the empty-damage
skip, then the encode. -/
def processDamage (platform : Platform) (cfg : PipelineConfig) (p : Pipeline)
    (enc : VideoEncoder) (frame : VideoFrame) (pixelData : List UInt8) (forceFullFrame : Bool)
    (damageRegions : List DamageRegion) (i : Iteration) : Pipeline × Exit :=
  if !forceFullFrame && i.encodingDecision = .skip then (p.dropFrame, .governorSkipped)
  else if !forceFullFrame && i.encodingDecision = .waitForMore then (p, .governorWaits)
  else if damageRegions = [] then
    ({ p with framesSkippedDamage := p.framesSkippedDamage + 1 }, .noDamage)
  else encodeAndSend platform cfg p enc frame pixelData damageRegions i

/-- The frame goes to the H.264 encoder. -/
def avcFrame (platform : Platform) (cfg : PipelineConfig) (p : Pipeline) (enc : VideoEncoder)
    (frame : VideoFrame) (i : Iteration) : Pipeline × Exit :=
  if i.backpressured then (p.dropFrame, .backpressured)
  else if i.throttle then (p.dropFrame, .throttled)
  else
    match frame.buffer with
    | .dmaBuf => (p.dropFrame, .dmaBuf)
    | .memory pixelData =>
        if pixelData.length < wrapU32 (frame.width * frame.height * 4) then
          (p.dropFrame, .invalidFrame)
        else
          let forceFullFrame := enc.isPeriodicIdrDue i.now || p.forceFirstFrame
          let p := { p with forceFirstFrame := false }
          match selectDamage p.damageDetector frame pixelData forceFullFrame
            i.shouldLogTelemetry with
          | none => (p, .panicked)
          | some (detector, damageRegions) =>
              processDamage platform cfg { p with damageDetector := detector } enc frame pixelData
                forceFullFrame damageRegions i

/-- The frame is sent as it is. -/
def uncompressedFrame (p : Pipeline) (frame : VideoFrame) (i : Iteration) : Pipeline × Exit :=
  match frame.buffer with
  | .dmaBuf => (p.dropFrame, .dmaBuf)
  | .memory pixelBytes =>
      match sendUncompressedFrame i.shared i.transport with
      | .error e => (p.dropFrame, .sendFailed e)
      | .ok frameId =>
          ({ p with egfxFramesSent := p.egfxFramesSent + 1, firstFrameReceived := true },
            .sent frameId
              { regions := [DamageRegion.fullFrame frame.width frame.height]
                left := 0
                top := 0
                stride := frame.width * 4
                pixels := pixelBytes })

/-- The branch for clients that take H.264. -/
def avcBranch (platform : Platform) (cfg : PipelineConfig) (p : Pipeline) (needsInit : Bool)
    (frame : VideoFrame) (i : Iteration) : Pipeline × Exit :=
  let p := if needsInit then initAvc cfg p frame i else p
  match p.videoEncoder, p.egfxSender with
  | some enc, true => avcFrame platform cfg p enc frame i
  | none, true => uncompressedFrame p frame i
  | _, false => (p, .bitmap)

/-! ### The other branches -/

/-- Fresh surface for the Planar path. -/
def initPlanar (p : Pipeline) (i : Iteration) : Pipeline :=
  let p := { p with
    videoEncoder := none
    egfxSender := false
    planarEncoder := false }.invalidateDetector
  if i.surfaceCreated then { p.surfaceReady with planarEncoder := true } else p

/-- The damage of a tight frame in the Planar path. -/
def planarDamage (detector : Option DamageDetector) (frame : VideoFrame) (tight : List UInt8) :
    Option (Option DamageDetector × List DamageRegion) :=
  match detector with
  | some d => (d.detect tight frame.width frame.height).map fun r => (some r.1, r.2)
  | none =>
      if frame.damageRegions ≠ [] then some (none, frame.damageRegions)
      else some (none, [DamageRegion.fullFrame frame.width frame.height])

/-- Cut out and send the rectangle around the damage. -/
def sendDamage (p : Pipeline) (tight : List UInt8) (rowBytes : ℕ) (damage : DamageRegion)
    (i : Iteration) : Pipeline × Exit :=
  match compactBgraRegion tight rowBytes damage with
  | none => (p.dropFrame, .invalidFrame)
  | some compact =>
      if damage.x ≥ 2 ^ 16 ∨ damage.y ≥ 2 ^ 16 ∨ damage.width ≥ 2 ^ 16 ∨ damage.height ≥ 2 ^ 16 then
        (p.dropFrame, .invalidFrame)
      else if damage.width = 0 ∨ damage.height = 0 then (p.dropFrame, .invalidFrame)
      else
        match sendPlanarFrame i.shared i.transport
            { x := damage.x
              y := damage.y
              width := damage.width
              height := damage.height
              data := compact
              stride := damage.width * 4 } with
        | .panicked => (p, .panicked)
        | .err e => (p.invalidateDetector.dropFrame, .sendFailed e)
        | .ok frameId pixels =>
            ({ p with egfxFramesSent := p.egfxFramesSent + 1, firstFrameReceived := true },
              .sent frameId
                { regions := [damage]
                  left := damage.x
                  top := damage.y
                  stride := damage.width * 4
                  pixels := pixels })

/-- The frame goes to the Planar encoder. -/
def planarFrame (p : Pipeline) (frame : VideoFrame) (i : Iteration) : Pipeline × Exit :=
  if i.backpressured && i.recovered = 0 then (p.dropFrame, .backpressured)
  else
    let p := if i.backpressured then { p.invalidateDetector with forceFirstFrame := true } else p
    match frame.buffer with
    | .dmaBuf => (p.dropFrame, .dmaBuf)
    | .memory pixelBytes =>
        let rowBytes := frame.width * 4
        let required := min (frame.stride * frame.height) (2 ^ 64 - 1)
        if frame.stride < rowBytes ∨ pixelBytes.length < required then
          (p.dropFrame, .invalidFrame)
        else
          let tight := tightPixels pixelBytes frame.stride rowBytes frame.height
          match planarDamage p.damageDetector frame tight with
          | none => (p, .panicked)
          | some (detector, damageRegions) =>
              let p := { p with damageDetector := detector, forceFirstFrame := false }
              match boundingDamageRegion damageRegions frame.width frame.height with
              | none =>
                  ({ p with framesSkippedDamage := p.framesSkippedDamage + 1 }, .noDamage)
              | some damage => sendDamage p tight rowBytes damage i

/-- The branch for clients that need Planar. -/
def planarBranch (p : Pipeline) (needsInit : Bool) (frame : VideoFrame) (i : Iteration) :
    Pipeline × Exit :=
  let p := if needsInit then initPlanar p i else p
  if p.planarEncoder && p.egfxSender then planarFrame p frame i else (p, .bitmap)

/-- The branch for other clients of the graphics channel. -/
def fallbackBranch (p : Pipeline) (needsInit : Bool) (frame : VideoFrame) (i : Iteration) :
    Pipeline × Exit :=
  let p := if needsInit && i.surfaceCreated then p.surfaceReady else p
  if p.egfxSender then uncompressedFrame p frame i else (p, .bitmap)

/-- What the loop does between gate and branches: the stress detector, and
whether encoder and surface have to be set up (again). -/
def prepare (p : Pipeline) (i : Iteration) : Pipeline × Bool :=
  let needsInit := !p.egfxGateBypassed && p.egfxNeedsInit
  let p := p.applyStress i
  -- the client has dropped its surface: start over
  let needsInit := needsInit || p.needsFullReinit
  let p := if p.needsFullReinit then { p with needsFullReinit := false, egfxNeedsInit := true }
    else p
  (p, needsInit)

/-- A frame that has passed the gate. -/
def dispatch (platform : Platform) (cfg : PipelineConfig) (p : Pipeline) (frame : VideoFrame)
    (i : Iteration) : Pipeline × Exit :=
  let (p, needsInit) := p.prepare i
  let isAvc := !p.egfxGateBypassed && i.isAvcSupported
  let isEgfx := !p.egfxGateBypassed && i.isEgfxReady .setup
  let p := if needsInit && !isAvc && !isEgfx then { p with egfxNeedsInit := false } else p
  if isAvc then avcBranch platform cfg p needsInit frame i
  else if !p.egfxGateBypassed && i.isEgfxReady .planar && i.isPlanarRequired then
    planarBranch p needsInit frame i
  else if !p.egfxGateBypassed && i.isEgfxReady .fallback then
    fallbackBranch p needsInit frame i
  else (p, .bitmap)

/-- Pacing, orientation and the gate. -/
def admitFrame (cfg : PipelineConfig) (p : Pipeline) (frame : VideoFrame) (i : Iteration) :
    Pipeline × Except Exit VideoFrame :=
  if !i.shouldProcess then ({ p with framesPaced := p.framesPaced + 1 }, .error .paced)
  else
    match orient cfg frame with
    | .error exit => (p, .error exit)
    | .ok frame =>
        let p := { p with framesSent := p.framesSent + 1 }
        if !p.egfxGateBypassed && !i.isEgfxReady .gate then
          if p.firstFrameReceived && i.gateTimedOut then
            ({ p with egfxGateBypassed := true }, .ok frame)
          else (p.dropFrame, .error .gated)
        else (p, .ok frame)

/-- An iteration up to the gate: where it ends, or the frame that passes. -/
def frontEnd (cfg : PipelineConfig) (p : Pipeline) (i : Iteration) :
    Pipeline × Except Exit VideoFrame :=
  match i.resize with
  | some created => (if created then p.resizeStream else p, .error .resizing)
  | none =>
      match p.acquireFrame i with
      | (p, .error exit) => (p, .error exit)
      | (p, .ok frame) => admitFrame cfg p frame i

/-- One iteration of the loop. -/
def iterate (platform : Platform) (cfg : PipelineConfig) (p : Pipeline) (i : Iteration) :
    Pipeline × Exit :=
  match frontEnd cfg p i with
  | (p, .error exit) => (p, exit)
  | (p, .ok frame) => dispatch platform cfg p frame i

end Pipeline

end LamcoRdp
