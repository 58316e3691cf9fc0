/-
LamcoRdp/Egfx/Vaapi.lean

The VA-API encoder and its reference frames (`encode_bgra`,
`build_picture_params` and `build_slice_params` of `egfx/hardware/vaapi/mod.rs`).

The encoder reconstructs into two surfaces in turn and predicts each P-frame from
the picture reconstructed last.  The turn is taken by every frame that passes the
checks, the reference moves only with a picture the driver completed.  After an
odd number of failures in between, the surface a P-frame is reconstructed into is
the one it is predicted from (`vaapi_picture`).

The driver is an oracle that may refuse at each of its calls.  Surfaces and coded
buffers are named by their index in the pool.  The texts of sequence, rate
control and quality parameters are left out, and so are statistics and timings.
-/
import LamcoRdp.Egfx.HardwareEncoder
import LamcoRdp.Egfx.NalUnits

namespace LamcoRdp

/-- A reconstructed picture in the DPB. -/
structure DpbEntry where
  surfaceId : ℕ
  frameNum : ℕ
  poc : Int32
  deriving DecidableEq, Repr

/-- The steps between the upload and the end of the picture. -/
inductive VaapiStage
  | seqBuffer
  | rateControlBuffer
  | picBuffer
  | sliceBuffer
  | beginPicture
  | renderPicture
  | endPicture
  | syncSurface
  deriving DecidableEq, Repr

/-- The text of an error, before the driver's own. -/
def VaapiStage.text : VaapiStage → String
  | .seqBuffer => "Failed to create seq buffer: "
  | .rateControlBuffer => "Failed to create rate control buffer: "
  | .picBuffer => "Failed to create pic buffer: "
  | .sliceBuffer => "Failed to create slice buffer: "
  | .beginPicture => "vaBeginPicture failed: "
  | .renderPicture => "vaRenderPicture failed: "
  | .endPicture => "vaEndPicture failed: "
  | .syncSurface => "vaSyncSurface failed: "

/-- How far the driver lets an encode get.  Only an IDR has sequence and rate control buffers. -/
inductive VaapiAnswer
  | imageFails (e : String)
  | stageFails (stage : VaapiStage) (e : String)
  | mapFails (e : String)
  /-- the segments of the coded buffer -/
  | delivers (segments : List (List UInt8))
  deriving DecidableEq, Repr

/-- The driver completed the picture. -/
def VaapiAnswer.completed : VaapiAnswer → Bool
  | .mapFails _ | .delivers _ => true
  | .imageFails _ | .stageFails _ _ => false

/-- The picture came out. -/
def VaapiAnswer.delivered : VaapiAnswer → Bool
  | .delivers _ => true
  | .imageFails _ | .stageFails _ _ | .mapFails _ => false

/-- What the picture and slice parameters say of a picture. -/
structure VaapiPicture where
  isIdr : Bool
  inputSurface : ℕ
  /-- the surface the picture is reconstructed into -/
  currPic : ℕ
  codedBuffer : ℕ
  frameNum : ℕ
  poc : Int32
  /-- the first entry of the reference list, the only one ever used -/
  reference : Option DpbEntry
  deriving DecidableEq, Repr

/-- `VaapiEncoder`, without the handles of the library: the surfaces are numbers. -/
structure VaapiEncoder where
  currentInputSurface : ℕ
  currentReconSurface : ℕ
  currentCodedBuffer : ℕ
  lastRef : Option DpbEntry
  cachedSpsPps : Option (List UInt8)
  width : ℕ
  height : ℕ
  idrInterval : ℕ
  clock : GopClock
  deriving DecidableEq, Repr

namespace VaapiEncoder

/-- `INPUT_SURFACE_POOL_SIZE`. -/
def inputSurfacePoolSize : ℕ := 3

/-- `RECON_SURFACE_POOL_SIZE`. -/
def reconSurfacePoolSize : ℕ := 2

/-- `CODED_BUFFER_COUNT`. -/
def codedBufferCount : ℕ := 3

/-- `VaapiEncoder::new`. -/
def new (width height : ℕ) (preset : QualityPreset) : VaapiEncoder where
  currentInputSurface := 0
  currentReconSurface := 0
  currentCodedBuffer := 0
  lastRef := none
  cachedSpsPps := none
  width := width
  height := height
  idrInterval := preset.gopSize
  clock := .new

/-- `(frame_count % 65536) as u16`. -/
def frameNum (e : VaapiEncoder) : ℕ := e.clock.frameCount % 65536

/-- `(frame_count * 2) as i32`. -/
def poc (e : VaapiEncoder) : Int32 := Int32.ofNat (e.clock.frameCount * 2)

/-- The picture submitted for the next frame. -/
def picture (e : VaapiEncoder) : VaapiPicture :=
  let isIdr := e.clock.isIdr e.idrInterval
  { isIdr := isIdr
    inputSurface := e.currentInputSurface
    currPic := e.currentReconSurface
    codedBuffer := e.currentCodedBuffer
    frameNum := e.frameNum
    poc := e.poc
    reference := if isIdr then none else e.lastRef }

theorem picture_frameNum (e : VaapiEncoder) : e.picture.frameNum = e.frameNum := rfl

theorem picture_poc (e : VaapiEncoder) : e.picture.poc = e.poc := rfl

/-- The turn of the surfaces and buffers. -/
def advance (e : VaapiEncoder) : VaapiEncoder :=
  { e with
    currentInputSurface := (e.currentInputSurface + 1) % inputSurfacePoolSize
    currentReconSurface := (e.currentReconSurface + 1) % reconSurfacePoolSize
    currentCodedBuffer := (e.currentCodedBuffer + 1) % codedBufferCount }

/-- `encode_bgra`. -/
def encodeBgra (e : VaapiEncoder) (c : HardwareCall) (answer : VaapiAnswer) :
    VaapiEncoder × Except HardwareEncoderError H264Frame :=
  match c.reject e.width e.height with
  | some err => (e, .error err)
  | none =>
      -- the surfaces turn before anything can fail
      let picture := e.picture
      let e := e.advance
      match answer with
      | .imageFails err => (e, .error (.encodeFailed s!"Failed to create image: {err}"))
      | .stageFails stage err =>
          -- an IDR has dropped the reference by now
          let e := { e with lastRef := if picture.isIdr then none else e.lastRef }
          (e, .error (.encodeFailed (stage.text ++ err)))
      | .mapFails err =>
          -- the picture is completed and becomes the reference, but is not delivered
          let e := { e with lastRef := some ⟨picture.currPic, picture.frameNum, picture.poc⟩ }
          (e, .error (.encodeFailed s!"Failed to map coded buffer: {err}"))
      | .delivers segments =>
          let e := { e with lastRef := some ⟨picture.currPic, picture.frameNum, picture.poc⟩ }
          let encodedData := segments.flatten
          let cachedSpsPps :=
            if picture.isIdr then
              match extractSpsPps encodedData with
              | some spsPps => some spsPps
              | none => e.cachedSpsPps
            else e.cachedSpsPps
          ({ e with cachedSpsPps := cachedSpsPps, clock := e.clock.delivered },
            .ok
              { data := encodedData
                isKeyframe := picture.isIdr
                timestampMs := c.timestampMs
                size := encodedData.length })

/-- One call. -/
def step (e : VaapiEncoder) : HardwareOp VaapiAnswer → VaapiEncoder
  | .encodeBgra c answer => (e.encodeBgra c answer).1
  | .forceKeyframe => { e with clock := e.clock.forceKeyframe }

end VaapiEncoder

/-! ### The frames that pass the checks -/

/-- The driver's answer to a call, if the frame passes the checks of an encoder of this size. -/
def vaapiAttempt (width height : ℕ) : HardwareOp VaapiAnswer → Option VaapiAnswer
  | .encodeBgra c answer => if (c.reject width height).isSome then none else some answer
  | .forceKeyframe => none

/-- The driver's answers to the frames that pass the checks of an encoder of this size. -/
def vaapiAttempts (width height : ℕ) (ops : List (HardwareOp VaapiAnswer)) : List VaapiAnswer :=
  ops.filterMap (vaapiAttempt width height)

/-- How many frames failed since the driver last completed a picture. -/
def failedSince (answers : List VaapiAnswer) : ℕ :=
  answers.foldl (fun n a => if a.completed then 0 else n + 1) 0

/-- The picture the driver last completed did come out. -/
def lastDelivered (answers : List VaapiAnswer) : Bool :=
  answers.foldl (fun b a => if a.completed then a.delivered else b) false

/-- How many pictures came out. -/
def deliveredCount (answers : List VaapiAnswer) : ℕ := answers.countP VaapiAnswer.delivered

theorem failedSince_snoc (answers : List VaapiAnswer) (a : VaapiAnswer) :
    failedSince (answers ++ [a]) = if a.completed then 0 else failedSince answers + 1 := by
  rw [failedSince, List.foldl_append]
  rfl

theorem lastDelivered_snoc (answers : List VaapiAnswer) (a : VaapiAnswer) :
    lastDelivered (answers ++ [a]) = if a.completed then a.delivered else lastDelivered answers := by
  rw [lastDelivered, List.foldl_append]
  rfl

theorem deliveredCount_snoc (answers : List VaapiAnswer) (a : VaapiAnswer) :
    deliveredCount (answers ++ [a]) = deliveredCount answers + if a.delivered then 1 else 0 := by
  rw [deliveredCount, List.countP_append, List.countP_singleton]
  rfl

/-! ### The invariant -/

/-- What the reference is, after the answers so far. -/
structure RefOk (answers : List VaapiAnswer) (ref : DpbEntry) : Prop where
  /-- its turn was that of the last picture completed -/
  surface : ref.surfaceId = (answers.length + failedSince answers + 1) % 2
  /-- the number it was coded under -/
  count : ∃ n, deliveredCount answers = n + (if lastDelivered answers then 1 else 0) ∧
    ref.frameNum = n % 65536 ∧ ref.poc = Int32.ofNat (n * 2)

/-- What holds of the encoder behind some answers of the library. -/
structure VaapiInv (answers : List VaapiAnswer) (e : VaapiEncoder) : Prop where
  recon : e.currentReconSurface = answers.length % 2
  count : e.clock.frameCount = deliveredCount answers
  ref : ∀ r, e.lastRef = some r → RefOk answers r
  /-- without a reference the next picture is an IDR -/
  idr : e.lastRef = none → e.clock.isIdr e.idrInterval = true

/-- A failure leaves the reference what it was. -/
theorem RefOk.failed {answers : List VaapiAnswer} {ref : DpbEntry} (h : RefOk answers ref)
    {a : VaapiAnswer} (ha : a.completed = false) : RefOk (answers ++ [a]) ref := by
  obtain ⟨hsurface, n, hn, hnum, hpoc⟩ := h
  have hdelivered : a.delivered = false := by
    cases a <;> first | rfl | cases ha
  refine ⟨?_, n, ?_, hnum, hpoc⟩
  · rw [failedSince_snoc, ha, hsurface, List.length_append]
    show _ = (answers.length + 1 + (failedSince answers + 1) + 1) % 2
    omega
  · rw [deliveredCount_snoc, lastDelivered_snoc, ha, hdelivered, hn]
    rfl

namespace VaapiEncoder

variable {width height : ℕ} {preset : QualityPreset} {ops : List (HardwareOp VaapiAnswer)}
  {answers : List VaapiAnswer} {e : VaapiEncoder}

/-- A picture the driver completed is the reference of the next. -/
theorem refOk_completed (h : VaapiInv answers e) {a : VaapiAnswer} (ha : a.completed = true) :
    RefOk (answers ++ [a]) ⟨e.picture.currPic, e.picture.frameNum, e.picture.poc⟩ := by
  have hnum : e.picture.frameNum = deliveredCount answers % 65536 := by
    rw [picture_frameNum, frameNum, h.count]
  have hpoc : e.picture.poc = Int32.ofNat (deliveredCount answers * 2) := by
    rw [picture_poc, poc, h.count]
  refine ⟨?_, deliveredCount answers, ?_, hnum, hpoc⟩
  · rw [failedSince_snoc, if_pos ha, List.length_append]
    show e.currentReconSurface = _
    rw [h.recon]
    show answers.length % 2 = (answers.length + 1 + 0 + 1) % 2
    omega
  · rw [deliveredCount_snoc, lastDelivered_snoc, if_pos ha]

/-- What a frame that passes the checks does to the invariant. -/
theorem vaapiInv_attempt (h : VaapiInv answers e) {c : HardwareCall}
    (hc : c.reject e.width e.height = none) (a : VaapiAnswer) :
    VaapiInv (answers ++ [a]) (e.encodeBgra c a).1 := by
  have hrecon : (e.currentReconSurface + 1) % reconSurfacePoolSize = (answers ++ [a]).length % 2 := by
    rw [h.recon, List.length_append]
    show (answers.length % 2 + 1) % 2 = (answers.length + 1) % 2
    omega
  rw [encodeBgra, hc]
  cases a with
  | imageFails err =>
      refine ⟨hrecon, ?_, fun r hr => (h.ref r hr).failed rfl, h.idr⟩
      rw [deliveredCount_snoc]
      exact h.count
  | stageFails stage err =>
      refine ⟨hrecon, ?_, ?_, ?_⟩
      · rw [deliveredCount_snoc]
        exact h.count
      · intro r hr
        refine (h.ref r ?_).failed rfl
        revert hr
        show (if e.clock.isIdr e.idrInterval = true then none else e.lastRef) = some r → _
        split
        · nofun
        · exact id
      · -- the reference was dropped for an IDR, which is still owed
        show (if e.clock.isIdr e.idrInterval = true then none else e.lastRef) = none →
          e.clock.isIdr e.idrInterval = true
        split
        · rename_i hidr
          exact fun _ => hidr
        · exact h.idr
  | mapFails err =>
      refine ⟨hrecon, ?_, ?_, nofun⟩
      · rw [deliveredCount_snoc]
        exact h.count
      · intro r hr
        obtain rfl := Option.some.inj hr
        exact refOk_completed h rfl
  | delivers segments =>
      refine ⟨hrecon, ?_, ?_, nofun⟩
      · rw [deliveredCount_snoc]
        exact congrArg (· + 1) h.count
      · intro r hr
        obtain rfl := Option.some.inj hr
        exact refOk_completed h rfl

/-- A frame that fails the checks, and a force, leave everything but the force alone. -/
theorem vaapiInv_other (h : VaapiInv answers e) {op : HardwareOp VaapiAnswer}
    (hop : vaapiAttempt e.width e.height op = none) : VaapiInv answers (e.step op) := by
  cases op with
  | forceKeyframe => exact ⟨h.recon, h.count, h.ref, fun _ => rfl⟩
  | encodeBgra c a =>
      rcases hr : c.reject e.width e.height with - | err
      · rw [vaapiAttempt, hr] at hop
        cases hop
      · have hstep : e.step (.encodeBgra c a) = e := by
          show (e.encodeBgra c a).1 = e
          rw [encodeBgra, hr]
        rw [hstep]
        exact h

/-- What a call does to the clock of an encoder of this size. -/
def event (width height : ℕ) (op : HardwareOp VaapiAnswer) : GopClock.Event :=
  match op with
  | .forceKeyframe => .force
  | .encodeBgra _ _ =>
      if ((vaapiAttempt width height op).map VaapiAnswer.delivered).getD false then .delivery
      else .failure

/-- The parts of an encoder that only `new` and the clock decide. -/
theorem step_clock (e : VaapiEncoder) (op : HardwareOp VaapiAnswer) :
    (e.step op).width = e.width ∧ (e.step op).height = e.height ∧
      (e.step op).idrInterval = e.idrInterval ∧
      (e.step op).clock = e.clock.step (event e.width e.height op) := by
  cases op with
  | forceKeyframe => exact ⟨rfl, rfl, rfl, rfl⟩
  | encodeBgra c a =>
      show (e.encodeBgra c a).1.width = _ ∧ (e.encodeBgra c a).1.height = _ ∧
        (e.encodeBgra c a).1.idrInterval = _ ∧ (e.encodeBgra c a).1.clock = _
      rw [encodeBgra, event, vaapiAttempt]
      rcases c.reject e.width e.height with - | err
      · cases a <;> exact ⟨rfl, rfl, rfl, rfl⟩
      · exact ⟨rfl, rfl, rfl, rfl⟩

theorem run_clock (width height : ℕ) (preset : QualityPreset)
    (ops : List (HardwareOp VaapiAnswer)) :
    (ops.foldl step (new width height preset)).width = width ∧
      (ops.foldl step (new width height preset)).height = height ∧
      (ops.foldl step (new width height preset)).idrInterval = preset.gopSize ∧
      (ops.foldl step (new width height preset)).clock =
        GopClock.afterEvents (ops.map (event width height)) := by
  induction ops using List.reverseRecOn with
  | nil => exact ⟨rfl, rfl, rfl, rfl⟩
  | append_singleton ops op ih =>
      obtain ⟨hwidth, hheight, hidr, hclock⟩ := ih
      obtain ⟨hwidth', hheight', hidr', hclock'⟩ :=
        step_clock (ops.foldl step (new width height preset)) op
      rw [List.foldl_append]
      refine ⟨hwidth'.trans hwidth, hheight'.trans hheight, hidr'.trans hidr, ?_⟩
      rw [List.map_append]
      refine hclock'.trans ?_
      rw [hclock, hwidth, hheight]
      exact (GopClock.afterEvents_snoc _ _).symm

/-- The run lemma: the invariant holds after any calls. -/
theorem vaapiInv_run (width height : ℕ) (preset : QualityPreset)
    (ops : List (HardwareOp VaapiAnswer)) :
    VaapiInv (vaapiAttempts width height ops) (ops.foldl step (new width height preset)) := by
  induction ops using List.reverseRecOn with
  | nil => exact ⟨rfl, rfl, nofun, fun _ => rfl⟩
  | append_singleton ops op ih =>
      obtain ⟨hwidth, hheight, -, -⟩ := run_clock width height preset ops
      rw [List.foldl_append, vaapiAttempts, List.filterMap_append]
      show VaapiInv _ ((ops.foldl step (new width height preset)).step op)
      generalize ops.foldl step (new width height preset) = e at ih hwidth hheight
      subst hwidth hheight
      rcases hop : vaapiAttempt e.width e.height op with - | a
      · rw [List.filterMap_cons_none hop, List.filterMap_nil, List.append_nil]
        exact vaapiInv_other ih hop
      · rw [List.filterMap_cons_some hop, List.filterMap_nil]
        cases op with
        | forceKeyframe => cases hop
        | encodeBgra c b =>
            rw [vaapiAttempt] at hop
            rcases hr : c.reject e.width e.height with - | err
            · rw [hr] at hop
              obtain rfl := Option.some.inj hop
              exact vaapiInv_attempt ih hr b
            · rw [hr] at hop
              cases hop

end VaapiEncoder

/-- The picture submitted for a frame, after any calls, forces and failures.  It is an IDR
without a reference at the start of a GOP, counted in frames delivered, or if none was
delivered since the last force.  Else it has a reference, the picture the driver completed
last: the frame delivered last, or one that failed after that and bears its own number.  That
reference lies in the surface the frame is reconstructed into exactly if the number of frames
that failed since is odd. -/
theorem vaapi_picture (width height : ℕ) (preset : QualityPreset)
    (ops : List (HardwareOp VaapiAnswer)) :
    let e := ops.foldl VaapiEncoder.step (.new width height preset)
    let answers := vaapiAttempts width height ops
    (e.picture.isIdr = true ↔ deliveredCount answers % preset.gopSize = 0 ∨
      GopClock.ForceStands (ops.map (VaapiEncoder.event width height)) = true) ∧
    ((e.picture.isIdr = true ∧ e.picture.reference = none) ∨
      ∃ ref, e.picture.isIdr = false ∧ e.picture.reference = some ref ∧
        (ref.surfaceId = e.picture.currPic ↔ failedSince answers % 2 = 1) ∧
        (ref.frameNum + if lastDelivered answers then 1 else 0) % 65536 = e.picture.frameNum) := by
  intro e answers
  obtain ⟨-, -, hidr, hclock⟩ := VaapiEncoder.run_clock width height preset ops
  have hInv := VaapiEncoder.vaapiInv_run width height preset ops
  have hcount : deliveredCount answers =
      (ops.map (VaapiEncoder.event width height)).count .delivery := by
    rw [← hInv.count, hclock, GopClock.afterEvents_eq]
  constructor
  · show e.clock.isIdr e.idrInterval = true ↔ _
    rw [hidr, hclock, GopClock.isIdr_after, hcount]
  · rcases h : e.clock.isIdr e.idrInterval with - | -
    · -- a picture that is no IDR has a reference
      rcases href : e.lastRef with - | ref
      · rw [hInv.idr href] at h
        cases h
      obtain ⟨hsurface, n, hn, hnum, -⟩ := hInv.ref ref href
      refine Or.inr ⟨ref, h, ?_, ?_, ?_⟩
      · show (if e.clock.isIdr e.idrInterval = true then none else e.lastRef) = _
        rw [h, href]
        rfl
      · show ref.surfaceId = e.currentReconSurface ↔ _
        rw [hsurface, hInv.recon]
        show (answers.length + failedSince answers + 1) % 2 = answers.length % 2 ↔ _
        omega
      · rw [VaapiEncoder.picture_frameNum, VaapiEncoder.frameNum, hInv.count, hn, hnum]
        split <;> omega
    · refine Or.inl ⟨h, ?_⟩
      show (if e.clock.isIdr e.idrInterval = true then none else e.lastRef) = _
      rw [h]
      rfl

end LamcoRdp
