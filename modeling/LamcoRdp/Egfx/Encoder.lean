/-
LamcoRdp/Egfx/Encoder.lean

The video encoders over one H.264 encoder (`egfx/encoder.rs`,
`egfx/avc444_encoder.rs`, and `VideoEncoder` of `server/display_handler.rs`).

The H.264 encoder is an oracle: what it answers to each call is an input.  Of
its own state it keeps whether an intra frame is being forced; a force stands
until the next non-empty bitstream, which is then a keyframe.  `outputs` logs
the non-empty bitstreams it has produced.

Clock readings are nanoseconds of one monotonic clock, one reading for each
`encode_bgra` call.  Statistics, diagnostics and timings are left out.  What the
machine and the libraries outside the repository contribute is a `Platform`.
-/
import LamcoRdp.Egfx.ColorConvert
import LamcoRdp.Damage.Region

namespace LamcoRdp

/-- `align_to_16`. -/
def alignTo16 (dimension : ℕ) : ℕ := wrapU32 (dimension + 15) / 16 * 16

/-- `Duration::from_secs` in nanoseconds. -/
def fromSecs (secs : ℕ) : ℕ := secs * 1000000000

/-- The periodic IDR interval is set and has elapsed since the last IDR. -/
def idrIntervalElapsed (intervalSecs lastIdrTime now : ℕ) : Bool :=
  decide (0 < intervalSecs) && decide (fromSecs intervalSecs ≤ now - lastIdrTime)

/-! ### The H.264 oracle -/

/-- A bitstream, and whether it opens with an intra frame. -/
structure EncodedFrameData where
  data : List UInt8
  isKeyframe : Bool
  deriving DecidableEq, Repr

/-- The answer of OpenH264 to one `encode` call, before a pending force is taken
into account. -/
inductive H264Answer
  | error (message : String)
  | bitstream (data : List UInt8) (isKeyframe : Bool)
  deriving DecidableEq, Repr

/-- The wrapper of the H.264 library, by what has been asked of it and what it gave. -/
structure VersionedEncoder where
  /-- an intra frame is forced and has not come out yet -/
  forceIntra : Bool
  /-- every non-empty bitstream produced so far -/
  outputs : List EncodedFrameData
  deriving DecidableEq, Repr

namespace VersionedEncoder

/-- The first bitstream of an encoder is a keyframe. -/
def new : VersionedEncoder := ⟨true, []⟩

/-- `force_intra_frame`. -/
def forceIntraFrame (enc : VersionedEncoder) : VersionedEncoder :=
  { enc with forceIntra := true }

/-- `encode`.  An error and an empty bitstream leave a force standing. -/
def encode (enc : VersionedEncoder) :
    H264Answer → VersionedEncoder × Except String EncodedFrameData
  | .error message => (enc, .error message)
  | .bitstream [] isKeyframe => (enc, .ok ⟨[], isKeyframe⟩)
  | .bitstream (b :: bs) isKeyframe =>
      let frame := ⟨b :: bs, enc.forceIntra || isKeyframe⟩
      (⟨false, enc.outputs ++ [frame]⟩, .ok frame)

end VersionedEncoder

/-- What the processor and the libraries decide. -/
structure Platform where
  /-- the processor `bgra_to_yuv444` dispatches on -/
  target : SimdTarget
  /-- `hash_yuv420` of the auxiliary view `pack_dual_views` makes of a frame -/
  hashAux : Yuv444Frame → ℕ
  /-- whether `BgraSliceU8::new` accepts a buffer of this length for these sides -/
  bgraSliceAccepts : ℕ → ℕ → ℕ → Bool

/-- A machine without vector instructions, all auxiliary views hashing alike. -/
def plainPlatform : Platform where
  target := .scalar
  hashAux _ := 0
  bgraSliceAccepts len width height := len == width * height * 4

/-! ### Results -/

/-- `EncoderError`, the two kinds that an encode call meets. -/
inductive EncoderError
  | invalidDimensions (width height : ℕ)
  | encodeFailed (reason : String)
  deriving DecidableEq, Repr

/-- How an `encode_bgra` call ends. -/
inductive EncodeResult (F : Type)
  /-- an assertion failed -/
  | panicked
  | err (e : EncoderError)
  /-- `Ok(None)`: the encoder skipped the frame -/
  | skipped
  /-- `Ok(Some(frame))` -/
  | frame (f : F)
  deriving DecidableEq, Repr

/-- `Result::map` through the option. -/
def EncodeResult.map {F G : Type} (g : F → G) : EncodeResult F → EncodeResult G
  | .panicked => .panicked
  | .err e => .err e
  | .skipped => .skipped
  | .frame f => .frame (g f)

/-- The call returned `Ok(Some(_))`. -/
def EncodeResult.isFrame {F : Type} : EncodeResult F → Bool
  | .frame _ => true
  | .panicked | .err _ | .skipped => false

theorem EncodeResult.ne_frame {F : Type} {result : EncodeResult F} (h : result.isFrame = false)
    (f : F) : result ≠ .frame f := by
  rintro rfl
  cases h

/-- One `encode_bgra` call: its arguments, the clock when it is made, and the
answers OpenH264 has for it. -/
structure EncodeCall where
  bgraData : List UInt8
  width : ℕ
  height : ℕ
  timestampMs : ℕ
  now : ℕ
  /-- the answer for the only stream of AVC420, the main stream of AVC444 -/
  main : H264Answer
  /-- the answer for the auxiliary stream of AVC444 -/
  aux : H264Answer
  deriving DecidableEq, Repr

/-- The checks both encoders start with. -/
def EncodeCall.reject (c : EncodeCall) : Option EncoderError :=
  if c.width = 0 ∨ c.height = 0 ∨ c.width % 2 ≠ 0 ∨ c.height % 2 ≠ 0 then
    some (.invalidDimensions c.width c.height)
  else
    let expectedSize := wrapU32 (c.width * c.height * 4)
    let len := c.bgraData.length
    if len < expectedSize then
      some (.encodeFailed s!"BGRA buffer too small: {len} < {expectedSize}")
    else none

/-! ### AVC420 -/

/-- `H264Frame`. -/
structure H264Frame where
  data : List UInt8
  isKeyframe : Bool
  timestampMs : ℕ
  size : ℕ
  deriving DecidableEq, Repr

/-- `Avc420Encoder`, the parts that keyframes depend on. -/
structure Avc420Encoder where
  encoder : VersionedEncoder
  lastIdrTime : ℕ
  periodicIdrIntervalSecs : ℕ
  forceNextIdr : Bool
  deriving DecidableEq, Repr

namespace Avc420Encoder

/-- `Avc420Encoder::new`. -/
def new (now : ℕ) : Avc420Encoder where
  encoder := .new
  lastIdrTime := now
  periodicIdrIntervalSecs := 0
  forceNextIdr := false

/-- `configure_periodic_idr`. -/
def configurePeriodicIdr (e : Avc420Encoder) (intervalSecs now : ℕ) : Avc420Encoder :=
  { e with periodicIdrIntervalSecs := intervalSecs, lastIdrTime := now }

/-- `force_keyframe`. -/
def forceKeyframe (e : Avc420Encoder) : Avc420Encoder := { e with forceNextIdr := true }

/-- `is_periodic_idr_due`. -/
def isPeriodicIdrDue (e : Avc420Encoder) (now : ℕ) : Bool :=
  e.forceNextIdr || idrIntervalElapsed e.periodicIdrIntervalSecs e.lastIdrTime now

/-- The force before the encode. -/
def forceDueIdr (e : Avc420Encoder) (now : ℕ) : Avc420Encoder :=
  if e.isPeriodicIdrDue now then
    { e with forceNextIdr := false, lastIdrTime := now, encoder := e.encoder.forceIntraFrame }
  else e

/-- `encode_bgra`. -/
def encodeBgra (platform : Platform) (e : Avc420Encoder) (c : EncodeCall) :
    Avc420Encoder × EncodeResult H264Frame :=
  match c.reject with
  | some err => (e, .err err)
  | none =>
      let e := e.forceDueIdr c.now
      if !platform.bgraSliceAccepts c.bgraData.length c.width c.height then (e, .panicked)
      else
        let (encoder, encoded) := e.encoder.encode c.main
        let e := { e with encoder := encoder }
        match encoded with
        | .error message => (e, .err (.encodeFailed s!"OpenH264 encode failed: {message}"))
        | .ok encoded =>
            if encoded.data.isEmpty then (e, .skipped)
            else
              (e, .frame
                { data := encoded.data
                  isKeyframe := encoded.isKeyframe
                  timestampMs := c.timestampMs
                  size := encoded.data.length })

/-- How a call of `encode_bgra` can end, and the encoder it leaves. -/
theorem encodeBgra_cases (platform : Platform) (e : Avc420Encoder) (c : EncodeCall) :
    (∃ err, e.encodeBgra platform c = (e, .err err)) ∨
    (∃ result, (∀ f, result ≠ .frame f) ∧
      e.encodeBgra platform c = (e.forceDueIdr c.now, result)) ∨
    (∃ b bs key, c.main = .bitstream (b :: bs) key ∧
      e.encodeBgra platform c =
        ({ e.forceDueIdr c.now with
            encoder := ((e.forceDueIdr c.now).encoder.encode c.main).1 },
          .frame
            { data := b :: bs
              isKeyframe := (e.forceDueIdr c.now).encoder.forceIntra || key
              timestampMs := c.timestampMs
              size := (b :: bs).length })) := by
  rw [encodeBgra]
  rcases c.reject with - | err
  · right
    by_cases hb : platform.bgraSliceAccepts c.bgraData.length c.width c.height
    · rcases hm : c.main with message | ⟨- | ⟨b, bs⟩, key⟩
      · exact Or.inl ⟨.err (.encodeFailed s!"OpenH264 encode failed: {message}"), nofun,
          by simp [hb, VersionedEncoder.encode]⟩
      · exact Or.inl ⟨.skipped, nofun, by simp [hb, VersionedEncoder.encode]⟩
      · exact Or.inr ⟨b, bs, key, rfl, by simp [hb, VersionedEncoder.encode]⟩
    · exact Or.inl ⟨.panicked, nofun, by simp [hb]⟩
  · exact Or.inl ⟨err, rfl⟩

/-- After the force, an intra frame is forced if one was, or if an IDR was due. -/
theorem forceDueIdr_forceIntra (e : Avc420Encoder) (now : ℕ) :
    (e.forceDueIdr now).encoder.forceIntra =
      (e.isPeriodicIdrDue now || e.encoder.forceIntra) := by
  rw [forceDueIdr]
  rcases h : e.isPeriodicIdrDue now with - | -
  · rfl
  · rfl

end Avc420Encoder

/-! ### AVC444 -/

/-- `Avc444Frame`: the auxiliary stream may be left out. -/
structure Avc444Frame where
  stream1Data : List UInt8
  stream2Data : Option (List UInt8)
  isKeyframe : Bool
  timestampMs : ℕ
  totalSize : ℕ
  deriving DecidableEq, Repr

/-- `Avc444Encoder`, without its buffers and statistics. -/
structure Avc444Encoder where
  encoder : VersionedEncoder
  colorMatrix : ColorMatrix
  forceAllKeyframes : Bool
  lastAuxHash : Option ℕ
  framesSinceAux : ℕ
  maxAuxInterval : ℕ
  forceAuxIdrOnReturn : Bool
  enableAuxOmission : Bool
  lastIdrTime : ℕ
  periodicIdrIntervalSecs : ℕ
  forceNextIdr : Bool
  forceAuxOnNextFrame : Bool
  deriving DecidableEq, Repr

namespace Avc444Encoder

/-- `Avc444Encoder::new`. -/
def new (colorMatrix : ColorMatrix) (now : ℕ) : Avc444Encoder where
  encoder := .new
  colorMatrix := colorMatrix
  forceAllKeyframes := false
  lastAuxHash := none
  framesSinceAux := 0
  maxAuxInterval := 30
  forceAuxIdrOnReturn := false
  enableAuxOmission := false
  lastIdrTime := now
  periodicIdrIntervalSecs := 5
  forceNextIdr := false
  forceAuxOnNextFrame := false

/-- `u32::clamp(1, 120)`. -/
def clampAuxInterval (maxInterval : ℕ) : ℕ := max 1 (min maxInterval 120)

/-- `configure_aux_omission`, less the change threshold, which nothing reads. -/
def configureAuxOmission (e : Avc444Encoder) (enable : Bool) (maxInterval : ℕ)
    (forceIdrOnReturn : Bool) : Avc444Encoder :=
  { e with
    enableAuxOmission := enable
    maxAuxInterval := clampAuxInterval maxInterval
    forceAuxIdrOnReturn := forceIdrOnReturn }

/-- `set_aux_max_interval`, with the interval it replaces. -/
def setAuxMaxInterval (e : Avc444Encoder) (maxInterval : ℕ) : Avc444Encoder × ℕ :=
  ({ e with maxAuxInterval := clampAuxInterval maxInterval }, e.maxAuxInterval)

/-- `ms_since_last_idr`. -/
def msSinceLastIdr (e : Avc444Encoder) (now : ℕ) : ℕ := (now - e.lastIdrTime) / 1000000

/-- `configure_periodic_idr`. -/
def configurePeriodicIdr (e : Avc444Encoder) (intervalSecs now : ℕ) : Avc444Encoder :=
  { e with periodicIdrIntervalSecs := intervalSecs, lastIdrTime := now }

/-- `request_idr`. -/
def requestIdr (e : Avc444Encoder) : Avc444Encoder := { e with forceNextIdr := true }

/-- `force_keyframe`. -/
def forceKeyframe (e : Avc444Encoder) : Avc444Encoder :=
  { e with encoder := e.encoder.forceIntraFrame }

/-- `is_periodic_idr_due`. -/
def isPeriodicIdrDue (e : Avc444Encoder) (now : ℕ) : Bool :=
  e.forceNextIdr || idrIntervalElapsed e.periodicIdrIntervalSecs e.lastIdrTime now

/-- `should_force_idr`. -/
def shouldForceIdr (e : Avc444Encoder) (now : ℕ) : Avc444Encoder × Bool :=
  if e.forceNextIdr then
    ({ e with forceNextIdr := false, forceAuxOnNextFrame := true, lastIdrTime := now }, true)
  else if idrIntervalElapsed e.periodicIdrIntervalSecs e.lastIdrTime now then
    ({ e with lastIdrTime := now, forceAuxOnNextFrame := true }, true)
  else (e, false)

/-- The forces before the main encode. -/
def forceDueIdr (e : Avc444Encoder) (now : ℕ) : Avc444Encoder :=
  let (e, force) := e.shouldForceIdr now
  let e := if force then { e with encoder := e.encoder.forceIntraFrame } else e
  if e.forceAllKeyframes then { e with encoder := e.encoder.forceIntraFrame } else e

/-- The least number of frames between two auxiliary streams. -/
def minAuxInterval : ℕ := 10

/-- `should_send_aux`; `currentHash` is the hash of the auxiliary view. -/
def shouldSendAux (e : Avc444Encoder) (currentHash : ℕ) : Avc444Encoder × Bool :=
  if e.forceAuxOnNextFrame then ({ e with forceAuxOnNextFrame := false }, true)
  else if !e.enableAuxOmission then (e, true)
  else
    match e.lastAuxHash with
    | none => (e, true)
    | some previousHash =>
        if e.framesSinceAux ≥ e.maxAuxInterval then (e, true)
        else if e.framesSinceAux < minAuxInterval then (e, false)
        else (e, decide (currentHash ≠ previousHash))

/-- The frame leaves without auxiliary stream. -/
def auxOmitted (e : Avc444Encoder) : Avc444Encoder :=
  { e with framesSinceAux := wrapU32 (e.framesSinceAux + 1) }

/-- The force before the auxiliary encode. -/
def forceAuxIdr (e : Avc444Encoder) (mainIsKeyframe : Bool) : Avc444Encoder :=
  if mainIsKeyframe then { e with encoder := e.encoder.forceIntraFrame }
  else if e.forceAuxIdrOnReturn && decide (e.framesSinceAux > 0) then
    { e with encoder := e.encoder.forceIntraFrame }
  else e

/-- The auxiliary stream of a frame: whether to send it, the encode, and what is
kept of it.  The result is its bitstream, if there is one. -/
def encodeAux (e : Avc444Encoder) (mainIsKeyframe : Bool) (currentHash : ℕ)
    (answer : H264Answer) : Avc444Encoder × Except EncoderError (Option (List UInt8)) :=
  let (e, send) := e.shouldSendAux currentHash
  if send then
    let e := e.forceAuxIdr mainIsKeyframe
    let (encoder, encoded) := e.encoder.encode answer
    let e := { e with encoder := encoder }
    match encoded with
    | .error message =>
        (e, .error (.encodeFailed s!"Aux subframe encoding failed: {message}"))
    | .ok encoded =>
        if encoded.data.isEmpty then (e.auxOmitted, .ok none)
        else ({ e with lastAuxHash := some currentHash, framesSinceAux := 0 },
          .ok (some encoded.data))
  else (e.auxOmitted, .ok none)

/-- The two encodes, once the frame is converted. -/
def encodeViews (e : Avc444Encoder) (c : EncodeCall) (currentHash : ℕ) :
    Avc444Encoder × EncodeResult Avc444Frame :=
  let e := e.forceDueIdr c.now
  let (encoder, encoded) := e.encoder.encode c.main
  let e := { e with encoder := encoder }
  match encoded with
  | .error message =>
      (e, .err (.encodeFailed s!"Main subframe encoding failed: {message}"))
  | .ok main =>
      let (e, aux) := e.encodeAux main.isKeyframe currentHash c.aux
      match aux with
      | .error err => (e, .err err)
      | .ok stream2Data =>
          if main.data.isEmpty then (e, .skipped)
          else
            (e, .frame
              { stream1Data := main.data
                stream2Data := stream2Data
                isKeyframe := main.isKeyframe
                timestampMs := c.timestampMs
                totalSize := main.data.length + (stream2Data.map List.length).getD 0 })

/-- `encode_bgra`. -/
def encodeBgra (platform : Platform) (e : Avc444Encoder) (c : EncodeCall) :
    Avc444Encoder × EncodeResult Avc444Frame :=
  match c.reject with
  | some err => (e, .err err)
  | none =>
      match bgraToYuv444 platform.target c.bgraData c.width c.height e.colorMatrix with
      | none => (e, .panicked)
      | some yuv444 => e.encodeViews c (platform.hashAux yuv444)

/-- The fields the force before the main encode can change. -/
theorem forceDueIdr_eq (e : Avc444Encoder) (now : ℕ) :
    ∃ lastIdrTime, e.forceDueIdr now =
      { e with
        encoder := { e.encoder with
          forceIntra := e.isPeriodicIdrDue now || e.forceAllKeyframes || e.encoder.forceIntra }
        lastIdrTime := lastIdrTime
        forceNextIdr := false
        forceAuxOnNextFrame := e.isPeriodicIdrDue now || e.forceAuxOnNextFrame } := by
  obtain ⟨⟨force, outputs⟩, cm, all, lh, fs, mi, fr, om, last, secs, flag, fa⟩ := e
  rcases flag with - | -
  · rcases ht : idrIntervalElapsed secs last now with - | -
    · refine ⟨last, ?_⟩
      rcases all with - | - <;>
        simp [forceDueIdr, shouldForceIdr, isPeriodicIdrDue, ht,
          VersionedEncoder.forceIntraFrame]
    · refine ⟨now, ?_⟩
      rcases all with - | - <;>
        simp [forceDueIdr, shouldForceIdr, isPeriodicIdrDue, ht,
          VersionedEncoder.forceIntraFrame]
  · refine ⟨now, ?_⟩
    rcases all with - | - <;>
      simp [forceDueIdr, shouldForceIdr, isPeriodicIdrDue, VersionedEncoder.forceIntraFrame]

/-- `should_send_aux` changes nothing but the flag, which it takes down. -/
theorem shouldSendAux_fst (e : Avc444Encoder) (currentHash : ℕ) :
    (e.shouldSendAux currentHash).1 = { e with forceAuxOnNextFrame := false } := by
  obtain ⟨enc, cm, all, lh, fs, mi, fr, om, last, secs, flag, fa⟩ := e
  rw [shouldSendAux]
  rcases fa with - | -
  · rcases om with - | -
    · rfl
    · rcases lh with - | previousHash
      · rfl
      · simp only [Bool.false_eq_true, if_false, Bool.not_true]
        split_ifs <;> rfl
  · rfl

/-- The force before the auxiliary encode changes nothing else. -/
theorem forceAuxIdr_eq (e : Avc444Encoder) (key : Bool) :
    e.forceAuxIdr key =
      { e with
        encoder := { e.encoder with
          forceIntra := key || (e.forceAuxIdrOnReturn && decide (e.framesSinceAux > 0)) ||
            e.encoder.forceIntra } } := by
  rw [forceAuxIdr]
  rcases key with - | -
  · rcases e.forceAuxIdrOnReturn && decide (e.framesSinceAux > 0) with - | -
    · rfl
    · rfl
  · rfl

/-- How the auxiliary part of a frame can end. -/
theorem encodeAux_cases (e : Avc444Encoder) (key : Bool) (currentHash : ℕ)
    (answer : H264Answer) :
    ((e.shouldSendAux currentHash).2 = false ∧
      e.encodeAux key currentHash answer =
        ({ e with forceAuxOnNextFrame := false }.auxOmitted, .ok none)) ∨
    ((e.shouldSendAux currentHash).2 = true ∧
      ∃ e', e' = { e with forceAuxOnNextFrame := false }.forceAuxIdr key ∧
      ((∃ message err, answer = .error message ∧
          e.encodeAux key currentHash answer = (e', .error err)) ∨
        (∃ key', answer = .bitstream [] key' ∧
          e.encodeAux key currentHash answer = (e'.auxOmitted, .ok none)) ∨
        (∃ b bs key', answer = .bitstream (b :: bs) key' ∧
          e.encodeAux key currentHash answer =
            ({ e' with
                encoder := (e'.encoder.encode answer).1
                lastAuxHash := some currentHash
                framesSinceAux := 0 }, .ok (some (b :: bs)))))) := by
  have hfst := e.shouldSendAux_fst currentHash
  rcases hs : (e.shouldSendAux currentHash).2 with - | -
  · -- the aux view is not due
    refine Or.inl ⟨rfl, ?_⟩
    simp [encodeAux, hfst, hs]
  · refine Or.inr ⟨rfl, _, rfl, ?_⟩
    -- it is due: an error leaves before the bookkeeping, an empty bitstream counts as omitted
    rcases answer with message | ⟨- | ⟨b, bs⟩, key'⟩
    · exact Or.inl ⟨message, .encodeFailed s!"Aux subframe encoding failed: {message}", rfl,
        by simp [encodeAux, hfst, hs, VersionedEncoder.encode]⟩
    · exact Or.inr (Or.inl ⟨key', rfl, by simp [encodeAux, hfst, hs, VersionedEncoder.encode]⟩)
    · exact Or.inr (Or.inr ⟨b, bs, key', rfl,
        by simp [encodeAux, hfst, hs, VersionedEncoder.encode]⟩)

end Avc444Encoder

/-! ### Either encoder -/

/-- `VideoEncoder`, the encoder that the pipeline holds. -/
inductive VideoEncoder
  | avc420 (encoder : Avc420Encoder)
  | avc444 (encoder : Avc444Encoder)
  deriving DecidableEq, Repr

/-- What the pipeline sends: one bitstream, or two. -/
inductive EncodedVideoFrame
  | single (data : List UInt8)
  | dual (main : List UInt8) (aux : Option (List UInt8))
  deriving DecidableEq, Repr

namespace VideoEncoder

/-- `encode_bgra`. -/
def encodeBgra (platform : Platform) (enc : VideoEncoder) (c : EncodeCall) :
    VideoEncoder × EncodeResult EncodedVideoFrame :=
  match enc with
  | .avc420 e =>
      let (e, result) := e.encodeBgra platform c
      (.avc420 e, result.map fun f => .single f.data)
  | .avc444 e =>
      let (e, result) := e.encodeBgra platform c
      (.avc444 e, result.map fun f => .dual f.stream1Data f.stream2Data)

/-- `request_idr`. -/
def requestIdr : VideoEncoder → VideoEncoder
  | .avc420 e => .avc420 e.forceKeyframe
  | .avc444 e => .avc444 e.requestIdr

/-- `ms_since_last_idr`; `u64::MAX` for AVC420. -/
def msSinceLastIdr (enc : VideoEncoder) (now : ℕ) : ℕ :=
  match enc with
  | .avc420 _ => 2 ^ 64 - 1
  | .avc444 e => e.msSinceLastIdr now

/-- `is_periodic_idr_due`. -/
def isPeriodicIdrDue (enc : VideoEncoder) (now : ℕ) : Bool :=
  match enc with
  | .avc420 e => e.isPeriodicIdrDue now
  | .avc444 e => e.isPeriodicIdrDue now

/-- The H.264 encoder inside. -/
def h264 : VideoEncoder → VersionedEncoder
  | .avc420 e => e.encoder
  | .avc444 e => e.encoder

end VideoEncoder

end LamcoRdp
