/-
LamcoRdp/Egfx/Nvenc.lean

The NVENC encoder (`egfx/hardware/nvenc/mod.rs`).

It keeps the parameter sets of the last intra frame and repeats them in front of
every P-frame, so that a decoder may begin anywhere.  Whether a frame is intra is
what the device says of it, not what was requested.  The device is an oracle: it
may refuse at each of four points, and what it delivers is an input.
`nvenc_frame_nals` reads what is sent: the NAL units the device delivered, for a
P-frame behind the parameter sets of the last intra frame that had any.
Statistics and timings are left out.
-/
import LamcoRdp.Egfx.HardwareEncoder
import LamcoRdp.Egfx.NalUnits

namespace LamcoRdp

/-! ### The encoder -/

/-- How far the device lets an encode get. -/
inductive NvencAnswer
  | bindFails (e : String)
  | lockInputFails (e : String)
  | encodeFails (e : String)
  | lockOutputFails (e : String)
  /-- the bitstream, and whether the picture came out as IDR or I -/
  | delivers (rawData : List UInt8) (isIdr : Bool)
  deriving DecidableEq, Repr

/-- `NvencEncoder`, without the handles of the library. -/
structure NvencEncoder where
  currentBuffer : ℕ
  cachedSpsPps : Option (List UInt8)
  width : ℕ
  height : ℕ
  gopSize : ℕ
  clock : GopClock
  deriving DecidableEq, Repr

namespace NvencEncoder

/-- `NUM_BUFFERS`. -/
def numBuffers : ℕ := 3

/-- `NvencEncoder::new`. -/
def new (width height : ℕ) (preset : QualityPreset) : NvencEncoder where
  currentBuffer := 0
  cachedSpsPps := none
  width := width
  height := height
  gopSize := preset.gopSize
  clock := .new

/-- `prepend_sps_pps`. -/
def prependSpsPps (e : NvencEncoder) (frameData : List UInt8) : List UInt8 :=
  match e.cachedSpsPps with
  | some spsPps => spsPps ++ frameData
  | none => frameData

/-- `encode_bgra`, after the checks and with the input buffer written. -/
def finish (e : NvencEncoder) (c : HardwareCall) (rawData : List UInt8) (isIdr : Bool) :
    NvencEncoder × H264Frame :=
  -- an intra picture without parameter sets leaves the cache alone
  let cachedSpsPps :=
    if isIdr then
      match extractSpsPps rawData with
      | some spsPps => some spsPps
      | none => e.cachedSpsPps
    else e.cachedSpsPps
  let encodedData := if isIdr then rawData else e.prependSpsPps rawData
  ({ e with cachedSpsPps := cachedSpsPps, clock := e.clock.delivered },
    { data := encodedData
      isKeyframe := isIdr
      timestampMs := c.timestampMs
      size := encodedData.length })

/-- `encode_bgra`. -/
def encodeBgra (e : NvencEncoder) (c : HardwareCall) (answer : NvencAnswer) :
    NvencEncoder × Except HardwareEncoderError H264Frame :=
  -- an input buffer is used up by every frame that passes the checks
  let next := { e with currentBuffer := (e.currentBuffer + 1) % numBuffers }
  match answer, c.reject e.width e.height with
  | .bindFails err, _ => (e, .error (.encodeFailed s!"Failed to bind CUDA context: {err}"))
  | _, some err => (e, .error err)
  | .lockInputFails err, none =>
      (next, .error (.encodeFailed s!"Failed to lock input buffer: {err}"))
  | .encodeFails err, none => (next, .error (.encodeFailed s!"NVENC encode failed: {err}"))
  | .lockOutputFails err, none =>
      (next, .error (.encodeFailed s!"Failed to lock output bitstream: {err}"))
  | .delivers rawData isIdr, none =>
      let (e, frame) := next.finish c rawData isIdr
      (e, .ok frame)

/-- One call. -/
def step (e : NvencEncoder) : HardwareOp NvencAnswer → NvencEncoder
  | .encodeBgra c answer => (e.encodeBgra c answer).1
  | .forceKeyframe => { e with clock := e.clock.forceKeyframe }

end NvencEncoder

/-! ### What the device delivered -/

/-- The picture an encoder of this size gets from the device in a call. -/
def nvencDelivery (width height : ℕ) : HardwareOp NvencAnswer → Option (List UInt8 × Bool)
  | .encodeBgra c (.delivers rawData isIdr) =>
      if (c.reject width height).isSome then none else some (rawData, isIdr)
  | _ => none

/-- The pictures an encoder of this size gets from the device in some calls. -/
def nvencDeliveries (width height : ℕ) (ops : List (HardwareOp NvencAnswer)) :
    List (List UInt8 × Bool) := ops.filterMap (nvencDelivery width height)

/-- What a call does to the clock of an encoder of this size. -/
def nvencEvent (width height : ℕ) (op : HardwareOp NvencAnswer) : GopClock.Event :=
  match op with
  | .forceKeyframe => .force
  | .encodeBgra _ _ => if (nvencDelivery width height op).isSome then .delivery else .failure

/-- The parameter sets of the last intra picture that had any. -/
def lastParameterSets (pictures : List (List UInt8 × Bool)) : List (UInt8 × List UInt8) :=
  pictures.foldl (fun sets p =>
    let own := (parseAnnexBNals p.1).filter fun nal => isParameterSet nal.2
    if p.2 && !own.isEmpty then own else sets) []

/-- The device delivers Annex B streams of well-formed NAL units. -/
def WellFormed (pictures : List (List UInt8 × Bool)) : Prop :=
  ∀ p ∈ pictures, ∃ us, (∀ u ∈ us, NalOk u.2) ∧ p.1 = annexB us

/-- What is cached is a stream of these NAL units. -/
def Caches (cached : Option (List UInt8)) (sets : List (UInt8 × List UInt8)) : Prop :=
  ∃ us, (∀ u ∈ us, NalOk u.2) ∧ cached.getD [] = annexB us ∧
    sets = us.map fun u => (nalType u.2, u.2)

/-! ### One encode -/

namespace NvencEncoder

theorem prependSpsPps_eq (e : NvencEncoder) (frameData : List UInt8) :
    e.prependSpsPps frameData = e.cachedSpsPps.getD [] ++ frameData := by
  rw [prependSpsPps]
  rcases e.cachedSpsPps with - | spsPps
  · rfl
  · rfl

/-- What is read in front of a P-frame is what is cached. -/
theorem parse_prependSpsPps {e : NvencEncoder} {sets : List (UInt8 × List UInt8)}
    {us : List (Bool × List UInt8)} (h : Caches e.cachedSpsPps sets) (hus : ∀ u ∈ us, NalOk u.2) :
    parseAnnexBNals (e.prependSpsPps (annexB us)) = sets ++ parseAnnexBNals (annexB us) := by
  obtain ⟨ps, hps, hcached, rfl⟩ := h
  have hall : ∀ u ∈ ps ++ us, NalOk u.2 := by
    intro u hu
    rcases List.mem_append.mp hu with hu | hu
    · exact hps u hu
    · exact hus u hu
  rw [prependSpsPps_eq, hcached, ← annexB_append, parseAnnexBNals_annexB hall,
    parseAnnexBNals_annexB hus, List.map_append]

/-- The cache after a picture holds the parameter sets of the last one that had any. -/
theorem finish_caches {e : NvencEncoder} {pictures : List (List UInt8 × Bool)} {c : HardwareCall}
    {us : List (Bool × List UInt8)} (isIdr : Bool)
    (h : Caches e.cachedSpsPps (lastParameterSets pictures)) (hus : ∀ u ∈ us, NalOk u.2) :
    Caches (e.finish c (annexB us) isIdr).1.cachedSpsPps
      (lastParameterSets (pictures ++ [(annexB us, isIdr)])) := by
  have hown : ((parseAnnexBNals (annexB us)).filter fun nal => isParameterSet nal.2) =
      (us.filter fun u => isParameterSet u.2).map fun u => (nalType u.2, u.2) := by
    rw [parseAnnexBNals_annexB hus, List.filter_map]
    rfl
  have hkept : ∀ u ∈ us.filter (fun u => isParameterSet u.2), NalOk u.2 :=
    fun u hu => hus u (List.mem_of_mem_filter hu)
  have hextract := extractSpsPps_annexB hus
  have hlast : lastParameterSets (pictures ++ [(annexB us, isIdr)]) =
      if isIdr && !(us.filter fun u => isParameterSet u.2).isEmpty then
        (us.filter fun u => isParameterSet u.2).map fun u => (nalType u.2, u.2)
      else lastParameterSets pictures := by
    rw [lastParameterSets, List.foldl_append]
    show (if isIdr && !List.isEmpty (List.filter _ _) then List.filter _ _ else _) = _
    rw [hown, List.isEmpty_map]
    rfl
  rw [hlast]
  generalize us.filter (fun u => isParameterSet u.2) = kept at hkept hextract
  cases isIdr with
  | false => exact h
  | true =>
      rcases kept with - | ⟨u, kept⟩
      · -- an intra picture without parameter sets leaves the cache alone
        have hcached : (e.finish c (annexB us) true).1.cachedSpsPps = e.cachedSpsPps := by
          show (match extractSpsPps (annexB us) with
            | some spsPps => some spsPps
            | none => e.cachedSpsPps) = _
          rw [hextract]
          rfl
        rw [hcached]
        exact h
      · have hcached : (e.finish c (annexB us) true).1.cachedSpsPps =
            some (annexB (u :: kept)) := by
          show (match extractSpsPps (annexB us) with
            | some spsPps => some spsPps
            | none => e.cachedSpsPps) = _
          rw [hextract]
          rfl
        rw [hcached]
        exact ⟨u :: kept, hkept, rfl, rfl⟩

/-- How an encode can end, and the encoder it leaves. -/
theorem encodeBgra_cases (e : NvencEncoder) (c : HardwareCall) (answer : NvencAnswer) :
    (nvencDelivery e.width e.height (.encodeBgra c answer) = none ∧
        ∃ buffer err, e.encodeBgra c answer = ({ e with currentBuffer := buffer }, .error err)) ∨
      ∃ buffer rawData isIdr, answer = .delivers rawData isIdr ∧
        nvencDelivery e.width e.height (.encodeBgra c answer) = some (rawData, isIdr) ∧
        e.encodeBgra c answer =
          ((finish { e with currentBuffer := buffer } c rawData isIdr).1,
            .ok (finish { e with currentBuffer := buffer } c rawData isIdr).2) := by
  rcases hr : c.reject e.width e.height with - | err
  · cases answer with
    | delivers rawData isIdr =>
        right
        refine ⟨(e.currentBuffer + 1) % numBuffers, rawData, isIdr, rfl, ?_, ?_⟩
        · simp [nvencDelivery, hr]
        · simp only [encodeBgra, hr]
    | bindFails err => exact Or.inl ⟨rfl, e.currentBuffer, _, rfl⟩
    | lockInputFails err => exact Or.inl ⟨rfl, _, _, by simp only [encodeBgra, hr]; rfl⟩
    | encodeFails err => exact Or.inl ⟨rfl, _, _, by simp only [encodeBgra, hr]; rfl⟩
    | lockOutputFails err => exact Or.inl ⟨rfl, _, _, by simp only [encodeBgra, hr]; rfl⟩
  · left
    refine ⟨?_, e.currentBuffer, ?_⟩
    · cases answer <;> simp [nvencDelivery, hr]
    · cases answer <;> exact ⟨_, by simp only [encodeBgra, hr]; rfl⟩

end NvencEncoder

/-! ### Runs -/

/-- What is true of an encoder of this size after some calls. -/
structure NvencInv (width height : ℕ) (preset : QualityPreset)
    (ops : List (HardwareOp NvencAnswer)) (e : NvencEncoder) : Prop where
  width_eq : e.width = width
  height_eq : e.height = height
  gop_eq : e.gopSize = preset.gopSize
  clock_eq : e.clock = GopClock.afterEvents (ops.map (nvencEvent width height))
  caches : Caches e.cachedSpsPps (lastParameterSets (nvencDeliveries width height ops))

namespace NvencEncoder

variable {width height : ℕ} {preset : QualityPreset} {ops : List (HardwareOp NvencAnswer)}
  {e : NvencEncoder}

theorem nvencInv_new (width height : ℕ) (preset : QualityPreset) :
    NvencInv width height preset [] (new width height preset) where
  width_eq := rfl
  height_eq := rfl
  gop_eq := rfl
  clock_eq := rfl
  caches := ⟨[], nofun, rfl, rfl⟩

theorem nvencDeliveries_snoc (op : HardwareOp NvencAnswer) :
    nvencDeliveries width height (ops ++ [op]) =
      nvencDeliveries width height ops ++ (nvencDelivery width height op).toList := by
  rw [nvencDeliveries, List.filterMap_append]
  rcases h : nvencDelivery width height op with - | p
  · rw [List.filterMap_cons_none h]
    rfl
  · rw [List.filterMap_cons_some h]
    rfl

theorem clock_snoc (op : HardwareOp NvencAnswer) :
    GopClock.afterEvents ((ops ++ [op]).map (nvencEvent width height)) =
      (GopClock.afterEvents (ops.map (nvencEvent width height))).step
        (nvencEvent width height op) := by
  rw [List.map_append]
  exact GopClock.afterEvents_snoc _ _

/-- Deliveries are counted alike by the clock and in the list of pictures. -/
theorem count_delivery : (ops.map (nvencEvent width height)).count .delivery =
    (nvencDeliveries width height ops).length := by
  induction ops with
  | nil => rfl
  | cons op ops ih =>
      rw [nvencDeliveries, List.map_cons, List.count_cons, ih, nvencDeliveries]
      rcases h : nvencDelivery width height op with - | p
      · rw [List.filterMap_cons_none h]
        cases op with
        | forceKeyframe => rfl
        | encodeBgra c answer => simp [nvencEvent, h]
      · rw [List.filterMap_cons_some h]
        cases op with
        | forceKeyframe => cases h
        | encodeBgra c answer => simp [nvencEvent, h]

theorem nvencInv_step (op : HardwareOp NvencAnswer) (h : NvencInv width height preset ops e)
    (hw : WellFormed (nvencDeliveries width height (ops ++ [op]))) :
    NvencInv width height preset (ops ++ [op]) (e.step op) := by
  obtain ⟨rfl, rfl, hgop, hclock, hcaches⟩ := h
  cases op with
  -- a forced keyframe sets the flag of the clock and delivers nothing
  | forceKeyframe =>
      refine ⟨rfl, rfl, hgop, ?_, ?_⟩
      · rw [clock_snoc, ← hclock]
        rfl
      · rw [nvencDeliveries_snoc]
        show Caches e.cachedSpsPps (lastParameterSets (_ ++ []))
        rwa [List.append_nil]
  | encodeBgra c answer =>
      rcases encodeBgra_cases e c answer with
        ⟨hnone, buffer, err, heq⟩ | ⟨buffer, rawData, isIdr, -, hsome, heq⟩
      · -- a failed call: the clock and the parameter sets stay
        have hstep : e.step (.encodeBgra c answer) = { e with currentBuffer := buffer } :=
          congrArg Prod.fst heq
        rw [hstep]
        refine ⟨rfl, rfl, hgop, ?_, ?_⟩
        · rw [clock_snoc, ← hclock, nvencEvent, hnone]
          rfl
        · rw [nvencDeliveries_snoc, hnone]
          show Caches e.cachedSpsPps (lastParameterSets (_ ++ []))
          rwa [List.append_nil]
      · -- a delivery: the clock counts it and the caches follow the stream
        have hstep : e.step (.encodeBgra c answer) =
            (finish { e with currentBuffer := buffer } c rawData isIdr).1 := congrArg Prod.fst heq
        rw [nvencDeliveries_snoc, hsome] at hw
        obtain ⟨us, hus, rfl⟩ := hw _ (List.mem_append_right _ (List.mem_singleton_self _))
        rw [hstep]
        refine ⟨rfl, rfl, hgop, ?_, ?_⟩
        · rw [clock_snoc, ← hclock, nvencEvent, hsome]
          rfl
        · rw [nvencDeliveries_snoc, hsome]
          exact finish_caches isIdr hcaches hus

/-- The run lemma: the invariant holds after any calls. -/
theorem nvencInv_run (hw : WellFormed (nvencDeliveries width height ops)) :
    NvencInv width height preset ops (ops.foldl step (new width height preset)) := by
  induction ops using List.reverseRecOn with
  | nil => exact nvencInv_new width height preset
  | append_singleton ops op ih =>
      rw [List.foldl_append]
      refine nvencInv_step op (ih fun p hp => ?_) hw
      rw [nvencDeliveries_snoc] at hw
      exact hw p (List.mem_append_left _ hp)

end NvencEncoder

/-- After any calls, forces and failures, what a frame carries is what the device delivered
for it, and a P-frame carries in front the parameter sets of the last intra picture that had
any.  An IDR is requested for it exactly at the start of a GOP, counted in frames delivered,
or if none was delivered since the last force. -/
theorem nvenc_frame_nals (width height : ℕ) (preset : QualityPreset)
    (ops : List (HardwareOp NvencAnswer)) (c : HardwareCall) (answer : NvencAnswer)
    (frame : H264Frame)
    (hw : WellFormed (nvencDeliveries width height (ops ++ [.encodeBgra c answer])))
    (hframe : ((ops.foldl NvencEncoder.step (.new width height preset)).encodeBgra c answer).2 =
      .ok frame) :
    (∃ rawData, answer = .delivers rawData frame.isKeyframe ∧
      parseAnnexBNals frame.data =
        (if frame.isKeyframe then [] else lastParameterSets (nvencDeliveries width height ops)) ++
          parseAnnexBNals rawData) ∧
    ((ops.foldl NvencEncoder.step (.new width height preset)).clock.isIdr preset.gopSize = true ↔
      (nvencDeliveries width height ops).length % preset.gopSize = 0 ∨
        GopClock.ForceStands (ops.map (nvencEvent width height)) = true) := by
  rw [NvencEncoder.nvencDeliveries_snoc] at hw
  have hInv : NvencInv width height preset ops
      (ops.foldl NvencEncoder.step (.new width height preset)) :=
    NvencEncoder.nvencInv_run fun p hp => hw p (List.mem_append_left _ hp)
  generalize ops.foldl NvencEncoder.step (.new width height preset) = e at hInv hframe
  obtain ⟨rfl, rfl, hgop, hclock, hcaches⟩ := hInv
  -- what is sent: the stored parameter sets are put before a delta frame
  constructor
  · rcases e.encodeBgra_cases c answer with
      ⟨-, buffer, err, heq⟩ | ⟨buffer, rawData, isIdr, rfl, hsome, heq⟩
    · rw [heq] at hframe
      cases hframe
    · rw [heq] at hframe
      obtain rfl := Except.ok.inj hframe
      rw [hsome] at hw
      obtain ⟨us, hus, rfl⟩ := hw _ (List.mem_append_right _ (List.mem_singleton_self _))
      refine ⟨annexB us, rfl, ?_⟩
      cases isIdr with
      | true => rfl
      | false => exact NvencEncoder.parse_prependSpsPps hcaches hus
  · -- what is asked for: the position in the group, or a standing force
    rw [hclock, GopClock.isIdr_after, NvencEncoder.count_delivery]

/-- A P-frame behind an IDR with two parameter sets. -/
theorem nvenc_frame_nals_second :
    (∃ rawData, NvencAnswer.delivers (annexB [(true, [0x41, 0x9A])]) false =
        .delivers rawData false ∧
      parseAnnexBNals (annexB
          [(true, [0x67, 0x42]), (true, [0x68, 0xCE]), (true, [0x41, 0x9A])]) =
        [(7, [0x67, 0x42]), (8, [0x68, 0xCE])] ++ parseAnnexBNals rawData) ∧
    (GopClock.isIdr ⟨1, false⟩ 60 = true ↔ 1 % 60 = 0 ∨
      GopClock.ForceStands [GopClock.Event.delivery] = true) := by
  have hok : ∀ u ∈ [(true, [0x67, 0x42]), (true, [0x68, 0xCE]), (true, [0x65, 0x88])],
      NalOk u.2 := by decide
  have hok' : ∀ u ∈ [(true, [0x41, 0x9A])], NalOk u.2 := by decide
  refine nvenc_frame_nals 1 1 .speed
    [.encodeBgra ⟨[0, 0, 0, 255], 1, 1, 0⟩
      (.delivers (annexB [(true, [0x67, 0x42]), (true, [0x68, 0xCE]), (true, [0x65, 0x88])]) true)]
    ⟨[0, 0, 0, 255], 1, 1, 33⟩ (.delivers (annexB [(true, [0x41, 0x9A])]) false)
    ⟨_, false, 33, _⟩ ?_ rfl
  intro p hp
  rcases List.mem_pair.mp hp with rfl | rfl
  · exact ⟨_, hok, rfl⟩
  · exact ⟨_, hok', rfl⟩

end LamcoRdp
