/-
LamcoRdp/Server/Stride.lean

Frames whose rows have a gap between them, in the AVC branch.

Capture gives every frame its stride.  The Planar branch copies the rows out of
it; the AVC branch and the uncompressed path pass the buffer on as it is, and
everything they pass it to reads rows of `4 * width` bytes.  `detect` and
`bgra_to_yuv444` also assert that the buffer ends after the last of these rows.

`avcUses` lists what the branch hands the buffer of a frame to, and
`avcBranch_runs_uses` says that this list is what becomes of detector and
encoder.  A use is `Faithful` if its reader sees the captured picture and its
length assertion holds.
-/
import LamcoRdp.Server.Orientation

namespace LamcoRdp

open Buffer Pipeline

/-! ### Padding a frame that is too large -/

section Overrun

variable {data : List UInt8} {width height alignedWidth alignedHeight : ℕ}

/-- The two writes of a pass keep the length. -/
theorem padRow_keeps {off off' len k src n size : ℕ} {dst : ℕ → ℕ}
    {padded padded' : List UInt8} (hsize : padded.length = size)
    (h : (do
      let row ← read? data off len
      let padded ← write? padded off' row
      (List.range k).foldlM (fun padded k => do
        let px ← read? data src n
        write? padded (dst k) px) padded) = some padded') :
    padded'.length = size := by
  obtain ⟨row, -, h⟩ := Option.bind_eq_some_iff.mp h
  obtain ⟨padded₁, hwrite, h⟩ := Option.bind_eq_some_iff.mp h
  refine foldlM_keeps (P := fun b => b.length = size) ?_
    ((length_of_write? hwrite).trans hsize) h
  intro k b b' hb hpass
  obtain ⟨px, -, hwrite⟩ := Option.bind_eq_some_iff.mp hpass
  exact (length_of_write? hwrite).trans hb

/-- The padded frame has the size that was allocated for it. -/
theorem length_of_padFrameToAligned {out : List UInt8}
    (h : padFrameToAligned data width height alignedWidth alignedHeight = some out) :
    out.length = wrapU32 (alignedWidth * alignedHeight * 4) := by
  unfold padFrameToAligned at h
  obtain ⟨padded, hrows, h⟩ := Option.bind_eq_some_iff.mp h
  have hpadded : padded.length = wrapU32 (alignedWidth * alignedHeight * 4) :=
    foldlM_keeps (P := fun b => b.length = wrapU32 (alignedWidth * alignedHeight * 4))
      (fun y b b' hb hpass => padRow_keeps hb hpass) List.length_replicate hrows
  by_cases hgt : alignedHeight > height
  · rw [if_pos hgt] at h
    obtain ⟨lastRow, -, h⟩ := Option.bind_eq_some_iff.mp h
    exact foldlM_keeps (P := fun b => b.length = wrapU32 (alignedWidth * alignedHeight * 4))
      (fun k b b' hb hpass => (length_of_write? hpass).trans hb) hpadded h
  · rw [if_neg hgt] at h
    obtain rfl := Option.some.inj h
    exact hpadded

/-- A write past the end. -/
theorem write?_of_gt {l src : List UInt8} {off : ℕ} (h : l.length < off + src.length) :
    write? l off src = none := if_neg (by omega)

/-- The rows that are copied below the frame go past the end, if there are more of
them than the allocation has room for. -/
theorem padBottom_overruns {padded lastRow : List UInt8} {size stride : ℕ}
    (hpadded : padded.length = size) (hlen : lastRow.length = stride) (hsize : size < 2 ^ 32)
    (hfull : height * stride ≤ size) (hbig : size < alignedHeight * stride) :
    (List.range (alignedHeight - height)).foldlM (fun padded k =>
      write? padded (wrapU32 ((height + k) * stride)) lastRow) padded = none := by
  have hpos : 0 < stride := Nat.pos_of_ne_zero fun h => by
    rw [h] at hbig
    omega
  -- the first row that does not fit
  have hge : height ≤ size / stride := (Nat.le_div_iff_mul_le hpos).mpr hfull
  have hlt : size / stride < alignedHeight := (Nat.div_lt_iff_lt_mul hpos).mpr hbig
  have hdiv : size / stride * stride ≤ size := Nat.div_mul_le_self _ _
  have hdiv' : size < (size / stride + 1) * stride := by
    rw [Nat.mul_comm]
    exact Nat.lt_mul_div_succ size hpos
  rw [Nat.succ_mul] at hdiv'
  refine foldlM_eq_none (P := fun b => b.length = size)
    (List.mem_range.mpr (show size / stride - height < alignedHeight - height by omega))
    (fun k b b' hb hpass => (length_of_write? hpass).trans hb) ?_ hpadded
  intro b hb
  refine write?_of_gt ?_
  rw [Nat.add_sub_cancel' hge, wrapU32_of_lt (hdiv.trans_lt hsize)]
  omega

/-- The copies of the last pixel of a row go past the end, if the row fits and the
padded row does not. -/
theorem padPixels_overruns {padded : List UInt8} {size start src : ℕ}
    (hpadded : padded.length = size) (hsize : size < 2 ^ 32) (hrow : start + width * 4 ≤ size)
    (hbig : size < start + alignedWidth * 4) :
    (List.range (alignedWidth - width)).foldlM (fun padded k => do
      let px ← read? data src 4
      write? padded (wrapU32 (start + (width + k) * 4)) px) padded = none := by
  refine foldlM_eq_none (P := fun b => b.length = size)
    (List.mem_range.mpr (show (size - start) / 4 - width < alignedWidth - width by omega)) ?_ ?_
    hpadded
  · intro k b b' hb hpass
    obtain ⟨px, -, hwrite⟩ := Option.bind_eq_some_iff.mp hpass
    exact (length_of_write? hwrite).trans hb
  · intro b hb
    refine Option.bind_eq_none_iff.mpr fun px hpx => write?_of_gt ?_
    have hlen := length_of_read? hpx
    rw [show width + ((size - start) / 4 - width) = (size - start) / 4 by omega,
      wrapU32_of_lt (show _ < 2 ^ 32 by omega)]
    omega

/-- If the padded size does not fit its type, the allocation is too small, and
some write of the last row or below it goes past the end. -/
theorem padFrameToAligned_overruns (hh : 1 ≤ height) (hrow : alignedWidth * 4 < 2 ^ 32)
    (hbig : 2 ^ 32 ≤ alignedWidth * alignedHeight * 4)
    (hlast : (height - 1) * (alignedWidth * 4) + width * 4
      ≤ wrapU32 (alignedWidth * alignedHeight * 4)) :
    padFrameToAligned data width height alignedWidth alignedHeight = none := by
  have hsize : wrapU32 (alignedWidth * alignedHeight * 4) < 2 ^ 32 := Nat.mod_lt _ (by norm_num)
  generalize hS : wrapU32 (alignedWidth * alignedHeight * 4) = size at hlast hsize
  rcases hpad : padFrameToAligned data width height alignedWidth alignedHeight with - | out
  · rfl
  exfalso
  unfold padFrameToAligned at hpad
  rw [hS, wrapU32_of_lt hrow] at hpad
  obtain ⟨padded, hrows, hpad⟩ := Option.bind_eq_some_iff.mp hpad
  by_cases hfull : height * (alignedWidth * 4) ≤ size
  · -- the rows of the frame fit; a row below them does not
    have hpadded : padded.length = size := foldlM_keeps (P := fun b => b.length = size)
      (fun y b b' hb hpass => padRow_keeps hb hpass) List.length_replicate hrows
    have hbelow : size < alignedHeight * (alignedWidth * 4) := by
      rw [show alignedHeight * (alignedWidth * 4) = alignedWidth * alignedHeight * 4 by ring]
      omega
    have hgt : height < alignedHeight := lt_of_mul_lt_mul_right' (hfull.trans_lt hbelow)
    rw [if_pos hgt] at hpad
    obtain ⟨lastRow, hread, hpad⟩ := Option.bind_eq_some_iff.mp hpad
    rw [padBottom_overruns hpadded (length_of_read? hread) hsize hfull hbelow] at hpad
    cases hpad
  · -- the last row of the frame does not fit with the copies of its last pixel
    refine absurd hrows (ne_of_eq_of_ne (foldlM_eq_none (P := fun b => b.length = size)
      (List.mem_range.mpr (show height - 1 < height by omega))
      (fun y b b' hb hpass => padRow_keeps hb hpass) ?_ List.length_replicate) nofun)
    intro b hb
    rcases hr : read? data (wrapU32 ((height - 1) * wrapU32 (width * 4))) (wrapU32 (width * 4))
      with - | row
    · rfl
    rw [Option.bind_eq_bind, Option.bind_some]
    rcases hw : write? b (wrapU32 ((height - 1) * (alignedWidth * 4))) row with - | b₁
    · rfl
    rw [Option.bind_some]
    have hsplit : (height - 1) * (alignedWidth * 4) + alignedWidth * 4
        = height * (alignedWidth * 4) := by
      rw [← Nat.succ_mul, Nat.succ_eq_add_one, Nat.sub_add_cancel hh]
    exact padPixels_overruns ((length_of_write? hw).trans hb) hsize hlast (by omega)

end Overrun

/-! ### What the buffer is handed to -/

/-- A call that gets the pixels of a frame. -/
inductive BufferUse
  | detect (buf : List UInt8)
  | updateReference (buf : List UInt8)
  | encodeBgra (enc : VideoEncoder) (c : EncodeCall)
  | sendUncompressed (buf : List UInt8)
  /-- `pad_frame_to_aligned` slices out of range, and the loop is gone -/
  | padOverrun

namespace Pipeline

/-- What the damage detector is given. -/
def detectorUses (p : Pipeline) (enc : VideoEncoder) (frame : VideoFrame)
    (pixelData : List UInt8) (i : Iteration) : List BufferUse :=
  if p.forcesFullFrame enc i then []
  else
    match p.damageDetector with
    | none => []
    | some _ =>
        if frame.damageRegions ≠ [] ∧ i.shouldLogTelemetry = false then
          [.updateReference pixelData]
        else [.detect pixelData]

/-- What the encoder is given. -/
def encoderUses (cfg : PipelineConfig) (p : Pipeline) (enc : VideoEncoder) (frame : VideoFrame)
    (pixelData : List UInt8) (i : Iteration) : List BufferUse :=
  match alignFrame frame pixelData with
  | none => [.padOverrun]
  | some frameData => [.encodeBgra enc (encodeCall cfg p frame frameData i)]

/-- The uses of a frame that goes to the H.264 encoder. -/
def avcFrameUses (cfg : PipelineConfig) (p : Pipeline) (enc : VideoEncoder) (frame : VideoFrame)
    (i : Iteration) : List BufferUse :=
  if i.backpressured ∨ i.throttle then []
  else
    match frame.buffer with
    | .dmaBuf => []
    | .memory pixelData =>
        if pixelData.length < wrapU32 (frame.width * frame.height * 4) then []
        else
          p.detectorUses enc frame pixelData i ++
            if p.reachesEncoder enc frame pixelData i then encoderUses cfg p enc frame pixelData i
            else []

/-- The use of a frame that is sent as it is. -/
def uncompressedUses (frame : VideoFrame) : List BufferUse :=
  match frame.buffer with
  | .dmaBuf => []
  | .memory pixelBytes => [.sendUncompressed pixelBytes]

/-- The state in which the branch takes a frame. -/
def branchEntry (cfg : PipelineConfig) (p : Pipeline) (needsInit : Bool) (frame : VideoFrame)
    (i : Iteration) : Pipeline :=
  if needsInit then initAvc cfg p frame i else p

/-- The uses of a frame in the AVC branch. -/
def avcUses (cfg : PipelineConfig) (p : Pipeline) (needsInit : Bool) (frame : VideoFrame)
    (i : Iteration) : List BufferUse :=
  let p := branchEntry cfg p needsInit frame i
  match p.videoEncoder, p.egfxSender with
  | some enc, true => avcFrameUses cfg p enc frame i
  | none, true => uncompressedUses frame
  | _, false => []

/-- The uses of a frame in the branch for other clients. -/
def fallbackUses (p : Pipeline) (needsInit : Bool) (frame : VideoFrame) (i : Iteration) :
    List BufferUse :=
  let p := if needsInit && i.surfaceCreated then p.surfaceReady else p
  if p.egfxSender then uncompressedUses frame else []

end Pipeline

/-- What a use makes of detector and encoder.  A `detect` that panics leaves the
detector as it was. -/
def BufferUse.run (platform : Platform) (frame : VideoFrame)
    (s : Option DamageDetector × Option VideoEncoder) :
    BufferUse → Option DamageDetector × Option VideoEncoder
  | .detect buf =>
      (s.1.map fun d => ((d.detect buf frame.width frame.height).map Prod.fst).getD d, s.2)
  | .updateReference buf => (s.1.map fun d => d.updateReference buf, s.2)
  | .encodeBgra enc c => (s.1, some (enc.encodeBgra platform c).1)
  | .sendUncompressed _ | .padOverrun => s

section Uses

variable (platform : Platform) (cfg : PipelineConfig) (enc : VideoEncoder) (frame : VideoFrame)
  (data : List UInt8) (i : Iteration)

/-- What a pipeline has of a detector and an encoder. -/
def Pipeline.parts (p : Pipeline) : Option DamageDetector × Option VideoEncoder :=
  (p.damageDetector, p.videoEncoder)

theorem encodeAndSend_runs_uses (p : Pipeline) (regions : List DamageRegion) :
    (encodeAndSend platform cfg p enc frame data regions i).1.parts
      = (encoderUses cfg p enc frame data i).foldl (BufferUse.run platform frame) p.parts := by
  unfold encodeAndSend encoderUses
  rcases alignFrame frame data with - | out
  · rfl
  dsimp only
  have hrun : [BufferUse.encodeBgra enc (encodeCall cfg p frame out i)].foldl
      (BufferUse.run platform frame) p.parts
      = (p.damageDetector, some (enc.encodeBgra platform (encodeCall cfg p frame out i)).1) := rfl
  rw [hrun]
  rcases enc.encodeBgra platform (encodeCall cfg p frame out i) with ⟨enc₁, result⟩
  rcases result with - | e | - | encoded
  · rfl
  · rfl
  · rfl
  · dsimp only
    rcases encoded.send i.shared i.transport with e | frameId
    · rfl
    · rfl

/-- Governor and empty-damage skip decide whether the encoder is reached. -/
theorem processDamage_runs_uses (p : Pipeline) (force : Bool) (regions : List DamageRegion) :
    (processDamage platform cfg p enc frame data force regions i).1.parts
      = (if (force || i.encodingDecision.shouldEncode) && !regions.isEmpty then
          encoderUses cfg p enc frame data i else []).foldl (BufferUse.run platform frame)
          p.parts := by
  have hencode : regions ≠ [] → (encodeAndSend platform cfg p enc frame data regions i).1.parts
      = (if (true && !regions.isEmpty) = true then encoderUses cfg p enc frame data i
          else []).foldl (BufferUse.run platform frame) p.parts := by
    intro hne
    rw [if_pos (by simpa using hne)]
    exact encodeAndSend_runs_uses platform cfg enc frame data i p regions
  unfold processDamage
  rcases force with - | -
  · rcases i.encodingDecision with - | - | - | - | - | -
    all_goals first
      | rfl
      | by_cases hempty : regions = []
        · rw [hempty]
          rfl
        · simpa [hempty, EncodingDecision.shouldEncode] using hencode hempty
  · by_cases hempty : regions = []
    · rw [hempty]
      rfl
    · simpa [hempty] using hencode hempty

/-- The damage selection leaves the detector its use leaves. -/
theorem selectDamage_runs_uses (p : Pipeline) :
    (p.detectorUses enc frame data i).foldl (BufferUse.run platform frame) p.parts
      = (((selectDamage p.damageDetector frame data (p.forcesFullFrame enc i)
          i.shouldLogTelemetry).map Prod.fst).getD p.damageDetector, p.videoEncoder) := by
  unfold detectorUses selectDamage parts
  rcases p.forcesFullFrame enc i with - | -
  · rcases p.damageDetector with - | d
    · by_cases hints : frame.damageRegions = []
      · simp [hints]
      · simp [hints]
    · by_cases hints : frame.damageRegions = []
      · rcases hd : d.detect data frame.width frame.height with - | r
        · simp [hints, BufferUse.run, hd]
        · simp [hints, BufferUse.run, hd]
      · rcases i.shouldLogTelemetry with - | -
        · simp [hints, BufferUse.run]
        · rcases hd : d.detect data frame.width frame.height with - | r
          · simp [hints, BufferUse.run, hd]
          · simp [hints, BufferUse.run, hd]
  · rfl

/-- **The uses are all that happens to detector and encoder**, in a frame that
goes to the encoder. -/
theorem avcFrame_runs_uses (p : Pipeline) :
    (avcFrame platform cfg p enc frame i).1.parts
      = (avcFrameUses cfg p enc frame i).foldl (BufferUse.run platform frame) p.parts := by
  unfold avcFrame avcFrameUses
  by_cases hback : i.backpressured = true
  · rw [if_pos hback, if_pos (Or.inl hback)]
    rfl
  by_cases hthr : i.throttle = true
  · rw [if_neg hback, if_pos hthr, if_pos (Or.inr hthr)]
    rfl
  rw [if_neg hback, if_neg hthr, if_neg (not_or.mpr ⟨hback, hthr⟩)]
  rcases frame.buffer with pixelData | -
  · dsimp only
    by_cases hshort : pixelData.length < wrapU32 (frame.width * frame.height * 4)
    · rw [if_pos hshort, if_pos hshort]
      rfl
    · rw [if_neg hshort, if_neg hshort, List.foldl_append, selectDamage_runs_uses, reachesEncoder]
      rw [show (enc.isPeriodicIdrDue i.now || p.forceFirstFrame) = p.forcesFullFrame enc i from rfl]
      rcases selectDamage p.damageDetector frame pixelData (p.forcesFullFrame enc i)
        i.shouldLogTelemetry with - | ⟨detector, regions⟩
      · rfl
      · exact processDamage_runs_uses platform cfg enc frame pixelData i
          { p with forceFirstFrame := false, damageDetector := detector } _ regions
  · rfl

/-- The same for the whole branch. -/
theorem avcBranch_runs_uses (p : Pipeline) (needsInit : Bool) :
    (avcBranch platform cfg p needsInit frame i).1.parts
      = (avcUses cfg p needsInit frame i).foldl (BufferUse.run platform frame)
          (branchEntry cfg p needsInit frame i).parts := by
  have huncompressed : ∀ q : Pipeline, (uncompressedFrame q frame i).1.parts
      = (uncompressedUses frame).foldl (BufferUse.run platform frame) q.parts := by
    intro q
    unfold uncompressedFrame uncompressedUses
    rcases frame.buffer with pixelBytes | -
    · dsimp only
      rcases sendUncompressedFrame i.shared i.transport with e | frameId
      · rfl
      · rfl
    · rfl
  unfold avcBranch avcUses
  rw [← branchEntry]
  generalize branchEntry cfg p needsInit frame i = q
  dsimp only
  rcases hsender : q.egfxSender with - | -
  · rcases q.videoEncoder with - | enc
    · rfl
    · rfl
  · rcases henc : q.videoEncoder with - | enc
    · exact huncompressed q
    · exact avcFrame_runs_uses platform cfg enc frame i q

end Uses

/-! ### Seeing the picture -/

/-- Read with this stride, the buffer shows the captured picture. -/
def VideoFrame.ShownIn (frame : VideoFrame) (data : List UInt8) (stride : ℕ) (buf : List UInt8) :
    Prop :=
  ∀ y < frame.height, ∀ x < frame.width, pixelAt stride buf x y = pixelAt frame.stride data x y

/-- The assertion of `bgra_to_yuv444`, which AVC444 calls once its checks have
passed, does not fail. -/
def VideoEncoder.AcceptsLength (platform : Platform) (c : EncodeCall) : VideoEncoder → Prop
  | .avc420 _ => True
  | .avc444 e => c.reject = none →
      (bgraToYuv444 platform.target c.bgraData c.width c.height e.colorMatrix).isSome = true

/-- The reader sees the captured picture, and no length assertion fails. -/
def BufferUse.Faithful (platform : Platform) (frame : VideoFrame) (data : List UInt8) :
    BufferUse → Prop
  | .detect buf => frame.ShownIn data (frame.width * 4) buf ∧
      buf.length = DamageDetector.expectedLen frame.width frame.height
  | .updateReference buf => frame.ShownIn data (frame.width * 4) buf
  | .encodeBgra enc c => frame.ShownIn data (c.width * 4) c.bgraData ∧
      enc.AcceptsLength platform c
  | .sendUncompressed buf => frame.ShownIn data (frame.width * 4) buf
  | .padOverrun => False

section Faithful

variable {platform : Platform} {frame : VideoFrame} {len : ℕ}

theorem VideoFrame.IsTight.shownIn (h : frame.IsTight) (data : List UInt8) :
    frame.ShownIn data (frame.width * 4) data := by
  intro y hy x _
  rcases h with hstride | hone
  · rw [hstride]
  · obtain rfl : y = 0 := by omega
    funext b
    show data[0 * (frame.width * 4) + (4 * x + b)]? = data[0 * frame.stride + (4 * x + b)]?
    rw [Nat.zero_mul, Nat.zero_mul]

/-- One bright byte where the second row starts. -/
def secondRowMark (stride len : ℕ) : List UInt8 := (List.replicate len 0).set stride 1

/-- Across a gap, rows of `4 * width` bytes do not show the picture. -/
theorem VideoFrame.LaidOut.not_shownIn (h : frame.LaidOut len) (hgap : ¬ frame.IsTight) :
    (secondRowMark frame.stride len).length = len ∧
      ¬ frame.ShownIn (secondRowMark frame.stride len) (frame.width * 4)
        (secondRowMark frame.stride len) := by
  obtain ⟨hne, htwo⟩ := not_or.mp hgap
  have hrow := h.row_le
  have hw := h.width_pos
  have hlong : frame.stride * 2 ≤ len :=
    (Nat.mul_le_mul_left frame.stride (by omega)).trans h.rows_le
  refine ⟨by rw [secondRowMark, List.length_set, List.length_replicate], ?_⟩
  intro hshown
  have hpixel := congrFun (hshown 1 (by omega) 0 (by omega)) 0
  have htight : (secondRowMark frame.stride len)[frame.width * 4]? = some 0 := by
    rw [secondRowMark, List.getElem?_set_ne (by omega),
      List.getElem?_replicate_of_lt (by omega)]
  have hmark : (secondRowMark frame.stride len)[frame.stride]? = some 1 := by
    rw [secondRowMark, List.getElem?_set_self (by rw [List.length_replicate]; omega)]
  simp only [pixelAt, Nat.one_mul, Nat.mul_zero, Fin.val_zero, Nat.add_zero, htight, hmark]
    at hpixel
  cases hpixel

/-- `expected_len` of a frame that is laid out does not wrap. -/
theorem VideoFrame.LaidOut.expectedLen (h : frame.LaidOut len) :
    DamageDetector.expectedLen frame.width frame.height = frame.width * frame.height * 4 :=
  Nat.mod_eq_of_lt (h.size_le.trans_lt h.len_lt)

/-- The sides are not multiples of 16. -/
def VideoFrame.needsPadding (frame : VideoFrame) : Prop :=
  alignTo16 frame.width ≠ frame.width ∨ alignTo16 frame.height ≠ frame.height

/-- AVC444, whose encoder asserts an exact length. -/
def VideoEncoder.isAvc444 : VideoEncoder → Bool
  | .avc420 _ => false
  | .avc444 _ => true

/-- The encoder gets the picture of a frame of this layout: the rows have no gap,
what is padded fits the sizes of the padding, and what is not padded has no bytes
to spare for AVC444. -/
structure VideoEncoder.Takes (enc : VideoEncoder) (frame : VideoFrame) (len : ℕ) : Prop where
  tight : frame.IsTight
  fits : frame.needsPadding → frame.Fits
  exact : enc.isAvc444 = true → ¬ frame.needsPadding → len = frame.width * frame.height * 4

/-- A padded frame whose size does not fit shows less than the picture. -/
theorem alignFrame_overruns {data out : List UInt8} (h : frame.LaidOut data.length)
    (hpad : frame.needsPadding) (hbig : ¬ frame.Fits) (hout : alignFrame frame data = some out) :
    ¬ frame.ShownIn data (alignTo16 frame.width * 4) out := by
  intro hshown
  obtain ⟨hw, hh, hw32, hh32, hrow, hrows, hlen⟩ := h
  replace hout : padFrameToAligned data frame.width frame.height (alignTo16 frame.width)
      (alignTo16 frame.height) = some out := (if_pos hpad).symm.trans hout
  -- the last pixel of the picture is there, so the buffer reaches so far
  have hlast := congrFun (hshown (frame.height - 1) (by omega) (frame.width - 1) (by omega)) 3
  have hsome : (frame.height - 1) * frame.stride + (4 * (frame.width - 1) + 3) < data.length := by
    have hend := rowEnd_le frame.stride (show frame.height - 1 < frame.height by omega)
    omega
  have hreach : (frame.height - 1) * (alignTo16 frame.width * 4) + (4 * (frame.width - 1) + 3)
      < out.length := by
    have h : (out[(frame.height - 1) * (alignTo16 frame.width * 4)
        + (4 * (frame.width - 1) + 3)]?).isSome = true := by
      refine (congrArg Option.isSome hlast).trans ?_
      exact Option.isSome_iff_exists.mpr ⟨_, List.getElem?_eq_getElem hsome⟩
    obtain ⟨b, hb⟩ := Option.isSome_iff_exists.mp h
    exact (List.getElem?_eq_some_iff.mp hb).1
  rw [length_of_padFrameToAligned hout] at hreach
  have hwrap : wrapU32 (alignTo16 frame.width * alignTo16 frame.height * 4) < 2 ^ 32 :=
    Nat.mod_lt _ (by norm_num)
  -- so neither side wraps when it is aligned, nor does the length of a row
  have hzero : wrapU32 (alignTo16 frame.width * alignTo16 frame.height * 4) ≠ 0 := by omega
  have hw15 : frame.width + 15 < 2 ^ 32 := by
    by_contra hge
    have h0 : alignTo16 frame.width = 0 := by
      rw [alignTo16, wrapU32]
      omega
    exact hzero (by rw [h0, Nat.zero_mul, Nat.zero_mul]; rfl)
  have hh15 : frame.height + 15 < 2 ^ 32 := by
    by_contra hge
    have h0 : alignTo16 frame.height = 0 := by
      rw [alignTo16, wrapU32]
      omega
    exact hzero (by rw [h0, Nat.mul_zero, Nat.zero_mul]; rfl)
  have hrow32 : alignTo16 frame.width * 4 < 2 ^ 32 := by
    by_contra hge
    have h30 : alignTo16 frame.width = 2 ^ 30 := by
      rw [alignTo16_of_lt hw15] at hge ⊢
      omega
    refine hzero ?_
    have hring : alignTo16 frame.width * alignTo16 frame.height * 4
        = 2 ^ 32 * alignTo16 frame.height := by
      rw [h30]
      ring
    rw [hring, wrapU32, Nat.mul_mod_right]
  have hnone : padFrameToAligned data frame.width frame.height (alignTo16 frame.width)
      (alignTo16 frame.height) = none := by
    refine padFrameToAligned_overruns hh hrow32 ?_ (by omega)
    by_contra hlt
    rw [alignTo16_of_lt hw15, alignTo16_of_lt hh15] at hlt
    exact hbig ⟨hw, hh, by omega⟩
  rw [hnone] at hout
  cases hout

theorem VideoEncoder.acceptsLength_iff (enc : VideoEncoder) (c : EncodeCall) :
    enc.AcceptsLength platform c ↔
      (enc.isAvc444 = true → c.reject = none → c.bgraData.length = c.width * c.height * 4) := by
  rcases enc with e | e
  · exact ⟨fun _ h => Bool.noConfusion h, fun _ => trivial⟩
  · have hsome : (bgraToYuv444 platform.target c.bgraData c.width c.height
        e.colorMatrix).isSome = true ↔ c.bgraData.length = c.width * c.height * 4 := by
      unfold bgraToYuv444
      by_cases hlen : c.bgraData.length = c.width * c.height * 4
      · rw [if_pos hlen]
        exact ⟨fun _ => hlen, fun _ => rfl⟩
      · rw [if_neg hlen]
        exact ⟨fun h => Bool.noConfusion h, fun h => absurd h hlen⟩
    exact ⟨fun h _ hreject => hsome.mp (h hreject), fun h hreject => hsome.mpr (h rfl hreject)⟩

section EncoderUses

variable (cfg : PipelineConfig) (p : Pipeline) (enc : VideoEncoder) (i : Iteration)
  {data : List UInt8} (h : frame.LaidOut data.length)

include h

/-- An encoder does not refuse a frame that needs no padding. -/
theorem encodeCall_reject (hw : alignTo16 frame.width = frame.width)
    (hh : alignTo16 frame.height = frame.height) :
    (encodeCall cfg p frame data i).reject = none := by
  have hw' := h.width_pos
  have hh' := h.height_pos
  have hle : wrapU32 (frame.width * frame.height * 4) ≤ data.length :=
    (Nat.mod_le _ _).trans h.size_le
  have heven : ∀ n, alignTo16 n % 2 = 0 := by
    intro n
    unfold alignTo16
    omega
  have hwe := heven frame.width
  have hhe := heven frame.height
  rw [hw] at hwe
  rw [hh] at hhe
  simp only [EncodeCall.reject, encodeCall, hw, hh]
  rw [if_neg (by omega), if_neg (by omega)]

/-- A padded frame. -/
theorem encoderUses_faithful_iff_of_needsPadding (hpad : frame.needsPadding) :
    (∀ use ∈ encoderUses cfg p enc frame data i, use.Faithful platform frame data) ↔
      frame.ShownIn data (frame.width * 4) data ∧ frame.Fits := by
  unfold encoderUses
  -- a frame that fits is padded, and the encoder takes the padded rows
  by_cases hfits : frame.Fits
  · obtain ⟨out, hout, hpix, hlen⟩ := alignFrame_spec hfits h.size_le
    have hexact : out.length = alignTo16 frame.width * alignTo16 frame.height * 4 := by
      rcases hlen with hlen | ⟨hw, hh, -⟩
      · exact hlen
      · exact absurd hpad (not_or.mpr ⟨not_not.mpr hw, not_not.mpr hh⟩)
    rw [hout]
    constructor
    · intro hall
      obtain ⟨hshown, -⟩ := hall _ (List.mem_singleton_self _)
      refine ⟨?_, hfits⟩
      intro y hy x hx
      rw [← hpix y hy x hx]
      exact hshown y hy x hx
    · rintro ⟨hshown, -⟩ use huse
      obtain rfl := List.mem_singleton.mp huse
      refine ⟨?_, (enc.acceptsLength_iff _).mpr fun _ _ => hexact⟩
      intro y hy x hx
      exact (hpix y hy x hx).trans (hshown y hy x hx)
  · -- one that does not shows less than the picture, or is not read at all
    refine ⟨fun hall => ?_, fun hboth => absurd hboth.2 hfits⟩
    exfalso
    rcases hout : alignFrame frame data with - | out
    · rw [hout] at hall
      exact hall _ (List.mem_singleton_self _)
    · rw [hout] at hall
      exact alignFrame_overruns h hpad hfits hout (hall _ (List.mem_singleton_self _)).1

/-- A frame that is passed on as it is. -/
theorem encoderUses_faithful_iff_of_not_needsPadding (hpad : ¬ frame.needsPadding) :
    (∀ use ∈ encoderUses cfg p enc frame data i, use.Faithful platform frame data) ↔
      frame.ShownIn data (frame.width * 4) data ∧
        (enc.isAvc444 = true → data.length = frame.width * frame.height * 4) := by
  obtain ⟨hw, hh⟩ := not_or.mp hpad
  rw [not_not] at hw hh
  have huses : encoderUses cfg p enc frame data i
      = [.encodeBgra enc (encodeCall cfg p frame data i)] := by
    rw [encoderUses, show alignFrame frame data = some data from if_neg hpad]
  have hcw : (encodeCall cfg p frame data i).width = frame.width := hw
  have hch : (encodeCall cfg p frame data i).height = frame.height := hh
  have hreject := encodeCall_reject cfg p i h hw hh
  have haccept : enc.AcceptsLength platform (encodeCall cfg p frame data i) ↔
      (enc.isAvc444 = true → data.length = frame.width * frame.height * 4) := by
    rw [enc.acceptsLength_iff, hcw, hch]
    exact ⟨fun h h444 => h h444 hreject, fun h h444 _ => h h444⟩
  rw [huses, List.forall_mem_singleton]
  show frame.ShownIn data ((encodeCall cfg p frame data i).width * 4) data ∧
    enc.AcceptsLength platform (encodeCall cfg p frame data i) ↔ _
  rw [hcw, haccept]

/-- **The encoder sees the picture** of a frame exactly if the tight reading shows
it and the sizes are right. -/
theorem encoderUses_faithful_iff :
    (∀ use ∈ encoderUses cfg p enc frame data i, use.Faithful platform frame data) ↔
      frame.ShownIn data (frame.width * 4) data ∧ (frame.needsPadding → frame.Fits) ∧
        (enc.isAvc444 = true → ¬ frame.needsPadding →
          data.length = frame.width * frame.height * 4) := by
  by_cases hpad : frame.needsPadding
  · rw [encoderUses_faithful_iff_of_needsPadding cfg p enc i h hpad]
    exact ⟨fun h => ⟨h.1, fun _ => h.2, fun _ hno => absurd hpad hno⟩,
      fun h => ⟨h.1, h.2.1 hpad⟩⟩
  · rw [encoderUses_faithful_iff_of_not_needsPadding cfg p enc i h hpad]
    exact ⟨fun h => ⟨h.1, fun hno => absurd hno hpad, fun h444 _ => h.2 h444⟩,
      fun h => ⟨h.1, fun h444 => h.2.2 h444 hpad⟩⟩

end EncoderUses

end Faithful

/-! ### Which layouts are seen -/

/-- The branch calls `detect` on the frame. -/
def Pipeline.Detects (p : Pipeline) (enc : VideoEncoder) (frame : VideoFrame) (i : Iteration) :
    Prop :=
  p.forcesFullFrame enc i = false ∧ p.damageDetector.isSome = true ∧
    (frame.damageRegions = [] ∨ i.shouldLogTelemetry = true)

/-- The branch calls `update_reference` on the frame. -/
def Pipeline.UpdatesReference (p : Pipeline) (enc : VideoEncoder) (frame : VideoFrame)
    (i : Iteration) : Prop :=
  p.forcesFullFrame enc i = false ∧ p.damageDetector.isSome = true ∧
    frame.damageRegions ≠ [] ∧ i.shouldLogTelemetry = false

/-- A frame of this layout is seen as captured: `update_reference` gets rows
without a gap, `detect` a buffer without bytes to spare, and the encoder, if some
picture of this layout reaches it, one that it takes.  What is sent uncompressed
has rows without a gap. -/
def Pipeline.LayoutSeen (p : Pipeline) (frame : VideoFrame) (len : ℕ) (i : Iteration) : Prop :=
  p.egfxSender = true →
    match p.videoEncoder with
    | none => frame.IsTight
    | some enc => i.backpressured = false → i.throttle = false →
        (p.UpdatesReference enc frame i → frame.IsTight) ∧
        (p.Detects enc frame i → len = frame.width * frame.height * 4) ∧
        ((∃ data, data.length = len ∧ p.reachesEncoder enc frame data i = true) →
          enc.Takes frame len)

/-- Whatever the branch hands the frame to sees the captured picture. -/
def SeesPicture (platform : Platform) (cfg : PipelineConfig) (p : Pipeline) (needsInit : Bool)
    (frame : VideoFrame) (data : List UInt8) (i : Iteration) : Prop :=
  ∀ use ∈ avcUses cfg p needsInit (frame.withData data) i, use.Faithful platform frame data

section Seen

variable {platform : Platform} {frame : VideoFrame} {len : ℕ} (h : frame.LaidOut len)

theorem detectorUses_of_detects {p : Pipeline} {enc : VideoEncoder} {i : Iteration}
    (hd : p.Detects enc frame i) (data : List UInt8) :
    p.detectorUses enc frame data i = [.detect data] := by
  obtain ⟨hforce, hsome, hwhy⟩ := hd
  obtain ⟨d, hd⟩ := Option.isSome_iff_exists.mp hsome
  rw [detectorUses, hforce, if_neg Bool.false_ne_true, hd]
  refine if_neg ?_
  rintro ⟨hhints, htel⟩
  rcases hwhy with hwhy | hwhy
  · exact hhints hwhy
  · exact absurd (htel.symm.trans hwhy) Bool.false_ne_true

theorem detectorUses_of_updatesReference {p : Pipeline} {enc : VideoEncoder} {i : Iteration}
    (hu : p.UpdatesReference enc frame i) (data : List UInt8) :
    p.detectorUses enc frame data i = [.updateReference data] := by
  obtain ⟨hforce, hsome, hhints⟩ := hu
  obtain ⟨d, hd⟩ := Option.isSome_iff_exists.mp hsome
  rw [detectorUses, hforce, if_neg Bool.false_ne_true, hd]
  exact if_pos hhints

/-- The assertion of `detect` ends the loop. -/
theorem avcFrame_panics (platform : Platform) (cfg : PipelineConfig) {p : Pipeline}
    {enc : VideoEncoder} (i : Iteration) {data : List UInt8} (h : frame.LaidOut data.length)
    (hdrop : ¬ (i.backpressured ∨ i.throttle)) (hd : p.Detects enc frame i)
    (hlen : data.length ≠ frame.width * frame.height * 4) :
    (avcFrame platform cfg p enc (frame.withData data) i).2 = .panicked := by
  -- the branch gets as far as the detector
  obtain ⟨hback, hthr⟩ := not_or.mp hdrop
  obtain ⟨hforce, hsome, hwhy⟩ := hd
  obtain ⟨d, hdet⟩ := Option.isSome_iff_exists.mp hsome
  have hshort : ¬ data.length < wrapU32 (frame.width * frame.height * 4) :=
    Nat.not_lt.mpr ((Nat.mod_le _ _).trans h.size_le)
  -- which asserts the length
  have hassert : d.detect data frame.width frame.height = none := by
    refine if_pos ?_
    rw [h.expectedLen]
    exact hlen
  have hselect : selectDamage p.damageDetector (frame.withData data) data
      (p.forcesFullFrame enc i) i.shouldLogTelemetry = none := by
    have hdetect : d.detect data (frame.withData data).width (frame.withData data).height = none :=
      hassert
    have hhints' : (frame.withData data).damageRegions = frame.damageRegions := rfl
    -- and is called, with hints or for the telemetry
    rw [hforce, hdet]
    rcases hwhy with hhints | htel
    · simp [selectDamage, hhints', hhints, hdetect]
    · simp [selectDamage, htel, hdetect]
  rw [avcFrame, if_neg hback, if_neg hthr]
  show (if data.length < wrapU32 (frame.width * frame.height * 4) then (_, Exit.invalidFrame)
    else _).2 = _
  rw [if_neg hshort]
  unfold forcesFullFrame at hselect
  dsimp only
  rw [hselect]

/-- A frame that `detect` is not called on: the detector gets it as its reference
or not at all. -/
theorem detectorUses_of_not_detects {p : Pipeline} {enc : VideoEncoder} {i : Iteration}
    (hd : ¬ p.Detects enc frame i) (hu : ¬ p.UpdatesReference enc frame i) (data : List UInt8) :
    p.detectorUses enc frame data i = [] := by
  rw [detectorUses]
  rcases hforce : p.forcesFullFrame enc i with - | -
  · rcases hdet : p.damageDetector with - | d
    · rfl
    · exfalso
      have hsome : p.damageDetector.isSome = true := by
        rw [hdet]
        rfl
      by_cases hhints : frame.damageRegions ≠ [] ∧ i.shouldLogTelemetry = false
      · exact hu ⟨hforce, hsome, hhints⟩
      · refine hd ⟨hforce, hsome, ?_⟩
        rcases not_and_or.mp hhints with hno | hno
        · exact Or.inl (not_not.mp hno)
        · exact Or.inr (Bool.eq_true_of_not_eq_false hno)
  · rfl

/-- Unless `detect` decides, the content does not matter for what reaches the
encoder. -/
theorem reachesEncoder_congr {p : Pipeline} {enc : VideoEncoder} {i : Iteration}
    (hd : ¬ p.Detects enc frame i) (data data' : List UInt8) :
    p.reachesEncoder enc frame data i = p.reachesEncoder enc frame data' i := by
  unfold reachesEncoder selectDamage
  rcases hforce : p.forcesFullFrame enc i with - | -
  · rcases hdet : p.damageDetector with - | d
    · rfl
    · have hsome : p.damageDetector.isSome = true := by
        rw [hdet]
        rfl
      have hhints : frame.damageRegions ≠ [] := fun hno => hd ⟨hforce, hsome, Or.inl hno⟩
      have htel : i.shouldLogTelemetry = false := by
        by_contra htel
        exact hd ⟨hforce, hsome, Or.inr (Bool.eq_true_of_not_eq_false htel)⟩
      simp [hhints, htel]
  · rfl

include h

/-- What the detector is given, over all pictures of a layout. -/
theorem detectorUses_faithful_iff (p : Pipeline) (enc : VideoEncoder) (i : Iteration) :
    (∀ data : List UInt8, data.length = len → ∀ use ∈ p.detectorUses enc frame data i,
        use.Faithful platform frame data) ↔
      (p.UpdatesReference enc frame i → frame.IsTight) ∧
        (p.Detects enc frame i → len = frame.width * frame.height * 4) := by
  constructor
  · intro hall
    refine ⟨fun hu => ?_, fun hd => ?_⟩
    · -- with a gap between the rows some data differ from what the detector sees
      by_contra hgap
      obtain ⟨hlen, hno⟩ := h.not_shownIn hgap
      have huse := hall _ hlen
      rw [detectorUses_of_updatesReference hu] at huse
      exact hno (huse _ (List.mem_singleton_self _))
    · -- and the assertion fails on any data of another length
      have huse := hall (List.replicate len 0) List.length_replicate
      rw [detectorUses_of_detects hd] at huse
      obtain ⟨-, hlen⟩ := huse _ (List.mem_singleton_self _)
      rw [List.length_replicate, h.expectedLen] at hlen
      exact hlen
  · rintro ⟨htight, hexact⟩ data hlen use huse
    -- the detector runs, or only its reference is set, or neither
    by_cases hd : p.Detects enc frame i
    · rw [detectorUses_of_detects hd] at huse
      obtain rfl := List.mem_singleton.mp huse
      refine ⟨(h.isTight (hexact hd)).shownIn data, ?_⟩
      rw [h.expectedLen, hlen]
      exact hexact hd
    · by_cases hu : p.UpdatesReference enc frame i
      · rw [detectorUses_of_updatesReference hu] at huse
        obtain rfl := List.mem_singleton.mp huse
        exact (htight hu).shownIn data
      · rw [detectorUses_of_not_detects hd hu] at huse
        cases huse

/-- What the encoder is given, over all pictures of a layout that `detect`, if it
is called, accepts. -/
theorem encoderUses_faithful_all_iff (cfg : PipelineConfig) (p : Pipeline) (enc : VideoEncoder)
    (i : Iteration) (hdetect : p.Detects enc frame i → len = frame.width * frame.height * 4) :
    (∀ data, data.length = len → p.reachesEncoder enc frame data i = true →
        ∀ use ∈ encoderUses cfg p enc frame data i, use.Faithful platform frame data) ↔
      ((∃ data, data.length = len ∧ p.reachesEncoder enc frame data i = true) →
        enc.Takes frame len) := by
  constructor
  · rintro hall ⟨data, rfl, hreach⟩
    obtain ⟨-, hfits, hexact⟩ :=
      (encoderUses_faithful_iff cfg p enc i h).mp (hall data rfl hreach)
    refine ⟨?_, hfits, hexact⟩
    by_contra hgap
    -- a picture with a mark in its second row reaches the encoder as well
    have hno : ¬ p.Detects enc frame i := fun hd => hgap (h.isTight (hdetect hd))
    obtain ⟨hlen, hmark⟩ := h.not_shownIn hgap
    have hfaithful := hall _ hlen ((reachesEncoder_congr hno _ data).trans hreach)
    exact hmark ((encoderUses_faithful_iff cfg p enc i (hlen.symm ▸ h)).mp hfaithful).1
  · rintro htakes data rfl hreach
    obtain ⟨htight, hfits, hexact⟩ := htakes ⟨data, rfl, hreach⟩
    exact (encoderUses_faithful_iff cfg p enc i h).mpr ⟨htight.shownIn data, hfits, hexact⟩

/-- A frame that is laid out is not too short. -/
theorem avcFrameUses_eq (cfg : PipelineConfig) (p : Pipeline) (enc : VideoEncoder)
    (i : Iteration) (hdrop : ¬ (i.backpressured ∨ i.throttle)) {data : List UInt8}
    (hlen : data.length = len) :
    avcFrameUses cfg p enc (frame.withData data) i = p.detectorUses enc frame data i ++
      if p.reachesEncoder enc frame data i then encoderUses cfg p enc frame data i else [] := by
  have hle : wrapU32 (frame.width * frame.height * 4) ≤ data.length :=
    (Nat.mod_le _ _).trans (hlen.symm ▸ h.size_le)
  rw [avcFrameUses, if_neg hdrop]
  exact if_neg (Nat.not_lt.mpr hle)

/-- A frame on its way to the encoder. -/
theorem avcFrameUses_faithful_iff (cfg : PipelineConfig) (p : Pipeline) (enc : VideoEncoder)
    (i : Iteration) :
    (∀ data, data.length = len → ∀ use ∈ avcFrameUses cfg p enc (frame.withData data) i,
        use.Faithful platform frame data) ↔
      (i.backpressured = false → i.throttle = false →
        (p.UpdatesReference enc frame i → frame.IsTight) ∧
        (p.Detects enc frame i → len = frame.width * frame.height * 4) ∧
        ((∃ data, data.length = len ∧ p.reachesEncoder enc frame data i = true) →
          enc.Takes frame len)) := by
  -- a dropped frame is given to nobody
  by_cases hdrop : i.backpressured ∨ i.throttle
  · refine ⟨fun _ hback hthr => ?_, fun _ data _ use huse => ?_⟩
    · rcases hdrop with hdrop | hdrop
      · exact absurd (hback.symm.trans hdrop) Bool.false_ne_true
      · exact absurd (hthr.symm.trans hdrop) Bool.false_ne_true
    · rw [avcFrameUses, if_pos hdrop] at huse
      cases huse
  have huses := fun (data : List UInt8) (hlen : data.length = len) =>
    avcFrameUses_eq h cfg p enc i hdrop hlen
  obtain ⟨hback, hthr⟩ := not_or.mp hdrop
  rw [Bool.not_eq_true] at hback hthr
  -- what the detector and what the encoder get are judged apart
  have hparts : (∀ data, data.length = len → ∀ use ∈ avcFrameUses cfg p enc (frame.withData data) i,
        use.Faithful platform frame data) ↔
      (∀ data : List UInt8, data.length = len → ∀ use ∈ p.detectorUses enc frame data i,
        use.Faithful platform frame data) ∧
      (∀ data, data.length = len → p.reachesEncoder enc frame data i = true →
        ∀ use ∈ encoderUses cfg p enc frame data i, use.Faithful platform frame data) := by
    constructor
    · intro hall
      refine ⟨fun data hlen use huse => ?_, fun data hlen hreach use huse => ?_⟩
      · refine hall data hlen use ?_
        rw [huses data hlen]
        exact List.mem_append_left _ huse
      · refine hall data hlen use ?_
        rw [huses data hlen, if_pos hreach]
        exact List.mem_append_right _ huse
    · rintro ⟨hdet, henc⟩ data hlen use huse
      rw [huses data hlen] at huse
      rcases List.mem_append.mp huse with huse | huse
      · exact hdet data hlen use huse
      · by_cases hreach : p.reachesEncoder enc frame data i = true
        · rw [if_pos hreach] at huse
          exact henc data hlen hreach use huse
        · rw [if_neg hreach] at huse
          cases huse
  rw [hparts, detectorUses_faithful_iff h]
  constructor
  · rintro ⟨⟨htight, hexact⟩, henc⟩ - -
    exact ⟨htight, hexact, (encoderUses_faithful_all_iff h cfg p enc i hexact).mp henc⟩
  · intro hall
    obtain ⟨htight, hexact, htakes⟩ := hall hback hthr
    exact ⟨⟨htight, hexact⟩, (encoderUses_faithful_all_iff h cfg p enc i hexact).mpr htakes⟩

/-- A frame that is sent as it is. -/
theorem uncompressedUses_faithful_iff :
    (∀ data, data.length = len → ∀ use ∈ uncompressedUses (frame.withData data),
        use.Faithful platform frame data) ↔ frame.IsTight := by
  constructor
  · intro hall
    by_contra hgap
    obtain ⟨hlen, hmark⟩ := h.not_shownIn hgap
    exact hmark (hall _ hlen _ (List.mem_singleton_self _))
  · intro htight data _ use huse
    obtain rfl := List.mem_singleton.mp huse
    exact htight.shownIn data

/-- A frame in the AVC branch. -/
theorem seesPicture_iff (cfg : PipelineConfig) (p : Pipeline) (needsInit : Bool) (i : Iteration) :
    (∀ data, data.length = len → SeesPicture platform cfg p needsInit frame data i) ↔
      (branchEntry cfg p needsInit frame i).LayoutSeen frame len i := by
  have huses : ∀ data, avcUses cfg p needsInit (frame.withData data) i
      = match (branchEntry cfg p needsInit frame i).videoEncoder,
          (branchEntry cfg p needsInit frame i).egfxSender with
        | some enc, true =>
            avcFrameUses cfg (branchEntry cfg p needsInit frame i) enc (frame.withData data) i
        | none, true => uncompressedUses (frame.withData data)
        | _, false => [] := fun _ => rfl
  unfold SeesPicture LayoutSeen
  simp only [huses]
  generalize branchEntry cfg p needsInit frame i = q
  rcases q.egfxSender with - | -
  · refine ⟨fun _ hno => Bool.noConfusion hno, fun _ data _ use huse => ?_⟩
    rcases henc : q.videoEncoder with - | enc
    · rw [henc] at huse
      cases huse
    · rw [henc] at huse
      cases huse
  · rw [forall_prop_of_true rfl]
    rcases q.videoEncoder with - | enc
    · exact uncompressedUses_faithful_iff h
    · exact avcFrameUses_faithful_iff h cfg q enc i

/-- A frame in the branch for other clients. -/
theorem fallbackUses_faithful_iff (p : Pipeline) (needsInit : Bool) (i : Iteration) :
    (∀ data, data.length = len → ∀ use ∈ fallbackUses p needsInit (frame.withData data) i,
        use.Faithful platform frame data) ↔
      ((p.egfxSender || needsInit && i.surfaceCreated) = true → frame.IsTight) := by
  have huses : ∀ data, fallbackUses p needsInit (frame.withData data) i
      = if (p.egfxSender || needsInit && i.surfaceCreated) = true then
          uncompressedUses (frame.withData data) else [] := by
    intro data
    unfold fallbackUses
    rcases needsInit && i.surfaceCreated with - | -
    · rw [Bool.or_false]
      rfl
    · rw [Bool.or_true]
      rfl
  simp only [huses]
  by_cases hsender : (p.egfxSender || needsInit && i.surfaceCreated) = true
  · rw [forall_prop_of_true hsender]
    simp only [if_pos hsender]
    exact uncompressedUses_faithful_iff h
  · refine ⟨fun _ hno => absurd hno hsender, fun _ data _ use huse => ?_⟩
    rw [if_neg hsender] at huse
    cases huse

/-- **The picture is seen whatever it shows**, exactly for the layouts of
`LayoutSeen`.  Orientation before it keeps the layout, and the branch for other
clients, which sends every frame as it is, shows it if its rows have no gap. -/
theorem avc_sees_picture_iff (platform : Platform) (cfg : PipelineConfig) (p : Pipeline)
    (i : Iteration) :
    (∀ data, data.length = len →
      ((∃ frame', orient cfg (frame.withData data) = .ok frame' ∧ frame'.HoldsPicture) ↔
        (swapsSides (frame.transformValue cfg.frameTransform) = true →
          frame.height * 4 < 2 ^ 32))) ∧
    (∀ needsInit, (∀ data, data.length = len →
        SeesPicture platform cfg p needsInit frame data i) ↔
      (branchEntry cfg p needsInit frame i).LayoutSeen frame len i) ∧
    (∀ needsInit, (∀ data, data.length = len →
        ∀ use ∈ fallbackUses p needsInit (frame.withData data) i,
          use.Faithful platform frame data) ↔
      ((p.egfxSender || needsInit && i.surfaceCreated) = true → frame.IsTight)) := by
  refine ⟨?_, ?_, ?_⟩
  · rintro data rfl
    exact orient_holdsPicture_iff cfg h
  · exact fun needsInit => seesPicture_iff h cfg p needsInit i
  · exact fun needsInit => fallbackUses_faithful_iff h p needsInit i

end Seen

/-! ### Two frames of 16 by 16 pixels -/

/-- 16 by 16 pixels, with this many bytes after each row. -/
def VideoFrame.gapped (gap : ℕ) : VideoFrame where
  buffer := .dmaBuf
  width := 16
  height := 16
  stride := 64 + gap
  transform := 0
  isBottomUp := false
  damageRegions := []
  pts := 0

theorem VideoFrame.laidOut_gapped (gap : ℕ) (hgap : gap < 2 ^ 32) :
    (VideoFrame.gapped gap).LaidOut ((64 + gap) * 16) := by
  have hside : 16 < 2 ^ 32 := by norm_num
  refine ⟨Nat.one_le_ofNat, Nat.one_le_ofNat, hside, hside, ?_, Nat.le_refl _, ?_⟩
  · show 16 * 4 ≤ 64 + gap
    omega
  · omega

/-- A session in the middle of its AVC420 stream. -/
def Pipeline.streaming (detector : Option DamageDetector) : Pipeline :=
  { Pipeline.start detector with
    videoEncoder := some (.avc420 (Avc420Encoder.new 0))
    egfxSender := true }

/-- Four bytes after each row, and a mark where the second row starts: without
damage tracking the encoder is handed a buffer that does not show the picture,
and `BgraSliceU8::new` panics on its length; with it the assertion of `detect`
fails before. -/
theorem gap_is_not_seen :
    (VideoFrame.gapped 4).LaidOut (secondRowMark 68 1088).length ∧
      ¬ SeesPicture plainPlatform .plain (.streaming none) false (.gapped 4)
        (secondRowMark 68 1088) (.smooth none) ∧
      (avcBranch plainPlatform .plain (.streaming none) false
        ((VideoFrame.gapped 4).withData (secondRowMark 68 1088)) (.smooth none)).2 = .panicked ∧
      ¬ SeesPicture plainPlatform .plain (.streaming (some (.new .everyPixel))) false (.gapped 4)
        (secondRowMark 68 1088) (.smooth none) ∧
      (avcBranch plainPlatform .plain (.streaming (some (.new .everyPixel))) false
        ((VideoFrame.gapped 4).withData (secondRowMark 68 1088)) (.smooth none)).2 = .panicked := by
  have hlaid : (VideoFrame.gapped 4).LaidOut 1088 := VideoFrame.laidOut_gapped 4 (by norm_num)
  have hgap : ¬ (VideoFrame.gapped 4).IsTight := by
    rintro (h | h)
    · exact absurd h (by decide)
    · exact absurd h (by decide)
  -- the encoder's own view of the pixels wants exactly 1024 bytes
  have hslice : (avcBranch plainPlatform .plain (.streaming none) false
      ((VideoFrame.gapped 4).withData (secondRowMark 68 1088)) (.smooth none)).2 = .panicked := by
    decide +kernel
  obtain ⟨hlen, hmark⟩ := hlaid.not_shownIn hgap
  change (secondRowMark 68 1088).length = 1088 at hlen
  change ¬ (VideoFrame.gapped 4).ShownIn (secondRowMark 68 1088) _ (secondRowMark 68 1088) at hmark
  generalize secondRowMark 68 1088 = data at hlen hmark hslice ⊢
  have huses : ∀ detector, avcUses .plain (.streaming detector) false
      ((VideoFrame.gapped 4).withData data) (.smooth none) = _ := fun detector =>
    avcFrameUses_eq hlaid .plain (.streaming detector) (.avc420 (.new 0)) (.smooth none)
      (by decide) hlen
  refine ⟨hlen.symm ▸ hlaid, ?_, hslice, ?_, ?_⟩
  · intro hsees
    have huse : ∀ use ∈ encoderUses .plain (.streaming none) (.avc420 (.new 0)) (.gapped 4) data
        (.smooth none), use.Faithful plainPlatform (.gapped 4) data := by
      intro use huse
      refine hsees use ?_
      rw [huses]
      exact huse
    exact hmark ((encoderUses_faithful_iff _ _ _ _ (hlen.symm ▸ hlaid)).mp huse).1
  · intro hsees
    have huse : .detect data ∈ avcUses .plain (.streaming (some (.new .everyPixel))) false
        ((VideoFrame.gapped 4).withData data) (.smooth none) := by
      rw [huses]
      exact List.mem_cons_self
    have hexact := (hsees _ huse).2
    rw [hlen] at hexact
    exact absurd hexact (by decide)
  · exact avcFrame_panics plainPlatform .plain (.smooth none) (hlen.symm ▸ hlaid) (by decide)
      ⟨rfl, rfl, Or.inl rfl⟩ (by rw [hlen]; decide)

/-- A frame without gaps is seen. -/
theorem avc_sees_picture_iff_tight :
    (VideoFrame.gapped 0).LaidOut 1024 ∧
      ∀ data, data.length = 1024 → SeesPicture plainPlatform .plain
        (.streaming (some (.new .everyPixel))) false (.gapped 0) data (.smooth none) := by
  have hlaid : (VideoFrame.gapped 0).LaidOut 1024 := VideoFrame.laidOut_gapped 0 (by norm_num)
  refine ⟨hlaid, ?_⟩
  refine ((avc_sees_picture_iff hlaid plainPlatform .plain
    (.streaming (some (.new .everyPixel))) (.smooth none)).2.1 false).mpr ?_
  intro _ _ _
  refine ⟨fun _ => Or.inl rfl, fun _ => rfl,
    fun _ => ⟨Or.inl rfl, ?_, fun _ _ => rfl⟩⟩
  rintro (h | h)
  · exact absurd rfl h
  · exact absurd rfl h

end LamcoRdp
