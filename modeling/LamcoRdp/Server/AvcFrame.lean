/-
LamcoRdp/Server/AvcFrame.lean

One frame in the AVC branch.

`detect` moves its reference to the frame before the governor, the encoder and
the sender have decided about it, and a forced full frame does not move it at
all.  `FrameKept` says when neither does harm: a frame that differs from the
reference and goes through `detect` reaches the client, and a forced frame that
reaches the client agrees with the reference.  Under it the client stays in sync
with the detector (`avcFrame_done`).
-/
import LamcoRdp.Server.Screen

namespace LamcoRdp

open Raster Pipeline

/-! ### What the encoder is given -/

/-- The frame has pixels, and the sizes of the padded frame fit the `u32` they
are computed in. -/
structure VideoFrame.Fits (frame : VideoFrame) : Prop where
  width_pos : 1 ≤ frame.width
  height_pos : 1 ≤ frame.height
  aligned_lt : (frame.width + 15) / 16 * 16 * ((frame.height + 15) / 16 * 16) * 4 < 2 ^ 32

theorem alignTo16_of_lt {n : ℕ} (h : n + 15 < 2 ^ 32) : alignTo16 n = (n + 15) / 16 * 16 := by
  unfold alignTo16
  rw [wrapU32, Nat.mod_eq_of_lt h]

/-- While the sizes fit, aligning only enlarges. -/
theorem VideoFrame.Fits.align {frame : VideoFrame} (h : frame.Fits) :
    frame.width ≤ alignTo16 frame.width ∧ frame.height ≤ alignTo16 frame.height ∧
      alignTo16 frame.width * alignTo16 frame.height * 4 < 2 ^ 32 := by
  obtain ⟨hw, hh, hfit⟩ := h
  have hleft := Nat.mul_le_mul_left ((frame.width + 15) / 16 * 16)
    (show 16 ≤ (frame.height + 15) / 16 * 16 by omega)
  have hright := Nat.mul_le_mul_right ((frame.height + 15) / 16 * 16)
    (show 16 ≤ (frame.width + 15) / 16 * 16 by omega)
  rw [alignTo16_of_lt (by omega), alignTo16_of_lt (by omega)]
  exact ⟨by omega, by omega, hfit⟩

theorem VideoFrame.Fits.size_lt {frame : VideoFrame} (h : frame.Fits) :
    frame.width * frame.height * 4 < 2 ^ 32 := by
  obtain ⟨hw, hh, hfit⟩ := h.align
  have hle := Nat.mul_le_mul hw hh
  omega

/-- The padded frame shows the frame. -/
theorem alignFrame_spec {frame : VideoFrame} {data : List UInt8} (hf : frame.Fits)
    (hlen : frame.width * frame.height * 4 ≤ data.length) :
    ∃ out, alignFrame frame data = some out ∧
      (∀ y < frame.height, ∀ x < frame.width,
        pixelAt (alignTo16 frame.width * 4) out x y = pixelAt (frame.width * 4) data x y) ∧
      (out.length = alignTo16 frame.width * alignTo16 frame.height * 4 ∨
        alignTo16 frame.width = frame.width ∧ alignTo16 frame.height = frame.height ∧
          out = data) := by
  obtain ⟨hw, hh, hfit⟩ := hf.align
  unfold alignFrame
  by_cases hpad : alignTo16 frame.width ≠ frame.width ∨ alignTo16 frame.height ≠ frame.height
  · obtain ⟨out, hout, holen, hpix⟩ :=
      padFrameToAligned_spec hf.width_pos hf.height_pos hw hh hfit hlen
    refine ⟨out, (if_pos hpad).trans hout, ?_, Or.inl holen⟩
    intro y hy x hx
    rw [hpix y (by omega) x (by omega), show min x (frame.width - 1) = x by omega,
      show min y (frame.height - 1) = y by omega]
  · have hsame := hpad
    push Not at hsame
    refine ⟨data, if_neg hpad, ?_, Or.inr ⟨hsame.1, hsame.2, rfl⟩⟩
    intro y _ x _
    rw [hsame.1]

/-! ### When a frame arrives -/

/-- The encoder returns a frame and the send returns `Ok`. -/
def Pipeline.delivers (platform : Platform) (cfg : PipelineConfig) (p : Pipeline)
    (enc : VideoEncoder) (frame : VideoFrame) (pixelData : List UInt8) (i : Iteration) : Bool :=
  match alignFrame frame pixelData with
  | none => false
  | some frameData =>
      match (enc.encodeBgra platform (encodeCall cfg p frame frameData i)).2 with
      | .frame encoded => (encoded.send i.shared i.transport).isOk
      | .panicked | .err _ | .skipped => false

/-- What working on a frame leaves as it is. -/
structure SameSession (p p' : Pipeline) : Prop where
  surfacesCreated : p'.surfacesCreated = p.surfacesCreated
  egfxNeedsInit : p'.egfxNeedsInit = p.egfxNeedsInit
  needsFullReinit : p'.needsFullReinit = p.needsFullReinit
  egfxGateBypassed : p'.egfxGateBypassed = p.egfxGateBypassed
  cachedFrame : p'.cachedFrame = p.cachedFrame
  videoEncoder : p'.videoEncoder.isSome = p.videoEncoder.isSome

theorem SameSession.trans {p p' p'' : Pipeline} (h : SameSession p p') (h' : SameSession p' p'') :
    SameSession p p'' where
  surfacesCreated := h'.surfacesCreated.trans h.surfacesCreated
  egfxNeedsInit := h'.egfxNeedsInit.trans h.egfxNeedsInit
  needsFullReinit := h'.needsFullReinit.trans h.needsFullReinit
  egfxGateBypassed := h'.egfxGateBypassed.trans h.egfxGateBypassed
  cachedFrame := h'.cachedFrame.trans h.cachedFrame
  videoEncoder := h'.videoEncoder.trans h.videoEncoder

/-- The detector does not belong to the session. -/
theorem SameSession.withDetector (p : Pipeline) (detector : Option DamageDetector) :
    SameSession p { p with damageDetector := detector } := ⟨rfl, rfl, rfl, rfl, rfl, rfl⟩

section Frame

variable (platform : Platform) (cfg : PipelineConfig) (enc : VideoEncoder) (frame : VideoFrame)
  (data : List UInt8) (regions : List DamageRegion) (i : Iteration)

/-- The update that carries a frame. -/
def frameUpdate (frameData : List UInt8) : ScreenUpdate where
  regions := regions
  left := 0
  top := 0
  stride := alignTo16 frame.width * 4
  pixels := frameData

variable {p : Pipeline} (hp : p.videoEncoder.isSome = true)

include hp in
theorem sameSession_encoded (enc₁ : VideoEncoder) (dropped sent : ℕ) :
    SameSession p { p with
      videoEncoder := some enc₁, framesDropped := dropped, egfxFramesSent := sent } :=
  ⟨rfl, rfl, rfl, rfl, rfl, hp.symm⟩

include hp in
/-- The encode and the send: the frame arrives, or nothing does. -/
theorem encodeAndSend_cases :
    ∃ p', SameSession p p' ∧ p'.damageDetector = p.damageDetector ∧
      ((delivers platform cfg p enc frame data i = false ∧ ∃ exit : Exit, exit.isSent = false ∧
          encodeAndSend platform cfg p enc frame data regions i = (p', exit)) ∨
        (delivers platform cfg p enc frame data i = true ∧ ∃ frameId out,
          alignFrame frame data = some out ∧
          encodeAndSend platform cfg p enc frame data regions i
            = (p', .sent frameId (frameUpdate frame regions out)))) := by
  unfold encodeAndSend delivers
  -- each exit of the source, up to a frame id
  rcases halign : alignFrame frame data with - | out
  · exact ⟨p, ⟨rfl, rfl, rfl, rfl, rfl, rfl⟩, rfl, Or.inl ⟨rfl, .panicked, rfl, rfl⟩⟩
  dsimp only
  rcases henc : enc.encodeBgra platform (encodeCall cfg p frame out i) with ⟨enc₁, result⟩
  have hsame := sameSession_encoded hp enc₁
  rcases result with - | e | - | encoded
  · exact ⟨_, hsame p.framesDropped p.egfxFramesSent, rfl, Or.inl ⟨rfl, .panicked, rfl, rfl⟩⟩
  · exact ⟨_, hsame (p.framesDropped + 1) p.egfxFramesSent, rfl,
      Or.inl ⟨rfl, .encodeFailed e, rfl, rfl⟩⟩
  · exact ⟨_, hsame (p.framesDropped + 1) p.egfxFramesSent, rfl,
      Or.inl ⟨rfl, .encodeSkipped, rfl, rfl⟩⟩
  · dsimp only
    rcases encoded.send i.shared i.transport with e | frameId
    · exact ⟨_, hsame (p.framesDropped + 1) p.egfxFramesSent, rfl,
        Or.inl ⟨rfl, .sendFailed e, rfl, rfl⟩⟩
    · exact ⟨_, hsame p.framesDropped (p.egfxFramesSent + 1), rfl,
        Or.inr ⟨rfl, frameId, out, rfl, rfl⟩⟩

include hp in
/-- The governor and the empty-damage skip before them: a frame with damage that
the governor lets pass arrives exactly if it is delivered. -/
theorem processDamage_cases (force : Bool) :
    ∃ p', SameSession p p' ∧ p'.damageDetector = p.damageDetector ∧
      (((regions = [] ∨ delivers platform cfg p enc frame data i = false ∨
            force = false ∧ i.encodingDecision.shouldEncode = false) ∧
          ∃ exit : Exit, exit.isSent = false ∧
            processDamage platform cfg p enc frame data force regions i = (p', exit)) ∨
        (delivers platform cfg p enc frame data i = true ∧ ∃ frameId out,
          alignFrame frame data = some out ∧
          processDamage platform cfg p enc frame data force regions i
            = (p', .sent frameId (frameUpdate frame regions out)))) := by
  have hsame : ∀ dropped skipped, SameSession p
      { p with framesDropped := dropped, framesSkippedDamage := skipped } :=
    fun _ _ => ⟨rfl, rfl, rfl, rfl, rfl, rfl⟩
  unfold processDamage
  -- the governor skips
  by_cases hskip : (!force && decide (i.encodingDecision = .skip)) = true
  · rw [if_pos hskip]
    obtain ⟨hforce, hdec⟩ := (Bool.and_eq_true _ _).mp hskip
    refine ⟨_, hsame (p.framesDropped + 1) p.framesSkippedDamage, rfl,
      Or.inl ⟨Or.inr (Or.inr ⟨?_, ?_⟩), .governorSkipped, rfl, rfl⟩⟩
    · exact (Bool.not_eq_true' force).mp hforce
    · rw [of_decide_eq_true hdec]
      rfl
  rw [if_neg hskip]
  -- or waits for more
  by_cases hwait : (!force && decide (i.encodingDecision = .waitForMore)) = true
  · rw [if_pos hwait]
    obtain ⟨hforce, hdec⟩ := (Bool.and_eq_true _ _).mp hwait
    refine ⟨p, hsame p.framesDropped p.framesSkippedDamage, rfl,
      Or.inl ⟨Or.inr (Or.inr ⟨?_, ?_⟩), .governorWaits, rfl, rfl⟩⟩
    · exact (Bool.not_eq_true' force).mp hforce
    · rw [of_decide_eq_true hdec]
      rfl
  rw [if_neg hwait]
  -- nothing is damaged
  by_cases hempty : regions = []
  · rw [if_pos hempty]
    exact ⟨_, hsame p.framesDropped (p.framesSkippedDamage + 1), rfl,
      Or.inl ⟨Or.inl hempty, .noDamage, rfl, rfl⟩⟩
  · -- the regions go to the encoder
    rw [if_neg hempty]
    obtain ⟨p', hsess, hdet, ⟨hno, hexit⟩ | hsent⟩ :=
      encodeAndSend_cases platform cfg enc frame data regions i hp
    · exact ⟨p', hsess, hdet, Or.inl ⟨Or.inr (Or.inl hno), hexit⟩⟩
    · exact ⟨p', hsess, hdet, Or.inr hsent⟩

end Frame

/-! ### When a frame does no harm -/

/-- The rows follow each other without a gap, or there is only one. -/
def VideoFrame.IsTight (frame : VideoFrame) : Prop :=
  frame.stride = frame.width * 4 ∨ frame.height ≤ 1

/-- A frame without damage hints, laid out as the branch takes it. -/
structure VideoFrame.InScope (frame : VideoFrame) : Prop where
  noHints : frame.damageRegions = []
  tight : frame.IsTight
  fits : frame.Fits

/-- The client shows the frame. -/
def VideoFrame.ShownBy (frame : VideoFrame) (client : Surface) : Prop :=
  ∃ data, frame.buffer = .memory data ∧
    AgreeOn (InFrame frame.width frame.height) client (pictureOf frame.stride data)

theorem VideoFrame.IsTight.shownBy {frame : VideoFrame} (h : frame.IsTight) {data : List UInt8}
    (hbuf : frame.buffer = .memory data) {client : Surface}
    (hagree : AgreeOn (InFrame frame.width frame.height) client
      (pictureOf (frame.width * 4) data)) :
    frame.ShownBy client := by
  refine ⟨data, hbuf, hagree.trans ?_⟩
  rintro ⟨px, py⟩ ⟨hx, hy⟩
  rcases h with hstride | hone
  · rw [hstride]
  · have hrow : py = 0 := by
      have hlt : py < frame.height := hy
      omega
    simp only [pictureOf, hrow, Nat.zero_mul]

/-- Two frames agree in B, G and R of every pixel. -/
def SameBgr (width height : ℕ) (a b : List UInt8) : Prop :=
  ∀ px < width, ∀ py < height, bgrAt width a px py = bgrAt width b px py

/-- The detector has a reference of this size, and the frame agrees with it. -/
def DamageDetector.Unchanged (d : DamageDetector) (width height : ℕ) (data : List UInt8) : Prop :=
  ∃ prev, d.reference width height = some prev ∧ SameBgr width height prev data

/-- The detector has no reference, or one the frame agrees with. -/
def DamageDetector.HoldsOnly (d : DamageDetector) (width height : ℕ) (data : List UInt8) : Prop :=
  ∀ w h prev, d.reference w h = some prev → w = width ∧ h = height ∧ SameBgr width height prev data

/-- `force_full_frame`. -/
def Pipeline.forcesFullFrame (p : Pipeline) (enc : VideoEncoder) (i : Iteration) : Bool :=
  enc.isPeriodicIdrDue i.now || p.forceFirstFrame

/-- The frame gets as far as the encoder. -/
def Pipeline.reachesEncoder (p : Pipeline) (enc : VideoEncoder) (frame : VideoFrame)
    (pixelData : List UInt8) (i : Iteration) : Bool :=
  match selectDamage p.damageDetector frame pixelData (p.forcesFullFrame enc i)
      i.shouldLogTelemetry with
  | none => false
  | some (_, damageRegions) =>
      (p.forcesFullFrame enc i || i.encodingDecision.shouldEncode) && !damageRegions.isEmpty

/-- The frame is handed to the encoder: nothing before it turns the frame away. -/
def Pipeline.goesToEncoder (p : Pipeline) (enc : VideoEncoder) (frame : VideoFrame)
    (i : Iteration) : Bool :=
  !i.backpressured && !i.throttle &&
    match frame.buffer with
    | .dmaBuf => false
    | .memory pixelData =>
        !decide (pixelData.length < wrapU32 (frame.width * frame.height * 4)) &&
          p.reachesEncoder enc frame pixelData i

section Sent

variable {platform : Platform} {cfg : PipelineConfig} {p : Pipeline} {enc : VideoEncoder}
  {frame : VideoFrame} {i : Iteration}

/-- A frame is sent only with the governor's consent, and with damage. -/
theorem processDamage_sent {data : List UInt8} {force : Bool} {regions : List DamageRegion}
    (h : (processDamage platform cfg p enc frame data force regions i).2.isSent = true) :
    ((force || i.encodingDecision.shouldEncode) && !regions.isEmpty) = true := by
  unfold processDamage at h
  by_cases hskip : (!force && decide (i.encodingDecision = .skip)) = true
  · rw [if_pos hskip] at h
    exact absurd h Bool.false_ne_true
  rw [if_neg hskip] at h
  by_cases hwait : (!force && decide (i.encodingDecision = .waitForMore)) = true
  · rw [if_pos hwait] at h
    exact absurd h Bool.false_ne_true
  rw [if_neg hwait] at h
  by_cases hempty : regions = []
  · rw [if_pos hempty] at h
    exact absurd h Bool.false_ne_true
  · have hdamage : (!regions.isEmpty) = true := by simpa using hempty
    rw [hdamage, Bool.and_true]
    cases force with
    | true => rfl
    | false =>
        -- the two decisions that hold a frame back are ruled out
        cases hdec : i.encodingDecision with
        | skip => exact absurd (by rw [hdec]; rfl) hskip
        | waitForMore => exact absurd (by rw [hdec]; rfl) hwait
        | _ => rfl

/-- A frame of the branch is sent only if it goes to the encoder. -/
theorem avcFrame_sent
    (h : (avcFrame platform cfg p enc frame i).2.isSent = true) :
    p.goesToEncoder enc frame i = true := by
  unfold avcFrame at h
  unfold goesToEncoder
  -- each early exit sends nothing, so a sent frame has passed the tests
  cases hback : i.backpressured with
  | true =>
      rw [if_pos hback] at h
      exact absurd h Bool.false_ne_true
  | false =>
    cases hthr : i.throttle with
    | true =>
        rw [if_neg (by rw [hback]; exact Bool.false_ne_true), if_pos hthr] at h
        exact absurd h Bool.false_ne_true
    | false =>
      rw [if_neg (by rw [hback]; exact Bool.false_ne_true),
        if_neg (by rw [hthr]; exact Bool.false_ne_true)] at h
      rcases hbuf : frame.buffer with data | -
      · rw [hbuf] at h
        dsimp only at h ⊢
        by_cases hshort : data.length < wrapU32 (frame.width * frame.height * 4)
        · rw [if_pos hshort] at h
          exact absurd h Bool.false_ne_true
        rw [if_neg hshort] at h
        rw [decide_eq_false hshort]
        show p.reachesEncoder enc frame data i = true
        have hforce : (enc.isPeriodicIdrDue i.now || p.forceFirstFrame)
            = p.forcesFullFrame enc i := rfl
        rw [hforce] at h
        unfold reachesEncoder
        rcases hsel : selectDamage p.damageDetector frame data (p.forcesFullFrame enc i)
          i.shouldLogTelemetry with - | ⟨detector, regions⟩
        · rw [hsel] at h
          exact absurd h Bool.false_ne_true
        · rw [hsel] at h
          exact processDamage_sent h
      · rw [hbuf] at h
        exact absurd h Bool.false_ne_true

end Sent

/-- If the frame is sent in full, the detector's reference is no other; if it
goes through `detect`, it changes nothing or it arrives. -/
def FrameKept (platform : Platform) (cfg : PipelineConfig) (p : Pipeline) (frame : VideoFrame)
    (i : Iteration) : Prop :=
  ∀ enc data d, p.videoEncoder = some enc → p.egfxSender = true → i.backpressured = false →
    i.throttle = false → frame.buffer = .memory data → p.damageDetector = some d →
    if p.forcesFullFrame enc i then
      delivers platform cfg p enc frame data i = true →
        d.HoldsOnly frame.width frame.height data
    else
      data.length = frame.width * frame.height * 4 →
        d.Unchanged frame.width frame.height data ∨
          i.encodingDecision.shouldEncode = true ∧
            delivers platform cfg p enc frame data i = true

/-- A frame that is to be sent in full arrives. -/
def FullFrameArrives (platform : Platform) (cfg : PipelineConfig) (p : Pipeline)
    (frame : VideoFrame) (i : Iteration) : Prop :=
  match p.videoEncoder, frame.buffer with
  | some enc, .memory data =>
      p.forcesFullFrame enc i = true → delivers platform cfg p enc frame data i = true
  | none, .memory _ => (sendUncompressedFrame i.shared i.transport).isOk = true
  | _, .dmaBuf => True

/-- The frame was let go before its damage was looked at, or the loop is gone. -/
def Exit.discarded : Exit → Bool
  | .panicked | .resizing | .clientInactive | .waiting | .paced | .dmaBuf | .gated
  | .backpressured | .throttled | .invalidFrame | .bitmap => true
  | .governorSkipped | .governorWaits | .noDamage | .encodeFailed _ | .encodeSkipped
  | .sendFailed _ | .sent _ _ => false

/-- What holds after the branch worked on a frame: the client is in sync with the
detector, a frame that was sent is shown, and so is one that was not discarded,
if frames sent in full arrive. -/
structure FrameDone (arrives : Prop) (frame : VideoFrame) (client : Surface) (p : Pipeline)
    (r : Pipeline × Exit) : Prop where
  session : SameSession p r.1
  detector : ∃ d, r.1.damageDetector = some d ∧ d.WellFormed ∧ d.config.Exact ∧
    InSync (r.2.paint client) d
  sent : r.2.isSent = true → frame.ShownBy (r.2.paint client)
  kept : r.2.discarded = false → arrives → frame.ShownBy (r.2.paint client)

section Done

variable {platform : Platform} {cfg : PipelineConfig} {p : Pipeline} {enc : VideoEncoder}
  {frame : VideoFrame} {data : List UInt8} {client : Surface} {d : DamageDetector}

theorem coveredBy_fullFrame {width height : ℕ} {q : ℕ × ℕ} (hq : InFrame width height q) :
    CoveredBy [DamageRegion.fullFrame width height] q.1 q.2 := by
  refine ⟨_, List.mem_singleton_self _, Nat.zero_le _, ?_, Nat.zero_le _, ?_⟩
  · simpa [DamageRegion.fullFrame] using hq.1
  · simpa [DamageRegion.fullFrame] using hq.2

/-- The pixels of the update are the frame's. -/
theorem frameUpdate_pixels (hf : frame.Fits)
    (hlen : frame.width * frame.height * 4 ≤ data.length) {out : List UInt8}
    (hout : alignFrame frame data = some out) (regions : List DamageRegion) (q : ℕ × ℕ)
    (hq : InFrame frame.width frame.height q) :
    pictureOf (frameUpdate frame regions out).stride (frameUpdate frame regions out).pixels
      (q.1 - (frameUpdate frame regions out).left, q.2 - (frameUpdate frame regions out).top)
      = pictureOf (frame.width * 4) data q := by
  obtain ⟨out', hout', hpix, -⟩ := alignFrame_spec hf hlen
  obtain rfl := Option.some.inj (hout.symm.trans hout')
  exact pictureOf_congr (hpix q.2 hq.2 q.1 hq.1)

/-- **A frame sent in full.** -/
theorem fullFrame_done (i : Iteration) (hp : p.videoEncoder.isSome = true)
    (hscope : frame.InScope)
    (hbuf : frame.buffer = .memory data) (hlen : frame.width * frame.height * 4 ≤ data.length)
    (hd : p.damageDetector = some d) (hwf : d.WellFormed) (hex : d.config.Exact)
    (hsync : InSync client d)
    (hkept : delivers platform cfg p enc frame data i = true →
      d.HoldsOnly frame.width frame.height data) :
    FrameDone (delivers platform cfg p enc frame data i = true) frame client p
      (processDamage platform cfg p enc frame data true
        [DamageRegion.fullFrame frame.width frame.height] i) := by
  obtain ⟨p', hsess, hdet, ⟨hwhy, exit, hno, he⟩ | ⟨hdel, frameId, out, hout, he⟩⟩ :=
    processDamage_cases platform cfg enc frame data
      [DamageRegion.fullFrame frame.width frame.height] i hp true
  · rw [he]
    refine ⟨hsess, ⟨d, hdet.trans hd, hwf, hex, ?_⟩, ?_, ?_⟩
    · show InSync (exit.paint client) d
      rw [Exit.paint_of_not_sent hno]
      exact hsync
    · intro h
      exact absurd (hno.symm.trans h) Bool.false_ne_true
    · intro _ hdel
      rcases hwhy with h | h | ⟨h, -⟩
      · cases h
      · exact absurd (h.symm.trans hdel) Bool.false_ne_true
      · cases h
  · rw [he]
    have hagree : AgreeOn (InFrame frame.width frame.height)
        ((frameUpdate frame [DamageRegion.fullFrame frame.width frame.height] out).paint client)
        (pictureOf (frame.width * 4) data) := by
      rintro ⟨px, py⟩ hq
      exact (if_pos (coveredBy_fullFrame hq)).trans
        (frameUpdate_pixels hscope.fits hlen hout _ (px, py) hq)
    have hshown := hscope.tight.shownBy hbuf hagree
    refine ⟨hsess, ⟨d, hdet.trans hd, hwf, hex, ?_⟩, fun _ => hshown, fun _ _ => hshown⟩
    -- the reference did not move: it has to agree with the frame already
    intro w h prev hprev
    obtain ⟨rfl, rfl, hsame⟩ := hkept hdel w h prev hprev
    refine hagree.trans ?_
    rintro ⟨px, py⟩ ⟨hx, hy⟩
    rw [pictureOf_eq_bgrAt, pictureOf_eq_bgrAt, hsame px hx py hy]

/-- **A frame that went through `detect`.** -/
theorem detectedFrame_done (arrives : Prop) (i : Iteration) (hp : p.videoEncoder.isSome = true)
    (hscope : frame.InScope)
    (hbuf : frame.buffer = .memory data) (hlen : data.length = frame.width * frame.height * 4)
    (hwf : d.WellFormed) (hex : d.config.Exact) (hsync : InSync client d)
    (hkept : d.Unchanged frame.width frame.height data ∨
      i.encodingDecision.shouldEncode = true ∧
        delivers platform cfg p enc frame data i = true) :
    ∃ d' regions, d.detect data frame.width frame.height = some (d', regions) ∧
      FrameDone arrives frame client p
        (processDamage platform cfg { p with damageDetector := some d' } enc frame data false
          regions i) := by
  obtain ⟨hw, hh, hfit⟩ := hscope.fits.align
  have hsize := hscope.fits.size_lt
  have hw32 : frame.width < 2 ^ 32 := by
    have h := Nat.mul_le_mul_left frame.width hscope.fits.height_pos
    omega
  have hh32 : frame.height < 2 ^ 32 := by
    have h := Nat.mul_le_mul_right frame.height hscope.fits.width_pos
    omega
  obtain ⟨d', regions, hdetect, hwf', hcfg, href, -, hcover⟩ :=
    DamageDetector.detect_spec hwf hex hlen hw32 hh32 (by omega)
  refine ⟨d', regions, hdetect, ?_⟩
  obtain ⟨p', hsess, hdet, hcases⟩ :=
    processDamage_cases platform cfg enc frame data regions i
      (p := { p with damageDetector := some d' }) hp false
  have hsess' : SameSession p p' := (SameSession.withDetector p (some d')).trans hsess
  rcases hcases with ⟨hwhy, exit, hno, he⟩ | ⟨-, frameId, out, hout, he⟩
  · -- not sent: the frame agrees with the old reference, so the client shows it
    have hsame : ∀ px < frame.width, ∀ py < frame.height,
        ∃ prev, d.reference frame.width frame.height = some prev ∧
          bgrAt frame.width prev px py = bgrAt frame.width data px py := by
      intro px hpx py hpy
      rcases hkept with ⟨prev, hprev, hsame⟩ | ⟨henc, hdel⟩
      · exact ⟨prev, hprev, hsame px hpx py hpy⟩
      · have hempty : regions = [] := by
          rcases hwhy with h | h | ⟨-, h⟩
          · exact h
          · exact absurd (h.symm.trans hdel) Bool.false_ne_true
          · exact absurd (h.symm.trans henc) Bool.false_ne_true
        by_contra hnone
        push Not at hnone
        obtain ⟨r, hr, -⟩ := hcover px hpx py hpy hnone
        rw [hempty] at hr
        cases hr
    have hagree := hsync.agree_of_unchanged hsame
    have hshown := hscope.tight.shownBy hbuf hagree
    rw [he]
    have hpaint : exit.paint client = client := Exit.paint_of_not_sent hno client
    refine ⟨hsess', ⟨d', hdet, hwf', hcfg ▸ hex, ?_⟩, fun _ => ?_, fun _ _ => ?_⟩
    · rw [hpaint]
      exact InSync.of_reference href hagree
    · rw [hpaint]
      exact hshown
    · rw [hpaint]
      exact hshown
  · have hagree : AgreeOn (InFrame frame.width frame.height)
        ((frameUpdate frame regions out).paint client) (pictureOf (frame.width * 4) data) :=
      ScreenUpdate.paint_agree hsync hcover (fun _ _ _ _ hc => hc) fun q hq _ =>
        frameUpdate_pixels hscope.fits hlen.ge hout regions q hq
    have hshown := hscope.tight.shownBy hbuf hagree
    rw [he]
    exact ⟨hsess', ⟨d', hdet, hwf', hcfg ▸ hex, InSync.of_reference href hagree⟩,
      fun _ => hshown, fun _ _ => hshown⟩

/-- A frame that is let go changes nothing. -/
theorem FrameDone.of_discarded {arrives : Prop} {p' : Pipeline} {exit : Exit}
    (hsess : SameSession p p') (hd : p'.damageDetector = some d) (hwf : d.WellFormed)
    (hex : d.config.Exact) (hsync : InSync client d) (hexit : exit.discarded = true) :
    FrameDone arrives frame client p (p', exit) := by
  have hno : exit.isSent = false := by
    cases exit with
    | sent frameId u => exact Bool.noConfusion hexit
    | _ => rfl
  refine ⟨hsess, ⟨d, hd, hwf, hex, ?_⟩, ?_, ?_⟩
  · show InSync (exit.paint client) d
    rw [Exit.paint_of_not_sent hno]
    exact hsync
  · intro h
    exact absurd (hno.symm.trans h) Bool.false_ne_true
  · intro h
    exact absurd (h.symm.trans hexit) Bool.false_ne_true

theorem FrameDone.mono {a b : Prop} {p' : Pipeline} {r : Pipeline × Exit}
    (h : FrameDone a frame client p' r) (hba : b → a) (hsess : SameSession p p') :
    FrameDone b frame client p r := by
  exact ⟨hsess.trans h.session, h.detector, h.sent, fun hexit hb => h.kept hexit (hba hb)⟩

/-- **One frame of the AVC branch.** -/
theorem avcFrame_done (i : Iteration) (hp : p.videoEncoder = some enc)
    (hsender : p.egfxSender = true) (hscope : frame.InScope) (hd : p.damageDetector = some d)
    (hwf : d.WellFormed) (hex : d.config.Exact) (hsync : InSync client d)
    (hkept : FrameKept platform cfg p frame i) :
    FrameDone (FullFrameArrives platform cfg p frame i) frame client p
      (avcFrame platform cfg p enc frame i) := by
  have hdrop : SameSession p p.dropFrame := ⟨rfl, rfl, rfl, rfl, rfl, rfl⟩
  have hfirst : SameSession p { p with forceFirstFrame := false } := ⟨rfl, rfl, rfl, rfl, rfl, rfl⟩
  have hsome : p.videoEncoder.isSome = true := by
    rw [hp]
    rfl
  unfold avcFrame
  by_cases hback : i.backpressured = true
  · rw [if_pos hback]
    exact .of_discarded hdrop hd hwf hex hsync rfl
  rw [if_neg hback]
  by_cases hthr : i.throttle = true
  · rw [if_pos hthr]
    exact .of_discarded hdrop hd hwf hex hsync rfl
  rw [if_neg hthr]
  rcases hbuf : frame.buffer with data | -
  · have hcond := hkept enc data d hp hsender (Bool.not_eq_true _ ▸ hback)
      (Bool.not_eq_true _ ▸ hthr) hbuf hd
    have harr : FullFrameArrives platform cfg p frame i ↔
        (p.forcesFullFrame enc i = true → delivers platform cfg p enc frame data i = true) := by
      unfold FullFrameArrives
      rw [hp, hbuf]
    dsimp only
    rw [wrapU32_of_lt hscope.fits.size_lt]
    by_cases hshort : data.length < frame.width * frame.height * 4
    · rw [if_pos hshort]
      exact .of_discarded hdrop hd hwf hex hsync rfl
    rw [if_neg hshort]
    rw [show (enc.isPeriodicIdrDue i.now || p.forceFirstFrame) = p.forcesFullFrame enc i from rfl]
    cases hforce : p.forcesFullFrame enc i with
    | true =>
        rw [hforce, if_pos rfl] at hcond
        refine (fullFrame_done (p := { p with forceFirstFrame := false }) i hsome hscope hbuf
          (by omega) hd hwf hex hsync hcond).mono ?_ hfirst
        exact fun h => harr.mp h hforce
    | false =>
        rw [hforce, if_neg Bool.false_ne_true] at hcond
        by_cases hlen : data.length = frame.width * frame.height * 4
        · obtain ⟨d', regions, hdetect, hdone⟩ :=
            detectedFrame_done (p := { p with forceFirstFrame := false })
              (FullFrameArrives platform cfg p frame i) i hsome hscope hbuf hlen hwf hex hsync
              (hcond hlen)
          simp only [selectDamage, hscope.noHints, hd, hdetect, ne_eq, not_true_eq_false, if_false,
            Bool.false_eq_true, Option.map_some]
          exact hdone.mono id hfirst
        · -- the assertion of `detect` fails
          have hassert : d.detect data frame.width frame.height = none := by
            refine if_pos ?_
            have hsize := hscope.fits.size_lt
            rw [DamageDetector.expectedLen, Nat.mod_eq_of_lt (by omega)]
            exact hlen
          simp only [selectDamage, hscope.noHints, hd, hassert, ne_eq, not_true_eq_false, if_false,
            Bool.false_eq_true, Option.map_none]
          exact .of_discarded ⟨rfl, rfl, rfl, rfl, rfl, rfl⟩ rfl hwf hex hsync rfl
  · exact .of_discarded hdrop hd hwf hex hsync rfl

/-- A frame sent uncompressed: nothing looks at the detector, which has no
reference. -/
theorem uncompressedFrame_done (i : Iteration) (hp : p.videoEncoder = none)
    (htight : frame.IsTight) (hd : p.damageDetector = some d) (hwf : d.WellFormed)
    (hex : d.config.Exact) (hnone : d.invalidated = true) :
    FrameDone (FullFrameArrives platform cfg p frame i) frame client p
      (uncompressedFrame p frame i) := by
  -- the detector has no reference, so it agrees with any client
  have hsync : ∀ client, InSync client d := by
    intro client w h prev hprev
    rw [DamageDetector.reference, if_pos (Or.inl hnone)] at hprev
    cases hprev
  unfold uncompressedFrame
  rcases hbuf : frame.buffer with data | -
  · dsimp only
    -- the send fails, and then the frame did not arrive
    rcases hsend : sendUncompressedFrame i.shared i.transport with e | frameId
    · refine ⟨⟨rfl, rfl, rfl, rfl, rfl, rfl⟩, ⟨d, hd, hwf, hex, hsync _⟩,
        fun h => Bool.noConfusion h, ?_⟩
      intro _ harr
      rw [FullFrameArrives, hp, hbuf] at harr
      dsimp only at harr
      rw [hsend] at harr
      cases harr
    · -- or the full frame is painted
      have hagree : AgreeOn (InFrame frame.width frame.height)
          (ScreenUpdate.paint ⟨[DamageRegion.fullFrame frame.width frame.height], 0, 0,
            frame.width * 4, data⟩ client) (pictureOf (frame.width * 4) data) := by
        exact agreeOn_overlay_all fun q hq => coveredBy_fullFrame hq
      have hshown := htight.shownBy hbuf hagree
      exact ⟨⟨rfl, rfl, rfl, rfl, rfl, rfl⟩, ⟨d, hd, hwf, hex, hsync _⟩, fun _ => hshown,
        fun _ _ => hshown⟩
  · exact .of_discarded ⟨rfl, rfl, rfl, rfl, rfl, rfl⟩ hd hwf hex (hsync client) rfl

end Done

end LamcoRdp
