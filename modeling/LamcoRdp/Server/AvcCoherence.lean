/-
LamcoRdp/Server/AvcCoherence.lean

The display loop with an H.264 client, from the first frame on.

The system is the loop and the client's surface.  Between two iterations another
client may connect, or the client may advertise its capabilities again; both
lose the surface and raise a flag that makes the loop start over.  As long as no
frame is lost between `detect` and the client (`FrameKept`), the client is in
sync with the detector whenever neither flag is up.
-/
import LamcoRdp.Server.AvcFrame
import LamcoRdp.Lib.Runs

namespace LamcoRdp

open Raster Runs Pipeline

/-! ### The system -/

/-- The pipeline, and the screen of its client. -/
structure Screen where
  pipe : Pipeline
  client : Surface
  /-- how the last iteration that had a frame ended -/
  fate : Exit

/-- An iteration of the loop, or what a client does to the connection. -/
inductive ScreenEvent
  /-- an iteration; `fresh` is what a surface set up in it shows -/
  | iterate (i : Iteration) (fresh : Surface)
  /-- another client connects -/
  | connect (fresh : Surface)
  /-- the client advertises its capabilities again -/
  | readvertise (fresh : Surface)

namespace Screen

variable (platform : Platform) (cfg : PipelineConfig)

/-- The iteration found no frame to work on. -/
def idled (s : Screen) (i : Iteration) : Bool :=
  match (frontEnd cfg s.pipe i).2 with
  | .error .waiting | .error .resizing => true
  | _ => false

/-- The state after an iteration. -/
def next (s : Screen) (i : Iteration) (fresh : Surface) : Screen :=
  let r := iterate platform cfg s.pipe i
  let shown := if r.1.surfacesCreated = s.pipe.surfacesCreated then s.client else fresh
  ⟨r.1, r.2.paint shown, if s.idled cfg i then s.fate else r.2⟩

/-- The client takes H.264, and the gate is not given up on. -/
def step (s : Screen) : ScreenEvent → Option Screen
  | .iterate i fresh =>
      if i.isAvcSupported = true ∧ i.gateTimedOut = false then some (s.next platform cfg i fresh)
      else none
  | .connect fresh => some { s with pipe.egfxNeedsInit := true, client := fresh }
  | .readvertise fresh => some { s with pipe.needsFullReinit := true, client := fresh }

/-- The loop starts, with damage tracking. -/
def init (config : DamageConfig) (client : Surface) : Screen :=
  ⟨.start (some (.new config)), client, .waiting⟩

end Screen

/-! ### Up to the gate -/

/-- What an iteration can do before it has a frame to send. -/
structure Idles (p p' : Pipeline) : Prop where
  surfacesCreated : p'.surfacesCreated = p.surfacesCreated
  needsFullReinit : p'.needsFullReinit = p.needsFullReinit
  notBypassed : p.egfxGateBypassed = false → p'.egfxGateBypassed = false
  needsInit : p.egfxNeedsInit = true → p'.egfxNeedsInit = true
  detector : p'.damageDetector = p.damageDetector ∨
    p'.damageDetector = p.damageDetector.map DamageDetector.invalidate
  sender : p'.egfxSender = true → p.egfxSender = true ∧ p'.videoEncoder = p.videoEncoder

theorem Idles.trans {p p' p'' : Pipeline} (h : Idles p p') (h' : Idles p' p'')
    (hdet : p''.damageDetector = p'.damageDetector) : Idles p p'' where
  surfacesCreated := h'.surfacesCreated.trans h.surfacesCreated
  needsFullReinit := h'.needsFullReinit.trans h.needsFullReinit
  notBypassed hb := h'.notBypassed (h.notBypassed hb)
  needsInit hn := h'.needsInit (h.needsInit hn)
  detector := hdet ▸ h.detector
  sender hs := by
    obtain ⟨hs', henc'⟩ := h'.sender hs
    obtain ⟨hs, henc⟩ := h.sender hs'
    exact ⟨hs, henc'.trans henc⟩

theorem idles_resetForClient (p : Pipeline) : Idles p p.resetForClient :=
  ⟨rfl, rfl, fun _ => rfl, fun _ => rfl, Or.inl rfl, fun h => Bool.noConfusion h⟩

/-- The frame an iteration works on is the cached one. -/
theorem acquireFrame_spec (p : Pipeline) (i : Iteration) :
    Idles p (p.acquireFrame i).1 ∧
      (p.acquireFrame i).1.damageDetector = p.damageDetector ∧
      ((∃ f, (p.acquireFrame i).2 = .ok f ∧ (p.acquireFrame i).1.cachedFrame = some f) ∨
        (p.acquireFrame i).2 = .error .clientInactive ∨
        (p.acquireFrame i).2 = .error .waiting ∧
          (p.acquireFrame i).1.cachedFrame = p.cachedFrame) := by
  unfold acquireFrame
  rcases i.received with - | f
  · dsimp only
    -- no frame: the client is gone, new, or known
    obtain ⟨p₁, hp₁, hidle, hdet, hcache⟩ : ∃ p₁,
        (if (!i.clientActive) = true then { p with wasClientActive := false }
          else if (!p.wasClientActive) = true then p.resetForClient else p) = p₁ ∧
        Idles p p₁ ∧ p₁.damageDetector = p.damageDetector ∧
          p₁.cachedFrame = p.cachedFrame := by
      refine ⟨_, rfl, ?_⟩
      rcases i.clientActive with - | -
      · exact ⟨⟨rfl, rfl, id, id, Or.inl rfl, fun h => ⟨h, rfl⟩⟩, rfl, rfl⟩
      · rcases p.wasClientActive with - | -
        · exact ⟨idles_resetForClient p, rfl, rfl⟩
        · exact ⟨⟨rfl, rfl, id, id, Or.inl rfl, fun h => ⟨h, rfl⟩⟩, rfl, rfl⟩
    rw [hp₁]
    by_cases hreplay : (i.clientActive && p₁.egfxNeedsInit && i.isEgfxReady .replay) = true
    · rw [if_pos hreplay]
      rcases hc : p₁.cachedFrame with - | f
      · exact ⟨hidle, hdet, Or.inr (Or.inr ⟨rfl, hcache⟩)⟩
      · exact ⟨hidle, hdet, Or.inl ⟨f, rfl, hc⟩⟩
    · rw [if_neg hreplay]
      exact ⟨hidle, hdet, Or.inr (Or.inr ⟨rfl, hcache⟩)⟩
  · dsimp only
    obtain ⟨p₁, hp₁, hidle, hdet, hcache⟩ : ∃ p₁ : Pipeline,
        (if p.pendingResize = true then
            { p with
              cachedFrame := some f, firstFrameReceived := true
              pendingResize := false, egfxNeedsInit := true }
          else { p with cachedFrame := some f, firstFrameReceived := true }) = p₁ ∧
        Idles p p₁ ∧ p₁.damageDetector = p.damageDetector ∧ p₁.cachedFrame = some f := by
      refine ⟨_, rfl, ?_⟩
      rcases p.pendingResize with - | -
      · exact ⟨⟨rfl, rfl, id, id, Or.inl rfl, fun h => ⟨h, rfl⟩⟩, rfl, rfl⟩
      · exact ⟨⟨rfl, rfl, id, fun _ => rfl, Or.inl rfl, fun h => ⟨h, rfl⟩⟩, rfl, rfl⟩
    rw [hp₁]
    rcases i.clientActive with - | -
    · exact ⟨hidle.trans ⟨rfl, rfl, id, id, Or.inl rfl, fun h => ⟨h, rfl⟩⟩ rfl, hdet,
        Or.inr (Or.inl rfl)⟩
    · rcases hwas : p₁.wasClientActive with - | -
      · exact ⟨hidle.trans (idles_resetForClient p₁) rfl, hdet, Or.inl ⟨f, rfl, hcache⟩⟩
      · exact ⟨hidle, hdet, Or.inl ⟨f, rfl, hcache⟩⟩

theorem orient_error {cfg : PipelineConfig} {frame : VideoFrame} {exit : Exit}
    (h : orient cfg frame = .error exit) : exit = .dmaBuf ∨ exit = .panicked := by
  unfold orient at h
  dsimp only at h
  split at h
  · cases h
  · split at h
    · cases h
      exact Or.inl rfl
    · split at h
      · cases h
        exact Or.inr rfl
      · cases h

/-- Pacing, orientation and the gate let a frame go, or pass it on upright. -/
theorem admitFrame_cases (cfg : PipelineConfig) (p : Pipeline) (f : VideoFrame) {i : Iteration}
    (hgate : i.gateTimedOut = false) :
    (∃ paced sent dropped exit, exit.discarded = true ∧ exit ≠ .waiting ∧ exit ≠ .resizing ∧
      admitFrame cfg p f i = ({ p with
        framesPaced := paced, framesSent := sent, framesDropped := dropped }, .error exit)) ∨
    ∃ frame, orient cfg f = .ok frame ∧
      admitFrame cfg p f i = ({ p with framesSent := p.framesSent + 1 }, .ok frame) := by
  rw [admitFrame]
  by_cases hpaced : (!i.shouldProcess) = true
  · rw [if_pos hpaced]
    exact Or.inl ⟨p.framesPaced + 1, p.framesSent, p.framesDropped, .paced, rfl, nofun, nofun, rfl⟩
  rw [if_neg hpaced]
  rcases hor : orient cfg f with exit | frame
  · refine Or.inl ⟨p.framesPaced, p.framesSent, p.framesDropped, exit, ?_⟩
    rcases orient_error hor with rfl | rfl
    · exact ⟨rfl, nofun, nofun, rfl⟩
    · exact ⟨rfl, nofun, nofun, rfl⟩
  · dsimp only
    by_cases hwait : (!p.egfxGateBypassed && !i.isEgfxReady .gate) = true
    · rw [if_pos hwait, hgate, Bool.and_false, if_neg Bool.false_ne_true]
      exact Or.inl ⟨p.framesPaced, p.framesSent + 1, p.framesDropped + 1, .gated, rfl, nofun, nofun,
        rfl⟩
    · rw [if_neg hwait]
      exact Or.inr ⟨frame, rfl, rfl⟩

/-- An iteration up to the gate: it ends without a frame to send, or what passes
is the cached frame turned upright. -/
theorem frontEnd_spec (cfg : PipelineConfig) (p : Pipeline) {i : Iteration}
    (hgate : i.gateTimedOut = false) :
    Idles p (frontEnd cfg p i).1 ∧
      ((∃ f frame, (frontEnd cfg p i).2 = .ok frame ∧
          (frontEnd cfg p i).1.cachedFrame = some f ∧ orient cfg f = .ok frame) ∨
        ∃ exit, (frontEnd cfg p i).2 = .error exit ∧ exit.discarded = true ∧
          ((frontEnd cfg p i).1.cachedFrame = p.cachedFrame ∨
            exit ≠ .waiting ∧ exit ≠ .resizing)) := by
  unfold frontEnd
  rcases i.resize with - | created
  · -- no resize: the frame is taken from the source, then it may be held back
    obtain ⟨hidle, -, hacq⟩ := acquireFrame_spec p i
    rcases hr : p.acquireFrame i with ⟨p₁, r⟩
    rw [hr] at hidle hacq
    obtain ⟨f, hok, hcache⟩ | hina | ⟨hwait, hcache⟩ := hacq
    · obtain rfl : r = .ok f := hok
      dsimp only
      -- paced, or not orientable: the frame is gone, and the cache stays
      rcases admitFrame_cases cfg p₁ f hgate with
        ⟨paced, sent, dropped, exit, hdis, hw, hr, he⟩ | ⟨frame, hor, he⟩
      · rw [he]
        exact ⟨hidle.trans ⟨rfl, rfl, id, id, Or.inl rfl, fun h => ⟨h, rfl⟩⟩ rfl,
          Or.inr ⟨exit, rfl, hdis, Or.inr ⟨hw, hr⟩⟩⟩
      · rw [he]
        exact ⟨hidle.trans ⟨rfl, rfl, id, id, Or.inl rfl, fun h => ⟨h, rfl⟩⟩ rfl,
          Or.inl ⟨f, frame, rfl, hcache, hor⟩⟩
    · obtain rfl : r = .error .clientInactive := hina
      exact ⟨hidle, Or.inr ⟨.clientInactive, rfl, rfl, Or.inr ⟨nofun, nofun⟩⟩⟩
    · obtain rfl : r = .error .waiting := hwait
      exact ⟨hidle, Or.inr ⟨.waiting, rfl, rfl, Or.inl hcache⟩⟩
  · -- a resize: this iteration sends nothing
    rcases created with - | -
    · exact ⟨⟨rfl, rfl, id, id, Or.inl rfl, fun h => ⟨h, rfl⟩⟩,
        Or.inr ⟨.resizing, rfl, rfl, Or.inl rfl⟩⟩
    · exact ⟨⟨rfl, rfl, id, id, Or.inr rfl, fun h => Bool.noConfusion h⟩,
        Or.inr ⟨.resizing, rfl, rfl, Or.inl rfl⟩⟩

/-! ### From the gate on -/

/-- The state in which the AVC branch meets the frame. -/
def avcEntry (cfg : PipelineConfig) (p : Pipeline) (frame : VideoFrame) (i : Iteration) :
    Pipeline :=
  if (p.prepare i).2 then initAvc cfg (p.prepare i).1 frame i else (p.prepare i).1

/-- The stress detector touches nothing but the encoder, and not the H.264 encoder
in it. -/
theorem applyStress_eq (p : Pipeline) (i : Iteration) :
    ∃ enc, p.applyStress i = { p with videoEncoder := enc } ∧
      enc.map VideoEncoder.h264 = p.videoEncoder.map VideoEncoder.h264 := by
  obtain ⟨enc, henc, hsame⟩ : ∃ enc, (if i.stressTriggers = true then
        { p with videoEncoder := p.videoEncoder.map VideoEncoder.requestIdr } else p)
      = { p with videoEncoder := enc } ∧
      enc.map VideoEncoder.h264 = p.videoEncoder.map VideoEncoder.h264 := by
    rcases i.stressTriggers with - | -
    · exact ⟨p.videoEncoder, rfl, rfl⟩
    · refine ⟨_, rfl, ?_⟩
      rcases p.videoEncoder with - | ⟨e | e⟩
      · rfl
      · rfl
      · rfl
  rw [applyStress, henc]
  rcases enc with - | ⟨e | e⟩
  · exact ⟨none, rfl, hsame⟩
  · exact ⟨some (.avc420 e), rfl, hsame⟩
  · rcases i.stressAuxInterval with - | interval
    · exact ⟨some (.avc444 e), rfl, hsame⟩
    · exact ⟨some (.avc444 (e.setAuxMaxInterval interval).1), rfl, hsame⟩

/-- Before the branches: the flag of a new surface is taken over, and nothing else
the frame depends on changes. -/
theorem prepare_spec (p : Pipeline) (i : Iteration) (hgate : p.egfxGateBypassed = false) :
    ∃ enc, enc.map VideoEncoder.h264 = p.videoEncoder.map VideoEncoder.h264 ∧
      p.prepare i = ({ p with
        videoEncoder := enc
        needsFullReinit := false
        egfxNeedsInit := p.egfxNeedsInit || p.needsFullReinit },
        p.egfxNeedsInit || p.needsFullReinit) := by
  obtain ⟨enc, henc, hsame⟩ := applyStress_eq p i
  refine ⟨enc, hsame, ?_⟩
  rw [prepare, henc, hgate]
  dsimp only
  rcases p.needsFullReinit with - | -
  · rcases p.egfxNeedsInit with - | -
    · rfl
    · rfl
  · rcases p.egfxNeedsInit with - | -
    · rfl
    · rfl

/-- The branch meets the frame with a new encoder and an invalidated detector, or
with everything as it was. -/
theorem avcEntry_cases (cfg : PipelineConfig) {p : Pipeline} (frame : VideoFrame) (i : Iteration)
    (hgate : p.egfxGateBypassed = false) :
    (avcEntry cfg p frame i).egfxGateBypassed = false ∧
      (avcEntry cfg p frame i).cachedFrame = p.cachedFrame ∧
      ((p.prepare i).2 = true ∧
          (avcEntry cfg p frame i).damageDetector
            = p.damageDetector.map DamageDetector.invalidate ∧
          (avcEntry cfg p frame i).videoEncoder = createEncoder cfg frame i ∨
        (p.prepare i).2 = false ∧ p.egfxNeedsInit = false ∧ p.needsFullReinit = false ∧
          (avcEntry cfg p frame i).damageDetector = p.damageDetector ∧
          (avcEntry cfg p frame i).videoEncoder.map VideoEncoder.h264
            = p.videoEncoder.map VideoEncoder.h264 ∧
          (avcEntry cfg p frame i).egfxSender = p.egfxSender ∧
          (avcEntry cfg p frame i).surfacesCreated = p.surfacesCreated) := by
  obtain ⟨enc, hsame, hprep⟩ := prepare_spec p i hgate
  unfold avcEntry
  rw [hprep]
  dsimp only
  cases hinit : p.egfxNeedsInit || p.needsFullReinit with
  -- initialisation makes a new encoder and a detector without a reference
  | true =>
      rw [if_pos rfl, initAvc]
      rcases i.surfaceCreated with - | -
      · exact ⟨hgate, rfl, Or.inl ⟨rfl, rfl, rfl⟩⟩
      · exact ⟨hgate, rfl, Or.inl ⟨rfl, rfl, rfl⟩⟩
  -- else both are taken over
  | false =>
      obtain ⟨hneeds, hfull⟩ := Bool.or_eq_false_iff.mp hinit
      exact ⟨hgate, rfl, Or.inr ⟨rfl, hneeds, hfull, rfl, hsame, rfl, rfl⟩⟩

/-- What the branch does with encoder and surface as they are. -/
theorem avcBranch_cases (platform : Platform) (cfg : PipelineConfig) (p : Pipeline)
    (frame : VideoFrame) (i : Iteration) :
    (p.egfxSender = false ∧ avcBranch platform cfg p false frame i = (p, .bitmap)) ∨
    (p.egfxSender = true ∧ p.videoEncoder = none ∧
      avcBranch platform cfg p false frame i = uncompressedFrame p frame i) ∨
    ∃ enc, p.egfxSender = true ∧ p.videoEncoder = some enc ∧
      avcBranch platform cfg p false frame i = avcFrame platform cfg p enc frame i := by
  cases hsender : p.egfxSender with
  | false => exact Or.inl ⟨rfl, by simp [avcBranch, hsender]⟩
  | true =>
      rcases henc : p.videoEncoder with - | enc
      · exact Or.inr (Or.inl ⟨rfl, rfl, by simp [avcBranch, hsender, henc]⟩)
      · exact Or.inr (Or.inr ⟨enc, rfl, rfl, by simp [avcBranch, hsender, henc]⟩)

/-- With an H.264 client the frame goes to the AVC branch. -/
theorem dispatch_eq (platform : Platform) (cfg : PipelineConfig) {p : Pipeline}
    (frame : VideoFrame) {i : Iteration} (hgate : p.egfxGateBypassed = false)
    (havc : i.isAvcSupported = true) :
    dispatch platform cfg p frame i
      = avcBranch platform cfg (avcEntry cfg p frame i) false frame i := by
  obtain ⟨enc, -, hprep⟩ := prepare_spec p i hgate
  unfold dispatch avcEntry avcBranch
  rw [hprep]
  simp only [hgate, havc, Bool.not_false, Bool.and_self, Bool.not_true, Bool.and_false,
    Bool.false_and, if_true, Bool.false_eq_true, if_false]

/-! ### The invariant -/

/-- The detector reports every changed pixel; it has no reference while frames go
out uncompressed. -/
structure Tracks (p : Pipeline) (d : DamageDetector) : Prop where
  detector : p.damageDetector = some d
  wellFormed : d.WellFormed
  exact : d.config.Exact
  fallback : p.videoEncoder = none → p.egfxSender = true → d.invalidated = true

/-- The client is in sync with the detector, unless it is to get a new surface. -/
structure Coherent (p : Pipeline) (client : Surface) : Prop where
  notBypassed : p.egfxGateBypassed = false
  inSync : ∃ d, Tracks p d ∧
    (p.egfxNeedsInit = true ∨ p.needsFullReinit = true ∨ InSync client d)

section Invariant

variable {platform : Platform} {cfg : PipelineConfig} {p p' : Pipeline} {client : Surface}
  {frame : VideoFrame} {d : DamageDetector} {i : Iteration}

theorem Tracks.invalidate (h : Tracks p d)
    (hdet : p'.damageDetector = p.damageDetector.map DamageDetector.invalidate) :
    Tracks p' d.invalidate := by
  refine ⟨?_, DamageDetector.wellFormed_invalidate, h.exact, fun _ _ => rfl⟩
  rw [hdet, h.detector]
  rfl

theorem Coherent.idles (h : Coherent p client) (hidle : Idles p p') : Coherent p' client := by
  refine ⟨hidle.notBypassed h.notBypassed, ?_⟩
  obtain ⟨d, hd, hflags⟩ := h.inSync
  rcases hidle.detector with hdet | hdet
  · refine ⟨d, ⟨hdet.trans hd.detector, hd.wellFormed, hd.exact, ?_⟩, ?_⟩
    · intro henc hsender
      obtain ⟨hs, he⟩ := hidle.sender hsender
      exact hd.fallback (he.symm.trans henc) hs
    · rcases hflags with hn | hr | hsync
      · exact Or.inl (hidle.needsInit hn)
      · exact Or.inr (Or.inl (hidle.needsFullReinit.trans hr))
      · exact Or.inr (Or.inr hsync)
  · exact ⟨d.invalidate, hd.invalidate hdet, Or.inr (Or.inr (inSync_invalidate client d))⟩

/-- When the AVC branch meets a frame, the client is in sync: a new surface comes
with an invalidated detector. -/
theorem avcEntry_spec (h : Coherent p client) (cfg : PipelineConfig) (frame : VideoFrame)
    (i : Iteration) (fresh : Surface) :
    (avcEntry cfg p frame i).egfxGateBypassed = false ∧
      (avcEntry cfg p frame i).cachedFrame = p.cachedFrame ∧
      ∃ d, Tracks (avcEntry cfg p frame i) d ∧
        InSync (if (avcEntry cfg p frame i).surfacesCreated = p.surfacesCreated then client
          else fresh) d := by
  obtain ⟨d, hd, hflags⟩ := h.inSync
  obtain ⟨hgate, hcache, ⟨-, hdet, -⟩ | ⟨-, hneeds, hfull, hdet, henc, hsender, hsurf⟩⟩ :=
    avcEntry_cases cfg frame i h.notBypassed
  · exact ⟨hgate, hcache, d.invalidate, hd.invalidate hdet, inSync_invalidate _ d⟩
  · have hsync : InSync client d := by
      rcases hflags with hn | hr | hsync
      · exact absurd (hneeds.symm.trans hn) Bool.false_ne_true
      · exact absurd (hfull.symm.trans hr) Bool.false_ne_true
      · exact hsync
    refine ⟨hgate, hcache, d, ⟨hdet.trans hd.detector, hd.wellFormed, hd.exact, ?_⟩, ?_⟩
    · intro hnone hs
      rw [hnone] at henc
      exact hd.fallback (Option.map_eq_none_iff.mp henc.symm) (hsender.symm.trans hs)
    · rw [if_pos hsurf]
      exact hsync

theorem uncompressedFrame_detector (p : Pipeline) (frame : VideoFrame) (i : Iteration) :
    (uncompressedFrame p frame i).1.damageDetector = p.damageDetector := by
  unfold uncompressedFrame
  rcases frame.buffer with data | -
  · dsimp only
    rcases sendUncompressedFrame i.shared i.transport with e | frameId
    · rfl
    · rfl
  · rfl

/-- **The branch keeps client and detector together.** -/
theorem avcBranch_done (hd : Tracks p d) (hsync : InSync client d) (hscope : frame.InScope)
    (hkept : FrameKept platform cfg p frame i) :
    FrameDone (FullFrameArrives platform cfg p frame i) frame client p
        (avcBranch platform cfg p false frame i) ∧
      ∃ d', Tracks (avcBranch platform cfg p false frame i).1 d' ∧
        InSync ((avcBranch platform cfg p false frame i).2.paint client) d' := by
  rcases avcBranch_cases platform cfg p frame i with
    ⟨-, hbranch⟩ | ⟨hsender, henc, hbranch⟩ | ⟨enc, hsender, henc, hbranch⟩
  · -- nothing to send with: the frame is discarded
    rw [hbranch]
    exact ⟨.of_discarded ⟨rfl, rfl, rfl, rfl, rfl, rfl⟩ hd.detector hd.wellFormed hd.exact hsync
      rfl, d, hd, hsync⟩
  · -- no encoder: the whole frame is sent uncompressed
    rw [hbranch]
    have hinv := hd.fallback henc hsender
    have hdone : FrameDone (FullFrameArrives platform cfg p frame i) frame client p
        (uncompressedFrame p frame i) :=
      uncompressedFrame_done i henc hscope.tight hd.detector hd.wellFormed hd.exact hinv
    obtain ⟨d', hdet, hwf, hex, hsync'⟩ := hdone.detector
    have hsame := (uncompressedFrame_detector p frame i).symm.trans hdet
    obtain rfl := Option.some.inj (hd.detector.symm.trans hsame)
    exact ⟨hdone, d, ⟨hdet, hwf, hex, fun _ _ => hinv⟩, hsync'⟩
  · -- an encoder: the branch proper, whose hypothesis is `hkept`
    rw [hbranch]
    have hdone := avcFrame_done i henc hsender hscope hd.detector hd.wellFormed hd.exact hsync hkept
    obtain ⟨d', hdet, hwf, hex, hsync'⟩ := hdone.detector
    refine ⟨hdone, d', ⟨hdet, hwf, hex, ?_⟩, hsync'⟩
    -- the encoder that sent is still there
    intro hnone
    have hsome := hdone.session.videoEncoder
    rw [henc, hnone] at hsome
    cases hsome

end Invariant

/-! ### Runs -/

namespace Screen

variable {platform : Platform} {cfg : PipelineConfig} {s t : Screen} {i : Iteration}
  {fresh : Surface}

/-- The frame an iteration has for the AVC branch, and the state in which the
branch meets it. -/
def entry (cfg : PipelineConfig) (s : Screen) (i : Iteration) : Option (Pipeline × VideoFrame) :=
  match frontEnd cfg s.pipe i with
  | (p, .ok frame) => some (avcEntry cfg p frame i, frame)
  | (_, .error _) => none

/-- Frames come without damage hints, laid out as the branch takes them. -/
def InScope (cfg : PipelineConfig) (s : Screen) : ScreenEvent → Prop
  | .iterate i _ => ∀ p frame, s.entry cfg i = some (p, frame) → frame.InScope
  | .connect _ | .readvertise _ => True

/-- No frame is lost between `detect` and the client. -/
def Keeps (platform : Platform) (cfg : PipelineConfig) (s : Screen) : ScreenEvent → Prop
  | .iterate i _ => ∀ p frame, s.entry cfg i = some (p, frame) → FrameKept platform cfg p frame i
  | .connect _ | .readvertise _ => True

/-- No frame that is to be sent in full is lost. -/
def FullFramesArrive (platform : Platform) (cfg : PipelineConfig) (s : Screen) :
    ScreenEvent → Prop
  | .iterate i _ =>
      ∀ p frame, s.entry cfg i = some (p, frame) → FullFrameArrives platform cfg p frame i
  | .connect _ | .readvertise _ => True

theorem step_iterate (hst : s.step platform cfg (.iterate i fresh) = some t) :
    i.isAvcSupported = true ∧ i.gateTimedOut = false ∧
      t.pipe = (iterate platform cfg s.pipe i).1 ∧
      t.client = (iterate platform cfg s.pipe i).2.paint
        (if (iterate platform cfg s.pipe i).1.surfacesCreated = s.pipe.surfacesCreated
          then s.client else fresh) ∧
      t.fate = if s.idled cfg i then s.fate else (iterate platform cfg s.pipe i).2 := by
  obtain ⟨⟨havc, hgate⟩, ht⟩ := Option.ite_none_right_eq_some.mp hst
  have ht := (Option.some.inj ht).symm
  refine ⟨havc, hgate, ?_⟩
  rw [ht]
  exact ⟨rfl, rfl, rfl⟩

/-- An iteration that has no frame for the branch. -/
theorem iterate_idle (hs : Coherent s.pipe s.client)
    (hst : s.step platform cfg (.iterate i fresh) = some t) {exit : Exit}
    (hfe : (frontEnd cfg s.pipe i).2 = .error exit) (hexit : exit.discarded = true) :
    (iterate platform cfg s.pipe i).2 = exit ∧ t.pipe = (frontEnd cfg s.pipe i).1 ∧
      t.client = s.client ∧ Coherent t.pipe t.client := by
  obtain ⟨-, hgate, hpipe, hclient, -⟩ := step_iterate hst
  obtain ⟨hidle, -⟩ := frontEnd_spec cfg s.pipe hgate
  have hit : iterate platform cfg s.pipe i = ((frontEnd cfg s.pipe i).1, exit) := by
    rcases hr : frontEnd cfg s.pipe i with ⟨p, r⟩
    rw [hr] at hfe
    obtain rfl : r = .error exit := hfe
    unfold iterate
    rw [hr]
  have hno : exit.isSent = false := by
    cases exit with
    | sent frameId u => exact Bool.noConfusion hexit
    | _ => rfl
  rw [hit] at hpipe hclient
  rw [if_pos hidle.surfacesCreated, Exit.paint_of_not_sent hno] at hclient
  refine ⟨by rw [hit], hpipe, hclient, ?_⟩
  rw [hpipe, hclient]
  exact hs.idles hidle

/-- An iteration that has one. -/
theorem iterate_works (hs : Coherent s.pipe s.client)
    (hst : s.step platform cfg (.iterate i fresh) = some t)
    (hscope : s.InScope cfg (.iterate i fresh)) (hkeeps : s.Keeps platform cfg (.iterate i fresh))
    {frame : VideoFrame} (hfe : (frontEnd cfg s.pipe i).2 = .ok frame) :
    ∃ p, s.entry cfg i = some (p, frame) ∧ Coherent t.pipe t.client ∧
      t.pipe.cachedFrame = (frontEnd cfg s.pipe i).1.cachedFrame ∧
      t.fate = (iterate platform cfg s.pipe i).2 ∧
      ((iterate platform cfg s.pipe i).2.isSent = true → frame.ShownBy t.client) ∧
      (t.fate.discarded = false → FullFrameArrives platform cfg p frame i →
        frame.ShownBy t.client) := by
  obtain ⟨havc, hgate, hpipe, hclient, hfate⟩ := step_iterate hst
  obtain ⟨hidle, -⟩ := frontEnd_spec cfg s.pipe hgate
  rcases hr : frontEnd cfg s.pipe i with ⟨p₀, r⟩
  rw [hr] at hfe hidle
  obtain rfl : r = .ok frame := hfe
  have hs₀ := hs.idles hidle
  have hentry : s.entry cfg i = some (avcEntry cfg p₀ frame i, frame) := by
    unfold entry
    rw [hr]
  have hnotIdled : s.idled cfg i = false := by
    unfold idled
    rw [hr]
  have hit : iterate platform cfg s.pipe i
      = avcBranch platform cfg (avcEntry cfg p₀ frame i) false frame i := by
    rw [← dispatch_eq platform cfg frame hs₀.notBypassed havc]
    unfold iterate
    rw [hr]
  rw [hnotIdled, if_neg Bool.false_ne_true] at hfate
  obtain ⟨hgate₁, hcache₁, d, hd, hsync⟩ := avcEntry_spec hs₀ cfg frame i fresh
  obtain ⟨hdone, d', hd', hsync'⟩ :=
    avcBranch_done hd hsync (hscope _ _ hentry) (hkeeps _ _ hentry)
  rw [← hit] at hdone hd' hsync'
  -- the surface the frame is painted on
  rw [hdone.session.surfacesCreated, ← hidle.surfacesCreated] at hclient
  rw [← hclient] at hsync'
  rw [← hpipe] at hd'
  have hsent := hdone.sent
  have hkept := hdone.kept
  rw [← hclient] at hsent hkept
  refine ⟨_, hentry, ⟨?_, d', hd', Or.inr (Or.inr hsync')⟩, ?_, hfate, hsent, ?_⟩
  · rw [hpipe]
    exact hdone.session.egfxGateBypassed.trans hgate₁
  · rw [hpipe]
    exact hdone.session.cachedFrame.trans hcache₁
  · rw [hfate]
    exact hkept

/-- **Every event keeps the invariant.** -/
theorem step_coherent (hs : Coherent s.pipe s.client) {e : ScreenEvent}
    (hst : s.step platform cfg e = some t) (hscope : s.InScope cfg e)
    (hkeeps : s.Keeps platform cfg e) : Coherent t.pipe t.client := by
  cases e with
  | iterate i fresh =>
      obtain ⟨-, hgate, -⟩ := step_iterate hst
      obtain ⟨-, ⟨f, frame, hok, -, -⟩ | ⟨exit, herr, hexit, -⟩⟩ :=
        frontEnd_spec cfg s.pipe hgate
      · obtain ⟨-, -, hcoh, -⟩ := iterate_works hs hst hscope hkeeps hok
        exact hcoh
      · exact (iterate_idle hs hst herr hexit).2.2.2
  | connect fresh =>
      obtain rfl := Option.some.inj hst
      obtain ⟨d, hd, -⟩ := hs.inSync
      exact ⟨hs.notBypassed, d, ⟨hd.1, hd.2, hd.3, hd.4⟩, Or.inl rfl⟩
  | readvertise fresh =>
      obtain rfl := Option.some.inj hst
      obtain ⟨d, hd, -⟩ := hs.inSync
      exact ⟨hs.notBypassed, d, ⟨hd.1, hd.2, hd.3, hd.4⟩, Or.inr (Or.inl rfl)⟩

theorem coherent_init {config : DamageConfig} (hex : config.Exact) (client : Surface) :
    Coherent (init config client).pipe (init config client).client :=
  ⟨rfl, .new config, ⟨rfl, DamageDetector.wellFormed_new config, hex, fun _ _ => rfl⟩, Or.inl rfl⟩

end Screen

/-- In every run in which no frame is lost between `detect` and the client: an
iteration that sends leaves the client with the frame it sent, in every pixel. -/
theorem avc_shows_sent_frame (platform : Platform) (cfg : PipelineConfig) {config : DamageConfig}
    (hex : config.Exact) (client : Surface) {es : List ScreenEvent} {s t : Screen}
    (hr : Run (Guarded (StepOf (Screen.step platform cfg))
      fun s e => s.InScope cfg e ∧ s.Keeps platform cfg e) (Screen.init config client) es s)
    {i : Iteration} {fresh : Surface}
    (hst : s.step platform cfg (.iterate i fresh) = some t)
    (hscope : s.InScope cfg (.iterate i fresh)) (hkeeps : s.Keeps platform cfg (.iterate i fresh))
    (hsent : (iterate platform cfg s.pipe i).2.isSent = true) :
    ∃ p frame, s.entry cfg i = some (p, frame) ∧ frame.ShownBy t.client := by
  have hs : Coherent s.pipe s.client :=
    Run.invariant (P := fun s => Coherent s.pipe s.client) (Screen.coherent_init hex client)
      (fun hs hst => Screen.step_coherent hs hst.1 hst.2.1 hst.2.2) hr
  obtain ⟨-, hgate, -⟩ := Screen.step_iterate hst
  obtain ⟨-, ⟨f, frame, hok, -, -⟩ | ⟨exit, herr, hexit, -⟩⟩ := frontEnd_spec cfg s.pipe hgate
  · obtain ⟨p, hentry, -, -, -, hshown, -⟩ := Screen.iterate_works hs hst hscope hkeeps hok
    exact ⟨p, frame, hentry, hshown hsent⟩
  · obtain ⟨hexit', -⟩ := Screen.iterate_idle hs hst herr hexit
    rw [hexit'] at hsent
    cases exit with
    | sent frameId u => exact Bool.noConfusion hexit
    | _ => exact Bool.noConfusion hsent

/-! ### A frame the governor holds back -/

theorem acquireFrame_received {p : Pipeline} {i : Iteration} {f g : VideoFrame}
    (hrec : i.received = some f) (h : (p.acquireFrame i).2 = .ok g) : g = f := by
  rw [acquireFrame, hrec] at h
  dsimp only at h
  cases hactive : i.clientActive with
  | false =>
      rw [hactive, Bool.not_false, if_pos rfl] at h
      cases h
  | true =>
      rw [hactive, Bool.not_true, if_neg Bool.false_ne_true] at h
      exact (Except.ok.inj h).symm

theorem admitFrame_ok {cfg : PipelineConfig} {p : Pipeline} {i : Iteration} {f frame : VideoFrame}
    (h : (admitFrame cfg p f i).2 = .ok frame) : orient cfg f = .ok frame := by
  unfold admitFrame at h
  rcases hor : orient cfg f with exit | upright
  · rw [hor] at h
    dsimp only at h
    split_ifs at h
  · rw [hor] at h
    dsimp only at h
    split_ifs at h
    · exact h
    · exact h

/-- The frame of an iteration that received one is that one, turned upright. -/
theorem Screen.entry_of_received {cfg : PipelineConfig} {s : Screen} {i : Iteration}
    {f frame : VideoFrame} {p : Pipeline} (hrec : i.received = some f)
    (h : s.entry cfg i = some (p, frame)) : orient cfg f = .ok frame := by
  unfold Screen.entry frontEnd at h
  rcases hres : i.resize with - | created
  · rw [hres] at h
    dsimp only at h
    rcases hacq : s.pipe.acquireFrame i with ⟨p₁, exit | g⟩
    · rw [hacq] at h
      cases h
    · rw [hacq] at h
      obtain rfl : g = f := acquireFrame_received hrec (by rw [hacq])
      dsimp only at h
      rcases hadm : admitFrame cfg p₁ g i with ⟨p₂, exit | upright⟩
      · rw [hadm] at h
        cases h
      · rw [hadm] at h
        obtain ⟨-, rfl⟩ := Prod.mk.inj (Option.some.inj h)
        exact admitFrame_ok (by rw [hadm])
  · rw [hres] at h
    cases h

/-- The size of the frames. -/
def Screen.HasSize (cfg : PipelineConfig) (width height : ℕ) (s : Screen) : ScreenEvent → Prop
  | .iterate i _ =>
      ∀ p frame, s.entry cfg i = some (p, frame) → frame.width = width ∧ frame.height = height
  | .connect _ | .readvertise _ => True

/-- An iteration with a frame of two pixels, all going well. -/
def twoPixels (data : List UInt8) : Iteration := .smooth (some (.tight 2 1 data))

theorem twoPixels_inScope (i : Iteration) (data : List UInt8) (fresh : Surface)
    (hi : i.received = some (.tight 2 1 data)) (s : Screen) :
    s.InScope .plain (.iterate i fresh) ∧ s.HasSize .plain 2 1 (.iterate i fresh) := by
  have hframe : ∀ p frame, s.entry .plain i = some (p, frame) → .tight 2 1 data = frame :=
    fun p frame h => Except.ok.inj (Screen.entry_of_received hi h)
  constructor
  · intro p frame h
    obtain rfl := hframe p frame h
    refine ⟨rfl, Or.inl rfl, ⟨?_, ?_, ?_⟩⟩
    · exact Nat.le_succ 1
    · exact Nat.le_refl 1
    · show (2 + 15) / 16 * 16 * ((1 + 15) / 16 * 16) * 4 < 2 ^ 32
      decide
  · intro p frame h
    obtain rfl := hframe p frame h
    exact ⟨rfl, rfl⟩

/-- A frame goes out; the governor waits for more with the next one, whose second
pixel differs. -/
def heldBackChange : List ScreenEvent :=
  [.iterate (twoPixels [1, 1, 1, 0, 2, 2, 2, 0]) blackSurface,
    .iterate { twoPixels [1, 1, 1, 0, 3, 3, 3, 0] with encodingDecision := .waitForMore }
      blackSurface]

/-- More comes, but in the first pixel only.  It is sent, and the client still
shows the second pixel of the first frame. -/
theorem held_back_frame_leaves_damage :
    ¬ ∀ (platform : Platform) (cfg : PipelineConfig) (config : DamageConfig) (client : Surface)
      (width height : ℕ) (es : List ScreenEvent) (s t : Screen) (i : Iteration) (fresh : Surface),
      config.Exact →
      Run (Guarded (StepOf (Screen.step platform cfg))
        fun s e => s.InScope cfg e ∧ s.HasSize cfg width height e)
        (Screen.init config client) es s →
      s.step platform cfg (.iterate i fresh) = some t →
      s.InScope cfg (.iterate i fresh) ∧ s.HasSize cfg width height (.iterate i fresh) →
      (iterate platform cfg s.pipe i).2.isSent = true →
      ∃ p frame, s.entry cfg i = some (p, frame) ∧ frame.ShownBy t.client := by
  intro hall
  -- after the frame that was held back, one with the other pixel changed is sent
  have hrun : ((heldBackChange.foldlM (Screen.step plainPlatform .plain)
        (Screen.init .everyPixel blackSurface)).any fun s =>
      (s.step plainPlatform .plain
        (.iterate (twoPixels [4, 4, 4, 0, 3, 3, 3, 0]) blackSurface)).any fun t =>
      (iterate plainPlatform .plain s.pipe (twoPixels [4, 4, 4, 0, 3, 3, 3, 0])).2.isSent &&
        decide (t.client (1, 0) = (2, 2, 2))) = true := by decide +kernel
  obtain ⟨s, hs, hstep⟩ := (Option.any_eq_true _ _).mp hrun
  obtain ⟨t, ht, hend⟩ := (Option.any_eq_true _ _).mp hstep
  rw [Bool.and_eq_true, decide_eq_true_iff] at hend
  obtain ⟨hsent, hstale⟩ := hend
  have hscope : ∀ e ∈ heldBackChange, ∀ s : Screen,
      s.InScope .plain e ∧ s.HasSize .plain 2 1 e := by
    intro e he s
    simp only [heldBackChange, List.mem_cons, List.not_mem_nil, or_false] at he
    rcases he with rfl | rfl
    · exact twoPixels_inScope _ _ _ rfl s
    · exact twoPixels_inScope _ _ _ rfl s
  obtain ⟨p, frame, hentry, data, hbuf, hagree⟩ := hall plainPlatform .plain .everyPixel
    blackSurface 2 1 heldBackChange s t _ blackSurface DamageConfig.exact_everyPixel
    ((Run.of_foldlM hs).guarded hscope) ht (twoPixels_inScope _ _ _ rfl s) hsent
  obtain rfl := Except.ok.inj (Screen.entry_of_received (i := twoPixels _) rfl hentry)
  obtain rfl := FrameBuffer.memory.inj hbuf
  have hpixel := hagree (1, 0) ⟨by decide, by decide⟩
  rw [hstale] at hpixel
  exact absurd hpixel (by decide)

/-- A frame that arrives does no harm, unless it is sent in full next to a
reference. -/
theorem frameKept_of_arrives {platform : Platform} {cfg : PipelineConfig} {p : Pipeline}
    {frame : VideoFrame} {data : List UInt8} {i : Iteration}
    (hbuf : frame.buffer = .memory data) (hdec : i.encodingDecision.shouldEncode = true)
    (hdel : ∀ enc, p.videoEncoder = some enc → delivers platform cfg p enc frame data i = true)
    (hforce : (∀ enc, p.videoEncoder = some enc → p.forcesFullFrame enc i = false) ∨
      ∀ d, p.damageDetector = some d → d.invalidated = true) :
    FrameKept platform cfg p frame i := by
  intro enc data' d henc _ _ _ hbuf' hd
  obtain rfl := FrameBuffer.memory.inj (hbuf.symm.trans hbuf')
  rcases hforce with hforce | hinv
  · rw [hforce enc henc, if_neg Bool.false_ne_true]
    exact fun _ => Or.inr ⟨hdec, hdel enc henc⟩
  · split
    · intro _ w h prev hprev
      rw [DamageDetector.reference, if_pos (Or.inl (hinv d hd))] at hprev
      cases hprev
    · exact fun _ => Or.inr ⟨hdec, hdel enc henc⟩

/-- The first frame, sent in full, arrives before the detector has a reference. -/
theorem firstFrame_keeps : (Screen.init .everyPixel blackSurface).Keeps plainPlatform .plain
    (.iterate (twoPixels [1, 1, 1, 0, 2, 2, 2, 0]) blackSurface) := by
  intro p frame h
  obtain ⟨rfl, rfl⟩ := Prod.mk.inj (Option.some.inj h)
  refine frameKept_of_arrives rfl rfl ?_ (Or.inr ?_)
  · rintro enc henc
    obtain rfl := Option.some.inj henc
    decide +kernel
  · rintro d hd
    obtain rfl := Option.some.inj hd
    rfl

/-- Both frames arrive: the client shows the second. -/
theorem avc_shows_sent_frame_two_frames :
    ∃ s t, Run (Guarded (StepOf (Screen.step plainPlatform .plain))
        fun s e => s.InScope .plain e ∧ s.Keeps plainPlatform .plain e)
        (Screen.init .everyPixel blackSurface)
        [.iterate (twoPixels [1, 1, 1, 0, 2, 2, 2, 0]) blackSurface] s ∧
      s.step plainPlatform .plain
        (.iterate (twoPixels [1, 1, 1, 0, 3, 3, 3, 0]) blackSurface) = some t ∧
      (VideoFrame.tight 2 1 [1, 1, 1, 0, 3, 3, 3, 0]).ShownBy t.client := by
  have hrun : (((Screen.init .everyPixel blackSurface).step plainPlatform .plain
        (.iterate (twoPixels [1, 1, 1, 0, 2, 2, 2, 0]) blackSurface)).any fun s =>
      (s.step plainPlatform .plain
        (.iterate (twoPixels [1, 1, 1, 0, 3, 3, 3, 0]) blackSurface)).any fun _ =>
      (iterate plainPlatform .plain s.pipe (twoPixels [1, 1, 1, 0, 3, 3, 3, 0])).2.isSent &&
        (s.entry .plain (twoPixels [1, 1, 1, 0, 3, 3, 3, 0])).all fun r =>
          r.1.videoEncoder.all fun enc =>
            !r.1.forcesFullFrame enc (twoPixels [1, 1, 1, 0, 3, 3, 3, 0]) &&
              delivers plainPlatform .plain r.1 enc r.2 [1, 1, 1, 0, 3, 3, 3, 0]
                (twoPixels [1, 1, 1, 0, 3, 3, 3, 0])) = true := by decide +kernel
  obtain ⟨s, hs, hstep⟩ := (Option.any_eq_true _ _).mp hrun
  obtain ⟨t, ht, hend⟩ := (Option.any_eq_true _ _).mp hstep
  obtain ⟨hsent, harrives⟩ := (Bool.and_eq_true _ _).mp hend
  have hframe : ∀ p frame, s.entry .plain (twoPixels [1, 1, 1, 0, 3, 3, 3, 0]) = some (p, frame) →
      .tight 2 1 [1, 1, 1, 0, 3, 3, 3, 0] = frame :=
    fun p frame h => Except.ok.inj (Screen.entry_of_received (i := twoPixels _) rfl h)
  have hkeeps : s.Keeps plainPlatform .plain
      (.iterate (twoPixels [1, 1, 1, 0, 3, 3, 3, 0]) blackSurface) := by
    intro p frame h
    obtain rfl := hframe p frame h
    rw [h, Option.all_some] at harrives
    have hboth := fun enc henc => (Bool.and_eq_true _ _).mp
      ((Option.all_eq_true _ _).mp harrives enc henc)
    exact frameKept_of_arrives rfl rfl (fun enc henc => (hboth enc henc).2)
      (Or.inl fun enc henc => (Bool.not_eq_true' _).mp (hboth enc henc).1)
  have hr : Run (Guarded (StepOf (Screen.step plainPlatform .plain))
      fun s e => s.InScope .plain e ∧ s.Keeps plainPlatform .plain e)
      (Screen.init .everyPixel blackSurface)
      [.iterate (twoPixels [1, 1, 1, 0, 2, 2, 2, 0]) blackSurface] s :=
    Run.nil.snoc ⟨hs, (twoPixels_inScope _ _ _ rfl _).1, firstFrame_keeps⟩
  obtain ⟨p, frame, hentry, hshown⟩ := avc_shows_sent_frame plainPlatform .plain
    DamageConfig.exact_everyPixel blackSurface hr ht (twoPixels_inScope _ _ _ rfl s).1 hkeeps hsent
  obtain rfl := hframe p frame hentry
  exact ⟨s, t, hr, ht, hshown⟩

end LamcoRdp
