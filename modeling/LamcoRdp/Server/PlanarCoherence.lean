/-
LamcoRdp/Server/PlanarCoherence.lean

The Planar branch keeps client and detector together.

`detect` moves the reference before anything is sent.  The branch makes up for
it: what it drops, it drops before `detect`; a frame without damage agrees with
the old reference; and after a failed send the detector is invalidated.  So
after every iteration the detector is invalidated, or the client shows exactly
its reference.
-/
import LamcoRdp.Server.Screen
import LamcoRdp.Lib.Runs

namespace LamcoRdp

open Raster Runs Pipeline

/-! ### The system -/

/-- The pipeline, and the surface of its client. -/
structure PlanarState where
  pipe : Pipeline
  client : Surface

/-- One iteration of the branch.  `fresh` is what a newly created surface shows. -/
structure PlanarEvent where
  needsInit : Bool
  frame : VideoFrame
  input : Iteration
  fresh : Surface

/-- The iteration of an event. -/
def PlanarState.run (s : PlanarState) (e : PlanarEvent) : Pipeline × Exit :=
  s.pipe.planarBranch e.needsInit e.frame e.input

/-- Frames have the given sides; the stride is a `u32`. -/
def PlanarState.step (width height : ℕ) (s : PlanarState) (e : PlanarEvent) :
    Option PlanarState :=
  if e.frame.width = width ∧ e.frame.height = height ∧ e.frame.stride < 2 ^ 32 then
    let (p, exit) := s.run e
    let shown := if p.surfacesCreated = s.pipe.surfacesCreated then s.client else e.fresh
    some ⟨p, exit.paint shown⟩
  else none

/-- The detector reports every changed pixel, and it is invalidated or the client
shows its reference. -/
structure PlanarInSync (width height : ℕ) (client : Surface) (detector : Option DamageDetector) :
    Prop where
  exists_detector : ∃ d, detector = some d ∧ d.WellFormed ∧ d.config.Exact ∧
    (d.invalidated = true ∨ ∃ prev, d.reference width height = some prev ∧
      AgreeOn (InFrame width height) client (pictureOf (width * 4) prev))

section Branch

variable {width height : ℕ}

theorem DamageDetector.reference_of_invalidated {d : DamageDetector} (h : d.invalidated = true)
    (w k : ℕ) : d.reference w k = none :=
  if_pos (Or.inl h)

theorem inSync_of_invalidated {client : Surface} {d : DamageDetector}
    (h : d.invalidated = true ∨ ∃ prev, d.reference width height = some prev ∧
      AgreeOn (InFrame width height) client (pictureOf (width * 4) prev)) :
    InSync client d := by
  rcases h with h | ⟨prev, hprev, hagree⟩
  · intro w k prev hr
    rw [d.reference_of_invalidated h] at hr
    cases hr
  · exact InSync.of_reference hprev hagree

theorem PlanarInSync.invalidate {client client' : Surface} {detector : Option DamageDetector}
    (h : PlanarInSync width height client detector) :
    PlanarInSync width height client' (detector.map DamageDetector.invalidate) := by
  obtain ⟨d, rfl, -, hex, -⟩ := h.exists_detector
  exact ⟨d.invalidate, rfl, DamageDetector.wellFormed_invalidate, hex, Or.inl rfl⟩

/-- Cutting out the damage and sending it: the send fails and the detector is
invalidated, or the client is painted with the frame's pixels. -/
theorem sendDamage_cases (hw : width ≤ 65535) (hh : height ≤ 65535) {p : Pipeline}
    {tight : List UInt8} (hlen : tight.length = width * height * 4) {damage : DamageRegion}
    (hin : damage.Inside width height) (hdw : 0 < damage.width) (hdh : 0 < damage.height)
    (i : Iteration) :
    (∃ e, sendDamage p tight (width * 4) damage i
      = (p.invalidateDetector.dropFrame, .sendFailed e)) ∨
    (∃ p' frameId u, sendDamage p tight (width * 4) damage i = (p', .sent frameId u) ∧
      p'.damageDetector = p.damageDetector ∧ p'.surfacesCreated = p.surfacesCreated ∧
      u.regions = [damage] ∧
      ∀ q, damage.Covers q.1 q.2 → pictureOf u.stride u.pixels (q.1 - u.left, q.2 - u.top)
        = pictureOf (width * 4) tight q) := by
  have hsize : width * height ≤ 65535 * 65535 := Nat.mul_le_mul hw hh
  obtain ⟨compact, hcompact, hclen, hpix⟩ := compactBgraRegion_spec hlen (by omega) hin hdw hdh
  obtain ⟨hx, hy⟩ := hin
  have hsend := sendPlanarFrame_of_tight i.shared i.transport
    ⟨damage.x, damage.y, damage.width, damage.height, compact, damage.width * 4⟩ hdw rfl hclen
  simp only [sendDamage, hcompact]
  rw [if_neg (by omega), if_neg (by omega)]
  -- the rectangle is sent, or the detector forgets its reference
  rcases hsend with ⟨e, he⟩ | ⟨frameId, hok⟩
  · rw [he]
    exact Or.inl ⟨e, rfl⟩
  · rw [hok]
    refine Or.inr ⟨_, frameId, _, rfl, rfl, rfl, rfl, ?_⟩
    -- what is painted at a point of the rectangle comes from the frame
    rintro ⟨px, py⟩ ⟨hx₁, hx₂, hy₁, hy₂⟩
    have hrel := pictureOf_congr (hpix (py - damage.y) (by omega) (px - damage.x) (by omega))
    rw [show damage.x + (px - damage.x) = px by omega,
      show damage.y + (py - damage.y) = py by omega] at hrel
    exact hrel

/-- A frame of the branch after its checks. -/
theorem planarFrame_cases (p : Pipeline) (frame : VideoFrame) (i : Iteration) :
    ∃ p₁, (p₁.damageDetector = p.damageDetector ∨
        p₁.damageDetector = p.damageDetector.map DamageDetector.invalidate) ∧
      p₁.surfacesCreated = p.surfacesCreated ∧
      ((∃ exit, exit.isSent = false ∧ planarFrame p frame i = (p₁, exit)) ∨
        ∃ data, frame.buffer = .memory data ∧ frame.width * 4 ≤ frame.stride ∧
          min (frame.stride * frame.height) (2 ^ 64 - 1) ≤ data.length ∧
          planarFrame p frame i =
            match planarDamage p₁.damageDetector frame
              (tightPixels data frame.stride (frame.width * 4) frame.height) with
            | none => (p₁, .panicked)
            | some (detector, damageRegions) =>
                match boundingDamageRegion damageRegions frame.width frame.height with
                | none => ({ p₁ with
                    damageDetector := detector
                    forceFirstFrame := false
                    framesSkippedDamage := p₁.framesSkippedDamage + 1 }, .noDamage)
                | some damage => sendDamage
                    { p₁ with damageDetector := detector, forceFirstFrame := false }
                    (tightPixels data frame.stride (frame.width * 4) frame.height)
                    (frame.width * 4) damage i) := by
  unfold planarFrame
  by_cases hback : (i.backpressured && decide (i.recovered = 0)) = true
  · rw [if_pos hback]
    exact ⟨p.dropFrame, Or.inl rfl, rfl, Or.inl ⟨.backpressured, rfl, rfl⟩⟩
  rw [if_neg hback]
  -- recovered acknowledgements invalidate the detector before anything else
  obtain ⟨p₁, hp₁, hdet, hsurf⟩ : ∃ p₁,
      (if i.backpressured then { p.invalidateDetector with forceFirstFrame := true } else p) = p₁ ∧
      (p₁.damageDetector = p.damageDetector ∨
        p₁.damageDetector = p.damageDetector.map DamageDetector.invalidate) ∧
      p₁.surfacesCreated = p.surfacesCreated := by
    rcases i.backpressured with - | -
    · exact ⟨p, rfl, Or.inl rfl, rfl⟩
    · exact ⟨_, rfl, Or.inr rfl, rfl⟩
  rw [hp₁]
  rcases hbuf : frame.buffer with data | -
  · dsimp only
    by_cases hinv : frame.stride < frame.width * 4 ∨
        data.length < min (frame.stride * frame.height) (2 ^ 64 - 1)
    · rw [if_pos hinv]
      exact ⟨p₁.dropFrame, hdet, hsurf, Or.inl ⟨.invalidFrame, rfl, rfl⟩⟩
    · rw [if_neg hinv]
      push Not at hinv
      exact ⟨p₁, hdet, hsurf, Or.inr ⟨data, rfl, hinv.1, hinv.2, rfl⟩⟩
  · exact ⟨p₁.dropFrame, hdet, hsurf, Or.inl ⟨.dmaBuf, rfl, rfl⟩⟩

/-- What holds after an iteration: client and detector are together, and a frame
that was sent is what the client shows. -/
def PlanarDone (width height : ℕ) (frame : VideoFrame) (client : Surface)
    (r : Pipeline × Exit) : Prop :=
  PlanarInSync width height (r.2.paint client) r.1.damageDetector ∧
    (r.2.isSent = true → ∃ data, frame.buffer = .memory data ∧
      AgreeOn (InFrame width height) (r.2.paint client) (pictureOf frame.stride data))

/-- From the damage on: nothing changed, or the damage is sent, or the send fails. -/
theorem planarDamage_done (hw : width ≤ 65535) (hh : height ≤ 65535) {p : Pipeline}
    {frame : VideoFrame} {client : Surface} {data : List UInt8} (hbuf : frame.buffer = .memory data)
    (hfw : frame.width = width) (hfh : frame.height = height) (hrow : width * 4 ≤ frame.stride)
    (hlen : frame.stride * height ≤ data.length)
    (hsync : PlanarInSync width height client p.damageDetector) (i : Iteration) :
    ∃ detector damageRegions,
      planarDamage p.damageDetector frame
        (tightPixels data frame.stride (width * 4) height) = some (detector, damageRegions) ∧
      (boundingDamageRegion damageRegions width height = none →
        PlanarInSync width height client detector) ∧
      ∀ damage, boundingDamageRegion damageRegions width height = some damage →
        ∀ p₁ : Pipeline, p₁.damageDetector = detector →
          PlanarDone width height frame client (sendDamage p₁
            (tightPixels data frame.stride (width * 4) height) (width * 4) damage i) ∧
          (sendDamage p₁ (tightPixels data frame.stride (width * 4) height) (width * 4)
            damage i).1.surfacesCreated = p₁.surfacesCreated := by
  have hsize : width * height ≤ 65535 * 65535 := Nat.mul_le_mul hw hh
  have hw32 : width < 2 ^ 32 := by omega
  have hh32 : height < 2 ^ 32 := by omega
  obtain ⟨d, hd, hwf, hex, hd'⟩ := hsync.exists_detector
  obtain ⟨htlen, htpix⟩ := tightPixels_spec hrow hlen
  set tight := tightPixels data frame.stride (width * 4) height
  obtain ⟨d', regions, hdet, hwf', hcfg, href, -, hcover⟩ :=
    DamageDetector.detect_spec hwf hex htlen (by omega) (by omega) (by omega)
  have hinSync := inSync_of_invalidated hd'
  -- the tight copy is the captured picture
  have htight : AgreeOn (InFrame width height) (pictureOf (width * 4) tight)
      (pictureOf frame.stride data) :=
    fun q hq => pictureOf_congr (htpix q.2 hq.2 q.1 hq.1)
  refine ⟨some d', regions, ?_, ?_, ?_⟩
  · rw [hd]
    show ((d.detect tight frame.width frame.height).map fun r => (some r.1, r.2)) = _
    rw [hfw, hfh, hdet]
    rfl
  · intro hnone
    -- no damage: the frame agrees with the old reference in every pixel
    obtain ⟨-, hno⟩ | ⟨r, hr, -⟩ := boundingDamageRegion_spec hw32 hh32 regions
    · refine ⟨d', rfl, hwf', hcfg ▸ hex, Or.inr ⟨tight, href, ?_⟩⟩
      refine hinSync.agree_of_unchanged fun px hpx py hpy => ?_
      have hnot : ¬ ∀ prev, d.reference width height = some prev →
          bgrAt width prev px py ≠ bgrAt width tight px py :=
        fun h => hno px hpx py hpy (hcover px hpx py hpy h)
      push Not at hnot
      exact hnot
    · rw [hnone] at hr
      cases hr
  · intro damage hdam p₁ hp₁
    obtain ⟨hnone, -⟩ | ⟨r, hr, hin, hrw, hrh, hrcov⟩ :=
      boundingDamageRegion_spec hw32 hh32 regions
    · rw [hnone] at hdam
      cases hdam
    obtain rfl := Option.some.inj (hr.symm.trans hdam)
    obtain ⟨e, he⟩ | ⟨p', frameId, u, he, hpd, hps, hureg, hupix⟩ :=
      sendDamage_cases hw hh (p := p₁) htlen hin hrw hrh i
    · rw [he]
      refine ⟨⟨⟨d'.invalidate, ?_, DamageDetector.wellFormed_invalidate, hcfg ▸ hex, Or.inl rfl⟩,
        fun h => Bool.noConfusion h⟩, rfl⟩
      show (p₁.damageDetector.map DamageDetector.invalidate) = _
      rw [hp₁]
      rfl
    · rw [he]
      have hagree : AgreeOn (InFrame width height) (u.paint client)
          (pictureOf (width * 4) tight) := by
        refine ScreenUpdate.paint_agree hinSync hcover ?_ ?_
        · intro px hpx py hpy hc
          rw [hureg]
          exact ⟨r, List.mem_singleton_self r, hrcov px hpx py hpy hc⟩
        · intro q hq hc
          rw [hureg] at hc
          obtain ⟨r', hr', hc⟩ := hc
          rw [List.mem_singleton.mp hr'] at hc
          exact hupix q hc
      exact ⟨⟨⟨d', by rw [hpd, hp₁], hwf', hcfg ▸ hex, Or.inr ⟨tight, href, hagree⟩⟩,
        fun _ => ⟨data, hbuf, hagree.trans htight⟩⟩, hps⟩

/-- **One frame of the Planar branch.** -/
theorem planarFrame_done (hw : width ≤ 65535) (hh : height ≤ 65535) {p : Pipeline}
    {frame : VideoFrame} {client : Surface} (hfw : frame.width = width)
    (hfh : frame.height = height) (hstride : frame.stride < 2 ^ 32)
    (hsync : PlanarInSync width height client p.damageDetector) (i : Iteration) :
    PlanarDone width height frame client (planarFrame p frame i) ∧
      (planarFrame p frame i).1.surfacesCreated = p.surfacesCreated := by
  -- the pipeline before the damage is selected
  obtain ⟨p₁, hdet, hsurf, hcases⟩ := planarFrame_cases p frame i
  have hsync₁ : PlanarInSync width height client p₁.damageDetector := by
    rcases hdet with h | h <;> rw [h]
    · exact hsync
    · exact hsync.invalidate
  -- nothing is sent: the client keeps its picture
  obtain ⟨exit, hno, he⟩ | ⟨data, hbuf, hrow, hreq, he⟩ := hcases
  · rw [he]
    refine ⟨⟨?_, fun h => absurd (hno.symm.trans h) Bool.false_ne_true⟩, hsurf⟩
    show PlanarInSync width height (exit.paint client) p₁.damageDetector
    rw [Exit.paint_of_not_sent hno]
    exact hsync₁
  · -- else the bounding rectangle, if there is one, is sent
    have hprod : frame.stride * frame.height ≤ data.length := by
      have h : frame.stride * frame.height ≤ 2 ^ 32 * 65535 :=
        Nat.mul_le_mul (by omega) (by omega)
      omega
    rw [hfw, hfh] at he
    obtain ⟨detector, regions, hdam, hnone, hsome⟩ :=
      planarDamage_done hw hh hbuf hfw hfh (hfw ▸ hrow) (hfh ▸ hprod) hsync₁ i
    rw [hdam] at he
    dsimp only at he
    rcases hb : boundingDamageRegion regions width height with - | damage
    · rw [hb] at he
      rw [he]
      exact ⟨⟨hnone hb, fun h => Bool.noConfusion h⟩, hsurf⟩
    · rw [hb] at he
      rw [he]
      obtain ⟨hdone, hsc⟩ := hsome damage hb
        { p₁ with damageDetector := detector, forceFirstFrame := false } rfl
      exact ⟨hdone, hsc.trans hsurf⟩

/-- Setting up the surface invalidates the detector, whether it succeeds or not. -/
theorem initPlanar_inSync {p : Pipeline} {client client' : Surface}
    (hsync : PlanarInSync width height client p.damageDetector) (i : Iteration) :
    PlanarInSync width height client' (initPlanar p i).damageDetector := by
  have hinv : (initPlanar p i).damageDetector
      = p.damageDetector.map DamageDetector.invalidate := by
    unfold initPlanar
    rcases i.surfaceCreated with - | -
    · rfl
    · rfl
  rw [hinv]
  exact hsync.invalidate

/-- **One iteration of the Planar branch.** -/
theorem PlanarState.step_done (hw : width ≤ 65535) (hh : height ≤ 65535) {s t : PlanarState}
    {e : PlanarEvent} (hsync : PlanarInSync width height s.client s.pipe.damageDetector)
    (hst : s.step width height e = some t) :
    PlanarInSync width height t.client t.pipe.damageDetector ∧
      ((s.run e).2.isSent = true → ∃ data, e.frame.buffer = .memory data ∧
        AgreeOn (InFrame width height) t.client (pictureOf e.frame.stride data)) := by
  obtain ⟨⟨hfw, hfh, hstride⟩, ht⟩ := Option.ite_none_right_eq_some.mp hst
  replace ht : t = ⟨(s.run e).1, (s.run e).2.paint
      (if (s.run e).1.surfacesCreated = s.pipe.surfacesCreated then s.client else e.fresh)⟩ :=
    (Option.some.inj ht).symm
  -- the state and the surface with which the frame is worked on
  obtain ⟨p₁, hp₁, hsurf⟩ : ∃ p₁ : Pipeline,
      (if e.needsInit then initPlanar s.pipe e.input else s.pipe) = p₁ ∧
      PlanarInSync width height
        (if p₁.surfacesCreated = s.pipe.surfacesCreated then s.client else e.fresh)
        p₁.damageDetector := by
    rcases e.needsInit with - | -
    · refine ⟨s.pipe, rfl, ?_⟩
      rw [if_pos rfl]
      exact hsync
    · exact ⟨_, rfl, initPlanar_inSync hsync e.input⟩
  have hrun : s.run e =
      if p₁.planarEncoder && p₁.egfxSender then planarFrame p₁ e.frame e.input
      else (p₁, .bitmap) := by
    unfold PlanarState.run planarBranch
    rw [hp₁]
  cases hready : p₁.planarEncoder && p₁.egfxSender with
  | false =>
      rw [hready, if_neg Bool.false_ne_true] at hrun
      rw [ht, hrun]
      exact ⟨hsurf, fun h => Bool.noConfusion h⟩
  | true =>
      rw [hready, if_pos rfl] at hrun
      obtain ⟨hdone, hsc⟩ := planarFrame_done hw hh hfw hfh hstride hsurf e.input
      rw [ht, hrun, hsc]
      exact hdone

end Branch

/-- In every run of the Planar branch over frames of one size, with a detector
that reports every changed pixel: the detector is invalidated or the client shows
its reference, and whenever a frame is sent the client then shows that frame. -/
theorem planar_in_sync {width height : ℕ} (hw : width ≤ 65535) (hh : height ≤ 65535)
    {config : DamageConfig} (hex : config.Exact) {p : Pipeline}
    (hp : p.damageDetector = some (.new config)) (client : Surface) {es : List PlanarEvent}
    {s : PlanarState} (hr : Run (StepOf (PlanarState.step width height)) ⟨p, client⟩ es s) :
    (∃ d, s.pipe.damageDetector = some d ∧
      (d.invalidated = true ∨ ∃ prev, d.reference width height = some prev ∧
        AgreeOn (InFrame width height) s.client (pictureOf (width * 4) prev))) ∧
    ∀ e t, s.step width height e = some t → (s.run e).2.isSent = true →
      ∃ data, e.frame.buffer = .memory data ∧
        AgreeOn (InFrame width height) t.client (pictureOf e.frame.stride data) := by
  have hsync : PlanarInSync width height s.client s.pipe.damageDetector := by
    refine Run.invariant (P := fun s => PlanarInSync width height s.client s.pipe.damageDetector)
      ?_ (fun hs hst => (PlanarState.step_done hw hh hs hst).1) hr
    exact ⟨_, hp, DamageDetector.wellFormed_new config, hex, Or.inl rfl⟩
  obtain ⟨d, hd, -, -, hinv⟩ := hsync.exists_detector
  exact ⟨⟨d, hd, hinv⟩, fun e t hst => (PlanarState.step_done hw hh hsync hst).2⟩

/-- A frame of two pixels on its way through the Planar branch. -/
def twoPixelEvent (needsInit : Bool) (data : List UInt8) : PlanarEvent :=
  ⟨needsInit, .tight 2 1 data, .smooth none, blackSurface⟩

/-- The state before the surface is set up. -/
def freshPlanar : PlanarState :=
  ⟨.start (some (.new .everyPixel)), blackSurface⟩

/-- A frame is sent whole; then one pixel changes, and the rectangle around it
brings the client up to date. -/
theorem planar_in_sync_two_frames :
    ∃ s t, Run (StepOf (PlanarState.step 2 1)) freshPlanar
        [twoPixelEvent true [1, 1, 1, 0, 2, 2, 2, 0]] s ∧
      s.step 2 1 (twoPixelEvent false [1, 1, 1, 0, 3, 3, 3, 0]) = some t ∧
      (s.run (twoPixelEvent false [1, 1, 1, 0, 3, 3, 3, 0])).2
        = .sent 1 ⟨[⟨1, 0, 1, 1⟩], 1, 0, 4, [3, 3, 3, 0]⟩ ∧
      AgreeOn (InFrame 2 1) t.client (pictureOf 8 [1, 1, 1, 0, 3, 3, 3, 0]) := by
  obtain ⟨s, t, hs, ht, hsent⟩ :
      ∃ s t, [twoPixelEvent true [1, 1, 1, 0, 2, 2, 2, 0]].foldlM (PlanarState.step 2 1)
          freshPlanar = some s ∧
        s.step 2 1 (twoPixelEvent false [1, 1, 1, 0, 3, 3, 3, 0]) = some t ∧
        (s.run (twoPixelEvent false [1, 1, 1, 0, 3, 3, 3, 0])).2
          = .sent 1 ⟨[⟨1, 0, 1, 1⟩], 1, 0, 4, [3, 3, 3, 0]⟩ := by
    refine ⟨_, _, rfl, rfl, ?_⟩
    decide +kernel
  have hr := Run.of_foldlM hs
  obtain ⟨-, hcur⟩ := planar_in_sync (by decide) (by decide) DamageConfig.exact_everyPixel rfl
    blackSurface hr
  obtain ⟨data, hbuf, hagree⟩ := hcur _ t ht (by rw [hsent]; rfl)
  obtain rfl := FrameBuffer.memory.inj hbuf
  exact ⟨s, t, hr, ht, hsent, hagree⟩

end LamcoRdp
