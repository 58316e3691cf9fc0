/-
LamcoRdp/Server/LastFrame.lean

What becomes of the last frame.

Capture delivers a frame only when something changed, so the last frame of an
activity is the one the client keeps.  The loop remembers it, but works on it
again only while a surface is to be set up: a frame that pacing, the gate,
backpressure, throttling or another check lets go stays undelivered until the
next change.  Every other frame the client shows (`last_frame_shown`).
-/
import LamcoRdp.Server.AvcCoherence

namespace LamcoRdp

open Raster Runs Pipeline

namespace Screen

/-- The client shows the last frame received from capture, turned upright. -/
def ShowsLast (cfg : PipelineConfig) (s : Screen) : Prop :=
  ∃ f frame, s.pipe.cachedFrame = some f ∧ orient cfg f = .ok frame ∧ frame.ShownBy s.client

/-- The last frame was let go, a new surface is due, or the client shows the frame. -/
def Current (cfg : PipelineConfig) (s : Screen) : Prop :=
  s.fate.discarded = true ∨ s.pipe.egfxNeedsInit = true ∨ s.pipe.needsFullReinit = true ∨
    s.ShowsLast cfg

/-- Nothing is lost once the damage of a frame is looked at. -/
def Delivers (platform : Platform) (cfg : PipelineConfig) (s : Screen) (e : ScreenEvent) : Prop :=
  s.InScope cfg e ∧ s.Keeps platform cfg e ∧ s.FullFramesArrive platform cfg e

variable {platform : Platform} {cfg : PipelineConfig} {s t : Screen} {i : Iteration}
  {fresh : Surface}

/-- An iteration without a frame for the branch. -/
theorem current_idle (hs : Coherent s.pipe s.client) (hcur : s.Current cfg)
    (hst : s.step platform cfg (.iterate i fresh) = some t) {exit : Exit}
    (hfe : (frontEnd cfg s.pipe i).2 = .error exit) (hexit : exit.discarded = true)
    (hcache : (frontEnd cfg s.pipe i).1.cachedFrame = s.pipe.cachedFrame ∨
      exit ≠ .waiting ∧ exit ≠ .resizing) : t.Current cfg := by
  obtain ⟨-, hgate, -, -, hfate⟩ := step_iterate hst
  obtain ⟨hend, hpipe, hclient, -⟩ := iterate_idle hs hst hfe hexit
  obtain ⟨hidle, -⟩ := frontEnd_spec cfg s.pipe hgate
  by_cases hidled : s.idled cfg i = true
  · -- no frame was worked on: the last one is still the same
    have hsame : (frontEnd cfg s.pipe i).1.cachedFrame = s.pipe.cachedFrame := by
      rcases hcache with h | ⟨hw, hr⟩
      · exact h
      · unfold idled at hidled
        rw [hfe] at hidled
        cases exit with
        | waiting => exact absurd rfl hw
        | resizing => exact absurd rfl hr
        | _ => cases hidled
    rw [if_pos hidled] at hfate
    rcases hcur with h | h | h | ⟨f, frame, hf, hor, hshown⟩
    · exact Or.inl (hfate ▸ h)
    · exact Or.inr (Or.inl (hpipe ▸ hidle.needsInit h))
    · exact Or.inr (Or.inr (Or.inl (hpipe ▸ hidle.needsFullReinit.trans h)))
    · refine Or.inr (Or.inr (Or.inr ⟨f, frame, ?_, hor, hclient ▸ hshown⟩))
      rw [hpipe]
      exact hsame.trans hf
  · rw [if_neg hidled, hend] at hfate
    exact Or.inl (hfate ▸ hexit)

theorem step_current (hs : Coherent s.pipe s.client) (hcur : s.Current cfg) {e : ScreenEvent}
    (hst : s.step platform cfg e = some t) (hdel : s.Delivers platform cfg e) :
    t.Current cfg := by
  obtain ⟨hscope, hkeeps, hfull⟩ := hdel
  cases e with
  | iterate i fresh =>
      obtain ⟨-, hgate, -⟩ := step_iterate hst
      obtain ⟨-, ⟨f, frame, hok, hcache, hor⟩ | ⟨exit, herr, hexit, hcache⟩⟩ :=
        frontEnd_spec cfg s.pipe hgate
      · obtain ⟨p, hentry, -, hcache', -, -, hshown⟩ := iterate_works hs hst hscope hkeeps hok
        cases hdis : t.fate.discarded with
        | true => exact Or.inl hdis
        | false =>
            exact Or.inr (Or.inr (Or.inr ⟨f, frame, hcache'.trans hcache, hor,
              hshown hdis (hfull _ _ hentry)⟩))
      · exact current_idle hs hcur hst herr hexit hcache
  | connect fresh =>
      obtain rfl := Option.some.inj hst
      exact Or.inr (Or.inl rfl)
  | readvertise fresh =>
      obtain rfl := Option.some.inj hst
      exact Or.inr (Or.inr (Or.inl rfl))

/-- Without a new frame and with the surface set up, an iteration waits. -/
theorem iterate_waits (hresize : i.resize = none) (hrec : i.received = none)
    (hactive : i.clientActive = true) (hwas : s.pipe.wasClientActive = true)
    (hinit : s.pipe.egfxNeedsInit = false) :
    iterate platform cfg s.pipe i = (s.pipe, .waiting) := by
  simp [iterate, frontEnd, hresize, acquireFrame, hrec, hactive, hwas, hinit]

end Screen

/-- In every run in which nothing is lost once the damage of a frame is looked at,
with the surface set up after an iteration that got no frame from capture: the
client shows the last frame received, unless that one was let go before.  The
iteration itself sends nothing, unless it set up the surface. -/
theorem last_frame_shown (platform : Platform) (cfg : PipelineConfig) {config : DamageConfig}
    (hex : config.Exact) (client : Surface) {es : List ScreenEvent} {s t : Screen}
    (hr : Run (Guarded (StepOf (Screen.step platform cfg)) (Screen.Delivers platform cfg))
      (Screen.init config client) es s)
    {i : Iteration} {fresh : Surface}
    (hst : s.step platform cfg (.iterate i fresh) = some t)
    (hdel : s.Delivers platform cfg (.iterate i fresh))
    (hresize : i.resize = none) (hrec : i.received = none) (hactive : i.clientActive = true)
    (hinit : t.pipe.egfxNeedsInit = false) (hreinit : t.pipe.needsFullReinit = false) :
    (t.fate.discarded = true ∨ t.ShowsLast cfg) ∧
      (s.pipe.wasClientActive = true → s.pipe.egfxNeedsInit = false →
        (iterate platform cfg s.pipe i).2 = .waiting) := by
  have hs : Coherent s.pipe s.client ∧ s.Current cfg := by
    refine Run.invariant (P := fun s => Coherent s.pipe s.client ∧ s.Current cfg) ?_ ?_ hr
    · exact ⟨Screen.coherent_init hex client, Or.inl rfl⟩
    · rintro s e t ⟨hs, hcur⟩ ⟨hst, hdel⟩
      exact ⟨Screen.step_coherent hs hst hdel.1 hdel.2.1, Screen.step_current hs hcur hst hdel⟩
  constructor
  · rcases Screen.step_current hs.1 hs.2 hst hdel with h | h | h | h
    · exact Or.inl h
    · exact absurd (hinit.symm.trans h) Bool.false_ne_true
    · exact absurd (hreinit.symm.trans h) Bool.false_ne_true
    · exact Or.inr h
  · intro hwas hready
    rw [Screen.iterate_waits hresize hrec hactive hwas hready]

/-! ### A frame that pacing lets go -/

/-- A frame is sent; the next, in which a pixel differs, comes too soon after it. -/
def pacedChange : List ScreenEvent :=
  [.iterate (twoPixels [1, 1, 1, 0, 2, 2, 2, 0]) blackSurface,
    .iterate { twoPixels [1, 1, 1, 0, 3, 3, 3, 0] with shouldProcess := false } blackSurface]

/-- Nothing changes after it: the loop waits, and the client shows the frame
before. -/
theorem paced_frame_stays_behind :
    ¬ ∀ (platform : Platform) (cfg : PipelineConfig) (config : DamageConfig) (client : Surface)
      (es : List ScreenEvent) (s t : Screen) (i : Iteration) (fresh : Surface),
      config.Exact →
      Run (Guarded (StepOf (Screen.step platform cfg)) fun s e => s.InScope cfg e)
        (Screen.init config client) es s →
      s.step platform cfg (.iterate i fresh) = some t →
      i.resize = none → i.received = none → i.clientActive = true →
      t.pipe.egfxNeedsInit = false → t.pipe.needsFullReinit = false →
      i.backpressured = false → i.throttle = false → i.shouldProcess = true →
      t.ShowsLast cfg ∨ (iterate platform cfg s.pipe i).2.isSent = true := by
  intro hall
  -- the second frame is held back, and no third one comes
  obtain ⟨s, t, hs, ht, hinit, hreinit, hlast, hstale, hexit⟩ :
      ∃ s t, pacedChange.foldlM (Screen.step plainPlatform .plain)
          (Screen.init .everyPixel blackSurface) = some s ∧
        s.step plainPlatform .plain (.iterate (.smooth none) blackSurface) = some t ∧
        t.pipe.egfxNeedsInit = false ∧ t.pipe.needsFullReinit = false ∧
        t.pipe.cachedFrame = some (.tight 2 1 [1, 1, 1, 0, 3, 3, 3, 0]) ∧
        t.client (1, 0) = (2, 2, 2) ∧
        (iterate plainPlatform .plain s.pipe (.smooth none)).2 = .waiting := by
    refine ⟨_, _, rfl, rfl, ?_⟩
    decide +kernel
  have hscope : ∀ e ∈ pacedChange, ∀ s : Screen, s.InScope .plain e := by
    intro e he s
    simp only [pacedChange, List.mem_cons, List.not_mem_nil, or_false] at he
    rcases he with rfl | rfl
    · exact (twoPixels_inScope _ _ _ rfl s).1
    · exact (twoPixels_inScope _ _ _ rfl s).1
  rcases hall plainPlatform .plain .everyPixel blackSurface pacedChange s t (.smooth none)
    blackSurface DamageConfig.exact_everyPixel ((Run.of_foldlM hs).guarded hscope) ht rfl rfl rfl
    hinit hreinit rfl rfl rfl with ⟨f, frame, hf, hor, data, hbuf, hagree⟩ | hsent
  · -- the client would have to show the last frame, but has the old second pixel
    obtain rfl := Option.some.inj (hlast.symm.trans hf)
    obtain rfl := Except.ok.inj hor
    obtain rfl := FrameBuffer.memory.inj hbuf
    have hpixel := hagree (1, 0) ⟨by decide, by decide⟩
    rw [hstale] at hpixel
    exact absurd hpixel (by decide)
  · -- nor is anything sent
    rw [hexit] at hsent
    cases hsent

/-- One frame is sent and nothing follows: the client shows it. -/
theorem last_frame_shown_one_frame :
    ∃ s t, Run (Guarded (StepOf (Screen.step plainPlatform .plain))
        (Screen.Delivers plainPlatform .plain)) (Screen.init .everyPixel blackSurface)
        [.iterate (twoPixels [1, 1, 1, 0, 2, 2, 2, 0]) blackSurface] s ∧
      s.step plainPlatform .plain (.iterate (.smooth none) blackSurface) = some t ∧
      t.fate.discarded = false ∧ t.ShowsLast .plain := by
  have hfull : (Screen.init .everyPixel blackSurface).FullFramesArrive plainPlatform .plain
      (.iterate (twoPixels [1, 1, 1, 0, 2, 2, 2, 0]) blackSurface) := by
    intro p frame h
    obtain ⟨rfl, rfl⟩ := Prod.mk.inj (Option.some.inj h)
    intro _
    decide +kernel
  -- one frame, then an iteration without one
  obtain ⟨s, t, hs, ht, hinit, hreinit, hfate, hentry⟩ :
      ∃ s t, (Screen.init .everyPixel blackSurface).step plainPlatform .plain
          (.iterate (twoPixels [1, 1, 1, 0, 2, 2, 2, 0]) blackSurface) = some s ∧
        s.step plainPlatform .plain (.iterate (.smooth none) blackSurface) = some t ∧
        t.pipe.egfxNeedsInit = false ∧ t.pipe.needsFullReinit = false ∧
        t.fate.discarded = false ∧ (s.entry .plain (.smooth none)).isNone = true := by
    refine ⟨_, _, rfl, rfl, ?_⟩
    decide +kernel
  have hnone := Option.isNone_iff_eq_none.mp hentry
  have hdel : s.Delivers plainPlatform .plain (.iterate (.smooth none) blackSurface) := by
    refine ⟨?_, ?_, ?_⟩ <;> intro p frame h <;> exact absurd (hnone.symm.trans h) nofun
  have hr : Run (Guarded (StepOf (Screen.step plainPlatform .plain))
      (Screen.Delivers plainPlatform .plain)) (Screen.init .everyPixel blackSurface)
      [.iterate (twoPixels [1, 1, 1, 0, 2, 2, 2, 0]) blackSurface] s :=
    Run.nil.snoc ⟨hs, (twoPixels_inScope _ _ _ rfl _).1, firstFrame_keeps, hfull⟩
  obtain ⟨hcur, -⟩ := last_frame_shown plainPlatform .plain DamageConfig.exact_everyPixel
    blackSurface hr ht hdel rfl rfl rfl hinit hreinit
  rcases hcur with h | h
  · exact absurd (hfate.symm.trans h) Bool.false_ne_true
  · exact ⟨s, t, hr, ht, hfate, h⟩

end LamcoRdp
