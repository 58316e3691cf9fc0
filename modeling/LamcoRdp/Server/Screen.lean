/-
LamcoRdp/Server/Screen.lean

What the client shows.

A surface gives every pixel its B, G and R.  A frame that is sent paints the
pixels of its damage regions; the rest of the surface stays.  `InSync` is the
property everything here turns on: the surface agrees with the frame the damage
detector will compare the next one with.
-/
import LamcoRdp.Server.Pipeline
import LamcoRdp.Lib.Raster

namespace LamcoRdp

open Raster

/-- B, G and R of every pixel. -/
abbrev Surface := ℕ × ℕ → UInt8 × UInt8 × UInt8

/-- The pixels of a frame of these sides. -/
def InFrame (width height : ℕ) : ℕ × ℕ → Prop := fun q => q.1 < width ∧ q.2 < height

/-- The picture in a buffer whose rows start `stride` bytes apart. -/
def pictureOf (stride : ℕ) (buf : List UInt8) : Surface := fun q =>
  (buf.getD (q.2 * stride + 4 * q.1) 0, buf.getD (q.2 * stride + 4 * q.1 + 1) 0,
    buf.getD (q.2 * stride + 4 * q.1 + 2) 0)

/-- The surface after an update. -/
def ScreenUpdate.paint (u : ScreenUpdate) (client : Surface) : Surface :=
  overlay (fun q => CoveredBy u.regions q.1 q.2)
    (fun q => pictureOf u.stride u.pixels (q.1 - u.left, q.2 - u.top)) client

/-- The surface after an iteration that ended so. -/
def Exit.paint : Exit → Surface → Surface
  | .sent _ u => u.paint
  | _ => id

/-- The iteration put a frame on its way. -/
def Exit.isSent : Exit → Bool
  | .sent _ _ => true
  | _ => false

theorem Exit.paint_of_not_sent {exit : Exit} (h : exit.isSent = false) (client : Surface) :
    exit.paint client = client := by
  cases exit with
  | sent frameId u => exact Bool.noConfusion h
  | _ => rfl

/-- The surface agrees with the detector's reference, where there is one. -/
def InSync (client : Surface) (d : DamageDetector) : Prop :=
  ∀ width height prev, d.reference width height = some prev →
    AgreeOn (InFrame width height) client (pictureOf (width * 4) prev)

theorem inSync_invalidate (client : Surface) (d : DamageDetector) :
    InSync client d.invalidate := by
  intro width height prev h
  rw [DamageDetector.reference_invalidate] at h
  cases h

/-- A valid reference has one size. -/
theorem DamageDetector.reference_size {d : DamageDetector} {w h w' h' : ℕ} {prev prev' : List UInt8}
    (hr : d.reference w h = some prev) (hr' : d.reference w' h' = some prev') :
    w = w' ∧ h = h' ∧ prev = prev' := by
  unfold DamageDetector.reference at hr hr'
  obtain ⟨hv, hp⟩ := Option.ite_none_left_eq_some.mp hr
  obtain ⟨hv', hp'⟩ := Option.ite_none_left_eq_some.mp hr'
  push Not at hv hv'
  obtain ⟨hw, hh⟩ := Prod.mk.inj (Option.some.inj (hv.2.symm.trans hv'.2))
  exact ⟨hw, hh, Option.some.inj (hp.symm.trans hp')⟩

/-- To be in sync with a detector that has this reference. -/
theorem InSync.of_reference {client : Surface} {d : DamageDetector} {width height : ℕ}
    {frame : List UInt8} (href : d.reference width height = some frame)
    (hagree : AgreeOn (InFrame width height) client (pictureOf (width * 4) frame)) :
    InSync client d := by
  intro w h prev hr
  obtain ⟨rfl, rfl, rfl⟩ := DamageDetector.reference_size href hr
  exact hagree

/-! ### Pictures and pixels -/

theorem pictureOf_eq_bgrAt (width : ℕ) (buf : List UInt8) (x y : ℕ) :
    pictureOf (width * 4) buf (x, y) = bgrAt width buf x y := by
  have hpos : y * (width * 4) + 4 * x = (y * width + x) * 4 := by ring
  unfold pictureOf bgrAt
  rw [hpos]

theorem pictureOf_congr {stride stride' : ℕ} {buf buf' : List UInt8} {x y x' y' : ℕ}
    (h : pixelAt stride buf x y = pixelAt stride' buf' x' y') :
    pictureOf stride buf (x, y) = pictureOf stride' buf' (x', y') := by
  have h₀ := congrFun h 0
  have h₁ := congrFun h 1
  have h₂ := congrFun h 2
  simp only [pixelAt, Fin.val_zero, Fin.val_one, Fin.val_two, Nat.add_zero, ← Nat.add_assoc]
    at h₀ h₁ h₂
  simp only [pictureOf, List.getD_eq_getElem?_getD, h₀, h₁, h₂]

/-- **The update that keeps a surface current**: the surface agrees with the old
reference, the regions cover every pixel in which the frame differs from it, and
the update carries the frame's pixels. -/
theorem ScreenUpdate.paint_agree {u : ScreenUpdate} {client : Surface} {d : DamageDetector}
    {width height : ℕ} {frame : List UInt8} {regions : List DamageRegion}
    (hsync : InSync client d)
    (hcover : ∀ px < width, ∀ py < height,
      (∀ prev, d.reference width height = some prev →
        bgrAt width prev px py ≠ bgrAt width frame px py) → CoveredBy regions px py)
    (hregions : ∀ px < width, ∀ py < height, CoveredBy regions px py →
      CoveredBy u.regions px py)
    (hpixels : ∀ q, InFrame width height q → CoveredBy u.regions q.1 q.2 →
      pictureOf u.stride u.pixels (q.1 - u.left, q.2 - u.top) = pictureOf (width * 4) frame q) :
    AgreeOn (InFrame width height) (u.paint client) (pictureOf (width * 4) frame) := by
  rintro ⟨px, py⟩ ⟨hx, hy⟩
  unfold ScreenUpdate.paint overlay
  by_cases hc : CoveredBy u.regions px py
  · rw [if_pos hc]
    exact hpixels (px, py) ⟨hx, hy⟩ hc
  · rw [if_neg hc]
    -- not covered: the frame agrees with the reference there, and so does the client
    have hnot : ¬ ∀ prev, d.reference width height = some prev →
        bgrAt width prev px py ≠ bgrAt width frame px py :=
      fun h => hc (hregions px hx py hy (hcover px hx py hy h))
    push Not at hnot
    obtain ⟨prev, hprev, heq⟩ := hnot
    rw [hsync width height prev hprev (px, py) ⟨hx, hy⟩, pictureOf_eq_bgrAt, pictureOf_eq_bgrAt]
    exact heq

/-- A frame that agrees with the reference needs no update. -/
theorem InSync.agree_of_unchanged {client : Surface} {d : DamageDetector} {width height : ℕ}
    {frame : List UInt8} (hsync : InSync client d)
    (hsame : ∀ px < width, ∀ py < height, ∃ prev, d.reference width height = some prev ∧
      bgrAt width prev px py = bgrAt width frame px py) :
    AgreeOn (InFrame width height) client (pictureOf (width * 4) frame) := by
  rintro ⟨px, py⟩ ⟨hx, hy⟩
  obtain ⟨prev, hprev, heq⟩ := hsame px hx py hy
  rw [hsync width height prev hprev (px, py) ⟨hx, hy⟩, pictureOf_eq_bgrAt, pictureOf_eq_bgrAt]
  exact heq

/-! ### Inputs of a session without trouble -/

/-- The capabilities are negotiated and the surface is there. -/
def SharedHandlerState.negotiated : SharedHandlerState :=
  { SharedHandlerState.new with
    isReady := true
    clientSupportsAvc420 := true
    isAvc444Enabled := true
    hasSurface := true }

/-- A frame whose rows follow each other without a gap. -/
def VideoFrame.tight (width height : ℕ) (data : List UInt8) : VideoFrame where
  buffer := .memory data
  width := width
  height := height
  stride := width * 4
  transform := 0
  isBottomUp := false
  damageRegions := []
  pts := 0

/-- An iteration in which nothing is refused, and the H.264 encoder answers with
one byte per stream. -/
def Iteration.smooth (received : Option VideoFrame) : Iteration where
  resize := none
  received := received
  clientActive := true
  isEgfxReady _ := true
  shouldProcess := true
  gateTimedOut := false
  stressTriggers := false
  stressAuxInterval := none
  isAvcSupported := true
  isPlanarRequired := false
  clientSupportsAvc444 := false
  avc444Created := true
  avc420Created := true
  surfaceCreated := true
  now := 0
  backpressured := false
  recovered := 0
  throttle := false
  shouldLogTelemetry := false
  encodingDecision := .encodeNow
  main := .bitstream [1] false
  aux := .bitstream [2] false
  shared := .negotiated
  transport := .accepting 1

/-- No orientation, no periodic IDR frames, AVC420. -/
def PipelineConfig.plain : PipelineConfig where
  frameTransform := .none
  targetFps := 30
  codec := .avc420
  avc444Enabled := false
  avc444EnableAuxOmission := false
  avc444MaxAuxInterval := 30
  avc444ForceAuxIdrOnReturn := false
  periodicIdrInterval := 0
  colorMatrix _ _ := .bt709

/-- Tiles of one pixel, and every difference counts. -/
def DamageConfig.everyPixel : DamageConfig where
  tileSize := 1
  diffThreshold := .fin 0
  pixelThreshold := 0
  mergeDistance := 0
  minRegionArea := 1

theorem DamageConfig.exact_everyPixel : DamageConfig.everyPixel.Exact := by
  constructor <;> decide

/-- Nothing but black. -/
def blackSurface : Surface := fun _ => (0, 0, 0)

end LamcoRdp
